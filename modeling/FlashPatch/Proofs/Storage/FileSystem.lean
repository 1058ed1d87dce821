import FlashPatch.Storage.FileSystem

/-!
# Laws of file systems

What a task may rely on, whatever the file system is and whatever it refuses. A refused opening
leaves all files and paths as they are, and an opening that neither creates nor empties a file does
too. What is stored in an open file is found there, and nowhere else.
-/

namespace FlashPatch.FileSystem

variable {Tree File : Type} (fs : FileSystem Tree File)

/-! ## What stays the same -/

/-- A path leads to a file, and that is there. -/
def LeadsTo (tree : Tree) (text : String) (file : File) : Prop :=
  fs.resolve tree text = some file ∧ fs.contents tree file ≠ none

/-- A path leads to a file with these bytes. -/
def Holds (tree : Tree) (text : String) (file : File) (contents : List UInt8) : Prop :=
  fs.resolve tree text = some file ∧ fs.contents tree file = some contents

/-- All files and paths are the same. -/
structure Agree (before after : Tree) : Prop where
  contents : ∀ file, fs.contents after file = fs.contents before file
  resolve : ∀ text, fs.resolve after text = fs.resolve before text

/-- All files but one are the same, and the paths to the files that were there. -/
structure AgreeExcept (place : File) (before after : Tree) : Prop where
  contents : ∀ file, file ≠ place → fs.contents after file = fs.contents before file
  paths : ∀ text file, fs.LeadsTo before text file → fs.LeadsTo after text file

/-- A file is there still and ends with all its bytes, and it is not there if it was not. -/
structure Keeps (file : File) (before after : Tree) : Prop where
  bytes : ∀ contents, fs.contents before file = some contents →
    ∃ found, fs.contents after file = some found ∧ contents <:+ found
  vacancy : fs.contents before file = none → fs.contents after file = none

/-! ## Laws -/

/-- What a file system does when it serves a call, and what it leaves alone in any case. -/
structure Lawful : Prop where
  /-- Where no file is opened everything stays as it is. -/
  agree_of_opened?_eq_none : ∀ {options text tree}, fs.opened? options text tree = none →
    fs.Agree tree (fs.afterOpen options text tree)
  /-- The file that is opened is the one that the path leads to. -/
  resolve_of_opened? : ∀ {options text tree file}, fs.opened? options text tree = some file →
    fs.resolve tree text = some file
  /-- A file that may not be created is there already. -/
  present_of_opened? : ∀ {options text tree file}, fs.opened? options text tree = some file →
    options.create = false → fs.contents tree file ≠ none
  /-- A file that is created or emptied has no bytes, and any other has its own. -/
  contents_afterOpen : ∀ {options text tree file}, fs.opened? options text tree = some file →
    fs.contents (fs.afterOpen options text tree) file =
      some (if options.truncate then [] else (fs.contents tree file).getD [])
  /-- All other files stay as they are. -/
  contents_afterOpen_of_ne : ∀ {options text tree file other},
    fs.opened? options text tree = some file → other ≠ file →
      fs.contents (fs.afterOpen options text tree) other = fs.contents tree other
  /-- Opening a file that is there changes no path. -/
  resolve_afterOpen_of_present : ∀ {options text tree file}, ∀ other,
    fs.opened? options text tree = some file → fs.contents tree file ≠ none →
      fs.resolve (fs.afterOpen options text tree) other = fs.resolve tree other
  /-- The path to a new file leads to it. -/
  resolve_afterOpen_self : ∀ {options text tree file},
    fs.opened? options text tree = some file →
      fs.resolve (fs.afterOpen options text tree) text = some file
  /-- A new file is in the way of no path to another one. -/
  resolve_afterOpen_of_leadsTo : ∀ {options text tree file other found},
    fs.opened? options text tree = some file → fs.LeadsTo tree other found →
      fs.resolve (fs.afterOpen options text tree) other = some found
  /-- The bytes that are stored are the contents. -/
  contents_store_self : ∀ {tree file}, ∀ bytes, fs.contents tree file ≠ none →
    fs.contents (fs.store file bytes tree) file = some bytes
  /-- Storing leaves all other files as they are. -/
  contents_store_of_ne : ∀ {tree file other}, ∀ bytes, fs.contents tree file ≠ none →
    other ≠ file → fs.contents (fs.store file bytes tree) other = fs.contents tree other
  /-- Storing changes no path. -/
  resolve_store : ∀ {tree file}, ∀ bytes text, fs.contents tree file ≠ none →
    fs.resolve (fs.store file bytes tree) text = fs.resolve tree text
  /-- Permissions are no contents and no paths. -/
  agree_copyPermissions : ∀ source target tree,
    fs.Agree tree (fs.copyPermissions source target tree)

variable {fs} {first second third before after tree : Tree} {file place other : File}
  {text : String} {options : OpenOptions} {contents bytes : List UInt8}

/-- A file is open exactly if opening the path had one as its result. -/
theorem opened?_eq_some_iff :
    fs.opened? options text tree = some file ↔
      (fs.openWith options text tree).1 = .ok (.file file) := by
  rw [opened?]
  split
  · next found hfound => simp [hfound]
  · next hfound => simp [hfound]
  · next cause hfound => simp [hfound]

/-- No file is open exactly if the path had a folder or an error as its result. -/
theorem opened?_eq_none_iff :
    fs.opened? options text tree = none ↔
      (fs.openWith options text tree).1 = .ok .folder ∨
        ∃ cause, (fs.openWith options text tree).1 = .error cause := by
  rw [opened?]
  split
  · next found hfound => simp [hfound]
  · next hfound => simp [hfound]
  · next cause hfound => simp [hfound]

/-- A file with bytes is there. -/
theorem Holds.leadsTo (h : fs.Holds tree text file contents) : fs.LeadsTo tree text file :=
  ⟨h.1, Option.ne_none_iff_exists'.mpr ⟨contents, h.2⟩⟩

/-! ## Trees that agree -/

namespace Agree

/-- Every tree agrees with itself. -/
protected theorem refl (tree : Tree) : fs.Agree tree tree where
  contents _ := rfl
  resolve _ := rfl

/-- What is the same twice is the same. -/
theorem trans (h₁ : fs.Agree first second) (h₂ : fs.Agree second third) :
    fs.Agree first third where
  contents file := (h₂.contents file).trans (h₁.contents file)
  resolve text := (h₂.resolve text).trans (h₁.resolve text)

/-- A path to a file leads to it in every tree that agrees. -/
theorem leadsTo (h : fs.Agree before after) (hleads : fs.LeadsTo before text file) :
    fs.LeadsTo after text file := by
  rw [LeadsTo, h.resolve, h.contents]
  exact hleads

/-- Trees that agree are the same but for any file. -/
theorem agreeExcept (h : fs.Agree before after) : fs.AgreeExcept place before after where
  contents file _ := h.contents file
  paths _ _ := h.leadsTo

/-- Trees that agree keep every file. -/
theorem keeps (h : fs.Agree before after) : fs.Keeps file before after where
  bytes contents hfile := ⟨contents, (h.contents file).trans hfile, List.suffix_rfl⟩
  vacancy hvacant := (h.contents file).trans hvacant

end Agree

namespace AgreeExcept

/-- What is the same twice but for one file is the same but for that file. -/
theorem trans (h₁ : fs.AgreeExcept place first second) (h₂ : fs.AgreeExcept place second third) :
    fs.AgreeExcept place first third where
  contents file hne := (h₂.contents file hne).trans (h₁.contents file hne)
  paths text file hleads := h₂.paths text file (h₁.paths text file hleads)

/-- Files that are the same are kept. -/
theorem keeps (h : fs.AgreeExcept place before after) (hne : file ≠ place) :
    fs.Keeps file before after where
  bytes contents hfile := ⟨contents, (h.contents file hne).trans hfile, List.suffix_rfl⟩
  vacancy hvacant := (h.contents file hne).trans hvacant

end AgreeExcept

namespace Keeps

/-- What is kept twice is kept. -/
theorem trans (h₁ : fs.Keeps file first second) (h₂ : fs.Keeps file second third) :
    fs.Keeps file first third where
  bytes contents hfile := by
    obtain ⟨middle, hmiddle, hsuffix₁⟩ := h₁.bytes contents hfile
    obtain ⟨found, hfound, hsuffix₂⟩ := h₂.bytes middle hmiddle
    exact ⟨found, hfound, hsuffix₁.trans hsuffix₂⟩
  vacancy hvacant := h₂.vacancy (h₁.vacancy hvacant)

end Keeps

/-! ## Calls -/

namespace Lawful

variable (laws : fs.Lawful)

include laws

/-- Opening a file without creating or emptying it leaves everything as it is. -/
theorem agree_afterOpen (hcreate : options.create = false) (htruncate : options.truncate = false) :
    fs.Agree tree (fs.afterOpen options text tree) := by
  cases hopened : fs.opened? options text tree with
  | none => exact laws.agree_of_opened?_eq_none hopened
  | some file =>
    have hpresent := laws.present_of_opened? hopened hcreate
    constructor
    case contents =>
      intro other
      by_cases hother : other = file
      -- The file was there and is not emptied, so its bytes are its own.
      · obtain ⟨contents, hcontents⟩ := Option.ne_none_iff_exists'.mp hpresent
        rw [hother, laws.contents_afterOpen hopened, htruncate, hcontents]
        rfl
      · exact laws.contents_afterOpen_of_ne hopened hother
    case resolve =>
      intro other
      exact laws.resolve_afterOpen_of_present other hopened hpresent

/-- Opening a file to read it leaves everything as it is. -/
theorem agree_reading (text : String) : fs.Agree tree (fs.afterOpen .reading text tree) :=
  laws.agree_afterOpen rfl rfl

/-- Opening a file to change it leaves everything as it is. -/
theorem agree_changing (text : String) : fs.Agree tree (fs.afterOpen .changing text tree) :=
  laws.agree_afterOpen rfl rfl

/-- A file that is opened without creating it has bytes. -/
theorem exists_contents (h : fs.opened? options text tree = some file)
    (hcreate : options.create = false) : ∃ contents, fs.contents tree file = some contents :=
  Option.ne_none_iff_exists'.mp (laws.present_of_opened? h hcreate)

/-- Opening a file in any way leaves all others as they are. -/
theorem agreeExcept_afterOpen (h : fs.opened? options text tree = some file) :
    fs.AgreeExcept file tree (fs.afterOpen options text tree) where
  contents other hne := laws.contents_afterOpen_of_ne h hne
  paths other found hleads := by
    constructor
    · exact laws.resolve_afterOpen_of_leadsTo h hleads
    · by_cases hfound : found = file
      · rw [hfound, laws.contents_afterOpen h]
        exact Option.some_ne_none _
      · rw [laws.contents_afterOpen_of_ne h hfound]
        exact hleads.2

/-- Storing the bytes of a file leaves all other files as they are. -/
theorem agreeExcept_store (h : fs.contents tree file ≠ none) :
    fs.AgreeExcept file tree (fs.store file bytes tree) where
  contents other hne := laws.contents_store_of_ne bytes h hne
  paths text found hleads := by
    constructor
    · rw [laws.resolve_store bytes text h]
      exact hleads.1
    · by_cases hfound : found = file
      · rw [hfound, laws.contents_store_self bytes h]
        exact Option.some_ne_none _
      · rw [laws.contents_store_of_ne bytes h hfound]
        exact hleads.2

/-- Storing the bytes that a file has leaves everything as it is. -/
theorem agree_store (h : fs.contents tree file = some bytes) :
    fs.Agree tree (fs.store file bytes tree) := by
  have hpresent := Option.ne_none_iff_exists'.mpr ⟨bytes, h⟩
  constructor
  case contents =>
    intro other
    by_cases hother : other = file
    · rw [hother, laws.contents_store_self bytes hpresent, h]
    · exact laws.contents_store_of_ne bytes hpresent hother
  case resolve =>
    intro text
    exact laws.resolve_store bytes text hpresent

end Lawful

end FlashPatch.FileSystem
