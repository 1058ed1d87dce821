import FlashPatch.Proofs.Storage.FileSystem
import FlashPatch.Storage.Directory

/-!
# Laws of directories

Directories obey the laws of file systems. A file is stored where a file is or nothing, never in
place of a folder, so every folder stays one and every path that led to a place leads there still.
-/

namespace FlashPatch.Directory

variable {directory : Directory} {path place : Path} {contents : List UInt8} {text : String}
  {options : OpenOptions}

/-! ## Single places -/

/-- A file stands where the files have one. -/
theorem entry_eq_file_iff :
    directory.entry path = .file contents ↔ directory.files.lookup path = some contents := by
  unfold entry
  cases directory.files.lookup path with
  | some found => simp
  | none =>
    by_cases h : directory.isFolder path <;> simp [h]

/-- A folder stands where there is no file and something is below. -/
theorem entry_eq_folder_iff :
    directory.entry path = .folder ↔
      directory.files.lookup path = none ∧ directory.isFolder path = true := by
  unfold entry
  cases directory.files.lookup path with
  | some found => simp
  | none =>
    by_cases h : directory.isFolder path <;> simp [h]

/-- No folder stands where a file is. -/
theorem entry_ne_folder (h : directory.files.lookup path ≠ none) :
    directory.entry path ≠ .folder := by
  intro hfolder
  exact h (entry_eq_folder_iff.mp hfolder).1

private theorem lookup_replace_self (files : List (Path × List UInt8)) :
    (replace files place contents).lookup place = some contents := by
  induction files with
  | nil => simp [replace]
  | cons file rest ih =>
    obtain ⟨first, old⟩ := file
    by_cases h : first = place
    · simp [replace, h]
    · simp only [replace, h, if_false, List.lookup_cons, ih]
      rw [beq_false_of_ne (Ne.symm h)]

private theorem lookup_replace_of_ne (files : List (Path × List UInt8)) (h : path ≠ place) :
    (replace files place contents).lookup path = files.lookup path := by
  induction files with
  | nil => simp [replace, List.lookup_cons, beq_false_of_ne h]
  | cons file rest ih =>
    obtain ⟨first, old⟩ := file
    by_cases hf : first = place
    · simp [replace, hf, List.lookup_cons, beq_false_of_ne h]
    · simp only [replace, hf, if_false, List.lookup_cons, ih]

private theorem any_replace (files : List (Path × List UInt8)) {p : Path → Bool}
    (h : (files.any fun file ↦ p file.1) = true) :
    ((replace files place contents).any fun file ↦ p file.1) = true := by
  induction files with
  | nil => simp at h
  | cons file rest ih =>
    obtain ⟨first, old⟩ := file
    rw [List.any_cons, Bool.or_eq_true] at h
    by_cases hf : first = place
    · rw [replace, if_pos hf, List.any_cons, Bool.or_eq_true]
      exact h
    · rw [replace, if_neg hf, List.any_cons, Bool.or_eq_true]
      exact h.imp_right ih

private theorem any_replace_of_lookup (files : List (Path × List UInt8)) {p : Path → Bool}
    (h : files.lookup place ≠ none) :
    ((replace files place contents).any fun file ↦ p file.1) = files.any fun file ↦ p file.1 := by
  induction files with
  | nil => simp at h
  | cons file rest ih =>
    obtain ⟨first, old⟩ := file
    by_cases hf : first = place
    · rw [replace, if_pos hf, List.any_cons, List.any_cons]
    · rw [List.lookup_cons, beq_false_of_ne (Ne.symm hf)] at h
      rw [replace, if_neg hf, List.any_cons, List.any_cons, ih h]

/-- A stored file is found at its place. -/
theorem lookup_store_self : (directory.store place contents).files.lookup place = some contents :=
  lookup_replace_self _

/-- Every other place is as it was. -/
theorem lookup_store_of_ne (h : path ≠ place) :
    (directory.store place contents).files.lookup path = directory.files.lookup path :=
  lookup_replace_of_ne _ h

/-- A folder stays a folder wherever no folder is written over. -/
theorem entry_store_folder (hplace : directory.entry place ≠ .folder)
    (h : directory.entry path = .folder) :
    (directory.store place contents).entry path = .folder := by
  have hne : path ≠ place := by
    rintro rfl
    exact hplace h
  obtain ⟨hfile, hfolder⟩ := entry_eq_folder_iff.mp h
  apply entry_eq_folder_iff.mpr
  constructor
  · rw [lookup_store_of_ne hne, hfile]
  · rw [isFolder, Bool.or_eq_true] at hfolder ⊢
    exact hfolder.imp_right (any_replace _)

/-- Every other place is as it was where a file gets new contents. -/
theorem entry_store_of_ne (hplace : directory.files.lookup place ≠ none) (h : path ≠ place) :
    (directory.store place contents).entry path = directory.entry path := by
  have hfolder : (directory.store place contents).isFolder path = directory.isFolder path :=
    congrArg (_ || ·) (any_replace_of_lookup directory.files hplace)
  rw [entry, entry, lookup_store_of_ne h, hfolder]

/-! ## Paths to a file that is stored anew -/

/-- A name that leads to a place leads there still. -/
theorem enter_store {name : String} {next : Path} (hplace : directory.entry place ≠ .folder)
    (h : directory.enter path name = .ok next) :
    (directory.store place contents).enter path name = .ok next := by
  have hfolder : directory.entry path = .folder := by
    unfold enter at h
    split at h
    · assumption
    · simp at h
    · simp at h
  rw [← h, enter, enter, hfolder, entry_store_folder hplace hfolder]

private theorem foldlM_enter_store {names : List String} {first : Path}
    (hplace : directory.entry place ≠ .folder)
    (h : names.foldlM directory.enter first = .ok path) :
    names.foldlM (directory.store place contents).enter first = .ok path := by
  induction names generalizing first with
  | nil => exact h
  | cons name names ih =>
    rw [List.foldlM_cons] at h ⊢
    cases hname : directory.enter first name with
    | error cause => simp [hname, bind, Except.bind] at h
    | ok next =>
      rw [hname] at h
      rw [enter_store hplace hname]
      exact ih h

/-- Names that lead to a place lead there still. -/
theorem follow_store {names : List String} (hplace : directory.entry place ≠ .folder)
    (h : directory.follow text names = .ok path) :
    (directory.store place contents).follow text names = .ok path := by
  have hstart : (directory.store place contents).start text = directory.start text := rfl
  unfold follow at h ⊢
  rw [hstart]
  cases hfirst : directory.start text with
  | error cause => simp [hfirst, bind, Except.bind] at h
  | ok first =>
    rw [hfirst] at h
    exact foldlM_enter_store hplace h

/-- A path leads to a place if its names do and no folder stands there. -/
theorem resolve_eq_some_iff :
    directory.resolve text = some path ↔
      directory.follow text (Path.names text) = .ok path ∧ directory.entry path ≠ .folder := by
  unfold resolve
  cases directory.follow text (Path.names text) with
  | error cause => simp
  | ok found =>
    simp only [Except.ok.injEq, Option.ite_none_left_eq_some, Option.some.injEq]
    constructor
    · rintro ⟨hfolder, rfl⟩
      exact ⟨rfl, hfolder⟩
    · rintro ⟨rfl, hfolder⟩
      exact ⟨hfolder, rfl⟩

example :
    let directory : Directory := { files := [(["w", "a"], [])], working := ["w"] }
    ["a", "../w/a", "/w/a", "/../w//./a"].map directory.resolve =
      List.replicate 4 (some ["w", "a"]) := by
  decide +kernel

/-- The path to a new file leads to it. -/
theorem resolve_store_self (h : directory.resolve text = some place) :
    (directory.store place contents).resolve text = some place := by
  obtain ⟨hfollow, hfolder⟩ := resolve_eq_some_iff.mp h
  apply resolve_eq_some_iff.mpr
  constructor
  · exact follow_store hfolder hfollow
  · apply entry_ne_folder
    rw [lookup_store_self]
    exact Option.some_ne_none _

/-- A new file is in the way of no path to another one. -/
theorem resolve_store_of_lookup (hplace : directory.entry place ≠ .folder)
    (h : directory.resolve text = some path) (hpath : directory.files.lookup path ≠ none) :
    (directory.store place contents).resolve text = some path := by
  by_cases hne : path = place
  · subst hne
    exact resolve_store_self h
  · apply resolve_eq_some_iff.mpr
    constructor
    · exact follow_store hplace (resolve_eq_some_iff.mp h).1
    · apply entry_ne_folder
      rw [lookup_store_of_ne hne]
      exact hpath

/-! ## Paths when a file gets new contents -/

/-- New contents of a file change no folder. -/
theorem entry_store_eq_folder_iff (hplace : directory.files.lookup place ≠ none) :
    (directory.store place contents).entry path = .folder ↔ directory.entry path = .folder := by
  by_cases hne : path = place
  · subst hne
    apply iff_of_false
    · apply entry_ne_folder
      rw [lookup_store_self]
      exact Option.some_ne_none _
    · exact entry_ne_folder hplace
  · rw [entry_store_of_ne hplace hne]

/-- New contents of a file change no name. -/
theorem enter_store_of_lookup (hplace : directory.files.lookup place ≠ none) :
    (directory.store place contents).enter = directory.enter := by
  ext1 path
  ext1 name
  by_cases hne : path = place
  · subst hne
    obtain ⟨old, hold⟩ := Option.ne_none_iff_exists'.mp hplace
    rw [enter, enter, entry_eq_file_iff.mpr hold, entry_eq_file_iff.mpr lookup_store_self]
  · rw [enter, enter, entry_store_of_ne hplace hne]

/-- New contents of a file change no path. -/
theorem resolve_store (hplace : directory.files.lookup place ≠ none) :
    (directory.store place contents).resolve text = directory.resolve text := by
  have hfollow : (directory.store place contents).follow text (Path.names text) =
      directory.follow text (Path.names text) := by
    rw [follow, follow, enter_store_of_lookup hplace]
    rfl
  simp only [resolve, hfollow, entry_store_eq_folder_iff hplace]

/-! ## Openings -/

/-- A place is opened where the names lead to. -/
theorem follow_of_placeFor (h : directory.placeFor options text = .ok path) :
    directory.follow text (Path.names text) = .ok path := by
  unfold placeFor at h
  simp only [bind, Except.bind, throw, throwThe, MonadExceptOf.throw] at h
  split at h
  · split at h <;> simp at h
  · exact h

/-- The file that is opened is where the path leads to, and it is there if it may not be created. -/
theorem resolve_of_find (h : directory.find options text = .ok (.file path)) :
    directory.resolve text = some path ∧
      (options.create = false → directory.files.lookup path ≠ none) := by
  unfold find at h
  cases hplace : directory.placeFor options text with
  | error cause => simp [hplace, bind, Except.bind] at h
  | ok found =>
    have hresolve (hfolder : directory.entry found ≠ .folder) :
        directory.resolve text = some found :=
      resolve_eq_some_iff.mpr ⟨follow_of_placeFor hplace, hfolder⟩
    simp only [hplace, bind, Except.bind, pure, Except.pure, throw, throwThe,
      MonadExceptOf.throw] at h
    cases hentry : directory.entry found with
    | file contents =>
      have hfile := entry_eq_file_iff.mp hentry
      simp only [hentry] at h
      split at h
      · obtain rfl : found = path := by simpa using h
        constructor
        · apply hresolve
          simp [hentry]
        · simp [hfile]
      · simp at h
    | folder =>
      simp only [hentry] at h
      split at h
      · simp at h
      · split at h <;> simp at h
    | vacant =>
      simp only [hentry] at h
      split at h
      · simp at h
      · next hcreate =>
        split at h
        · simp at h
        · obtain rfl : found = path := by simpa using h
          constructor
          · apply hresolve
            simp [hentry]
          · intro hclosed
            simp [hclosed] at hcreate

/-- A file is opened exactly if one is found. -/
theorem opened?_eq_some_iff :
    fileSystem.opened? options text directory = some path ↔
      directory.find options text = .ok (.file path) := by
  have hfound : (fileSystem.openWith options text directory).1 = directory.find options text := by
    change (openWith options text directory).1 = _
    unfold openWith
    split
    · next path hfind =>
      rw [hfind]
      split <;> rfl
    · rfl
  rw [FileSystem.opened?_eq_some_iff, hfound]

/-- Opening a file leaves an empty one where it is new or emptied. -/
theorem afterOpen_of_find (h : directory.find options text = .ok (.file path)) :
    fileSystem.afterOpen options text directory =
      if options.truncate ∨ directory.files.lookup path = none then directory.store path []
      else directory := by
  change (openWith options text directory).2 = _
  simp only [openWith, h]
  split <;> rfl

/-- Without a file that is opened the directory stays. -/
theorem afterOpen_of_opened?_eq_none (h : fileSystem.opened? options text directory = none) :
    fileSystem.afterOpen options text directory = directory := by
  change (openWith options text directory).2 = _
  cases hfind : directory.find options text with
  | error cause => simp only [openWith, hfind]
  | ok opened =>
    cases opened with
    | folder => simp only [openWith, hfind]
    | file found => simp [opened?_eq_some_iff.mpr hfind] at h

/-! ## Permissions -/

/-- The target is among the places as the source was, and every other place as it was itself. -/
theorem contains_share (source target path : Path) (places : List Path) :
    (share source target places).contains path =
      if path = target then places.contains source else places.contains path := by
  unfold share
  cases hsource : places.contains source with
  | true =>
    rw [if_pos rfl, List.contains_cons]
    by_cases hpath : path = target <;> simp [hpath]
  | false =>
    rw [if_neg Bool.false_ne_true]
    by_cases hpath : path = target <;> simp [hpath]

/-- A copy is open to what its source is open to, and every other place to what it was. -/
theorem allows_copyPermissions (source target path : Path) :
    (directory.copyPermissions source target).allows options path =
      directory.allows options (if path = target then source else path) := by
  simp only [allows, copyPermissions, contains_share]
  by_cases hpath : path = target
  · simp only [if_pos hpath]
  · simp only [if_neg hpath]

/-! ## Laws -/

private theorem contents_afterOpen (h : directory.find options text = .ok (.file path)) :
    (fileSystem.afterOpen options text directory).files.lookup path =
      some (if options.truncate then [] else (directory.files.lookup path).getD []) := by
  rw [afterOpen_of_find h]
  cases hfile : directory.files.lookup path with
  | none =>
    rw [if_pos (.inr rfl), lookup_store_self]
    simp
  | some contents =>
    cases options.truncate with
    | true =>
      rw [if_pos (.inl rfl), lookup_store_self]
      rfl
    | false => simp [hfile]

/-- Directories obey the laws of file systems. -/
theorem lawful : fileSystem.Lawful where
  agree_of_opened?_eq_none h := by
    rw [afterOpen_of_opened?_eq_none h]
    exact .refl _
  resolve_of_opened? h := (resolve_of_find (opened?_eq_some_iff.mp h)).1
  present_of_opened? h := (resolve_of_find (opened?_eq_some_iff.mp h)).2
  contents_afterOpen h := contents_afterOpen (opened?_eq_some_iff.mp h)
  contents_afterOpen_of_ne h hne := by
    rw [afterOpen_of_find (opened?_eq_some_iff.mp h)]
    split
    · exact lookup_store_of_ne hne
    · rfl
  resolve_afterOpen_of_present other h hpresent := by
    rw [afterOpen_of_find (opened?_eq_some_iff.mp h)]
    split
    · exact resolve_store hpresent
    · rfl
  resolve_afterOpen_self h := by
    have hresolve := (resolve_of_find (opened?_eq_some_iff.mp h)).1
    rw [afterOpen_of_find (opened?_eq_some_iff.mp h)]
    split
    · exact resolve_store_self hresolve
    · exact hresolve
  resolve_afterOpen_of_leadsTo h hleads := by
    have hresolve := (resolve_of_find (opened?_eq_some_iff.mp h)).1
    rw [afterOpen_of_find (opened?_eq_some_iff.mp h)]
    split
    · exact resolve_store_of_lookup (resolve_eq_some_iff.mp hresolve).2 hleads.1 hleads.2
    · exact hleads.1
  contents_store_self _ _ := lookup_store_self
  contents_store_of_ne _ _ hne := lookup_store_of_ne hne
  resolve_store _ _ hpresent := resolve_store hpresent
  agree_copyPermissions _ _ _ := ⟨fun _ ↦ rfl, fun _ ↦ rfl⟩

end FlashPatch.Directory
