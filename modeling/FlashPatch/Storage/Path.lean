/-!
# Paths

The text of a path is a list of names with slashes between them. An empty name and `.` stay where
they are, and `..` goes up.
-/

namespace FlashPatch

/-- The place of a file or folder: the names on the way down from the root. -/
abbrev Path := List String

namespace Path

/-- The names in the text of a path. -/
def names (text : String) : List String := (text.toList.splitOn '/').map String.ofList

/-- The folder around a place. Nothing is around the root. -/
def parent (path : Path) : Path := path.dropLast

/-- The place that a name leads to. -/
def move (path : Path) (name : String) : Path :=
  if name = "" ∨ name = "." then path
  else if name = ".." then path.parent
  else path ++ [name]

/-- The place that a text leads to from a place, whatever is on the way. -/
def ofText (start : Path) (text : String) : Path := (names text).foldl move start

/-- The text of the way from the root, or from a folder if the path is what is left from there. -/
def text (path : Path) : String := "/".intercalate path

end Path

end FlashPatch
