import DocSite.Text.Segments

/-!
# Paths of files

A path is a text: names with slashes between them. It is absolute if it
begins with a slash and otherwise read from some directory. Nothing here
looks at a disk, so a path may lead nowhere, and two paths may lead to
one file.
-/

namespace DocSite.Files

/-- A path that is read from the root of the disk. -/
def isAbsolute (path : String) : Bool :=
  path.toList.head? = some '/'

/-- **A path read from a directory.** A slash goes between the two unless
there is one already or the directory is no path at all. -/
def join (directory path : String) : String :=
  if isAbsolute path then path
  else if directory = "" then path
  else if directory.toList.getLast? = some '/' then directory ++ path
  else directory ++ "/" ++ path

/-- The absolute path of a list of names. -/
def absolute (names : List String) : String :=
  if names.isEmpty then "/" else String.join (names.map ("/" ++ ·))

/-- The names of a path, in order. Names that stay in their directory are
left out. -/
def names (path : String) : List String :=
  ((Text.split (· == '/') path.toList).map String.ofList).filter fun name =>
    name != "" && name != "."

/-- **The name a reader knows a file by**: the last name of its path, or
the whole path if that leads upwards. -/
def displayName (path : String) : String :=
  match (names path).getLast? with
  | none => path
  | some name => if name = ".." then path else name

/-- A directory and those it is in, from the inside out. -/
def ancestors : List String → List (List String)
  | [] => [[]]
  | name :: rest => (ancestors rest).map (name :: ·) ++ [[]]

end DocSite.Files
