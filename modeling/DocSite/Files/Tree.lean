import DocSite.Files.Path

/-!
# A tree of files

A disk holds files and directories, each under a list of names from the
root down. A path is followed name by name from where one stands: every
name but the last has to be that of a directory, `..` leads to the
directory above, and `.` and the empty name stay. A path that ends in a
slash leads to a directory or nowhere.

`Workspace` is a tree and the directory one works in. Reading and writing
have the errors that a disk gives; writing changes one file and nothing
else.
-/

namespace DocSite.Files

/-- **What is found under a path.** -/
inductive Kind where
  /-- A file. -/
  | file
  /-- A directory. -/
  | directory
deriving DecidableEq

/-- **Why a path cannot be used.** -/
inductive Fault where
  /-- Nothing is there. -/
  | missing
  /-- A name on the way is that of a file. -/
  | notDirectory
  /-- A directory is there. -/
  | isDirectory
  /-- A name, or the path, is too long. -/
  | tooLong
  /-- The path has a NUL character in it. -/
  | nul
  /-- What is there is no text. -/
  | notText
  /-- Any other reason, in the words of the disk. -/
  | other (text : String)
deriving DecidableEq

/-- **The wording of a fault.** -/
def Fault.text : Fault → String
  | missing => "No such file or directory (os error 2)"
  | notDirectory => "Not a directory (os error 20)"
  | isDirectory => "Is a directory (os error 21)"
  | tooLong => "File name too long (os error 36)"
  | nul => "file name contained an unexpected NUL byte"
  | notText => "stream did not contain valid UTF-8"
  | other text => text

/-- **An item of a tree.** -/
inductive Item where
  /-- A file with its content. -/
  | file (content : ByteArray)
  /-- A directory. -/
  | directory

/-- The kind of an item. -/
def Item.kind : Item → Kind
  | file _ => .file
  | directory => .directory

/-- **Files and directories under their names.** The root is a directory
and needs no item. -/
structure Tree where
  /-- The items; of two under the same names the first counts. -/
  items : List (List String × Item) := []

namespace Tree

/-- The item under some names. -/
def get? (tree : Tree) (names : List String) : Option Item :=
  if names.isEmpty then some .directory else tree.items.lookup names

/-- Whether a directory is under some names. -/
def isDirectory (tree : Tree) (names : List String) : Bool :=
  match tree.get? names with
  | some .directory => true
  | _ => false

/-- The tree with an item under some names. -/
def put (tree : Tree) (names : List String) (item : Item) : Tree :=
  ⟨(names, item) :: tree.items.filter (·.1 != names)⟩

/-- The tree without anything under some names, or further down. -/
def remove (tree : Tree) (names : List String) : Tree :=
  ⟨tree.items.filter fun entry => !names.isPrefixOf entry.1⟩

/-- **What was put is found, and everything else is as it was.** -/
theorem get?_put (tree : Tree) {names : List String} (h : names ≠ []) (item : Item)
    (other : List String) :
    (tree.put names item).get? other = if other = names then some item else tree.get? other := by
  unfold get? put
  by_cases ho : other = []
  · subst ho
    simp [Ne.symm h]
  · have hoe : other.isEmpty = false := by simpa using ho
    simp only [hoe, Bool.false_eq_true, if_false]
    by_cases hn : other = names
    · subst hn
      simp
    · have hb : (other == names) = false := by simpa using hn
      simp only [List.lookup_cons, hb, hn, if_false]
      induction tree.items with
      | nil => rfl
      | cons entry entries ih =>
        obtain ⟨key, value⟩ := entry
        by_cases hk : key = names
        · subst hk
          simp [List.lookup_cons, hb, ih]
        · have hf : (key != names) = true := by simpa using hk
          simp only [List.filter_cons, hf, if_true, List.lookup_cons]
          split
          · rfl
          · exact ih

/-- The longest name, and the longest path, in bytes. -/
def lengthLimits : Nat × Nat := (255, 4095)

/-- **Follows names from a directory.** The last name need not lead
anywhere. -/
def walk (tree : Tree) : (here : List String) → List String → Except Fault (List String)
  | here, [] => .ok here
  | here, name :: rest =>
    match tree.get? here with
    | none => .error .missing
    | some (.file _) => .error .notDirectory
    | some .directory =>
      if name = "" ∨ name = "." then tree.walk here rest
      else if name = ".." then tree.walk here.dropLast rest
      else if lengthLimits.1 < name.utf8ByteSize then .error .tooLong
      else tree.walk (here ++ [name]) rest

end Tree

/-- **A tree and the directory one works in.** -/
structure Workspace where
  /-- The files. -/
  tree : Tree := {}
  /-- The names of the directory. -/
  here : List String := []

namespace Workspace

/-- The names of a path between its slashes, the empty ones too. -/
def parts (path : String) : List String :=
  (Text.split (· == '/') path.toList).map String.ofList

/-- Where a path is read from. -/
def start (w : Workspace) (path : String) : List String :=
  if isAbsolute path then [] else w.here

/-- A path that no disk follows. -/
def refused? (path : String) : Option Fault :=
  if path = "" then some .missing
  else if path.toList.contains '\x00' then some .nul
  else if Tree.lengthLimits.2 < path.utf8ByteSize then some .tooLong
  else none

/-- **The item a path leads to.** -/
def find (w : Workspace) (path : String) : Except Fault Item :=
  match refused? path with
  | some fault => .error fault
  | none => do
    match w.tree.get? (← w.tree.walk (w.start path) (parts path)) with
    | some item => .ok item
    | none => .error .missing

/-- What is found under a path, if anything is. -/
def kind? (w : Workspace) (path : String) : Option Kind :=
  match w.find path with
  | .ok item => some item.kind
  | .error _ => none

/-- **Reads a text.** -/
def read (w : Workspace) (path : String) : Except Fault String := do
  match ← w.find path with
  | .directory => .error .isDirectory
  | .file content =>
    match String.fromUTF8? content with
    | some text => .ok text
    | none => .error .notText

/-- The names of a path without the empty ones at its end. -/
def stem (path : String) : List String :=
  ((parts path).reverse.dropWhile (· = "")).reverse

/-- **The names of the file that writing to a path makes.** Its directory
has to be there, and no directory may be in its place. -/
def target (w : Workspace) (path : String) : Except Fault (List String) :=
  match refused? path with
  | some fault => .error fault
  | none => do
    let names := stem path
    let directory ← w.tree.walk (w.start path) (names.dropLast ++ [""])
    match names.getLast? with
    | none => .error .isDirectory
    | some name =>
      if name = "." ∨ name = ".." then .error .isDirectory
      else if Tree.lengthLimits.1 < name.utf8ByteSize then .error .tooLong
      else if names.length < (parts path).length then .error .isDirectory
      else if w.tree.isDirectory (directory ++ [name]) then .error .isDirectory
      else .ok (directory ++ [name])

/-- **Writes a text** in place of what was there. -/
def write (w : Workspace) (path text : String) : Except Fault Workspace := do
  .ok { w with tree := w.tree.put (← w.target path) (.file text.toUTF8) }

end Workspace

end DocSite.Files
