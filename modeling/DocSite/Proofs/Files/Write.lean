import Mathlib.Data.List.DropRight
import Mathlib.Tactic.Common
import DocSite.Files.Tree
import DocSite.Proofs.Steps
import DocSite.Proofs.Text.Segments

/-!
# Where writing goes

Reading follows all names of a path. Writing follows all but the last,
insists on a directory there, and puts a file under the last name. The
two agree on where a path leads: what is written is written in the place
from which it would be read (`leads?_of_target`), and everywhere else the
tree is as it was.

The place itself is one where a file may be (`IsTarget`): its directory
is there, its name is a name, and no directory is in its place.
-/

namespace DocSite.Files

/-- **A name of a file or a directory**: it leads down, is written between
two slashes, and is within the limits. -/
structure IsName (name : String) : Prop where
  /-- It is not empty. -/
  ne_empty : name ≠ ""
  /-- It does not stay where it is, and does not lead up. -/
  ne_dots : ¬(name = "." ∨ name = "..")
  /-- It has no slash. -/
  slash : '/' ∉ name.toList
  /-- It has no NUL character. -/
  nul : '\x00' ∉ name.toList
  /-- It is not too long. -/
  short : ¬Tree.lengthLimits.1 < name.utf8ByteSize

/-- **Names are followed one part after the other.** -/
theorem Tree.walk_append (tree : Tree) (here first second : List String) :
    tree.walk here (first ++ second)
      = (tree.walk here first).bind fun there => tree.walk there second := by
  induction first generalizing here with
  | nil => rfl
  | cons name first ih =>
    rw [List.cons_append, Tree.walk, Tree.walk]
    cases tree.get? here with
    | none => rfl
    | some item =>
      cases item with
      | file content => rfl
      | directory =>
        dsimp only
        split_ifs
        · exact ih here
        · exact ih here.dropLast
        · rfl
        · exact ih (here ++ [name])

/-- The empty name leads from a directory to itself, and from nowhere
else. -/
theorem Tree.of_walk_empty {tree : Tree} {here there : List String}
    (h : tree.walk here [""] = .ok there) : tree.get? here = some .directory ∧ there = here := by
  rw [Tree.walk] at h
  cases hitem : tree.get? here with
  | none =>
    rw [hitem] at h
    exact absurd h (by simp)
  | some item =>
    rw [hitem] at h
    cases item with
    | file content => exact absurd h (by simp)
    | directory =>
      dsimp only at h
      rw [if_pos (Or.inl rfl)] at h
      injection h with h
      exact ⟨rfl, h.symm⟩

/-- **A name leads down** from a directory. -/
theorem Tree.walk_down {tree : Tree} {here : List String} (hhere : tree.get? here = some .directory)
    {name : String} (hempty : name ≠ "") (hdots : ¬(name = "." ∨ name = ".."))
    (hlong : ¬lengthLimits.1 < name.utf8ByteSize) (rest : List String) :
    tree.walk here (name :: rest) = tree.walk (here ++ [name]) rest := by
  rw [Tree.walk, hhere]
  dsimp only
  rw [if_neg (fun h => h.elim hempty fun h => hdots (Or.inl h)), if_neg (fun h => hdots (Or.inr h)),
    if_neg hlong]

namespace Workspace

/-- **Where a path leads**, whether or not anything is there. -/
def leads? (w : Workspace) (path : String) : Except Fault (List String) :=
  w.tree.walk (w.start path) (parts path)

/-- The last name of a path without the empty ones at its end is not
empty. -/
theorem ne_empty_of_getLast?_stem {path name : String} (h : (stem path).getLast? = some name) :
    name ≠ "" := by
  obtain ⟨front, hfront⟩ := List.getLast?_eq_some_iff.mp h
  have hstem : (parts path).rdropWhile (· = "") = front ++ [name] := hfront
  have hlast := List.rdropWhile_last_not (· = "") (parts path) (by rw [hstem]; simp)
  simpa [hstem] using hlast

/-- A path without empty names at its end is its own stem. -/
theorem stem_eq_parts {path : String} (h : ¬(stem path).length < (parts path).length) :
    stem path = parts path :=
  (List.rdropWhile_prefix (· = "") (parts path)).eq_of_length_le (Nat.not_lt.mp h)

/-- The names of a path have no slash, and no character that the path has
not. -/
theorem chars_of_mem_parts {path name : String} (h : name ∈ parts path) :
    '/' ∉ name.toList ∧ ∀ c ∈ name.toList, c ∈ path.toList := by
  obtain ⟨piece, hpiece, rfl⟩ := List.mem_map.mp h
  rw [String.toList_ofList]
  refine ⟨Text.notMem_of_mem_split hpiece, fun c hc => ?_⟩
  rw [← Text.join_split '/' path.toList]
  exact Text.mem_join_of_mem hpiece hc

/-- **A place that a path leads to and where a file may be.** -/
structure IsTarget (w : Workspace) (path : String) (directory : List String) (name : String) :
    Prop where
  /-- The path can be followed. -/
  accepted : refused? path = none
  /-- It leads there. -/
  leads : w.leads? path = .ok (directory ++ [name])
  /-- The directory is there. -/
  parent : w.tree.get? directory = some .directory
  /-- The name is one. -/
  named : IsName name
  /-- No directory is in its place. -/
  free : w.tree.isDirectory (directory ++ [name]) = false

/-- **Writing to a path is writing where the path leads**, if a file may be
there. -/
theorem exists_of_target {w : Workspace} {path : String} {names : List String}
    (h : w.target path = .ok names) :
    ∃ directory name, names = directory ++ [name] ∧ w.IsTarget path directory name := by
  unfold target at h
  split at h
  · exact absurd h (by simp)
  · next haccepted =>
    obtain ⟨directory, hwalk, h⟩ := exists_of_bind h
    split at h
    · exact absurd h (by simp)
    · next name hname =>
      split_ifs at h with hdots hlong hshort hthere
      injection h with h
      refine ⟨directory, name, h.symm, ?_⟩
      -- the directory is where the names before the last lead
      rw [Tree.walk_append] at hwalk
      obtain ⟨front, hfront, hempty⟩ := exists_of_bind hwalk
      obtain ⟨hitem, rfl⟩ := Tree.of_walk_empty hempty
      -- a path without slashes at its end is its directory and its last name
      have hparts : parts path = (stem path).dropLast ++ [name] := by
        rw [← stem_eq_parts hshort, List.dropLast_append_getLast? name hname]
      have hempty := ne_empty_of_getLast?_stem hname
      have hchars : '/' ∉ name.toList ∧ ∀ c ∈ name.toList, c ∈ path.toList := by
        refine chars_of_mem_parts ?_
        rw [hparts]
        exact List.mem_append_right _ List.mem_cons_self
      have hnul : '\x00' ∉ path.toList := by
        unfold refused? at haccepted
        split_ifs at haccepted with _ hnul
        exact fun hmem => hnul (List.contains_iff_mem.mpr hmem)
      refine ⟨haccepted, ?_, hitem, ?_, Bool.eq_false_iff.mpr hthere⟩
      · unfold leads?
        rw [hparts, Tree.walk_append, hfront]
        show w.tree.walk directory [name] = _
        rw [Tree.walk_down hitem hempty hdots hlong]
        rfl
      · exact ⟨hempty, hdots, hchars.1, fun hmem => hnul (hchars.2 _ hmem), hlong⟩

/-- Where writing goes is not the root, and is where the path leads. -/
theorem leads?_of_target {w : Workspace} {path : String} {names : List String}
    (h : w.target path = .ok names) : names ≠ [] ∧ w.leads? path = .ok names := by
  obtain ⟨directory, name, rfl, htarget⟩ := exists_of_target h
  exact ⟨List.append_ne_nil_of_right_ne_nil _ (List.cons_ne_nil _ _), htarget.leads⟩

/-- **Trees that are the same but where a path leads.** -/
structure SameBut (w : Workspace) (path : String) (w' : Workspace) : Prop where
  /-- One works in the same directory. -/
  here : w'.here = w.here
  /-- Everything is the same that is not where the path leads. -/
  others : ∀ names, w.leads? path ≠ .ok names → w'.tree.get? names = w.tree.get? names

/-- **Writing changes nothing but what is where the path leads.** -/
theorem sameBut_of_write {w w' : Workspace} {path text : String}
    (h : w.write path text = .ok w') : w.SameBut path w' := by
  obtain ⟨target, htarget, h⟩ := exists_of_bind h
  injection h with h
  obtain ⟨hne, hleads⟩ := leads?_of_target htarget
  rw [← h]
  refine ⟨rfl, fun names hnames => ?_⟩
  show (w.tree.put target _).get? names = _
  rw [Tree.get?_put _ hne, if_neg]
  rintro rfl
  exact hnames hleads

end Workspace

end DocSite.Files
