import Mathlib.Tactic.Common
import DocSite.Files.Tree
import DocSite.Proofs.Steps

/-!
# The faults of a tree

A tree of files has a fault of its own for everything that can go wrong
with a path, and so never needs one in other words. That is kept by each
step: following names, finding an item, reading a text, writing one.
-/

namespace DocSite.Files

/-- A fault that needs no other words. -/
def Fault.Usual (fault : Fault) : Prop := ∀ text, fault ≠ .other text

theorem Tree.usual_walk {tree : Tree} (names : List String) : ∀ {here : List String} {fault : Fault},
    tree.walk here names = .error fault → fault.Usual := by
  induction names with
  | nil =>
    intro here fault h
    exact absurd h (by simp [Tree.walk])
  | cons name names ih =>
    intro here fault h
    rw [Tree.walk] at h
    split at h
    · injection h with h
      exact h ▸ nofun
    · injection h with h
      exact h ▸ nofun
    · split_ifs at h
      · exact ih h
      · exact ih h
      · injection h with h
        exact h ▸ nofun
      · exact ih h

namespace Workspace

theorem usual_refused? {path : String} {fault : Fault} (h : refused? path = some fault) :
    fault.Usual := by
  unfold refused? at h
  split_ifs at h
  all_goals
    injection h with h
    exact h ▸ nofun

theorem usual_find {w : Workspace} {path : String} {fault : Fault}
    (h : w.find path = .error fault) : fault.Usual := by
  unfold find at h
  split at h
  · next hrefused =>
    injection h with h
    exact h ▸ usual_refused? hrefused
  · rcases error_of_bind h with hwalk | ⟨names, -, h⟩
    · exact Tree.usual_walk _ hwalk
    · split at h
      · exact absurd h (by simp)
      · injection h with h
        exact h ▸ nofun

/-- **Reading has usual faults.** -/
theorem usual_read {w : Workspace} {path : String} {fault : Fault}
    (h : w.read path = .error fault) : fault.Usual := by
  rcases error_of_bind h with hfind | ⟨item, -, h⟩
  · exact usual_find hfind
  · cases item with
    | directory =>
      injection h with h
      exact h ▸ nofun
    | file content =>
      dsimp only at h
      split at h
      · exact absurd h (by simp)
      · injection h with h
        exact h ▸ nofun

theorem usual_target {w : Workspace} {path : String} {fault : Fault}
    (h : w.target path = .error fault) : fault.Usual := by
  unfold target at h
  split at h
  · next hrefused =>
    injection h with h
    exact h ▸ usual_refused? hrefused
  · rcases error_of_bind h with hwalk | ⟨directory, -, h⟩
    · exact Tree.usual_walk _ hwalk
    · split at h
      · injection h with h
        exact h ▸ nofun
      · split_ifs at h
        all_goals
          injection h with h
          exact h ▸ nofun

/-- **Writing has usual faults.** -/
theorem usual_write {w : Workspace} {path text : String} {fault : Fault}
    (h : w.write path text = .error fault) : fault.Usual := by
  rcases error_of_bind h with htarget | ⟨names, -, h⟩
  · exact usual_target htarget
  · exact absurd h (by simp)

end Workspace

end DocSite.Files
