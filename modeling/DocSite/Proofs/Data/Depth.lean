import Mathlib.Tactic.Common
import DocSite.Data.Basic

/-!
# How deep trees nest

A reader goes down a tree to some depth and no further. What it reads of an
array or a table it reads one level less deep (`readableItems_iff`,
`readableEntries_iff`), and going deeper does no harm (`readable_mono`).
-/

namespace DocSite

namespace Data

theorem readableItems_iff {depth : Nat} {items : List Data} :
    readableItems depth items = true ↔ ∀ item ∈ items, item.readable depth = true := by
  induction items with
  | nil => simp [readableItems]
  | cons item items ih => simp [readableItems, ih]

theorem readableEntries_iff {depth : Nat} {entries : List (String × Data)} :
    readableEntries depth entries = true ↔ ∀ entry ∈ entries, entry.2.readable depth = true := by
  induction entries with
  | nil => simp [readableEntries]
  | cons entry entries ih => simp [readableEntries, ih]

mutual

/-- What can be read can be read by a reader that goes deeper. -/
theorem readable_mono : ∀ (data : Data) {d e : Nat}, d ≤ e → data.readable d = true →
    data.readable e = true
  | .array items, d, e, hle, h => by
    cases d with
    | zero => exact absurd h (by simp [readable])
    | succ d =>
      obtain ⟨e, rfl⟩ : ∃ n, e = n + 1 := ⟨e - 1, by omega⟩
      exact readableItems_mono items (Nat.le_of_succ_le_succ hle) h
  | .table entries, d, e, hle, h => by
    cases d with
    | zero => exact absurd h (by simp [readable])
    | succ d =>
      obtain ⟨e, rfl⟩ : ∃ n, e = n + 1 := ⟨e - 1, by omega⟩
      exact readableEntries_mono entries (Nat.le_of_succ_le_succ hle) h
  | .fault _, _, _, _, h => absurd h (by simp [readable])
  | .torn _ _, _, _, _, h => absurd h (by simp [readable])
  | .null, _, _, _, _ => by simp [readable]
  | .boolean _, _, _, _, _ => by simp [readable]
  | .integer _, _, _, _, _ => by simp [readable]
  | .float _, _, _, _, _ => by simp [readable]
  | .datetime, _, _, _, _ => by simp [readable]
  | .string _, _, _, _, _ => by simp [readable]

theorem readableItems_mono : ∀ (items : List Data) {d e : Nat}, d ≤ e →
    readableItems d items = true → readableItems e items = true
  | [], _, _, _, _ => by rw [readableItems]
  | item :: items, _, _, hle, h => by
    rw [readableItems, Bool.and_eq_true] at h ⊢
    exact ⟨readable_mono item hle h.1, readableItems_mono items hle h.2⟩

theorem readableEntries_mono : ∀ (entries : List (String × Data)) {d e : Nat}, d ≤ e →
    readableEntries d entries = true → readableEntries e entries = true
  | [], _, _, _, _ => by rw [readableEntries]
  | (_, value) :: entries, _, _, hle, h => by
    rw [readableEntries, Bool.and_eq_true] at h ⊢
    exact ⟨readable_mono value hle h.1, readableEntries_mono entries hle h.2⟩

end

end Data

end DocSite
