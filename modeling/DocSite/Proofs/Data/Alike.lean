import Mathlib.Data.List.Perm.Basic
import Mathlib.Tactic.Common
import DocSite.Proofs.Data.Depth

/-!
# Trees that differ in the order of their keys

The same data can be laid out in many ways, and the order of the keys of a
table is the one trace of the layout that a tree of data keeps. `Alike`
relates the trees that differ in nothing else: scalars are the same, arrays
have alike items in the same order, and tables have alike values under the
same keys, in whatever order.

A table is first gone through entry by entry and its entries are moved
only then, so a law about `Alike` has one case for each of the two steps.
-/

namespace DocSite

namespace Data

mutual

/-- **Two trees are alike**: they are the same but for the order of the
keys of their tables, at any depth. -/
inductive Alike : Data → Data → Prop
  /-- The same tree. -/
  | refl (data : Data) : Alike data data
  /-- Arrays of alike items. -/
  | array {items others : List Data} (h : AlikeItems items others) :
    Alike (.array items) (.array others)
  /-- Tables with alike values under the same keys, in any order. -/
  | table {entries middle others : List (String × Data)} (h : AlikeEntries entries middle)
    (hperm : middle.Perm others) : Alike (.table entries) (.table others)

/-- Items are alike one by one. -/
inductive AlikeItems : List Data → List Data → Prop
  /-- No items. -/
  | nil : AlikeItems [] []
  /-- Alike first items, and alike items behind them. -/
  | cons {item other : Data} {items others : List Data} (h : Alike item other)
    (hrest : AlikeItems items others) : AlikeItems (item :: items) (other :: others)

/-- Entries have the same keys and alike values one by one. -/
inductive AlikeEntries : List (String × Data) → List (String × Data) → Prop
  /-- No entries. -/
  | nil : AlikeEntries [] []
  /-- Alike values under the first key, and alike entries behind them. -/
  | cons (key : String) {value other : Data} {entries others : List (String × Data)}
    (h : Alike value other) (hrest : AlikeEntries entries others) :
    AlikeEntries ((key, value) :: entries) ((key, other) :: others)

end

theorem AlikeItems.refl : ∀ items : List Data, AlikeItems items items
  | [] => .nil
  | item :: items => .cons (.refl item) (.refl items)

theorem AlikeEntries.refl : ∀ entries : List (String × Data), AlikeEntries entries entries
  | [] => .nil
  | (key, value) :: entries => .cons key (.refl value) (.refl entries)

/-- **The keys of a table may be moved.** -/
theorem Alike.of_perm {entries others : List (String × Data)} (h : entries.Perm others) :
    Alike (.table entries) (.table others) :=
  .table (.refl entries) h

theorem AlikeEntries.map_fst {entries others : List (String × Data)}
    (h : AlikeEntries entries others) : entries.map Prod.fst = others.map Prod.fst := by
  induction entries generalizing others with
  | nil =>
    cases h
    rfl
  | cons entry entries ih =>
    cases h with
    | cons key _ hrest => exact congrArg (key :: ·) (ih hrest)

/-- **Alike tables have the same keys.** -/
theorem Alike.keys {entries others : List (String × Data)}
    (h : Alike (.table entries) (.table others)) :
    (entries.map Prod.fst).Perm (others.map Prod.fst) := by
  cases h with
  | refl => exact .rfl
  | table h hperm => exact h.map_fst ▸ hperm.map Prod.fst

theorem Alike.forall_keys {entries others : List (String × Data)}
    (h : Alike (.table entries) (.table others)) {p : String → Prop} :
    (∀ entry ∈ entries, p entry.1) ↔ ∀ entry ∈ others, p entry.1 :=
  List.forall_mem_map.symm.trans
    ((forall_congr' fun _ => imp_congr_left h.keys.mem_iff).trans List.forall_mem_map)

/-! ## How deep alike trees go -/

theorem readableEntries_perm {entries others : List (String × Data)} (h : entries.Perm others)
    (depth : Nat) : readableEntries depth entries = readableEntries depth others := by
  rw [Bool.eq_iff_iff, readableEntries_iff, readableEntries_iff]
  exact forall_congr' fun entry => imp_congr_left h.mem_iff

mutual

/-- **Alike trees can be read equally far.** -/
theorem Alike.readable_eq : ∀ {data other : Data}, Alike data other → ∀ depth : Nat,
    data.readable depth = other.readable depth
  | _, _, .refl _, _ => rfl
  | _, _, .array _, 0 => rfl
  | _, _, .array h, depth + 1 => h.readable_eq depth
  | _, _, .table _ _, 0 => rfl
  | _, _, .table h hperm, depth + 1 =>
    (h.readable_eq depth).trans (readableEntries_perm hperm depth)

theorem AlikeItems.readable_eq : ∀ {items others : List Data}, AlikeItems items others →
    ∀ depth : Nat, readableItems depth items = readableItems depth others
  | _, _, .nil, _ => rfl
  | _, _, .cons h hrest, depth => by
    rw [readableItems, readableItems, h.readable_eq depth, hrest.readable_eq depth]

theorem AlikeEntries.readable_eq : ∀ {entries others : List (String × Data)},
    AlikeEntries entries others → ∀ depth : Nat,
    readableEntries depth entries = readableEntries depth others
  | _, _, .nil, _ => rfl
  | _, _, .cons _ h hrest, depth => by
    rw [readableEntries, readableEntries, h.readable_eq depth, hrest.readable_eq depth]

end

end Data

end DocSite
