import Mathlib.Data.List.Nodup
import Mathlib.Data.List.Perm.Basic
import Mathlib.Tactic.Common

/-!
# Values under distinct keys

A table is a list of values under keys. As long as its keys are distinct
it is told by what can be looked up in it (`lookup_eq_some_iff_mem`), so
its order does not matter (`lookup_perm`), and the keys it may have put it
into an order of their own (`perm_of_keys`).
-/

namespace DocSite

variable {κ α : Type} [BEq κ] [LawfulBEq κ]
variable {entries others : List (κ × α)} {key : κ} {value : α}

theorem mem_of_lookup (h : entries.lookup key = some value) : (key, value) ∈ entries := by
  obtain ⟨front, back, rfl, _⟩ := List.lookup_eq_some_iff.mp h
  exact List.mem_append_right front List.mem_cons_self

theorem lookup_eq_none_iff_notMem : entries.lookup key = none ↔ key ∉ entries.map Prod.fst := by
  rw [List.lookup_eq_none_iff]
  constructor
  · intro h hmem
    obtain ⟨entry, hentry, rfl⟩ := List.mem_map.mp hmem
    exact absurd (h entry hentry) (by simp)
  · intro h entry hentry
    rw [bne_iff_ne]
    rintro rfl
    exact h (List.mem_map_of_mem hentry)

/-- **With distinct keys, every entry is found under its key.** -/
theorem lookup_eq_some_iff_mem (hkeys : (entries.map Prod.fst).Nodup) :
    entries.lookup key = some value ↔ (key, value) ∈ entries := by
  refine ⟨mem_of_lookup, fun hmem => ?_⟩
  cases hfound : entries.lookup key with
  | none =>
    exact absurd (List.mem_map_of_mem (f := Prod.fst) hmem) (lookup_eq_none_iff_notMem.mp hfound)
  | some other =>
    have hsame := List.inj_on_of_nodup_map hkeys (mem_of_lookup hfound) hmem rfl
    rw [(Prod.mk.inj hsame).2]

/-- **With distinct keys, the order of a table does not matter** to what
is found in it. -/
theorem lookup_perm (h : entries.Perm others) (hkeys : (entries.map Prod.fst).Nodup)
    (key : κ) : entries.lookup key = others.lookup key := by
  have hothers : (others.map Prod.fst).Nodup := (h.map Prod.fst).nodup_iff.mp hkeys
  refine Option.ext fun value => ?_
  rw [lookup_eq_some_iff_mem hkeys, lookup_eq_some_iff_mem hothers, h.mem_iff]

/-- **A table takes the order of the keys it may have**: it is what is
found under them, one after the other. -/
theorem perm_of_keys {allowed : List κ} (hallowed : allowed.Nodup)
    (hkeys : (entries.map Prod.fst).Nodup) (hsub : ∀ key ∈ entries.map Prod.fst, key ∈ allowed) :
    entries.Perm (allowed.filterMap fun key => (entries.lookup key).map (key, ·)) := by
  have hfound : (allowed.filterMap fun key => (entries.lookup key).map (key, ·)).Nodup := by
    refine hallowed.filterMap fun key other entry hentry hother => ?_
    obtain ⟨value, _, rfl⟩ := Option.map_eq_some_iff.mp hentry
    obtain ⟨value', _, hentry⟩ := Option.map_eq_some_iff.mp hother
    exact (Prod.mk.inj hentry).1.symm
  refine (List.perm_ext_iff_of_nodup hkeys.of_map hfound).mpr fun entry => ?_
  obtain ⟨key, value⟩ := entry
  rw [List.mem_filterMap, ← lookup_eq_some_iff_mem hkeys]
  constructor
  · intro h
    exact ⟨key, hsub key (List.mem_map_of_mem (mem_of_lookup h)), by rw [h]; rfl⟩
  · rintro ⟨other, _, h⟩
    obtain ⟨value', hvalue, h⟩ := Option.map_eq_some_iff.mp h
    injection h with hother hvalue'
    rw [← hother, hvalue, hvalue']

end DocSite
