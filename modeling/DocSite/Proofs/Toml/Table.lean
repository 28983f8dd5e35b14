import Mathlib.Tactic.Common
import DocSite.Toml.Table

/-!
# Tables that grow at their end

A text that is written in order adds to its tables in order: each
statement brings a key that its table does not have yet, and each header
leads into the entry that came last. This module says what the builders
of `DocSite.Toml.Table` do in that case, which is the only one a written
text needs: they append (`alter?_of_notMem`, `insertAll?_single`), or
they change the last entry (`alter?_last`).

The header of a section names the whole way to its table. `Section.under`
puts a key in front of that way, and `addAll?_under_table` and
`addAll?_under_rows` say that sections under the key of the last entry
are added inside that entry, as if it were the whole document.
-/

namespace DocSite.Toml

namespace Entries

/-- The keys of a table under construction. -/
def keys (entries : Entries) : List String := entries.map Prod.fst

/-- **A new key is added at the end.** -/
theorem alter?_of_notMem (change : Option Node → Option Node) {key : String} {entries : Entries}
    (h : key ∉ keys entries) :
    entries.alter? change key = (change none).map (fun node => entries ++ [(key, node)]) := by
  induction entries with
  | nil => rfl
  | cons entry entries ih =>
    obtain ⟨k, node⟩ := entry
    have hk : k ≠ key := fun hk => h (by rw [hk]; exact List.mem_cons_self)
    have hrest : key ∉ keys entries := fun hmem => h (List.mem_cons_of_mem _ hmem)
    rw [alter?, if_neg hk, ih hrest, Option.map_map]
    rfl

/-- **The last entry is changed in its place.** -/
theorem alter?_last (change : Option Node → Option Node) {key : String} {entries : Entries}
    (h : key ∉ keys entries) (node : Node) :
    (entries ++ [(key, node)] : Entries).alter? change key
      = (change (some node)).map (fun node' => entries ++ [(key, node')]) := by
  induction entries with
  | nil =>
    show alter? change key [(key, node)] = _
    rw [alter?, if_pos rfl]
    rfl
  | cons entry entries ih =>
    obtain ⟨k, first⟩ := entry
    have hk : k ≠ key := fun hk => h (by rw [hk]; exact List.mem_cons_self)
    have hrest : key ∉ keys entries := fun hmem => h (List.mem_cons_of_mem _ hmem)
    rw [List.cons_append, alter?, if_neg hk, ih hrest, Option.map_map]
    rfl

/-- Only the last element is changed. -/
theorem changeLast?_append {α : Type} (change : α → Option α) (front : List α) (last : α) :
    changeLast? change (front ++ [last]) = (change last).map (fun last' => front ++ [last']) := by
  induction front with
  | nil => rfl
  | cons first front ih =>
    have hne : front ++ [last] ≠ [] := by simp
    rw [List.cons_append, changeLast?.eq_3 _ _ _ (fun h => hne h), ih, Option.map_map]
    rfl

/-- **Statements with new keys append their values.** -/
theorem insertAll?_single (pairs : List (String × Data)) (entries : Entries)
    (h : (keys entries ++ pairs.map Prod.fst).Nodup) :
    insertAll? (pairs.map (fun p => ([p.1], p.2))) entries
      = some (entries ++ pairs.map (fun p => (p.1, Node.value p.2))) := by
  induction pairs generalizing entries with
  | nil => simp [insertAll?]
  | cons pair pairs ih =>
    obtain ⟨key, value⟩ := pair
    -- the first key is new, and stays apart from the keys behind it
    have hkey : key ∉ keys entries := by
      intro hmem
      exact (List.nodup_append.mp h).2.2 key hmem key (by simp) rfl
    have hnext : (keys (entries ++ [(key, Node.value value)]) ++ pairs.map Prod.fst).Nodup := by
      simpa [keys, List.append_assoc] using h
    show (insert? value true [key] entries).bind _ = _
    rw [insert?, if_pos rfl, alter?_of_notMem _ hkey]
    show insertAll? (pairs.map _) (entries ++ [(key, Node.value value)]) = _
    rw [ih _ hnext, List.append_assoc]
    rfl

end Entries

/-! ## Sections under a key -/

/-- The section with a key in front of the way to its table. -/
def Section.under (name : String) (s : Section) : Section :=
  { s with parents := name :: s.parents }

/-- Adds sections one after the other. -/
def addAll? (sections : List Section) (root : Entries) : Option Entries :=
  sections.foldlM (fun root s => s.addTo? root) root

@[simp] theorem addAll?_cons (s : Section) (sections : List Section) (root : Entries) :
    addAll? (s :: sections) root = (s.addTo? root).bind (addAll? sections) := rfl

theorem addAll?_append (first second : List Section) (root : Entries) :
    addAll? (first ++ second) root = (addAll? first root).bind (addAll? second) := by
  unfold addAll?
  rw [List.foldlM_append]
  rfl

section Under

variable {name : String} {entries : Entries}

/-- A section under the key of the last entry is added to the table
there. -/
theorem addTo?_under_table (h : name ∉ entries.keys) (s : Section) (origin : Origin)
    (inner : Entries) :
    (s.under name).addTo? (entries ++ [(name, .table origin inner)])
      = (s.addTo? inner).map (fun inner' => entries ++ [(name, .table origin inner')]) := by
  unfold Section.addTo? Section.under
  rw [Entries.descend?, Entries.alter?_last _ h]
  exact Option.map_map _ _ _

/-- A section under the key of the last entry is added to the last of the
tables there. -/
theorem addTo?_under_rows (h : name ∉ entries.keys) (s : Section) (front : List Entries)
    (inner : Entries) :
    (s.under name).addTo? (entries ++ [(name, .rows (front ++ [inner]))])
      = (s.addTo? inner).map (fun inner' => entries ++ [(name, .rows (front ++ [inner']))]) := by
  unfold Section.addTo? Section.under
  rw [Entries.descend?, Entries.alter?_last _ h]
  dsimp only
  rw [Entries.changeLast?_append, Option.map_map, Option.map_map]
  rfl

/-- A section under a new key implies the table there. -/
theorem addTo?_under_new (h : name ∉ entries.keys) (s : Section) :
    (s.under name).addTo? entries
      = (s.addTo? []).map (fun inner' => entries ++ [(name, .table .implied inner')]) := by
  unfold Section.addTo? Section.under
  rw [Entries.descend?, Entries.alter?_of_notMem _ h]
  exact Option.map_map _ _ _

/-- **Sections under the key of the last entry fill the table there.** -/
theorem addAll?_under_table (h : name ∉ entries.keys) (sections : List Section) (origin : Origin)
    (inner : Entries) :
    addAll? (sections.map (Section.under name)) (entries ++ [(name, .table origin inner)])
      = (addAll? sections inner).map
        (fun inner' => entries ++ [(name, .table origin inner')]) := by
  induction sections generalizing inner with
  | nil => rfl
  | cons s sections ih =>
    rw [List.map_cons, addAll?_cons, addAll?_cons, addTo?_under_table h]
    cases s.addTo? inner with
    | none => rfl
    | some inner' => exact ih inner'

/-- **Sections under the key of the last entry fill the last table of an
array there.** -/
theorem addAll?_under_rows (h : name ∉ entries.keys) (sections : List Section)
    (front : List Entries) (inner : Entries) :
    addAll? (sections.map (Section.under name)) (entries ++ [(name, .rows (front ++ [inner]))])
      = (addAll? sections inner).map
        (fun inner' => entries ++ [(name, .rows (front ++ [inner']))]) := by
  induction sections generalizing inner with
  | nil => rfl
  | cons s sections ih =>
    rw [List.map_cons, addAll?_cons, addAll?_cons, addTo?_under_rows h]
    cases s.addTo? inner with
    | none => rfl
    | some inner' => exact ih inner'

/-- **Sections under a new key fill the table they imply**, if there are
any. -/
theorem addAll?_under_new (h : name ∉ entries.keys) {sections : List Section}
    (hne : sections ≠ []) :
    addAll? (sections.map (Section.under name)) entries
      = (addAll? sections []).map
        (fun inner' => entries ++ [(name, .table .implied inner')]) := by
  cases sections with
  | nil => exact absurd rfl hne
  | cons s sections =>
    rw [List.map_cons, addAll?_cons, addAll?_cons, addTo?_under_new h]
    cases s.addTo? [] with
    | none => rfl
    | some inner' => exact addAll?_under_table h sections .implied inner'

end Under

end DocSite.Toml
