import Mathlib.Tactic.Common
import DocSite.Proofs.Data.Keys
import DocSite.Proofs.Toml.Value

/-!
# The outline of a written document

The text of a document is a flat list of headers and statements, while
the document is a tree. `outline` is what stands between the two: the
sections of the text, in order, each with the way to its table. On the
side of the tree `addAll?_outline` says which tables the sections build;
what the text has to do with them is said in
`DocSite.Proofs.Toml.Document`.

The tables that are built are not quite the document. Plain values come
before sections, so within a record that is written over sections the
fields that have sections move behind those that have none. `node` is
the tree that is built, with this order and with the origin each table
gets.
-/

namespace DocSite.Toml

open Entries (keys)

/-! ## What is built -/

/-- The fields of a record that are written on lines of their own. -/
def plainData : List (String × Doc) → List (String × Data)
  | [] => []
  | (name, field) :: fields =>
    if hasSections field then plainData fields else (name, field.data) :: plainData fields

/-- The statements that the plain fields of a record are written as. -/
def statements (fields : List (String × Doc)) : List (List String × Data) :=
  (plainData fields).map fun p => ([p.1], p.2)

/-- The entries that the plain fields of a record become. -/
def plainEntries (fields : List (String × Doc)) : Entries :=
  (plainData fields).map fun p => (p.1, Node.value p.2)

/-- Whether a list is written as an array of tables. -/
def isRows (items : List Doc) : Bool := !items.isEmpty && items.all isRecord

mutual

/-- **What a field becomes** that is written over sections. -/
def node : Doc → Node
  | .text s => .value (.string s)
  | .flag b => .value (.boolean b)
  | .list items =>
    if isRows items then .rows (tables items) else .value (.array (Doc.listData items))
  | .record fields =>
    .table (if needsHeader fields then .header else .implied)
      (plainEntries fields ++ sectionEntries fields)

/-- The entries that the fields with sections become. -/
def sectionEntries : List (String × Doc) → Entries
  | [] => []
  | (name, field) :: fields =>
    if hasSections field then (name, node field) :: sectionEntries fields
    else sectionEntries fields

/-- The tables that a list of records becomes. -/
def tables : List Doc → List Entries
  | [] => []
  | item :: items => table item :: tables items

/-- The table that a record of a list becomes. -/
def table : Doc → Entries
  | .record fields => plainEntries fields ++ sectionEntries fields
  | _ => []

end

/-! ## What is written -/

mutual

/-- **The sections a field is written as**, seen from the table that
holds it. -/
def outline (name : String) : Doc → List Section
  | .record fields =>
    (if needsHeader fields then [⟨false, [], name, statements fields⟩] else [])
      ++ (outlineFields fields).map (Section.under name)
  | .list items => if isRows items then outlineRows name items else []
  | _ => []

/-- The sections that fields are written as. -/
def outlineFields : List (String × Doc) → List Section
  | [] => []
  | (name, field) :: fields => outline name field ++ outlineFields fields

/-- The sections that a list of records is written as. -/
def outlineRows (name : String) : List Doc → List Section
  | [] => []
  | item :: items => outlineRow name item ++ outlineRows name items

/-- The sections that a record of a list is written as. -/
def outlineRow (name : String) : Doc → List Section
  | .record fields =>
    ⟨true, [], name, statements fields⟩ :: (outlineFields fields).map (Section.under name)
  | _ => []

end

theorem outline_of_plain {doc : Doc} (h : hasSections doc = false) (name : String) :
    outline name doc = [] := by
  cases doc with
  | text s => rfl
  | flag b => rfl
  | list items =>
    have hrows : isRows items = false := h
    rw [outline, hrows]
    rfl
  | record fields => exact absurd h (by simp [hasSections])

/-- A record is written as no section of its own only if all of its
fields are, and there are some. -/
theorem all_hasSections {fields : List (String × Doc)} (h : needsHeader fields = false) :
    fields ≠ [] ∧ ∀ field ∈ fields, hasSections field.2 = true := by
  rw [needsHeader, Bool.or_eq_false_iff, List.isEmpty_eq_false_iff, List.any_eq_false] at h
  exact ⟨h.1, fun field hf => by simpa using h.2 field hf⟩

mutual

/-- A field that has sections is written as one at least. -/
theorem outline_ne_nil (name : String) :
    ∀ doc : Doc, hasSections doc = true → outline name doc ≠ []
  | .text _, h => absurd h (by simp [hasSections])
  | .flag _, h => absurd h (by simp [hasSections])
  | .list [], h => absurd h (by simp [hasSections])
  | .list (item :: items), h => by
    have hrows : isRows (item :: items) = true := h
    rw [hasSections, Bool.and_eq_true, List.all_cons, Bool.and_eq_true] at h
    rw [outline, if_pos hrows, outlineRows]
    cases item with
    | record fields => exact List.cons_ne_nil _ _
    | text s => exact absurd h.2.1 (by simp [isRecord])
    | flag b => exact absurd h.2.1 (by simp [isRecord])
    | list items => exact absurd h.2.1 (by simp [isRecord])
  | .record fields, _ => by
    rw [outline]
    by_cases hh : needsHeader fields = true
    · rw [if_pos hh]
      exact List.cons_ne_nil _ _
    · obtain ⟨hne, hall⟩ := all_hasSections (by simpa using hh)
      rw [if_neg hh, List.nil_append, ne_eq, List.map_eq_nil_iff]
      exact outlineFields_ne_nil fields hne hall

theorem outlineFields_ne_nil : ∀ fields : List (String × Doc), fields ≠ [] →
    (∀ field ∈ fields, hasSections field.2 = true) → outlineFields fields ≠ []
  | [], hne, _ => absurd rfl hne
  | (name, doc) :: fields, _, hall => by
    rw [outlineFields]
    exact List.append_ne_nil_of_left_ne_nil
      (outline_ne_nil name doc (hall (name, doc) List.mem_cons_self)) _

end

/-! ## Keys -/

/-- **Every field becomes an entry of its own**, the plain ones first. -/
theorem keys_perm (fields : List (String × Doc)) :
    (keys (plainEntries fields) ++ keys (sectionEntries fields)).Perm (fields.map Prod.fst) := by
  induction fields with
  | nil => exact List.Perm.refl []
  | cons field fields ih =>
    obtain ⟨name, doc⟩ := field
    unfold plainEntries
    rw [plainData, sectionEntries, List.map_cons]
    by_cases h : hasSections doc = true
    · rw [if_pos h, if_pos h]
      exact List.perm_middle.trans (ih.cons name)
    · rw [if_neg h, if_neg h]
      exact ih.cons name

theorem nodup_keys {fields : List (String × Doc)} (h : (fields.map Prod.fst).Nodup) :
    (keys (plainEntries fields) ++ keys (sectionEntries fields)).Nodup :=
  (keys_perm fields).nodup_iff.mpr h

/-- Distinct keys, of the entries that fields with sections become. -/
theorem nodup_sectionEntries {fields : List (String × Doc)}
    (h : (fields.map Prod.fst).Nodup) : (keys [] ++ keys (sectionEntries fields)).Nodup :=
  (List.nodup_append.mp (nodup_keys h)).2.1

/-- Fields that all have sections leave no plain entry. -/
theorem plainEntries_of_all {fields : List (String × Doc)}
    (h : ∀ field ∈ fields, hasSections field.2 = true) : plainEntries fields = [] := by
  induction fields with
  | nil => rfl
  | cons field fields ih =>
    obtain ⟨name, doc⟩ := field
    unfold plainEntries
    rw [plainData, if_pos (h (name, doc) List.mem_cons_self)]
    exact ih fun field hf => h field (List.mem_cons_of_mem _ hf)

/-- **The statements of a record make its plain entries.** -/
theorem insertAll?_statements {fields : List (String × Doc)} (h : (fields.map Prod.fst).Nodup) :
    Entries.insertAll? (statements fields) [] = some (plainEntries fields) := by
  have hplain := (List.nodup_append.mp (nodup_keys h)).1
  unfold statements
  rw [Entries.insertAll?_single]
  · rfl
  · simpa [keys, plainEntries, Function.comp_def] using hplain

/-! ## Fields in a row -/

theorem plainEntries_append (first second : List (String × Doc)) :
    plainEntries (first ++ second) = plainEntries first ++ plainEntries second := by
  induction first with
  | nil => rfl
  | cons field first ih =>
    obtain ⟨name, doc⟩ := field
    unfold plainEntries at ih ⊢
    rw [List.cons_append, plainData, plainData]
    by_cases h : hasSections doc = true
    · rw [if_pos h, if_pos h]
      exact ih
    · rw [if_neg h, if_neg h, List.map_cons, ih]
      rfl

theorem sectionEntries_append (first second : List (String × Doc)) :
    sectionEntries (first ++ second) = sectionEntries first ++ sectionEntries second := by
  induction first with
  | nil => rfl
  | cons field first ih =>
    obtain ⟨name, doc⟩ := field
    rw [List.cons_append, sectionEntries, sectionEntries, ih]
    by_cases h : hasSections doc = true
    · rw [if_pos h, if_pos h]
      rfl
    · rw [if_neg h, if_neg h]

theorem entriesData_append (first second : Entries) :
    Node.entriesData (first ++ second) = Node.entriesData first ++ Node.entriesData second := by
  induction first with
  | nil => rfl
  | cons entry first ih =>
    obtain ⟨key, node⟩ := entry
    rw [List.cons_append, Node.entriesData, Node.entriesData, ih]
    rfl

/-! ## Plain records -/

/-- A record whose fields are all plain is built as it is written. -/
theorem data_node_of_plain {fields : List (String × Doc)}
    (h : ∀ field ∈ fields, hasSections field.2 = false) :
    (node (.record fields)).data = (Doc.record fields).data := by
  have hdata : plainData fields = Doc.recordData fields ∧ sectionEntries fields = [] := by
    induction fields with
    | nil => exact ⟨rfl, rfl⟩
    | cons field fields ih =>
      obtain ⟨name, doc⟩ := field
      have hdoc := h (name, doc) List.mem_cons_self
      obtain ⟨hplain, hsections⟩ := ih fun field hf => h field (List.mem_cons_of_mem _ hf)
      rw [plainData, sectionEntries, Doc.recordData]
      dsimp only at hdoc
      rw [hdoc, hplain]
      exact ⟨rfl, hsections⟩
  rw [node, hdata.2, List.append_nil]
  show Data.table (Node.entriesData (plainEntries fields)) = _
  unfold plainEntries
  rw [hdata.1, entriesData_map_value]
  rfl

/-- The rows of an array of tables are built as tables elsewhere. -/
theorem data_table {doc : Doc} (h : isRecord doc = true) :
    Data.table (Node.entriesData (table doc)) = (node doc).data := by
  cases doc with
  | record fields => rfl
  | text s => exact absurd h (by simp [isRecord])
  | flag b => exact absurd h (by simp [isRecord])
  | list items => exact absurd h (by simp [isRecord])

/-! ## Adding an outline -/

/-- Entries with an array of tables behind them, if it has any. -/
def withRows (entries : Entries) (name : String) (front : List Entries) : Entries :=
  if front.isEmpty then entries else entries ++ [(name, .rows front)]

theorem withRows_append (entries : Entries) (name : String) (front : List Entries)
    (last : Entries) :
    withRows entries name (front ++ [last]) = entries ++ [(name, .rows (front ++ [last]))] := by
  unfold withRows
  rw [if_neg (by simp)]

/-- A row is added to the array of tables of its key. -/
theorem addTo?_row {name : String} {entries : Entries} (h : name ∉ entries.keys)
    {fields : List (String × Doc)} (hd : (fields.map Prod.fst).Nodup) (front : List Entries) :
    Section.addTo? ⟨true, [], name, statements fields⟩ (withRows entries name front)
      = some (entries ++ [(name, .rows (front ++ [plainEntries fields]))]) := by
  unfold Section.addTo?
  rw [if_pos rfl, Entries.descend?, Entries.defineRow?, insertAll?_statements hd]
  show (withRows entries name front).alter? _ name = _
  unfold withRows
  cases front with
  | nil => exact Entries.alter?_of_notMem _ h
  | cons first front => exact Entries.alter?_last _ h _

/-- A header defines the table of a new key. -/
theorem addTo?_header {name : String} {entries : Entries} (h : name ∉ entries.keys)
    {fields : List (String × Doc)} (hd : (fields.map Prod.fst).Nodup) :
    Section.addTo? ⟨false, [], name, statements fields⟩ entries
      = some (entries ++ [(name, .table .header (plainEntries fields))]) := by
  unfold Section.addTo?
  rw [if_neg Bool.false_ne_true, Entries.descend?, Entries.defineTable?,
    lookup_eq_none_iff_notMem.mpr h, insertAll?_statements hd]
  rfl

mutual

/-- **The outline of a field builds what the field becomes.** -/
theorem addAll?_outline (name : String) : ∀ doc : Doc, hasSections doc = true → doc.Distinct →
    ∀ entries : Entries, name ∉ entries.keys →
    addAll? (outline name doc) entries = some (entries ++ [(name, node doc)])
  | .text _, h, _, _, _ => absurd h (by simp [hasSections])
  | .flag _, h, _, _, _ => absurd h (by simp [hasSections])
  | .list items, h, hd, entries, hname => by
    have hrows : isRows items = true := h
    have hall : items.all isRecord = true := (Bool.and_eq_true _ _ ▸ h).2
    have hbuilt := addAll?_outlineRows name items hall hd entries hname []
    rw [outline, if_pos hrows, node, if_pos hrows]
    cases items with
    | nil => exact absurd hrows Bool.false_ne_true
    | cons item items => exact hbuilt
  | .record fields, _, hd, entries, hname => by
    have hfields := addAll?_outlineFields fields hd.2
    rw [outline, node]
    by_cases hh : needsHeader fields = true
    · rw [if_pos hh, if_pos hh, List.singleton_append, addAll?_cons, addTo?_header hname hd.1,
        Option.bind_some, addAll?_under_table hname, hfields _ (nodup_keys hd.1)]
      rfl
    · obtain ⟨hne, hall⟩ := all_hasSections (by simpa using hh)
      rw [if_neg hh, if_neg hh, List.nil_append,
        addAll?_under_new hname (outlineFields_ne_nil fields hne hall),
        hfields [] (nodup_sectionEntries hd.1), plainEntries_of_all hall]
      rfl

/-- The outline of fields builds the entries of those with sections. -/
theorem addAll?_outlineFields : ∀ fields : List (String × Doc), Doc.DistinctFields fields →
    ∀ entries : Entries, (keys entries ++ keys (sectionEntries fields)).Nodup →
    addAll? (outlineFields fields) entries = some (entries ++ sectionEntries fields)
  | [], _, entries, _ => by
    rw [sectionEntries, List.append_nil]
    rfl
  | (name, doc) :: fields, hd, entries, hnodup => by
    rw [outlineFields, sectionEntries]
    rw [sectionEntries] at hnodup
    by_cases h : hasSections doc = true
    · rw [if_pos h] at hnodup ⊢
      have hname : name ∉ keys entries := fun hmem =>
        (List.nodup_append.mp hnodup).2.2 name hmem name List.mem_cons_self rfl
      have hnext : (keys (entries ++ [(name, node doc)]) ++ keys (sectionEntries fields)).Nodup := by
        simpa [keys, List.append_assoc] using hnodup
      rw [addAll?_append, addAll?_outline name doc h hd.1 entries hname, Option.bind_some,
        addAll?_outlineFields fields hd.2 _ hnext, List.append_assoc]
      rfl
    · rw [if_neg h] at hnodup ⊢
      rw [outline_of_plain (by simpa using h), List.nil_append]
      exact addAll?_outlineFields fields hd.2 entries hnodup

/-- The outline of a list of records builds the tables they become,
behind those that are there. -/
theorem addAll?_outlineRows (name : String) : ∀ items : List Doc, items.all isRecord = true →
    Doc.DistinctItems items → ∀ entries : Entries, name ∉ entries.keys →
    ∀ front : List Entries, addAll? (outlineRows name items) (withRows entries name front)
      = some (withRows entries name (front ++ tables items))
  | [], _, _, entries, _, front => by
    rw [tables, List.append_nil]
    rfl
  | item :: items, hall, hd, entries, hname, front => by
    rw [List.all_cons, Bool.and_eq_true] at hall
    rw [outlineRows, addAll?_append, addAll?_outlineRow name item hall.1 hd.1 entries hname front,
      Option.bind_some, addAll?_outlineRows name items hall.2 hd.2 entries hname, tables,
      List.append_assoc]
    rfl

/-- The outline of a record of a list builds the table it becomes. -/
theorem addAll?_outlineRow (name : String) : ∀ item : Doc, isRecord item = true → item.Distinct →
    ∀ entries : Entries, name ∉ entries.keys →
    ∀ front : List Entries, addAll? (outlineRow name item) (withRows entries name front)
      = some (withRows entries name (front ++ [table item]))
  | .text _, h, _, _, _, _ => absurd h (by simp [isRecord])
  | .flag _, h, _, _, _, _ => absurd h (by simp [isRecord])
  | .list _, h, _, _, _, _ => absurd h (by simp [isRecord])
  | .record fields, _, hd, entries, hname, front => by
    rw [outlineRow, addAll?_cons, addTo?_row hname hd.1, Option.bind_some,
      addAll?_under_rows hname, addAll?_outlineFields fields hd.2 _ (nodup_keys hd.1),
      withRows_append]
    rfl

end

end DocSite.Toml
