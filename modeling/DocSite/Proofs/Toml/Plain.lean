import Mathlib.Tactic.Common
import DocSite.Proofs.Data.Keys
import DocSite.Proofs.Toml.Table
import DocSite.Toml.Document

/-!
# The trees that a TOML text describes

A tree of data can hold more than TOML can say: a null, a place where
nothing can be read, a key that stands twice in one table. A `Plain` tree
has none of these, and `parse?_plain` says that a text never describes
another one.

The trees of a text come about in two ways. Values are read off the text
as they stand (`value?_plain`); tables are built from statements and
headers that come in any order, and there every builder keeps the tables
it adds to plain (`insert?_plain` for statements, `addTo?_plain` for
headers). All of these add by `Entries.alter?`, which is where a key
could come twice and does not (`Entries.Plain.alter?`).
-/

namespace DocSite

/-- **A tree that TOML can describe**: it can be read throughout, has no
nulls, and every table has each of its keys once. -/
inductive Data.Plain : Data → Prop
  /-- A truth value. -/
  | boolean (value : Bool) : Plain (.boolean value)
  /-- An integer. -/
  | integer (value : Int) : Plain (.integer value)
  /-- A number with a fraction or an exponent. -/
  | float (value : Number.Binary64) : Plain (.float value)
  /-- A date, a time of day or both. -/
  | datetime : Plain .datetime
  /-- A text. -/
  | string (value : String) : Plain (.string value)
  /-- An array of plain trees. -/
  | array {items : List Data} (h : ∀ item ∈ items, Plain item) : Plain (.array items)
  /-- A table of plain trees under distinct keys. -/
  | table {entries : List (String × Data)} (hkeys : (entries.map Prod.fst).Nodup)
    (h : ∀ entry ∈ entries, Plain entry.2) : Plain (.table entries)

namespace Data

theorem soundItems_iff {items : List Data} :
    soundItems items = true ↔ ∀ item ∈ items, item.sound = true := by
  induction items with
  | nil => simp [soundItems]
  | cons item items ih => simp [soundItems, ih]

theorem soundEntries_iff {entries : List (String × Data)} :
    soundEntries entries = true ↔ ∀ entry ∈ entries, entry.2.sound = true := by
  induction entries with
  | nil => simp [soundEntries]
  | cons entry entries ih => simp [soundEntries, ih]

/-- **Skipping gets past every plain tree.** -/
theorem Plain.sound : ∀ {data : Data}, data.Plain → data.sound = true
  | _, .boolean _ => rfl
  | _, .integer _ => rfl
  | _, .float _ => rfl
  | _, .datetime => rfl
  | _, .string _ => rfl
  | _, .array h => soundItems_iff.mpr fun item hitem => (h item hitem).sound
  | _, .table _ h => soundEntries_iff.mpr fun entry hentry => (h entry hentry).sound

end Data

namespace Toml

open Entries (keys)

/-! ## Tables under construction -/

/-- **A plain tree under construction**: its values are plain, and every
table has each of its keys once. -/
inductive Node.Plain : Node → Prop
  /-- A plain value. -/
  | value {data : Data} (h : data.Plain) : Plain (.value data)
  /-- A table of plain trees under distinct keys. -/
  | table {origin : Origin} {entries : Entries} (hkeys : (keys entries).Nodup)
    (h : ∀ entry ∈ entries, Plain entry.2) : Plain (.table origin entries)
  /-- Tables of plain trees, each under distinct keys. -/
  | rows {tables : List Entries} (hkeys : ∀ entries ∈ tables, (keys entries).Nodup)
    (h : ∀ entries ∈ tables, ∀ entry ∈ entries, Plain entry.2) : Plain (.rows tables)

/-- A table under construction whose entries are plain and whose keys are
distinct. -/
structure Entries.Plain (entries : Entries) : Prop where
  /-- No key stands twice. -/
  nodup : (keys entries).Nodup
  /-- Every entry is plain. -/
  node : ∀ entry ∈ entries, entry.2.Plain

theorem Entries.Plain.nil : Entries.Plain [] := ⟨List.nodup_nil, fun _ h => nomatch h⟩

theorem Entries.Plain.table {entries : Entries} (h : entries.Plain) (origin : Origin) :
    (Node.table origin entries).Plain := .table h.nodup h.node

theorem Node.Plain.rows_of {tables : List Entries} (h : ∀ entries ∈ tables, entries.Plain) :
    (Node.rows tables).Plain :=
  .rows (fun entries hentries => (h entries hentries).nodup)
    fun entries hentries => (h entries hentries).node

theorem Node.Plain.inner {origin : Origin} {entries : Entries}
    (h : (Node.table origin entries).Plain) : entries.Plain := by
  cases h with
  | table hkeys h => exact ⟨hkeys, h⟩

theorem Node.Plain.rows_inner {tables : List Entries} (h : (Node.rows tables).Plain) :
    ∀ entries ∈ tables, entries.Plain := by
  cases h with
  | rows hkeys h => exact fun entries hentries => ⟨hkeys entries hentries, h entries hentries⟩

theorem map_fst_entriesData (entries : Entries) :
    (Node.entriesData entries).map Prod.fst = keys entries := by
  induction entries with
  | nil => rfl
  | cons entry entries ih => exact congrArg (entry.1 :: ·) ih

theorem mem_entriesData {entries : Entries} {entry : String × Data} :
    entry ∈ Node.entriesData entries ↔ ∃ node, (entry.1, node) ∈ entries ∧ node.data = entry.2 := by
  induction entries with
  | nil => simp [Node.entriesData]
  | cons first entries ih =>
    obtain ⟨key, node⟩ := first
    obtain ⟨k, data⟩ := entry
    simp only [Node.entriesData, List.mem_cons, ih, Prod.mk.injEq]
    constructor
    · rintro (⟨rfl, rfl⟩ | ⟨other, hmem, hdata⟩)
      · exact ⟨node, .inl ⟨rfl, rfl⟩, rfl⟩
      · exact ⟨other, .inr hmem, hdata⟩
    · rintro ⟨other, ⟨rfl, rfl⟩ | hmem, hdata⟩
      · exact .inl ⟨rfl, hdata.symm⟩
      · exact .inr ⟨other, hmem, hdata⟩

theorem rowsData_eq_map (tables : List Entries) :
    Node.rowsData tables = tables.map fun entries => .table (Node.entriesData entries) := by
  induction tables with
  | nil => rfl
  | cons entries tables ih => exact congrArg (Data.table (Node.entriesData entries) :: ·) ih

/-- **A finished tree is plain** if it was so under construction. -/
theorem Node.Plain.data : ∀ {node : Node}, node.Plain → node.data.Plain
  | _, .value h => h
  | .table _ entries, .table hkeys h => by
    refine .table ((map_fst_entriesData entries).symm ▸ hkeys) fun entry hentry => ?_
    obtain ⟨node, hmem, hdata⟩ := mem_entriesData.mp hentry
    exact hdata ▸ (h _ hmem).data
  | .rows tables, .rows hkeys h => by
    refine .array fun item hitem => ?_
    rw [rowsData_eq_map, List.mem_map] at hitem
    obtain ⟨entries, hmem, rfl⟩ := hitem
    refine .table ((map_fst_entriesData entries).symm ▸ hkeys entries hmem) fun entry hentry => ?_
    obtain ⟨node, hnode, hdata⟩ := mem_entriesData.mp hentry
    exact hdata ▸ (h entries hmem _ hnode).data

/-- The finished entries of a plain table. -/
theorem Entries.Plain.data {entries : Entries} (h : entries.Plain) :
    (Data.table (Node.entriesData entries)).Plain := (h.table .header).data

/-! ## What the builders keep -/

namespace Entries

/-- A change under a key brings no other key. -/
theorem mem_keys_alter? {change : Option Node → Option Node} {key : String} :
    ∀ {entries result : Entries}, entries.alter? change key = some result →
      ∀ k ∈ keys result, k ∈ keys entries ∨ k = key
  | [], result, h, k, hk => by
    obtain ⟨node, _, rfl⟩ := Option.map_eq_some_iff.mp h
    exact .inr (List.mem_singleton.mp hk)
  | (k', node) :: entries, result, h, k, hk => by
    rw [alter?] at h
    split at h
    · obtain ⟨node', _, rfl⟩ := Option.map_eq_some_iff.mp h
      exact .inl hk
    · obtain ⟨more, hmore, rfl⟩ := Option.map_eq_some_iff.mp h
      rcases List.mem_cons.mp hk with rfl | hk
      · exact .inl List.mem_cons_self
      · exact (mem_keys_alter? hmore k hk).imp (List.mem_cons_of_mem _) id

/-- **A change under a key keeps a table plain** if what it makes of the
entry there is plain. -/
theorem Plain.alter? {change : Option Node → Option Node} {key : String}
    (hnone : ∀ node, change none = some node → node.Plain)
    (hsome : ∀ old node, old.Plain → change (some old) = some node → node.Plain) :
    ∀ {entries result : Entries}, entries.Plain → entries.alter? change key = some result →
      result.Plain
  | [], result, _, h => by
    obtain ⟨node, hnode, rfl⟩ := Option.map_eq_some_iff.mp h
    exact ⟨List.nodup_singleton _, fun entry hentry =>
      List.mem_singleton.mp hentry ▸ hnone node hnode⟩
  | (k, old) :: entries, result, hplain, h => by
    have hkeys : k ∉ keys entries ∧ (keys entries).Nodup := List.nodup_cons.mp hplain.nodup
    have hrest : ∀ entry ∈ entries, entry.2.Plain :=
      fun entry hentry => hplain.node entry (List.mem_cons_of_mem _ hentry)
    rw [Entries.alter?] at h
    split at h
    · obtain ⟨node, hnode, rfl⟩ := Option.map_eq_some_iff.mp h
      refine ⟨hplain.nodup, fun entry hentry => ?_⟩
      rcases List.mem_cons.mp hentry with rfl | hentry
      · exact hsome old node (hplain.node _ List.mem_cons_self) hnode
      · exact hrest entry hentry
    · next hne =>
      obtain ⟨more, hmore, rfl⟩ := Option.map_eq_some_iff.mp h
      have hplainMore := Plain.alter? hnone hsome ⟨hkeys.2, hrest⟩ hmore
      have hk : k ∉ keys more := fun hmem =>
        (mem_keys_alter? hmore k hmem).elim hkeys.1 hne
      refine ⟨List.nodup_cons.mpr ⟨hk, hplainMore.nodup⟩, fun entry hentry => ?_⟩
      rcases List.mem_cons.mp hentry with rfl | hentry
      · exact hplain.node _ List.mem_cons_self
      · exact hplainMore.node entry hentry

theorem plain_changeLast? {change : Entries → Option Entries}
    (hchange : ∀ entries result : Entries, entries.Plain → change entries = some result →
      result.Plain) :
    ∀ {tables result : List Entries}, (∀ entries ∈ tables, entries.Plain) →
      changeLast? change tables = some result → ∀ entries ∈ result, entries.Plain
  | [], result, _, h => absurd h (by simp [changeLast?])
  | [last], result, hplain, h => by
    obtain ⟨last', hlast, rfl⟩ := Option.map_eq_some_iff.mp h
    intro entries hentries
    rw [List.mem_singleton.mp hentries]
    exact hchange last last' (hplain last List.mem_cons_self) hlast
  | first :: second :: rest, result, hplain, h => by
    obtain ⟨more, hmore, rfl⟩ := Option.map_eq_some_iff.mp h
    intro entries hentries
    rcases List.mem_cons.mp hentries with rfl | hentries
    · exact hplain _ List.mem_cons_self
    · exact plain_changeLast? hchange (fun t ht => hplain t (List.mem_cons_of_mem _ ht)) hmore
        entries hentries

/-- **A statement keeps a table plain.** -/
theorem insert?_plain {value : Data} (hvalue : value.Plain) :
    ∀ (path : List String) (here : Bool) (entries result : Entries), entries.Plain →
      insert? value here path entries = some result → result.Plain
  | [], _, _, _, _, h => absurd h (by simp [insert?])
  | [key], here, entries, result, hplain, h => by
    rw [insert?] at h
    split at h
    · refine hplain.alter? (fun node hnode => ?_) (fun old node _ hnode => absurd hnode (by simp)) h
      injection hnode with hnode
      exact hnode ▸ .value hvalue
    · cases h
  | key :: next :: path, here, entries, result, hplain, h => by
    have ih := insert?_plain hvalue (next :: path)
    rw [insert?.eq_3 _ _ _ _ _ (List.cons_ne_nil _ _)] at h
    refine hplain.alter? (fun node hnode => ?_) (fun old node hold hnode => ?_) h
    · obtain ⟨inner, hinner, rfl⟩ := Option.map_eq_some_iff.mp hnode
      exact (ih true [] inner .nil hinner).table .dotted
    · cases old with
      | value data => cases hnode
      | rows tables =>
        obtain ⟨tables', htables, rfl⟩ := Option.map_eq_some_iff.mp hnode
        exact .rows_of (plain_changeLast? (ih false) hold.rows_inner htables)
      | table origin inner =>
        cases origin with
        | header => cases hnode
        | implied =>
          obtain ⟨inner', hinner, rfl⟩ := Option.map_eq_some_iff.mp hnode
          exact (ih false inner inner' hold.inner hinner).table .implied
        | dotted =>
          obtain ⟨inner', hinner, rfl⟩ := Option.map_eq_some_iff.mp hnode
          exact (ih true inner inner' hold.inner hinner).table .dotted

/-- Statements keep a table plain. -/
theorem insertAll?_plain :
    ∀ (pairs : List (List String × Data)) (entries result : Entries),
      (∀ pair ∈ pairs, pair.2.Plain) → entries.Plain →
      insertAll? pairs entries = some result → result.Plain
  | [], entries, result, _, hplain, h => by
    injection h with h
    exact h ▸ hplain
  | (path, value) :: pairs, entries, result, hpairs, hplain, h => by
    obtain ⟨next, hnext, h⟩ := Option.bind_eq_some_iff.mp h
    have hvalue : value.Plain := hpairs _ List.mem_cons_self
    exact insertAll?_plain pairs next result
      (fun pair hpair => hpairs pair (List.mem_cons_of_mem _ hpair))
      (insert?_plain hvalue path true entries next hplain hnext) h

/-- **A change of the table that keys lead to keeps the root plain.** -/
theorem descend?_plain {change : Entries → Option Entries}
    (hchange : ∀ entries result : Entries, entries.Plain → change entries = some result →
      result.Plain) :
    ∀ (path : List String) (entries result : Entries), entries.Plain →
      descend? change path entries = some result → result.Plain
  | [], entries, result, hplain, h => hchange entries result hplain h
  | key :: path, entries, result, hplain, h => by
    have ih := descend?_plain hchange path
    rw [descend?] at h
    refine hplain.alter? (fun node hnode => ?_) (fun old node hold hnode => ?_) h
    · obtain ⟨inner, hinner, rfl⟩ := Option.map_eq_some_iff.mp hnode
      exact (ih [] inner .nil hinner).table .implied
    · cases old with
      | value data => cases hnode
      | rows tables =>
        obtain ⟨tables', htables, rfl⟩ := Option.map_eq_some_iff.mp hnode
        exact .rows_of (plain_changeLast? ih hold.rows_inner htables)
      | table origin inner =>
        obtain ⟨inner', hinner, rfl⟩ := Option.map_eq_some_iff.mp hnode
        exact (ih inner inner' hold.inner hinner).table origin

theorem Plain.without {entries : Entries} (h : entries.Plain) (key : String) :
    (entries.without key).Plain :=
  ⟨h.nodup.sublist (List.filter_sublist.map _),
    fun entry hentry => h.node entry (List.mem_filter.mp hentry).1⟩

/-- A table with a new key at its end is plain. -/
theorem Plain.concat {entries : Entries} (h : entries.Plain) {key : String}
    (hkey : key ∉ keys entries) {node : Node} (hnode : node.Plain) :
    (entries ++ [(key, node)] : Entries).Plain := by
  refine ⟨?_, fun entry hentry => ?_⟩
  · show ((entries ++ [(key, node)]).map Prod.fst).Nodup
    rw [List.map_append]
    exact h.nodup.append (List.nodup_singleton _)
      (List.disjoint_singleton.mpr hkey)
  · rcases List.mem_append.mp hentry with hentry | hentry
    · exact h.node entry hentry
    · exact List.mem_singleton.mp hentry ▸ hnode

variable {pairs : List (List String × Data)} (hpairs : ∀ pair ∈ pairs, pair.2.Plain)
include hpairs

/-- A header keeps its table plain. -/
theorem defineTable?_plain (key : String) (entries result : Entries) (hplain : entries.Plain)
    (h : defineTable? pairs key entries = some result) : result.Plain := by
  unfold defineTable? at h
  split at h
  · next hlookup =>
    obtain ⟨table, htable, h⟩ := Option.bind_eq_some_iff.mp h
    injection h with h
    have hinner := insertAll?_plain pairs [] table hpairs .nil htable
    exact h ▸ hplain.concat (lookup_eq_none_iff_notMem.mp hlookup) (hinner.table .header)
  · next inner hlookup =>
    obtain ⟨table, htable, h⟩ := Option.bind_eq_some_iff.mp h
    injection h with h
    have hmem := mem_of_lookup hlookup
    have hinner := insertAll?_plain pairs inner table hpairs (hplain.node _ hmem).inner htable
    have hkey : key ∉ keys (entries.without key) := by
      intro hmem
      obtain ⟨entry, hentry, rfl⟩ := List.mem_map.mp hmem
      exact absurd (List.mem_filter.mp hentry).2 (by simp)
    exact h ▸ (hplain.without key).concat hkey (hinner.table .header)
  · exact nomatch h

/-- A header of an array of tables keeps the table that holds it
plain. -/
theorem defineRow?_plain (key : String) (entries result : Entries) (hplain : entries.Plain)
    (h : defineRow? pairs key entries = some result) : result.Plain := by
  obtain ⟨row, hrow, h⟩ := Option.bind_eq_some_iff.mp h
  have hplainRow := insertAll?_plain pairs [] row hpairs .nil hrow
  refine hplain.alter? (fun node hnode => ?_) (fun old node hold hnode => ?_) h
  · injection hnode with hnode
    exact hnode ▸ .rows_of fun entries hentries => List.mem_singleton.mp hentries ▸ hplainRow
  · cases old with
    | value data => exact nomatch hnode
    | table origin inner => exact nomatch hnode
    | rows tables =>
      injection hnode with hnode
      refine hnode ▸ .rows_of fun entries hentries => ?_
      rcases List.mem_append.mp hentries with hentries | hentries
      · exact hold.rows_inner entries hentries
      · exact List.mem_singleton.mp hentries ▸ hplainRow

end Entries

/-- **A header and its statements keep the root plain.** -/
theorem addTo?_plain {s : Section} (hpairs : ∀ pair ∈ s.pairs, pair.2.Plain)
    {root result : Entries} (hplain : root.Plain) (h : s.addTo? root = some result) :
    result.Plain := by
  unfold Section.addTo? at h
  refine Entries.descend?_plain (fun entries result hplain h => ?_) s.parents root result hplain h
  split at h
  · exact Entries.defineRow?_plain hpairs s.key entries result hplain h
  · exact Entries.defineTable?_plain hpairs s.key entries result hplain h

theorem addAll?_plain : ∀ (sections : List Section) {root result : Entries},
    (∀ s ∈ sections, ∀ pair ∈ s.pairs, pair.2.Plain) → root.Plain →
    addAll? sections root = some result → result.Plain
  | [], root, result, _, hplain, h => by
    injection h with h
    exact h ▸ hplain
  | s :: sections, root, result, hpairs, hplain, h => by
    rw [addAll?_cons] at h
    obtain ⟨next, hnext, h⟩ := Option.bind_eq_some_iff.mp h
    exact addAll?_plain sections (fun s hs => hpairs s (List.mem_cons_of_mem _ hs))
      (addTo?_plain (hpairs s List.mem_cons_self) hplain hnext) h

/-! ## Values -/

/-- What a reader reads is plain. -/
def ReadsPlain (value : Reader Data) : Prop :=
  ∀ text data rest, value text = some (data, rest) → data.Plain

theorem scalarOfWord?_plain {word : List Char} {data : Data} (h : scalarOfWord? word = some data) :
    data.Plain := by
  unfold scalarOfWord? at h
  split at h
  · injection h with h
    exact h ▸ .boolean true
  · split at h
    · injection h with h
      exact h ▸ .boolean false
    · split at h
      · injection h with h
        exact h ▸ .datetime
      · split at h
        · next n _ =>
          injection h with h
          exact h ▸ .integer n
        · obtain ⟨x, _, rfl⟩ := Option.map_eq_some_iff.mp h
          exact .float x

theorem plainScalar?_plain : ReadsPlain plainScalar? := by
  intro text data rest h
  have hword : ∀ {word more : List Char} {d : Data},
      (scalarOfWord? word).map (fun d => (d, more)) = some (d, rest) → d.Plain := by
    intro word more d h
    obtain ⟨d', hd, h⟩ := Option.map_eq_some_iff.mp h
    injection h with h
    exact h ▸ scalarOfWord?_plain hd
  unfold plainScalar? at h
  dsimp only at h
  split at h
  · split at h
    · injection h with h
      injection h with h
      exact h ▸ .datetime
    · exact hword h
  · exact hword h

theorem string_plain {text : List Char} {data : Data} {rest : List Char}
    (h : (string? text).map (fun p => (Data.string (String.ofList p.1), p.2)) = some (data, rest)) :
    data.Plain := by
  obtain ⟨p, _, h⟩ := Option.map_eq_some_iff.mp h
  injection h with h
  exact h ▸ .string _

theorem items?_plain {item : Reader Data} (hitem : ReadsPlain item) :
    ∀ (fuel : Nat) (text : List Char) (items : List Data) (rest : List Char),
      items? item fuel text = some (items, rest) → ∀ d ∈ items, d.Plain
  | 0, _, _, _, h => nomatch h
  | fuel + 1, text, items, rest, h => by
    by_cases hclose : ∃ more, text = ']' :: more
    · obtain ⟨more, rfl⟩ := hclose
      rw [items?] at h
      injection h with h
      injection h with h
      exact h ▸ fun _ hd => nomatch hd
    · rw [items?.eq_3 _ _ _ fun more hmore => hclose ⟨more, hmore⟩] at h
      obtain ⟨⟨first, behind⟩, hfirst, h⟩ := Option.bind_eq_some_iff.mp h
      obtain ⟨layout, _, h⟩ := Option.bind_eq_some_iff.mp h
      have hplain := hitem _ _ _ hfirst
      split at h
      · injection h with h
        injection h with h
        exact h ▸ fun d hd => List.mem_singleton.mp hd ▸ hplain
      · obtain ⟨next, _, h⟩ := Option.bind_eq_some_iff.mp h
        obtain ⟨⟨more, behind'⟩, hmore, h⟩ := Option.map_eq_some_iff.mp h
        injection h with h
        rw [← h]
        intro d hd
        rcases List.mem_cons.mp hd with rfl | hd
        · exact hplain
        · exact items?_plain hitem fuel _ _ _ hmore d hd
      · exact nomatch h

theorem pair?_plain {value : Reader Data} (hvalue : ReadsPlain value) {text : List Char}
    {pair : List String × Data} {rest : List Char} (h : pair? value text = some (pair, rest)) :
    pair.2.Plain := by
  obtain ⟨⟨path, behind⟩, _, h⟩ := Option.bind_eq_some_iff.mp h
  dsimp only at h
  split at h
  · obtain ⟨⟨d, behind'⟩, hd, h⟩ := Option.bind_eq_some_iff.mp h
    injection h with h
    injection h with h
    exact h ▸ hvalue _ _ _ hd
  · exact nomatch h

theorem pairs?_plain {value : Reader Data} (hvalue : ReadsPlain value) :
    ∀ (fuel : Nat) (text : List Char) (pairs : List (List String × Data)) (rest : List Char),
      pairs? value fuel text = some (pairs, rest) → ∀ pair ∈ pairs, pair.2.Plain
  | 0, _, _, _, h => nomatch h
  | fuel + 1, text, pairs, rest, h => by
    obtain ⟨⟨first, behind⟩, hfirst, h⟩ := Option.bind_eq_some_iff.mp h
    have hplain := pair?_plain hvalue hfirst
    dsimp only at h
    split at h
    · injection h with h
      injection h with h
      exact h ▸ fun pair hpair => List.mem_singleton.mp hpair ▸ hplain
    · obtain ⟨⟨more, behind'⟩, hmore, h⟩ := Option.map_eq_some_iff.mp h
      injection h with h
      rw [← h]
      intro pair hpair
      rcases List.mem_cons.mp hpair with rfl | hpair
      · exact hplain
      · exact pairs?_plain hvalue fuel _ _ _ hmore pair hpair
    · exact nomatch h

/-- **Every value that is read is plain.** -/
theorem value?_plain : ∀ depth : Nat, ReadsPlain (value? depth)
  | 0 => by
    intro text data rest h
    unfold value? at h
    split at h
    · exact string_plain h
    · exact string_plain h
    · exact plainScalar?_plain _ _ _ h
  | depth + 1 => by
    intro text data rest h
    unfold value? at h
    split at h
    · exact string_plain h
    · exact string_plain h
    · obtain ⟨layout, _, h⟩ := Option.bind_eq_some_iff.mp h
      obtain ⟨⟨items, behind⟩, hitems, h⟩ := Option.map_eq_some_iff.mp h
      injection h with h
      exact h ▸ .array (items?_plain (value?_plain depth) _ _ _ _ hitems)
    · split at h
      · injection h with h
        injection h with h
        exact h ▸ .table List.nodup_nil fun _ hentry => nomatch hentry
      · obtain ⟨⟨pairs, behind⟩, hpairs, h⟩ := Option.bind_eq_some_iff.mp h
        obtain ⟨entries, hentries, h⟩ := Option.bind_eq_some_iff.mp h
        injection h with h
        injection h with h
        have hplain := Entries.insertAll?_plain pairs [] entries
          (pairs?_plain (value?_plain depth) _ _ _ _ hpairs) .nil hentries
        exact h ▸ hplain.data
    · exact plainScalar?_plain _ _ _ h

/-! ## Documents -/

/-- The value of a line, if it has one, is plain. -/
def Line.Plain : Line → Prop
  | .pair _ value => value.Plain
  | _ => True

theorem line?_plain {text : List Char} {line : Line} {rest : List Char}
    (h : line? text = some (line, rest)) : line.Plain := by
  unfold line? at h
  split at h
  · injection h with h
    injection h with h
    exact h ▸ trivial
  · split at h
    · obtain ⟨behind, _, h⟩ := Option.map_eq_some_iff.mp h
      injection h with h
      exact h ▸ trivial
    · split at h
      · obtain ⟨⟨header, behind⟩, hheader, h⟩ := Option.bind_eq_some_iff.mp h
        obtain ⟨behind', _, h⟩ := Option.map_eq_some_iff.mp h
        injection h with h
        rw [← h]
        unfold header? at hheader
        split at hheader
        · obtain ⟨p, _, hheader⟩ := Option.bind_eq_some_iff.mp hheader
          dsimp only at hheader
          split at hheader
          · injection hheader with hheader
            injection hheader with hheader
            exact hheader ▸ trivial
          · cases hheader
        · obtain ⟨p, _, hheader⟩ := Option.bind_eq_some_iff.mp hheader
          dsimp only at hheader
          split at hheader
          · injection hheader with hheader
            injection hheader with hheader
            exact hheader ▸ trivial
          · cases hheader
        · cases hheader
      · obtain ⟨⟨pair, behind⟩, hpair, h⟩ := Option.bind_eq_some_iff.mp h
        obtain ⟨behind', _, h⟩ := Option.map_eq_some_iff.mp h
        injection h with h
        exact h ▸ pair?_plain (value?_plain maxParts) hpair

theorem lines?_plain : ∀ (fuel : Nat) (text : List Char) (lines : List Line),
    lines? fuel text = some lines → ∀ line ∈ lines, line.Plain
  | _, [], lines, h => by
    rw [lines?] at h
    injection h with h
    exact h ▸ fun _ hline => nomatch hline
  | 0, _ :: _, _, h => nomatch h
  | fuel + 1, c :: text, lines, h => by
    obtain ⟨⟨line, rest⟩, hline, h⟩ := Option.bind_eq_some_iff.mp h
    obtain ⟨more, hmore, rfl⟩ := Option.map_eq_some_iff.mp h
    intro other hother
    rcases List.mem_cons.mp hother with rfl | hother
    · exact line?_plain hline
    · exact lines?_plain fuel rest more hmore other hother

/-- The statements of plain lines are plain, above the first header and
below every one. -/
theorem group_plain : ∀ (lines : List Line), (∀ line ∈ lines, line.Plain) →
    (∀ pair ∈ (group lines).1, pair.2.Plain)
      ∧ ∀ s ∈ (group lines).2, ∀ pair ∈ s.pairs, pair.2.Plain
  | [], _ => ⟨fun _ h => (nomatch h), fun _ h => (nomatch h)⟩
  | .blank :: lines, h => group_plain lines fun line hline => h line (List.mem_cons_of_mem _ hline)
  | .pair path value :: lines, h => by
    obtain ⟨hpairs, hsections⟩ := group_plain lines
      fun line hline => h line (List.mem_cons_of_mem _ hline)
    refine ⟨fun pair hpair => ?_, hsections⟩
    rcases List.mem_cons.mp hpair with rfl | hpair
    · exact h (.pair path value) List.mem_cons_self
    · exact hpairs pair hpair
  | .header row path :: lines, h => by
    obtain ⟨hpairs, hsections⟩ := group_plain lines
      fun line hline => h line (List.mem_cons_of_mem _ hline)
    refine ⟨fun _ hpair => (nomatch hpair), fun s hs => ?_⟩
    rcases List.mem_cons.mp hs with rfl | hs
    · exact hpairs
    · exact hsections s hs

/-- **A text describes a plain tree**, whatever it is. -/
theorem parse?_plain {text : String} {entries : List (String × Data)}
    (h : parse? text = some entries) : (Data.table entries).Plain := by
  obtain ⟨lines, hlines, h⟩ := Option.bind_eq_some_iff.mp h
  obtain ⟨root, hroot, rfl⟩ := Option.map_eq_some_iff.mp h
  obtain ⟨start, hstart, hroot⟩ := Option.bind_eq_some_iff.mp hroot
  obtain ⟨hpairs, hsections⟩ := group_plain lines (lines?_plain _ _ _ hlines)
  have hplain := Entries.insertAll?_plain _ [] start hpairs .nil hstart
  exact (addAll?_plain _ hsections hplain hroot).data

theorem parse?_sound {text : String} {entries : List (String × Data)}
    (h : parse? text = some entries) : ∀ entry ∈ entries, entry.2.sound = true := by
  cases parse?_plain h with
  | table _ h => exact fun entry hentry => (h entry hentry).sound

end Toml

end DocSite
