import Mathlib.Tactic.Common
import DocSite.Proofs.Toml.Quoted
import DocSite.Proofs.Toml.Table
import DocSite.Toml.Printer
import DocSite.Toml.Value

/-!
# A written value is read back

`value?_inlineValue` is the law of values on one line: reading what
`inlineValue` wrote gives the data of the document, and leaves what
follows. It is exact about the one limit the reader has. A value whose
arrays and tables nest deeper than the reader goes is refused, and never
read as something else, so the law is an equation with both outcomes and
not an implication.

Two conditions are about the surroundings. A value is `Closed` when what
follows cannot belong to it – a line end, a comma, a bracket or a blank,
which is all that ever follows a written value – and a document is
`Distinct` when no record has two fields of one name, since a table with
a key twice is no TOML.
-/

namespace DocSite

mutual

/-- **No record has two fields of one name**, at any depth. -/
def Doc.Distinct : Doc → Prop
  | .text _ => True
  | .flag _ => True
  | .list items => Doc.DistinctItems items
  | .record fields => (fields.map Prod.fst).Nodup ∧ Doc.DistinctFields fields

/-- No record among the items, or in them, has two fields of one name. -/
def Doc.DistinctItems : List Doc → Prop
  | [] => True
  | item :: items => item.Distinct ∧ Doc.DistinctItems items

/-- No record among the fields, or in them, has two fields of one name. -/
def Doc.DistinctFields : List (String × Doc) → Prop
  | [] => True
  | (_, field) :: fields => field.Distinct ∧ Doc.DistinctFields fields

end

namespace Toml

/-! ## What follows a value -/

/-- A character that may follow a written value. -/
def closesValue (c : Char) : Bool :=
  c == '\n' || c == ',' || c == ']' || c == ' '

/-- **What follows a value cannot belong to it.** -/
def Closed (rest : List Char) : Prop := ∀ c ∈ rest.head?, closesValue c = true

theorem closed_cons {c : Char} (h : closesValue c = true) (rest : List Char) :
    Closed (c :: rest) := by
  intro d hd
  rw [List.head?_cons, Option.mem_some_iff] at hd
  rw [← hd]
  exact h

/-- Any other character does not follow. -/
theorem Closed.head?_ne {rest : List Char} (h : Closed rest) {c : Char}
    (hc : closesValue c = false) : rest.head? ≠ some c :=
  fun hr => Bool.false_ne_true (hc.symm.trans (h c hr))

/-- A run of characters of a class ends where the value is closed. -/
theorem takeWhile_append_closed {p : Char → Bool} {word rest : List Char}
    (hword : ∀ c ∈ word, p c = true) (h : ∀ c ∈ rest.head?, p c = false) :
    (word ++ rest).takeWhile p = word ∧ (word ++ rest).dropWhile p = rest := by
  induction word with
  | nil =>
    cases rest with
    | nil => exact ⟨rfl, rfl⟩
    | cons c rest =>
      have hc : p c = false := h c rfl
      exact ⟨List.takeWhile_cons_of_neg (by simp [hc]), List.dropWhile_cons_of_neg (by simp [hc])⟩
  | cons c word ih =>
    have hc := hword c List.mem_cons_self
    obtain ⟨ht, hd⟩ := ih (fun d hd => hword d (List.mem_cons_of_mem _ hd))
    rw [List.cons_append, List.takeWhile_cons_of_pos hc, List.dropWhile_cons_of_pos hc, ht, hd]
    exact ⟨rfl, rfl⟩

/-- Blanks are passed over up to the first character that is none. -/
theorem skipBlanks_cons {c : Char} (h : isBlank c = false) (rest : List Char) :
    skipBlanks (c :: rest) = c :: rest :=
  List.dropWhile_cons_of_neg (by simp [h])

theorem skipBlanks_blank (rest : List Char) : skipBlanks (' ' :: rest) = skipBlanks rest := rfl

/-- A character that is no layout. -/
def isMark (c : Char) : Bool :=
  !isBlank c && c != '\n' && c != '\r' && c != '#'

/-- Layout is passed over up to the first character that is none. -/
theorem skipLayout_mark {c : Char} (h : isMark c = true) (rest : List Char) :
    skipLayout false (c :: rest) = some (c :: rest) := by
  simp only [isMark, Bool.and_eq_true, Bool.not_eq_true', bne_iff_ne, ne_eq] at h
  obtain ⟨⟨⟨hb, hn⟩, hr⟩, hh⟩ := h
  rw [skipLayout.eq_6 c rest hn (fun _ h' _ => hr h') hh, if_neg (by simp [hb])]

theorem skipLayout_blank (rest : List Char) :
    skipLayout false (' ' :: rest) = skipLayout false rest := by
  rw [skipLayout.eq_def]
  rfl

/-! ## Keys -/

theorem writeKey_eq_cons (key : String) :
    ∃ c t, writeKey key = c :: t ∧ (isBare c = true ∨ c = '"') := by
  unfold writeKey
  dsimp only
  split
  · next h =>
    rw [Bool.and_eq_true, Bool.not_eq_true', List.isEmpty_eq_false_iff] at h
    obtain ⟨c, t, hct⟩ := List.exists_cons_of_ne_nil h.1
    exact ⟨c, t, hct, Or.inl (List.all_eq_true.mp h.2 c (by rw [hct]; exact List.mem_cons_self))⟩
  · exact ⟨'"', writeBasic false 0 key.toList ++ ['"'], rfl, Or.inr rfl⟩

/-- **A key is read back**, if no bare character follows. -/
theorem simpleKey?_writeKey (key : String) {rest : List Char}
    (h : ∀ c ∈ rest.head?, isBare c = false) :
    simpleKey? (writeKey key ++ rest) = some (key, rest) := by
  unfold writeKey
  dsimp only
  split
  · next hk =>
    rw [Bool.and_eq_true, Bool.not_eq_true', List.isEmpty_eq_false_iff] at hk
    have hall := List.all_eq_true.mp hk.2
    obtain ⟨ht, hd⟩ := takeWhile_append_closed hall h
    obtain ⟨c, t, hct⟩ := List.exists_cons_of_ne_nil hk.1
    have hc : isBare c = true := hall c (by rw [hct]; exact List.mem_cons_self)
    rw [hct] at ht hd ⊢
    rw [List.cons_append] at ht hd ⊢
    rw [simpleKey?, if_pos hc, ht, hd, ← hct, String.ofList_toList]
  · have hbare : ¬isBare '"' = true := by decide
    have hread := lineString?_encodeAs_basic key.toList rest
    rw [show encodeAs .basic key.toList ++ rest
      = '"' :: (writeBasic false 0 key.toList ++ ['"'] ++ rest) from rfl] at hread ⊢
    rw [simpleKey?, if_neg hbare, hread]
    show some (String.ofList key.toList, rest) = _
    rw [String.ofList_toList]

/-- Blanks before a key are passed over, and no others are there. -/
theorem skipBlanks_writeKey (key : String) (rest : List Char) :
    skipBlanks (writeKey key ++ rest) = writeKey key ++ rest := by
  obtain ⟨c, t, hct, hc⟩ := writeKey_eq_cons key
  have hb : isBlank c = false := by
    rcases hc with hc | rfl
    · by_contra hb
      simp only [isBlank, Bool.not_eq_false, Bool.or_eq_true, beq_iff_eq] at hb
      rcases hb with rfl | rfl <;> exact absurd hc (by decide)
    · decide
  rw [hct]
  exact skipBlanks_cons hb (t ++ rest)

/-- A blank before a key does not count. -/
theorem key?_blank (text : List Char) : key? (' ' :: text) = key? text := rfl

/-- **The key of a pair is read back**, up to the equals sign. -/
theorem key?_writeKey (key : String) (rest : List Char) :
    key? (writeKey key ++ ' ' :: '=' :: rest) = some ([key], '=' :: rest) := by
  show (simpleKey? (skipBlanks (writeKey key ++ ' ' :: '=' :: rest))).bind _ = _
  have hend : ∀ c ∈ (' ' :: '=' :: rest).head?, isBare c = false := by
    intro c hc
    rw [List.head?_cons, Option.mem_some_iff] at hc
    rw [← hc]
    decide
  rw [skipBlanks_writeKey, simpleKey?_writeKey key hend]
  rfl

theorem writePath_cons (key next : String) (way : List String) :
    writePath (key :: next :: way) = writeKey key ++ '.' :: writePath (next :: way) := by
  simp [writePath]

/-- A key in a path is followed by a dot or a bracket. -/
theorem keys?_succ (key : String) {c : Char} (hbare : isBare c = false) (hblank : isBlank c = false)
    (rest : List Char) (allowed : Nat) :
    keys? (allowed + 1) (writeKey key ++ c :: rest)
      = match c :: rest with
        | '.' :: rest => (keys? allowed rest).map fun p => (key :: p.1, p.2)
        | rest => some ([key], rest) := by
  have hend : ∀ d ∈ (c :: rest).head?, isBare d = false := by
    intro d hd
    rw [List.head?_cons, Option.mem_some_iff] at hd
    rw [← hd]
    exact hbare
  rw [keys?, skipBlanks_writeKey, simpleKey?_writeKey key hend]
  show (match skipBlanks (c :: rest) with
    | '.' :: rest => _
    | rest => _) = _
  rw [skipBlanks_cons hblank]

/-- **The keys of a header are read back**, up to the closing bracket, if
there are not too many. -/
theorem keys?_writePath (way : List String) (key : String) (rest : List Char) (allowed : Nat) :
    keys? allowed (writePath (key :: way) ++ ']' :: rest)
      = if (key :: way).length ≤ allowed then some (key :: way, ']' :: rest) else none := by
  induction way generalizing key allowed with
  | nil =>
    cases allowed with
    | zero => rfl
    | succ allowed =>
      rw [show writePath [key] = writeKey key by simp [writePath],
        keys?_succ key (by decide) (by decide), if_pos (by simp)]
      rfl
  | cons next way ih =>
    cases allowed with
    | zero => rfl
    | succ allowed =>
      rw [writePath_cons, List.append_assoc, List.cons_append,
        keys?_succ key (by decide) (by decide)]
      show (keys? allowed (writePath (next :: way) ++ ']' :: rest)).map _ = _
      rw [ih]
      by_cases h : (next :: way).length ≤ allowed
      · rw [if_pos h, if_pos (by simpa using h)]
        rfl
      · rw [if_neg h, if_neg (by simpa using h)]
        rfl

/-! ## Scalars -/

/-- A scalar is read back if what follows cannot belong to it. -/
theorem plainScalar?_append {word rest : List Char} (hword : ∀ c ∈ word, isWord c = true)
    (hdate : date? word = none) (h : Closed rest) :
    plainScalar? (word ++ rest) = (scalarOfWord? word).map (fun d => (d, rest)) := by
  have hend : ∀ c ∈ rest.head?, isWord c = false := by
    intro c hc
    have hclose := h c hc
    simp only [closesValue, Bool.or_eq_true, beq_iff_eq] at hclose
    rcases hclose with ((rfl | rfl) | rfl) | rfl <;> decide
  obtain ⟨ht, hd⟩ := takeWhile_append_closed hword hend
  unfold plainScalar?
  rw [ht, hd]
  dsimp only
  rw [hdate]
  split
  · rfl
  · rfl

theorem plainScalar?_flag (b : Bool) {rest : List Char} (h : Closed rest) :
    plainScalar? ((if b then ['t', 'r', 'u', 'e'] else ['f', 'a', 'l', 's', 'e']) ++ rest)
      = some (.boolean b, rest) := by
  cases b
  · exact plainScalar?_append (List.all_eq_true.mp rfl) (by decide) h
  · exact plainScalar?_append (List.all_eq_true.mp rfl) (by decide) h

theorem plainScalar?_bracket {c : Char} (h : isWord c = false) (hb : c ≠ ' ') (rest : List Char) :
    plainScalar? (c :: rest) = none := by
  unfold plainScalar?
  rw [List.takeWhile_cons_of_neg (by simp [h]), List.dropWhile_cons_of_neg (by simp [h])]
  dsimp only
  split
  · next heq => exact absurd (by injection heq) hb
  · rfl

/-! ## Values -/

/-- What a written value begins with. -/
def beginsValue (c : Char) : Bool :=
  c == '"' || c == '\'' || c == 't' || c == 'f' || c == '[' || c == '\x7b'

/-- No layout begins a value, and no closing bracket. -/
theorem isMark_of_beginsValue {c : Char} (h : beginsValue c = true) :
    isMark c = true ∧ isBlank c = false ∧ c ≠ ']' := by
  simp only [beginsValue, Bool.or_eq_true, beq_iff_eq] at h
  rcases h with ((((rfl | rfl) | rfl) | rfl) | rfl) | rfl <;> decide

theorem encode_eq_cons (s : List Char) :
    ∃ c t, encode s = c :: t ∧ (c = '"' ∨ c = '\'') := by
  unfold encode
  cases form s with
  | basic => exact ⟨'"', _, rfl, Or.inl rfl⟩
  | literal => exact ⟨'\'', _, rfl, Or.inr rfl⟩
  | basicBlock => exact ⟨'"', _, rfl, Or.inl rfl⟩
  | literalBlock => exact ⟨'\'', _, rfl, Or.inr rfl⟩

/-- A written value begins as values do. -/
theorem inlineValue_eq_cons (doc : Doc) :
    ∃ c t, inlineValue doc = c :: t ∧ beginsValue c = true := by
  cases doc with
  | text s =>
    obtain ⟨c, t, hct, hc⟩ := encode_eq_cons s.toList
    refine ⟨c, t, by rw [inlineValue, hct], ?_⟩
    rcases hc with rfl | rfl <;> decide
  | flag b =>
    rw [inlineValue]
    cases b
    · exact ⟨'f', _, rfl, by decide⟩
    · exact ⟨'t', _, rfl, by decide⟩
  | list items => exact ⟨'[', _, by rw [inlineValue]; rfl, by decide⟩
  | record fields =>
    rw [inlineValue]
    split
    · exact ⟨'\x7b', _, rfl, by decide⟩
    · exact ⟨'\x7b', _, rfl, by decide⟩

theorem value?_quote {c : Char} (h : c = '"' ∨ c = '\'') (depth : Nat) (t : List Char) :
    value? depth (c :: t)
      = (string? (c :: t)).map (fun p => (.string (String.ofList p.1), p.2)) := by
  rcases h with rfl | rfl <;> cases depth <;> rfl

theorem value?_letter {c : Char} (h : c = 't' ∨ c = 'f') (depth : Nat) (t : List Char) :
    value? depth (c :: t) = plainScalar? (c :: t) := by
  rcases h with rfl | rfl <;> cases depth <;> rfl

/-- Where nothing may nest no array and no table is read. -/
theorem value?_zero_bracket {c : Char} (h : c = '[' ∨ c = '\x7b') (t : List Char) :
    value? 0 (c :: t) = none := by
  rcases h with rfl | rfl
  · show plainScalar? ('[' :: t) = none
    exact plainScalar?_bracket (by decide) (by decide) t
  · show plainScalar? ('\x7b' :: t) = none
    exact plainScalar?_bracket (by decide) (by decide) t

/-! ### Arrays -/

section Items

variable {item : Reader Data} {text : List Char} {first : Data}

/-- An array that is not at its end goes on with an item. -/
theorem items?_item (h : text.head? ≠ some ']') (fuel : Nat) :
    items? item (fuel + 1) text = (item text).bind fun p =>
      (skipLayout false p.2).bind fun
        | ']' :: rest => some ([p.1], rest)
        | ',' :: rest => (skipLayout false rest).bind fun rest =>
          (items? item fuel rest).map fun q => (p.1 :: q.1, q.2)
        | _ => none := by
  rw [items?.eq_3 item text fuel (fun t ht => h (by rw [ht]; rfl))]
  rfl

/-- The items of an array stop at an item that cannot be read. -/
theorem items?_refused (h : text.head? ≠ some ']') (hread : item text = none) (fuel : Nat) :
    items? item (fuel + 1) text = none := by
  rw [items?_item h, hread]
  rfl

theorem items?_last (h : text.head? ≠ some ']') {rest : List Char}
    (hread : item text = some (first, ']' :: rest)) (fuel : Nat) :
    items? item (fuel + 1) text = some ([first], rest) := by
  rw [items?_item h, hread, Option.bind_some, skipLayout_mark (by decide)]
  rfl

theorem items?_next (h : text.head? ≠ some ']') {c : Char} (hc : isMark c = true) {t : List Char}
    (hread : item text = some (first, ',' :: ' ' :: c :: t)) (fuel : Nat) :
    items? item (fuel + 1) text
      = (items? item fuel (c :: t)).map (fun p => (first :: p.1, p.2)) := by
  rw [items?_item h, hread, Option.bind_some, skipLayout_mark (by decide), Option.bind_some]
  show (skipLayout false (' ' :: c :: t)).bind _ = _
  rw [skipLayout_blank, skipLayout_mark hc]
  rfl

end Items

/-- An array is read item by item. -/
theorem value?_array (depth : Nat) (t : List Char) :
    value? (depth + 1) ('[' :: t)
      = (skipLayout false t).bind fun rest =>
        (items? (value? depth) (rest.length + 1) rest).map fun p => (.array p.1, p.2) :=
  rfl

/-! ### Tables -/

section Pairs

variable {value : Reader Data} {text : List Char} {key : String} {first : Data}

theorem pair?_writeKey (key : String) {c : Char} (hc : isBlank c = false) (t : List Char) :
    pair? value (writeKey key ++ ' ' :: '=' :: ' ' :: c :: t)
      = (value (c :: t)).map (fun p => (([key], p.1), p.2)) := by
  unfold pair?
  rw [key?_writeKey]
  show (value (skipBlanks (' ' :: c :: t))).bind _ = _
  rw [skipBlanks_blank, skipBlanks_cons hc]
  cases value (c :: t) <;> rfl

/-- A blank before the first pair of a table does not count. -/
theorem pairs?_blank (value : Reader Data) (fuel : Nat) (text : List Char) :
    pairs? value fuel (' ' :: text) = pairs? value fuel text := by
  cases fuel with
  | zero => rfl
  | succ fuel =>
    show (pair? value (' ' :: text)).bind _ = (pair? value text).bind _
    unfold pair?
    rw [key?_blank]

theorem pairs?_refused (hread : pair? value text = none) (fuel : Nat) :
    pairs? value (fuel + 1) text = none := by
  show (pair? value text).bind _ = _
  rw [hread]
  rfl

theorem pairs?_last {pair : List String × Data} {rest : List Char}
    (hread : pair? value text = some (pair, ' ' :: '\x7d' :: rest)) (fuel : Nat) :
    pairs? value (fuel + 1) text = some ([pair], rest) := by
  show (pair? value text).bind _ = _
  rw [hread]
  rfl

theorem pairs?_next {pair : List String × Data} {more : List Char}
    (hread : pair? value text = some (pair, ',' :: ' ' :: more)) (fuel : Nat) :
    pairs? value (fuel + 1) text
      = (pairs? value fuel more).map (fun p => (pair :: p.1, p.2)) := by
  show (pair? value text).bind _ = _
  rw [hread]
  show (pairs? value fuel (' ' :: more)).map _ = _
  rw [pairs?_blank]

end Pairs

theorem value?_table (depth : Nat) {text : List Char}
    (h : (skipBlanks text).head? ≠ some '\x7d') :
    value? (depth + 1) ('\x7b' :: text)
      = (pairs? (value? depth) ((skipBlanks text).length + 1) (skipBlanks text)).bind fun p =>
        (Entries.insertAll? p.1 []).map fun entries => (.table (Node.entriesData entries), p.2) := by
  rw [value?]
  split
  · next heq => exact absurd (by rw [heq]; rfl) h
  · cases pairs? (value? depth) ((skipBlanks text).length + 1) (skipBlanks text) with
    | none => rfl
    | some p =>
      rw [Option.bind_eq_bind, Option.bind_some, Option.bind_some]
      dsimp only
      cases Entries.insertAll? p.1 [] <;> rfl

theorem entriesData_map_value (pairs : List (String × Data)) :
    Node.entriesData (pairs.map (fun p => (p.1, Node.value p.2))) = pairs := by
  induction pairs with
  | nil => rfl
  | cons pair pairs ih =>
    obtain ⟨key, value⟩ := pair
    show (key, value) :: Node.entriesData (pairs.map _) = _
    rw [ih]

theorem map_fst_recordData (fields : List (String × Doc)) :
    (Doc.recordData fields).map Prod.fst = fields.map Prod.fst := by
  induction fields with
  | nil => rfl
  | cons field fields ih =>
    obtain ⟨name, doc⟩ := field
    rw [Doc.recordData, List.map_cons, List.map_cons, ih]

/-- **The pairs of a record with distinct names make its table.** -/
theorem insertAll?_recordData {fields : List (String × Doc)} (h : (fields.map Prod.fst).Nodup) :
    (Entries.insertAll? ((Doc.recordData fields).map (fun p => ([p.1], p.2))) []).map
        Node.entriesData = some (Doc.recordData fields) := by
  rw [Entries.insertAll?_single _ _ (by rw [map_fst_recordData]; simpa [Entries.keys] using h)]
  show some (Node.entriesData ([] ++ _)) = _
  rw [List.nil_append, entriesData_map_value]

/-! ### The law of values -/

/-- Pieces with a comma between neighbours. -/
theorem commaSeparated_cons (piece next : List Char) (pieces : List (List Char)) :
    commaSeparated (piece :: next :: pieces)
      = piece ++ ',' :: ' ' :: commaSeparated (next :: pieces) := rfl

/-- Pieces that are not empty are no more than their characters. -/
theorem length_le_commaSeparated {pieces : List (List Char)} (h : ∀ piece ∈ pieces, piece ≠ []) :
    pieces.length ≤ (commaSeparated pieces).length := by
  induction pieces with
  | nil => exact Nat.le_refl 0
  | cons piece pieces ih =>
    have hpiece := List.length_pos_iff.mpr (h piece List.mem_cons_self)
    cases pieces with
    | nil => exact hpiece
    | cons next pieces =>
      have hrest := ih (fun p hp => h p (List.mem_cons_of_mem _ hp))
      rw [commaSeparated_cons, List.length_append]
      simp only [List.length_cons] at hrest ⊢
      omega

theorem inlineItems_eq_map (items : List Doc) : inlineItems items = items.map inlineValue := by
  induction items with
  | nil => rfl
  | cons item items ih => rw [inlineItems, ih, List.map_cons]

theorem inlineFields_eq_map (fields : List (String × Doc)) :
    inlineFields fields
      = fields.map (fun f => writeKey f.1 ++ [' ', '=', ' '] ++ inlineValue f.2) := by
  induction fields with
  | nil => rfl
  | cons field fields ih =>
    obtain ⟨name, doc⟩ := field
    rw [inlineFields, ih, List.map_cons]

/-- Each item takes up a character at least. -/
theorem length_le_inlineItems (items : List Doc) :
    items.length ≤ (commaSeparated (inlineItems items)).length := by
  rw [inlineItems_eq_map, ← List.length_map (f := inlineValue)]
  refine length_le_commaSeparated (fun piece hp => ?_)
  obtain ⟨doc, -, rfl⟩ := List.mem_map.mp hp
  obtain ⟨c, t, hct, -⟩ := inlineValue_eq_cons doc
  rw [hct]
  exact List.cons_ne_nil c t

theorem length_le_inlineFields (fields : List (String × Doc)) :
    fields.length ≤ (commaSeparated (inlineFields fields)).length := by
  rw [inlineFields_eq_map,
    ← List.length_map (f := fun f : String × Doc => writeKey f.1 ++ [' ', '=', ' '] ++ inlineValue f.2)]
  refine length_le_commaSeparated (fun piece hp => ?_)
  obtain ⟨field, -, rfl⟩ := List.mem_map.mp hp
  simp

/-- Items on their line begin as values do. -/
theorem commaSeparated_inlineItems_eq_cons (item : Doc) (items : List Doc) (rest : List Char) :
    ∃ c t, commaSeparated (inlineItems (item :: items)) ++ rest = c :: t
      ∧ beginsValue c = true := by
  obtain ⟨c, t, hct, hc⟩ := inlineValue_eq_cons item
  cases items with
  | nil => exact ⟨c, t ++ rest, by simp [inlineItems, commaSeparated, hct], hc⟩
  | cons next items =>
    exact ⟨c, t ++ (',' :: ' ' :: commaSeparated (inlineItems (next :: items))) ++ rest,
      by simp [inlineItems, commaSeparated_cons, hct], hc⟩

theorem skipBlanks_inlineFields (field : String × Doc) (fields : List (String × Doc))
    (rest : List Char) :
    skipBlanks (commaSeparated (inlineFields (field :: fields)) ++ rest)
        = commaSeparated (inlineFields (field :: fields)) ++ rest
      ∧ (commaSeparated (inlineFields (field :: fields)) ++ rest).head? ≠ some '\x7d' := by
  have hkey : ∃ t, commaSeparated (inlineFields (field :: fields)) ++ rest
      = writeKey field.1 ++ t := by
    cases fields with
    | nil => exact ⟨_, by rw [inlineFields_eq_map]; simp [commaSeparated]; rfl⟩
    | cons next fields =>
      exact ⟨_, by rw [inlineFields_eq_map]; simp [commaSeparated_cons]; rfl⟩
  obtain ⟨t, ht⟩ := hkey
  obtain ⟨c, u, hcu, hc⟩ := writeKey_eq_cons field.1
  rw [ht]
  refine ⟨skipBlanks_writeKey field.1 t, fun h => ?_⟩
  rw [hcu, List.cons_append, List.head?_cons, Option.some_inj] at h
  rw [h] at hc
  exact absurd hc (by decide)

theorem value?_text (s : String) (depth : Nat) {rest : List Char} (h : Closed rest) :
    value? depth (inlineValue (.text s) ++ rest) = some (.string s, rest) := by
  obtain ⟨c, t, hct, hc⟩ := encode_eq_cons s.toList
  have hread := string?_encode s.toList (h.head?_ne (c := '"') (by decide))
    (h.head?_ne (by decide))
  rw [inlineValue, hct, List.cons_append, value?_quote hc, ← List.cons_append, ← hct, hread,
    Option.map_some, String.ofList_toList]

theorem value?_flag (b : Bool) (depth : Nat) {rest : List Char} (h : Closed rest) :
    value? depth (inlineValue (.flag b) ++ rest) = some ((Doc.flag b).data, rest) := by
  obtain ⟨c, t, hct, hc⟩ : ∃ c t, inlineValue (.flag b) = c :: t ∧ (c = 't' ∨ c = 'f') := by
    rw [inlineValue]
    cases b
    · exact ⟨'f', _, rfl, Or.inr rfl⟩
    · exact ⟨'t', _, rfl, Or.inl rfl⟩
  rw [hct, List.cons_append, value?_letter hc, ← List.cons_append, ← hct, inlineValue,
    plainScalar?_flag b h]
  rfl

theorem value?_list {item : Doc} {items : List Doc} {depth : Nat} (rest : List Char)
    (hitems : ∀ fuel, (item :: items).length ≤ fuel → items? (value? depth) fuel
        (commaSeparated (inlineItems (item :: items)) ++ ']' :: rest)
      = if Data.readableItems depth (Doc.listData (item :: items)) = true
        then some (Doc.listData (item :: items), rest) else none) :
    value? (depth + 1) (inlineValue (.list (item :: items)) ++ rest)
      = if (Doc.list (item :: items)).data.readable (depth + 1) = true
        then some ((Doc.list (item :: items)).data, rest) else none := by
  -- the text itself is fuel enough, for each item takes up some of it
  have hlength : (item :: items).length
      ≤ (commaSeparated (inlineItems (item :: items)) ++ ']' :: rest).length + 1 := by
    have hle := length_le_inlineItems (item :: items)
    rw [List.length_append]
    omega
  obtain ⟨c, t, hct, hc⟩ := commaSeparated_inlineItems_eq_cons item items (']' :: rest)
  have hskip : skipLayout false (commaSeparated (inlineItems (item :: items)) ++ ']' :: rest)
      = some (commaSeparated (inlineItems (item :: items)) ++ ']' :: rest) := by
    rw [hct]
    exact skipLayout_mark (isMark_of_beginsValue hc).1 t
  have htext : inlineValue (.list (item :: items)) ++ rest
      = '[' :: (commaSeparated (inlineItems (item :: items)) ++ ']' :: rest) := by
    simp [inlineValue]
  rw [htext, value?_array, hskip, Option.bind_some, hitems _ hlength]
  show _ = if Data.readableItems depth (Doc.listData (item :: items)) = true then _ else _
  split <;> rfl

theorem value?_record {field : String × Doc} {fields : List (String × Doc)} {depth : Nat}
    (rest : List Char) (hnames : ((field :: fields).map Prod.fst).Nodup)
    (hfields : ∀ fuel, (field :: fields).length ≤ fuel → pairs? (value? depth) fuel
        (commaSeparated (inlineFields (field :: fields)) ++ ' ' :: '\x7d' :: rest)
      = if Data.readableEntries depth (Doc.recordData (field :: fields)) = true
        then some ((Doc.recordData (field :: fields)).map (fun p => ([p.1], p.2)), rest)
        else none) :
    value? (depth + 1) (inlineValue (.record (field :: fields)) ++ rest)
      = if (Doc.record (field :: fields)).data.readable (depth + 1) = true
        then some ((Doc.record (field :: fields)).data, rest) else none := by
  have hlength : (field :: fields).length
      ≤ (commaSeparated (inlineFields (field :: fields)) ++ ' ' :: '\x7d' :: rest).length + 1 := by
    have hle := length_le_inlineFields (field :: fields)
    rw [List.length_append]
    omega
  obtain ⟨hskip, hhead⟩ := skipBlanks_inlineFields field fields (' ' :: '\x7d' :: rest)
  have htext : inlineValue (.record (field :: fields)) ++ rest
      = '\x7b' :: ' ' :: (commaSeparated (inlineFields (field :: fields))
        ++ ' ' :: '\x7d' :: rest) := by
    simp [inlineValue]
  rw [htext, value?_table depth (by rw [skipBlanks_blank, hskip]; exact hhead), skipBlanks_blank,
    hskip, hfields _ hlength]
  show _ = if Data.readableEntries depth (Doc.recordData (field :: fields)) = true then _ else _
  split
  · -- the pairs make a table, as no name stands twice
    have hmake := insertAll?_recordData hnames
    rw [Option.map_eq_some_iff] at hmake
    obtain ⟨entries, hentries, hdata⟩ := hmake
    rw [Option.bind_some]
    dsimp only
    rw [hentries, Option.map_some, hdata]
    rfl
  · rfl

mutual

/-- **A written value is read back**, if it nests no deeper than the
reader goes, and is refused otherwise. -/
theorem value?_inlineValue : ∀ (doc : Doc), doc.Distinct → ∀ (depth : Nat) (rest : List Char),
    Closed rest → value? depth (inlineValue doc ++ rest)
      = if doc.data.readable depth = true then some (doc.data, rest) else none
  | .text s, _, depth, rest, h => by
    rw [value?_text s depth h]
    cases depth <;> rfl
  | .flag b, _, depth, rest, h => by
    rw [value?_flag b depth h]
    cases depth <;> rfl
  | .list items, hd, 0, rest, h => by
    rw [inlineValue]
    exact value?_zero_bracket (Or.inl rfl) _
  | .list [], _, depth + 1, rest, _ => by
    show value? (depth + 1) ('[' :: ']' :: rest) = _
    rw [value?_array, skipLayout_mark (by decide)]
    rfl
  | .list (item :: items), hd, depth + 1, rest, _ => by
    refine value?_list rest fun fuel hfuel => ?_
    exact items?_inlineItems (item :: items) (List.cons_ne_nil _ _) hd depth fuel rest hfuel
  | .record fields, _, 0, rest, _ => by
    rw [inlineValue]
    split
    · exact value?_zero_bracket (Or.inr rfl) _
    · exact value?_zero_bracket (Or.inr rfl) _
  | .record [], _, depth + 1, rest, _ => by
    show value? (depth + 1) ('\x7b' :: '\x7d' :: rest) = _
    rfl
  | .record (field :: fields), hd, depth + 1, rest, _ => by
    refine value?_record rest hd.1 fun fuel hfuel => ?_
    exact pairs?_inlineFields (field :: fields) (List.cons_ne_nil _ _) hd.2 depth fuel rest hfuel

theorem items?_inlineItems : ∀ (items : List Doc), items ≠ [] → Doc.DistinctItems items →
    ∀ (depth fuel : Nat) (rest : List Char), items.length ≤ fuel →
    items? (value? depth) fuel (commaSeparated (inlineItems items) ++ ']' :: rest)
      = if Data.readableItems depth (Doc.listData items) = true
        then some (Doc.listData items, rest) else none
  | [], hne, _, _, _, _, _ => absurd rfl hne
  | item :: items, _, hd, depth, fuel, rest, hfuel => by
    obtain ⟨fuel, rfl⟩ : ∃ n, fuel = n + 1 := Nat.exists_eq_succ_of_ne_zero (by
      rintro rfl
      exact absurd hfuel (by simp))
    obtain ⟨c, t, hct, hc⟩ := commaSeparated_inlineItems_eq_cons item items (']' :: rest)
    have hhead : (commaSeparated (inlineItems (item :: items)) ++ ']' :: rest).head? ≠ some ']' := by
      rw [hct, List.head?_cons, ne_eq, Option.some_inj]
      exact (isMark_of_beginsValue hc).2.2
    cases items with
    | nil =>
      have hread := value?_inlineValue item hd.1 depth (']' :: rest) (closed_cons (by decide) _)
      show items? (value? depth) (fuel + 1) (inlineValue item ++ ']' :: rest)
        = if (item.data.readable depth && true) = true then _ else _
      rw [Bool.and_true]
      split at hread
      · next hr => rw [if_pos hr]; exact items?_last hhead hread fuel
      · next hr => rw [if_neg hr]; exact items?_refused hhead hread fuel
    | cons next items =>
      obtain ⟨d, u, hdu, hd'⟩ := commaSeparated_inlineItems_eq_cons next items (']' :: rest)
      have hread := value?_inlineValue item hd.1 depth (',' :: ' ' :: d :: u)
        (closed_cons (by decide) _)
      have hmore := items?_inlineItems (next :: items) (List.cons_ne_nil _ _) hd.2 depth fuel rest
        (by simpa using hfuel)
      have htext : commaSeparated (inlineItems (item :: next :: items)) ++ ']' :: rest
          = inlineValue item ++ ',' :: ' ' :: d :: u := by
        rw [← hdu]
        simp [inlineItems, commaSeparated_cons]
      rw [htext] at hhead ⊢
      show _ = if (item.data.readable depth
        && Data.readableItems depth (Doc.listData (next :: items))) = true then _ else _
      by_cases hr : item.data.readable depth = true
      · rw [if_pos hr] at hread
        rw [items?_next hhead (isMark_of_beginsValue hd').1 hread, ← hdu, hmore, hr, Bool.true_and]
        split <;> rfl
      · rw [if_neg hr] at hread
        rw [items?_refused hhead hread, if_neg]
        rw [Bool.and_eq_true]
        exact fun h => hr h.1

theorem pairs?_inlineFields : ∀ (fields : List (String × Doc)), fields ≠ [] →
    Doc.DistinctFields fields →
    ∀ (depth fuel : Nat) (rest : List Char), fields.length ≤ fuel →
    pairs? (value? depth) fuel (commaSeparated (inlineFields fields) ++ ' ' :: '\x7d' :: rest)
      = if Data.readableEntries depth (Doc.recordData fields) = true
        then some ((Doc.recordData fields).map (fun p => ([p.1], p.2)), rest) else none
  | [], hne, _, _, _, _, _ => absurd rfl hne
  | (name, doc) :: fields, _, hd, depth, fuel, rest, hfuel => by
    obtain ⟨fuel, rfl⟩ : ∃ n, fuel = n + 1 := Nat.exists_eq_succ_of_ne_zero (by
      rintro rfl
      exact absurd hfuel (by simp))
    -- whatever follows the value, the pair is read back if the value is
    have hpair : ∀ tail, Closed tail →
        pair? (value? depth) (writeKey name ++ ' ' :: '=' :: ' ' :: (inlineValue doc ++ tail))
          = if doc.data.readable depth = true then some (([name], doc.data), tail) else none := by
      intro tail htail
      have hread := value?_inlineValue doc hd.1 depth tail htail
      obtain ⟨c, t, hct, hc⟩ := inlineValue_eq_cons doc
      rw [hct, List.cons_append] at hread ⊢
      rw [pair?_writeKey name (isMark_of_beginsValue hc).2.1, hread]
      split <;> rfl
    cases fields with
    | nil =>
      have hread := hpair (' ' :: '\x7d' :: rest) (closed_cons (by decide) _)
      have htext : commaSeparated (inlineFields [(name, doc)]) ++ ' ' :: '\x7d' :: rest
          = writeKey name ++ ' ' :: '=' :: ' ' :: (inlineValue doc ++ ' ' :: '\x7d' :: rest) := by
        simp [inlineFields, commaSeparated]
      rw [htext]
      show _ = if (doc.data.readable depth && true) = true then _ else _
      rw [Bool.and_true]
      split at hread
      · next hr => rw [if_pos hr]; exact pairs?_last hread fuel
      · next hr => rw [if_neg hr]; exact pairs?_refused hread fuel
    | cons next fields =>
      have hread := hpair (',' :: ' ' :: (commaSeparated (inlineFields (next :: fields))
        ++ ' ' :: '\x7d' :: rest)) (closed_cons (by decide) _)
      have hmore := pairs?_inlineFields (next :: fields) (List.cons_ne_nil _ _) hd.2 depth fuel rest
        (by simpa using hfuel)
      have htext : commaSeparated (inlineFields ((name, doc) :: next :: fields))
            ++ ' ' :: '\x7d' :: rest
          = writeKey name ++ ' ' :: '=' :: ' ' :: (inlineValue doc ++ ',' :: ' ' ::
            (commaSeparated (inlineFields (next :: fields)) ++ ' ' :: '\x7d' :: rest)) := by
        obtain ⟨next, d⟩ := next
        simp [inlineFields, commaSeparated_cons]
      rw [htext]
      show _ = if (doc.data.readable depth
        && Data.readableEntries depth (Doc.recordData (next :: fields))) = true then _ else _
      by_cases hr : doc.data.readable depth = true
      · rw [if_pos hr] at hread
        rw [pairs?_next hread, hmore, hr, Bool.true_and]
        split <;> rfl
      · rw [if_neg hr] at hread
        rw [pairs?_refused hread, if_neg]
        rw [Bool.and_eq_true]
        exact fun h => hr h.1

end

end Toml

end DocSite
