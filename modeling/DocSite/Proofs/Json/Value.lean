import Mathlib.Data.List.DropRight
import Mathlib.Data.List.TakeWhile
import Mathlib.Tactic.Common
import DocSite.Json.Printer
import DocSite.Json.Reader
import DocSite.Proofs.Json.Quoted

/-!
# A written document is read back from JSON

`value_write` is the law of the printer and the reader: reading what
`write` wrote gives the data of the document and leaves what follows,
whatever it is. Nothing is asked of the document, and nothing of the
level it is written at, for a reader passes over the blanks in front of
every token. `parse_write` says the same of a whole text.

The reader is bounded by its fuel. What a document needs is read off its
text, two steps for each character, so the bound that `parse` starts with
is always enough.
-/

namespace DocSite.Json

/-! ## Blanks in front -/

theorem skipBlanks_skipBlanks (text : List Char) :
    skipBlanks (skipBlanks text) = skipBlanks text :=
  List.dropWhile_idempotent isBlank text

theorem skipBlanks_cons {c : Char} (h : isBlank c = false) (rest : List Char) :
    skipBlanks (c :: rest) = c :: rest :=
  List.dropWhile_cons_of_neg (by simp [h])

theorem isBlank_of_mem_newline {level : Nat} {c : Char} (h : c ∈ newline level) :
    isBlank c = true := by
  rcases List.mem_cons.mp h with rfl | h
  · rfl
  · rw [List.eq_of_mem_replicate h]
    rfl

theorem skipBlanks_newline (level : Nat) (rest : List Char) :
    skipBlanks (newline level ++ rest) = skipBlanks rest := by
  unfold skipBlanks
  rw [List.dropWhile_append, if_pos]
  rw [List.isEmpty_iff, List.dropWhile_eq_nil_iff]
  exact fun c hc => isBlank_of_mem_newline hc

/-- **Blanks in front of a value do not matter.** -/
theorem value_skipBlanks (fuel : Nat) (text : List Char) :
    value fuel (skipBlanks text) = value fuel text := by
  cases fuel with
  | zero => rfl
  | succ fuel => rw [value, value, skipBlanks_skipBlanks]

theorem items_skipBlanks (fuel : Nat) (text : List Char) :
    items fuel (skipBlanks text) = items fuel text := by
  cases fuel with
  | zero => rfl
  | succ fuel => rw [items, items, value_skipBlanks]

theorem entries_skipBlanks (fuel : Nat) (text : List Char) :
    entries fuel (skipBlanks text) = entries fuel text := by
  cases fuel with
  | zero => rfl
  | succ fuel => rw [entries, entries, skipBlanks_skipBlanks]

theorem items_newline (fuel level : Nat) (text : List Char) :
    items fuel (newline level ++ text) = items fuel text := by
  rw [← items_skipBlanks, skipBlanks_newline, items_skipBlanks]

theorem entries_newline (fuel level : Nat) (text : List Char) :
    entries fuel (newline level ++ text) = entries fuel text := by
  rw [← entries_skipBlanks, skipBlanks_newline, entries_skipBlanks]

/-! ## One step of the reader -/

theorem value_encode (fuel : Nat) (s rest : List Char) :
    value (fuel + 1) (encode s ++ rest) = (.string (String.ofList s), rest) := by
  have hread := string_encode s rest
  rw [encode_eq_cons, List.cons_append, value, skipBlanks_cons rfl]
  dsimp only
  rw [if_neg (by decide), if_neg (by decide), if_neg (by decide), if_pos rfl, hread]

/-- An array is its items, unless its bracket closes at once. -/
theorem value_bracket {text : List Char} (h : (skipBlanks text).head? ≠ some ']') (fuel : Nat) :
    value (fuel + 1) ('[' :: text) = items fuel text := by
  rw [← items_skipBlanks, value, skipBlanks_cons rfl]
  dsimp only
  rw [if_neg (by decide), if_neg (by decide), if_neg (by decide), if_neg (by decide), if_pos rfl]
  split
  · next hr =>
    rw [hr] at h
    exact absurd rfl h
  · rfl

/-- A table is its entries, unless its brace closes at once. -/
theorem value_brace {text : List Char} (h : (skipBlanks text).head? ≠ some '\x7d') (fuel : Nat) :
    value (fuel + 1) ('\x7b' :: text) = entries fuel text := by
  rw [← entries_skipBlanks, value, skipBlanks_cons rfl]
  dsimp only
  rw [if_neg (by decide), if_neg (by decide), if_neg (by decide), if_neg (by decide),
    if_neg (by decide), if_pos rfl]
  split
  · next hr =>
    rw [hr] at h
    exact absurd rfl h
  · rfl

section Items

variable {fuel : Nat} {item : Data} {text rest : List Char}

theorem items_last (hvalue : value fuel text = (item, rest)) (hbreak : isBreak item = false)
    {tail : List Char} (hrest : skipBlanks rest = ']' :: tail) :
    items (fuel + 1) text = (.array [item], tail) := by
  rw [items, hvalue]
  dsimp only
  rw [if_neg (by simp [hbreak]), hrest]
  rfl

/-- An item with more of them behind it. -/
theorem items_next (hvalue : value fuel text = (item, rest)) (hbreak : isBreak item = false)
    {more : List Char} (hrest : skipBlanks rest = ',' :: more) :
    items (fuel + 1) text = consItem item (items fuel more) := by
  rw [items, hvalue]
  dsimp only
  rw [if_neg (by simp [hbreak]), hrest]
  rfl

theorem entries_encode (key text : List Char) :
    entries (fuel + 1) (encode key ++ text) = entry fuel (String.ofList key) text := by
  rw [encode_eq_cons, List.cons_append, entries, skipBlanks_cons rfl]
  split
  · next tail htail =>
    injection htail with _ htail
    rw [← htail, string_encode]
  · next hquote => exact absurd rfl (hquote _)

theorem entry_last (key : String) (hvalue : value fuel text = (item, rest))
    (hbreak : isBreak item = false) {tail : List Char} (hrest : skipBlanks rest = '\x7d' :: tail) :
    entry (fuel + 1) key (':' :: text) = (.table [(key, item)], tail) := by
  rw [entry, skipBlanks_cons rfl]
  show (if isBreak (value fuel text).1 = true then _ else _) = _
  rw [hvalue, if_neg (by simp [hbreak])]
  dsimp only
  rw [hrest]
  rfl

theorem entry_next (key : String) (hvalue : value fuel text = (item, rest))
    (hbreak : isBreak item = false) {more : List Char} (hrest : skipBlanks rest = ',' :: more) :
    entry (fuel + 1) key (':' :: text) = consEntry key item (entries fuel more) := by
  rw [entry, skipBlanks_cons rfl]
  show (if isBreak (value fuel text).1 = true then _ else _) = _
  rw [hvalue, if_neg (by simp [hbreak])]
  dsimp only
  rw [hrest]
  rfl

end Items

/-! ## Documents -/

/-- The data of a document goes on to its end. -/
theorem isBreak_data (doc : Doc) : isBreak doc.data = false := by
  cases doc <;> rfl

/-- A document begins with a token that closes nothing. -/
theorem write_eq_cons (level : Nat) (doc : Doc) :
    ∃ c t, write level doc = c :: t ∧ isBlank c = false ∧ c ≠ ']' := by
  cases doc with
  | text s => exact ⟨'"', _, by rw [write, encode_eq_cons], rfl, by decide⟩
  | flag b =>
    cases b
    · exact ⟨'f', _, rfl, rfl, by decide⟩
    · exact ⟨'t', _, rfl, rfl, by decide⟩
  | list items =>
    cases items
    · exact ⟨'[', _, rfl, rfl, by decide⟩
    · exact ⟨'[', _, rfl, rfl, by decide⟩
  | record fields =>
    cases fields
    · exact ⟨'\x7b', _, rfl, rfl, by decide⟩
    · exact ⟨'\x7b', _, rfl, rfl, by decide⟩

/-- Items after the first are the same behind a comma. -/
theorem writeItems_false (level : Nat) (item : Doc) (items : List Doc) :
    writeItems level false (item :: items) = ',' :: writeItems level true (item :: items) := by
  rw [writeItems, writeItems]
  rfl

theorem writeFields_false (level : Nat) (field : String × Doc) (fields : List (String × Doc)) :
    writeFields level false (field :: fields) = ',' :: writeFields level true (field :: fields) := by
  obtain ⟨name, doc⟩ := field
  rw [writeFields, writeFields]
  rfl

theorem writeItems_true (level : Nat) (item : Doc) (items : List Doc) (rest : List Char) :
    writeItems level true (item :: items) ++ rest
      = newline level ++ (write level item ++ (writeItems level false items ++ rest)) := by
  simp [writeItems]

theorem writeFields_true (level : Nat) (name : String) (doc : Doc)
    (fields : List (String × Doc)) (rest : List Char) :
    writeFields level true ((name, doc) :: fields) ++ rest
      = newline level ++ (encode name.toList
        ++ ':' :: ' ' :: (write level doc ++ (writeFields level false fields ++ rest))) := by
  simp [writeFields]

mutual

/-- **A written document is read back**, and what follows is left. -/
theorem value_write : ∀ (doc : Doc) (level fuel : Nat) (rest : List Char),
    2 * (write level doc).length ≤ fuel →
    value fuel (write level doc ++ rest) = (doc.data, rest)
  | .text s, level, fuel, rest, hfuel => by
    obtain ⟨fuel, rfl⟩ : ∃ n, fuel = n + 1 := Nat.exists_eq_succ_of_ne_zero (by
      rintro rfl
      exact absurd hfuel (by simp [write, encode_eq_cons]))
    rw [write, value_encode, String.ofList_toList]
    rfl
  | .flag b, level, fuel, rest, hfuel => by
    obtain ⟨fuel, rfl⟩ : ∃ n, fuel = n + 1 := Nat.exists_eq_succ_of_ne_zero (by
      rintro rfl
      cases b <;> exact absurd hfuel (by simp [write]))
    cases b <;> rfl
  | .list [], level, 0, rest, hfuel => absurd hfuel (by simp [write])
  | .list [], level, fuel + 1, rest, _ => rfl
  | .list (item :: items), level, 0, rest, hfuel => absurd hfuel (by simp [write])
  | .list (item :: items), level, fuel + 1, rest, hfuel => by
    have htext : write level (.list (item :: items)) ++ rest
        = '[' :: (writeItems (level + 1) true (item :: items)
          ++ (newline level ++ ']' :: rest)) := by
      simp [write]
    have hopen : (skipBlanks (writeItems (level + 1) true (item :: items)
        ++ (newline level ++ ']' :: rest))).head? ≠ some ']' := by
      obtain ⟨c, t, hct, hblank, hc⟩ := write_eq_cons (level + 1) item
      rw [writeItems_true, skipBlanks_newline, hct, List.cons_append, skipBlanks_cons hblank]
      simpa using hc
    have hclose : skipBlanks (newline level ++ ']' :: rest) = ']' :: rest := by
      rw [skipBlanks_newline, skipBlanks_cons rfl]
    have hlength : 2 * (writeItems (level + 1) true (item :: items)).length ≤ fuel := by
      simp only [write, List.isEmpty_cons, Bool.false_eq_true, if_false, List.cons_append,
        List.length_cons, List.length_append] at hfuel
      omega
    rw [htext, value_bracket hopen]
    exact items_write (item :: items) (List.cons_ne_nil _ _) _ fuel hclose hlength
  | .record [], level, 0, rest, hfuel => absurd hfuel (by simp [write])
  | .record [], level, fuel + 1, rest, _ => rfl
  | .record (field :: fields), level, 0, rest, hfuel => absurd hfuel (by simp [write])
  | .record (field :: fields), level, fuel + 1, rest, hfuel => by
    have htext : write level (.record (field :: fields)) ++ rest
        = '\x7b' :: (writeFields (level + 1) true (field :: fields)
          ++ (newline level ++ '\x7d' :: rest)) := by
      simp [write]
    have hopen : (skipBlanks (writeFields (level + 1) true (field :: fields)
        ++ (newline level ++ '\x7d' :: rest))).head? ≠ some '\x7d' := by
      obtain ⟨name, doc⟩ := field
      rw [writeFields_true, skipBlanks_newline, encode_eq_cons, List.cons_append,
        skipBlanks_cons rfl]
      simp
    have hclose : skipBlanks (newline level ++ '\x7d' :: rest) = '\x7d' :: rest := by
      rw [skipBlanks_newline, skipBlanks_cons rfl]
    have hlength : 2 * (writeFields (level + 1) true (field :: fields)).length ≤ fuel := by
      simp only [write, List.isEmpty_cons, Bool.false_eq_true, if_false, List.cons_append,
        List.length_cons, List.length_append] at hfuel
      omega
    rw [htext, value_brace hopen]
    exact entries_write (field :: fields) (List.cons_ne_nil _ _) _ fuel hclose hlength

/-- Written items are read back up to the bracket behind them. -/
theorem items_write : ∀ (docs : List Doc), docs ≠ [] →
    ∀ (level fuel : Nat) {closing rest : List Char}, skipBlanks closing = ']' :: rest →
    2 * (writeItems level true docs).length ≤ fuel →
    items fuel (writeItems level true docs ++ closing) = (.array (Doc.listData docs), rest)
  | [], hne, _, _, _, _, _, _ => absurd rfl hne
  | doc :: docs, _, level, fuel, closing, rest, hclose, hfuel => by
    have hlength : 1 + (write level doc).length + (writeItems level false docs).length
        ≤ (writeItems level true (doc :: docs)).length := by
      simp only [writeItems, if_true, newline, List.length_append, List.length_cons]
      omega
    obtain ⟨fuel, rfl⟩ : ∃ n, fuel = n + 1 := Nat.exists_eq_succ_of_ne_zero (by omega)
    have hvalue := value_write doc level fuel (writeItems level false docs ++ closing) (by omega)
    rw [writeItems_true, items_newline]
    cases docs with
    | nil => exact items_last hvalue (isBreak_data doc) hclose
    | cons next docs =>
      rw [writeItems_false, List.cons_append] at hvalue ⊢
      rw [writeItems_false, List.length_cons] at hlength
      rw [items_next hvalue (isBreak_data doc) (skipBlanks_cons rfl _),
        items_write (next :: docs) (List.cons_ne_nil _ _) level fuel hclose (by omega)]
      rfl

/-- Written fields are read back up to the brace behind them. -/
theorem entries_write : ∀ (fields : List (String × Doc)), fields ≠ [] →
    ∀ (level fuel : Nat) {closing rest : List Char}, skipBlanks closing = '\x7d' :: rest →
    2 * (writeFields level true fields).length ≤ fuel →
    entries fuel (writeFields level true fields ++ closing)
      = (.table (Doc.recordData fields), rest)
  | [], hne, _, _, _, _, _, _ => absurd rfl hne
  | (name, doc) :: fields, _, level, fuel, closing, rest, hclose, hfuel => by
    have hlength : 3 + (write level doc).length + (writeFields level false fields).length
        ≤ (writeFields level true ((name, doc) :: fields)).length := by
      simp only [writeFields, if_true, newline, List.length_append, List.length_cons]
      omega
    obtain ⟨fuel, rfl⟩ : ∃ n, fuel = n + 2 := ⟨fuel - 2, by omega⟩
    -- the blank behind the colon is passed over
    have hvalue : value fuel (' ' :: (write level doc ++ (writeFields level false fields ++ closing)))
        = (doc.data, writeFields level false fields ++ closing) := by
      rw [← value_skipBlanks]
      show value fuel (skipBlanks (write level doc ++ _)) = _
      rw [value_skipBlanks]
      exact value_write doc level fuel _ (by omega)
    rw [writeFields_true, entries_newline, entries_encode, String.ofList_toList]
    cases fields with
    | nil => exact entry_last name hvalue (isBreak_data doc) hclose
    | cons next fields =>
      rw [writeFields_false, List.cons_append] at hvalue ⊢
      rw [writeFields_false, List.length_cons] at hlength
      rw [entry_next name hvalue (isBreak_data doc) (skipBlanks_cons rfl _),
        entries_write (next :: fields) (List.cons_ne_nil _ _) level fuel hclose (by omega)]
      rfl

end

/-- **A text that is a written document is that document**, at whatever
level it is written. -/
theorem parse_write (level : Nat) (doc : Doc) :
    parse (String.ofList (write level doc)) = (doc.data, true) := by
  have hread := value_write doc level (2 * (write level doc).length + 2) [] (by omega)
  rw [List.append_nil] at hread
  unfold parse
  rw [String.toList_ofList]
  dsimp only
  rw [hread]
  rfl

end DocSite.Json
