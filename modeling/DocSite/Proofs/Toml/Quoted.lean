import Mathlib.Tactic.Common
import DocSite.Toml.Quoted

/-!
# A written string is read back

`encode` picks one of four forms for a string and `string?` tells the
forms apart by their opening quotes. This module proves that the choice
is never a wrong one: `string?_encode` reads every string back, whatever
is in it, and leaves what follows alone.

What follows matters only in one respect. The closing quotes of a form
with tripled quotes may be preceded by quotes that belong to the string,
so the reader goes on as long as it sees quotes; a quote directly behind
the string would be taken for one of its own.

The two basic forms are read by automata, and each has one lemma that
says what the automaton does with a character as it is written
(`basicBody_escaped`, `basicBlock_escaped`); the strings then go by
induction. In a block the state carries the quotes read so far, so the
induction is over all runs at once (`basicBlock_writeBasic`).
-/

namespace DocSite.Toml

open DocSite.Unicode (hexDigit?)

/-- Puts characters in front of what has been read. -/
def prepend (read : List Char) (p : List Char × List Char) : List Char × List Char :=
  (read ++ p.1, p.2)

/-! ## Characters -/

theorem isText_of_not_needsEscape {c : Char} (h : needsEscape c = false) (hn : c ≠ '\n') :
    isText c = true := by
  simp only [needsEscape, Bool.or_eq_false_iff, Bool.and_eq_false_iff, decide_eq_false_iff_not,
    bne_eq_false_iff_eq, beq_eq_false_iff_ne, ne_eq] at h
  simp only [isText, Bool.or_eq_true, beq_iff_eq, Bool.and_eq_true, decide_eq_true_eq,
    bne_iff_ne, ne_eq]
  rcases h with ⟨(hc | hc) | hc, hd⟩
  · exact Or.inr ⟨Nat.le_of_not_lt hc, hd⟩
  · exact Or.inl hc
  · exact absurd hc hn

/-- **The two kinds of escapes**: one letter behind a backslash, or the
code point in four digits. -/
theorem escaped?_eq_some {block : Bool} {c : Char} {e : List Char}
    (h : escaped? block c = some e) :
    (∃ l, e = ['\\', l] ∧ simpleEscape? l = some c)
      ∨ (c.toNat < 128 ∧ e = '\\' :: 'u' :: fourDigits c.toNat) := by
  unfold escaped? at h
  split at h
  · next hc => exact Or.inl ⟨'b', (Option.some.inj h).symm, by rw [hc]; rfl⟩
  split at h
  · next hc => exact Or.inl ⟨'t', (Option.some.inj h).symm, by rw [hc]; rfl⟩
  split at h
  · next hc =>
    split at h
    · exact absurd h (by simp)
    · exact Or.inl ⟨'n', (Option.some.inj h).symm, by rw [hc]; rfl⟩
  split at h
  · next hc => exact Or.inl ⟨'f', (Option.some.inj h).symm, by rw [hc]; rfl⟩
  split at h
  · next hc => exact Or.inl ⟨'r', (Option.some.inj h).symm, by rw [hc]; rfl⟩
  split at h
  · next hc => exact Or.inl ⟨'\\', (Option.some.inj h).symm, by rw [hc]; rfl⟩
  split at h
  · next hc =>
    simp only [Bool.or_eq_true, decide_eq_true_eq, beq_iff_eq] at hc
    exact Or.inr ⟨by omega, (Option.some.inj h).symm⟩
  · exact absurd h (by simp)

/-- A character without an escape, but for quotes and line feeds, is
plain: a basic string shows it as itself. -/
theorem isPlain_of_escaped?_eq_none {block : Bool} {c : Char} (h : escaped? block c = none)
    (hq : c ≠ '"') (hn : c ≠ '\n') : isPlain c = true := by
  have hb : c ≠ '\\' := by
    rintro rfl
    exact absurd h (by cases block <;> decide)
  have hc : ¬(c.toNat < 0x20 ∨ c.toNat = 0x7F) ∨ c = '\t' := by
    by_contra hc
    obtain ⟨hc, ht⟩ := not_or.mp hc
    unfold escaped? at h
    simp [hn, hb, ht, not_not.mp hc] at h
    split_ifs at h
  simp only [isPlain, isText, Bool.and_eq_true, Bool.or_eq_true, decide_eq_true_eq, beq_iff_eq,
    bne_iff_ne, ne_eq]
  refine ⟨⟨?_, hq⟩, hb⟩
  rcases hc with hc | ht
  · exact Or.inr ⟨by omega, fun h' => hc (Or.inr h')⟩
  · exact Or.inl ht

/-- A carriage return has an escape in every form. -/
theorem ne_return_of_escaped?_eq_none {block : Bool} {c : Char} (h : escaped? block c = none) :
    c ≠ '\r' := by
  rintro rfl
  exact absurd h (by cases block <;> decide)

/-- The letter of an escape is none of the characters that mean something
else behind a backslash. -/
theorem ne_of_simpleEscape?_eq_some {l c : Char} (h : simpleEscape? l = some c) :
    l ≠ 'u' ∧ l ≠ 'U' ∧ isBlank l = false ∧ l ≠ '\n' ∧ l ≠ '\r' := by
  refine ⟨?_, ?_, ?_, ?_, ?_⟩
  · rintro rfl; simp [simpleEscape?] at h
  · rintro rfl; simp [simpleEscape?] at h
  · by_contra hb
    simp only [isBlank, Bool.not_eq_false, Bool.or_eq_true, beq_iff_eq] at hb
    rcases hb with rfl | rfl <;> simp [simpleEscape?] at h
  · rintro rfl; simp [simpleEscape?] at h
  · rintro rfl; simp [simpleEscape?] at h

theorem scalar?_toNat (c : Char) : scalar? c.toNat = some c := by
  have hv : c.toNat.isValidChar := c.valid
  unfold scalar?
  rw [dif_pos hv]
  rfl

theorem fourDigits_eq : ∀ n < 128, fourDigits n
    = ['0', '0', (Nat.digitChar (n / 16)).toUpper, (Nat.digitChar (n % 16)).toUpper] := by
  decide

theorem hexDigit?_digitChar : ∀ d < 16, hexDigit? (Nat.digitChar d).toUpper = some d := by
  decide

/-! ## Basic strings -/

/-- Four digits are read back as the character they stand for. -/
theorem basicBody_fourDigits {c : Char} (h : c.toNat < 128) (rest : List Char) :
    basicBody (.digits 4 0) (fourDigits c.toNat ++ rest)
      = (basicBody .none rest).map (prepend [c]) := by
  rw [fourDigits_eq _ h]
  have h₁ := hexDigit?_digitChar (c.toNat / 16) (by omega)
  have h₂ := hexDigit?_digitChar (c.toNat % 16) (by omega)
  have h₀ : hexDigit? '0' = some 0 := by decide
  have hc : 16 * (c.toNat / 16) + c.toNat % 16 = c.toNat := by omega
  simp only [List.cons_append, List.nil_append, basicBody, h₀, h₁, h₂]
  simp only [Nat.reduceLeDiff, if_false, Nat.reduceSub, Nat.mul_zero, Nat.zero_add, Nat.le_refl,
    if_true, hc, scalar?_toNat]
  rfl

/-- **An escape is read back as its character.** -/
theorem basicBody_escaped {c : Char} {e : List Char} (h : escaped? false c = some e)
    (rest : List Char) :
    basicBody .none (e ++ rest) = (basicBody .none rest).map (prepend [c]) := by
  rcases escaped?_eq_some h with ⟨l, rfl, hl⟩ | ⟨hc, rfl⟩
  · obtain ⟨hu, hU, -⟩ := ne_of_simpleEscape?_eq_some hl
    show basicBody .begun (l :: rest) = _
    rw [basicBody, if_neg hu, if_neg hU, hl]
    rfl
  · exact basicBody_fourDigits hc rest

theorem basicBody_plain {c : Char} (h : isPlain c = true) (rest : List Char) :
    basicBody .none (c :: rest) = (basicBody .none rest).map (prepend [c]) := by
  have hc := h
  simp only [isPlain, Bool.and_eq_true, bne_iff_ne, ne_eq] at hc
  rw [basicBody, if_neg hc.1.2, if_neg hc.2, if_pos h]
  rfl

/-- **The inside of a basic string is read back.** -/
theorem basicBody_writeBasic (s : List Char) (rest : List Char) (quotes : Nat) :
    basicBody .none (writeBasic false quotes s ++ '"' :: rest) = some (s, rest) := by
  induction s generalizing quotes with
  | nil => rfl
  | cons c s ih =>
    rw [writeBasic]
    by_cases hq : c = '"'
    · rw [if_pos hq]
      show (basicBody .none (writeBasic false 0 s ++ '"' :: rest)).map (prepend ['"']) = _
      rw [ih, hq]
      rfl
    · rw [if_neg hq]
      cases he : escaped? false c with
      | some e =>
        rw [List.append_assoc, basicBody_escaped he, ih]
        rfl
      | none =>
        have hn : c ≠ '\n' := by
          rintro rfl
          exact absurd he (by decide)
        rw [List.cons_append, basicBody_plain (isPlain_of_escaped?_eq_none he hq hn), ih]
        rfl

/-! ## Literal strings -/

/-- The inside of a literal string is read back. -/
theorem literalBody_append {s : List Char} (h : ∀ c ∈ s, isText c = true ∧ c ≠ '\'')
    (rest : List Char) : literalBody (s ++ '\'' :: rest) = some (s, rest) := by
  induction s with
  | nil => rfl
  | cons c s ih =>
    obtain ⟨ht, hq⟩ := h c List.mem_cons_self
    rw [List.cons_append, literalBody, if_neg hq, if_pos ht,
      ih (fun d hd => h d (List.mem_cons_of_mem _ hd))]
    rfl

/-! ## Blocks -/

/-- What a block is in the middle of behind a run of quotes. -/
def Block.afterQuotes (count : Nat) : Block :=
  if count = 0 then .none else .quotes count

/-- A block goes on at a character other than a carriage return. -/
theorem basicBlock_none_cons {c : Char} (hr : c ≠ '\r') (rest : List Char) :
    basicBlock .none (c :: rest)
      = if c = '"' then basicBlock (.quotes 1) rest
        else if c = '\\' then basicBlock .begun rest
        else if isPlain c = true ∨ c = '\n' then (basicBlock .none rest).map (prepend [c])
        else none := by
  by_cases hn : c = '\n'
  · subst hn
    rw [basicBlock.eq_def, if_neg (by decide), if_neg (by decide), if_pos (Or.inr rfl)]
    rfl
  · rw [basicBlock.eq_5 c rest hn (fun _ h' _ => hr h')]
    simp only [hn, or_false]
    rfl

/-- A backslash goes on at a character that ends no line. -/
theorem basicBlock_begun_cons {c : Char} (hb : isBlank c = false) (hn : c ≠ '\n') (hr : c ≠ '\r')
    (rest : List Char) :
    basicBlock .begun (c :: rest)
      = if c = 'u' then basicBlock (.digits 4 0) rest
        else if c = 'U' then basicBlock (.digits 8 0) rest
        else (simpleEscape? c).bind fun e => (basicBlock .none rest).map (prepend [e]) := by
  rw [basicBlock.eq_def]
  simp only [hb, Bool.false_eq_true, if_false, if_neg hn, if_neg hr]
  cases simpleEscape? c <;> rfl

/-- **A run of quotes goes on** at a further quote, closes the block from
three quotes on, and belongs to the string otherwise: then the block goes
on as if it were behind no quotes, with the run in front of what it
reads. -/
theorem basicBlock_quotes_cons {count : Nat} {c : Char} (hr : count < 3 → c ≠ '\r')
    (rest : List Char) :
    basicBlock (.quotes count) (c :: rest)
      = if c = '"' then
          if count = 4 then some (['"', '"'], rest) else basicBlock (.quotes (count + 1)) rest
        else if 3 ≤ count then some (List.replicate (count - 3) '"', c :: rest)
        else (basicBlock .none (c :: rest)).map (prepend (List.replicate count '"')) := by
  rw [basicBlock.eq_def]
  show (if c = '"' then _ else if 3 ≤ count then _ else _) = _
  by_cases hq : c = '"'
  · rw [if_pos hq, if_pos hq]
  · rw [if_neg hq, if_neg hq]
    by_cases h3 : 3 ≤ count
    · rw [if_pos h3, if_pos h3]
    · have hr' := hr (Nat.lt_of_not_le h3)
      rw [if_neg h3, if_neg h3, basicBlock_none_cons hr', if_neg hq]
      by_cases hn : c = '\n'
      · subst hn
        rw [if_pos rfl, if_neg (by decide), if_pos (Or.inr rfl), Option.map_map]
        rfl
      · rw [if_neg hn, if_neg hr']
        by_cases hb : c = '\\'
        · rw [if_pos hb, if_pos hb]
          rfl
        · simp only [if_neg hb, hn, or_false]
          split
          · rw [Option.map_map]
            rfl
          · rfl

theorem basicBlock_fourDigits {c : Char} (h : c.toNat < 128) (rest : List Char) :
    basicBlock (.digits 4 0) (fourDigits c.toNat ++ rest)
      = (basicBlock .none rest).map (prepend [c]) := by
  rw [fourDigits_eq _ h]
  have h₁ := hexDigit?_digitChar (c.toNat / 16) (by omega)
  have h₂ := hexDigit?_digitChar (c.toNat % 16) (by omega)
  have h₀ : hexDigit? '0' = some 0 := by decide
  have hc : 16 * (c.toNat / 16) + c.toNat % 16 = c.toNat := by omega
  simp only [List.cons_append, List.nil_append, basicBlock, h₀, h₁, h₂]
  simp only [Nat.reduceLeDiff, if_false, Nat.reduceSub, Nat.mul_zero, Nat.zero_add, Nat.le_refl,
    if_true, hc, scalar?_toNat]
  rfl

theorem basicBlock_backslash (rest : List Char) :
    basicBlock .none ('\\' :: rest) = basicBlock .begun rest := by
  rw [basicBlock_none_cons (by decide), if_neg (by decide), if_pos rfl]

/-- **An escape is read back as its character**, in a block. -/
theorem basicBlock_escaped {c : Char} {e : List Char} (h : escaped? true c = some e)
    (rest : List Char) :
    basicBlock .none (e ++ rest) = (basicBlock .none rest).map (prepend [c]) := by
  rcases escaped?_eq_some h with ⟨l, rfl, hl⟩ | ⟨hc, rfl⟩
  · obtain ⟨hu, hU, hb, hn, hr⟩ := ne_of_simpleEscape?_eq_some hl
    show basicBlock .none ('\\' :: l :: rest) = _
    rw [basicBlock_backslash, basicBlock_begun_cons hb hn hr, if_neg hu, if_neg hU, hl,
      Option.bind_some]
  · show basicBlock .none ('\\' :: 'u' :: (fourDigits c.toNat ++ rest)) = _
    rw [basicBlock_backslash, ← basicBlock_fourDigits hc,
      basicBlock_begun_cons (by decide) (by decide) (by decide), if_pos rfl]

theorem basicBlock_plain {c : Char} (h : isPlain c = true ∨ c = '\n') (hr : c ≠ '\r')
    (rest : List Char) :
    basicBlock .none (c :: rest) = (basicBlock .none rest).map (prepend [c]) := by
  have hc : c ≠ '"' ∧ c ≠ '\\' := by
    rcases h with h | rfl
    · simp only [isPlain, Bool.and_eq_true, bne_iff_ne, ne_eq] at h
      exact ⟨h.1.2, h.2⟩
    · decide
  rw [basicBlock_none_cons hr, if_neg hc.1, if_neg hc.2, if_pos h]

/-- **A run of fewer than three quotes belongs to the string** at any
other character. -/
theorem basicBlock_afterQuotes {count : Nat} (hcount : count ≤ 2) {c : Char}
    (hq : c ≠ '"') (hr : c ≠ '\r') (rest : List Char) :
    basicBlock (.afterQuotes count) (c :: rest)
      = (basicBlock .none (c :: rest)).map (prepend (List.replicate count '"')) := by
  by_cases h0 : count = 0
  · subst h0
    show basicBlock .none (c :: rest) = _
    cases basicBlock .none (c :: rest) <;> rfl
  · rw [Block.afterQuotes, if_neg h0, basicBlock_quotes_cons (fun _ => hr), if_neg hq,
      if_neg (by omega)]

/-- One more quote in a run of fewer than five. -/
theorem basicBlock_quotes_quote {count : Nat} (hcount : count ≠ 4) (rest : List Char) :
    basicBlock (.quotes count) ('"' :: rest) = basicBlock (.quotes (count + 1)) rest := by
  rw [basicBlock_quotes_cons (fun _ => by decide), if_pos rfl, if_neg hcount]

theorem basicBlock_afterQuotes_quote {count : Nat} (hcount : count ≤ 2) (rest : List Char) :
    basicBlock (.afterQuotes count) ('"' :: rest) = basicBlock (.quotes (count + 1)) rest := by
  by_cases h0 : count = 0
  · subst h0
    rw [Block.afterQuotes, if_pos rfl, basicBlock_none_cons (by decide), if_pos rfl]
  · rw [Block.afterQuotes, if_neg h0, basicBlock_quotes_quote (by omega)]

/-- A run of three quotes or more ends the block, all but the last three
quotes being part of the string. -/
theorem basicBlock_quotes_end (count : Nat) {rest : List Char} (h : rest.head? ≠ some '"') :
    basicBlock (.quotes (count + 3)) rest = some (List.replicate count '"', rest) := by
  cases rest with
  | nil =>
    show (if 3 ≤ count + 3 then _ else _) = _
    rw [if_pos (by omega), Nat.add_sub_cancel]
  | cons c rest =>
    have hc : c ≠ '"' := fun hc => h (by rw [hc]; rfl)
    rw [basicBlock_quotes_cons (fun hlt => absurd hlt (by omega)), if_neg hc, if_pos (by omega),
      Nat.add_sub_cancel]

/-- **The closing quotes end a block**, the quotes directly before them
being the last characters of the string. -/
theorem basicBlock_closing {count : Nat} (hcount : count ≤ 2) {rest : List Char}
    (h : rest.head? ≠ some '"') :
    basicBlock (.afterQuotes count) ('"' :: '"' :: '"' :: rest)
      = some (List.replicate count '"', rest) := by
  rw [basicBlock_afterQuotes_quote hcount, basicBlock_quotes_quote (by omega)]
  by_cases h2 : count = 2
  · -- the fifth quote of a run ends the block at once
    subst h2
    rw [basicBlock_quotes_cons (fun _ => by decide), if_pos rfl, if_pos rfl]
    rfl
  · rw [basicBlock_quotes_quote (by omega)]
    exact basicBlock_quotes_end count h

/-- **The inside of a block is read back**, behind any run of quotes that
does not close it. -/
theorem basicBlock_writeBasic (s : List Char) {rest : List Char} (h : rest.head? ≠ some '"')
    {count : Nat} (hcount : count ≤ 2) :
    basicBlock (.afterQuotes count) (writeBasic true count s ++ '"' :: '"' :: '"' :: rest)
      = some (List.replicate count '"' ++ s, rest) := by
  induction s generalizing count with
  | nil =>
    rw [writeBasic, List.nil_append, List.append_nil]
    exact basicBlock_closing hcount h
  | cons c s ih =>
    have ih₀ : basicBlock .none (writeBasic true 0 s ++ '"' :: '"' :: '"' :: rest)
        = some (s, rest) := ih (Nat.zero_le 2)
    rw [writeBasic]
    by_cases hq : c = '"'
    · subst hq
      rw [if_pos rfl]
      by_cases h2 : count < 2
      · -- the quote joins the run
        have hrun := @ih (count + 1) (by omega)
        rw [Block.afterQuotes, if_neg (by omega)] at hrun
        rw [if_pos (by simpa using h2), List.cons_append, basicBlock_afterQuotes_quote hcount,
          hrun, List.replicate_succ', List.append_assoc]
        rfl
      · -- the third quote of a run is escaped
        have hescape : ∀ t, basicBlock .begun ('"' :: t) = (basicBlock .none t).map (prepend ['"']) :=
          fun t => by rw [basicBlock_begun_cons (by decide) (by decide) (by decide)]; rfl
        rw [if_neg (by simpa using h2), List.cons_append, List.cons_append,
          basicBlock_afterQuotes hcount (by decide) (by decide), basicBlock_backslash, hescape, ih₀]
        rfl
    · rw [if_neg hq]
      cases he : escaped? true c with
      | some e =>
        obtain ⟨e', rfl⟩ : ∃ e', e = '\\' :: e' := by
          rcases escaped?_eq_some he with ⟨l, rfl, -⟩ | ⟨-, rfl⟩
          · exact ⟨[l], rfl⟩
          · exact ⟨'u' :: fourDigits c.toNat, rfl⟩
        show basicBlock (.afterQuotes count) ('\\' :: (e' ++ writeBasic true 0 s ++ _)) = _
        rw [basicBlock_afterQuotes hcount (by decide) (by decide)]
        have hread := basicBlock_escaped he (writeBasic true 0 s ++ '"' :: '"' :: '"' :: rest)
        rw [ih₀] at hread
        rw [List.append_assoc]
        show (basicBlock .none (('\\' :: e') ++ _)).map _ = _
        rw [hread]
        rfl
      | none =>
        have hr := ne_return_of_escaped?_eq_none he
        have hc : isPlain c = true ∨ c = '\n' :=
          or_iff_not_imp_right.mpr (isPlain_of_escaped?_eq_none he hq)
        show basicBlock (.afterQuotes count) (c :: (writeBasic true 0 s ++ _)) = _
        rw [basicBlock_afterQuotes hcount hq hr, basicBlock_plain hc hr, ih₀]
        rfl

/-! ## Literal blocks -/

/-- A run of quotes is no longer than the longest one. -/
theorem le_longestRun (quote : Char) (count : Nat) (s : List Char) :
    count ≤ longestRun quote count s := by
  induction s generalizing count with
  | nil => exact Nat.le_refl count
  | cons c s ih =>
    rw [longestRun]
    split
    · exact Nat.le_of_succ_le (ih (count + 1))
    · exact Nat.le_max_left _ _

theorem notMem_of_longestRun_eq_zero {quote : Char} {s : List Char}
    (h : longestRun quote 0 s = 0) : quote ∉ s := by
  induction s with
  | nil => exact List.not_mem_nil
  | cons c s ih =>
    rw [longestRun] at h
    split at h
    · exact absurd h (Nat.ne_of_gt (le_longestRun quote 1 s))
    · next hc =>
      rw [Nat.zero_max] at h
      exact fun hmem => (List.mem_cons.mp hmem).elim (fun hq => hc hq.symm) (ih h)

/-- **A block of literal text goes on**: at a further quote, from three
quotes on to its end, and else at a character of the string. -/
theorem literalBlock_cons {count : Nat} {c : Char} (hr : count < 3 → c ≠ '\r')
    (rest : List Char) :
    literalBlock count (c :: rest)
      = if c = '\'' then
          if count = 4 then some (['\'', '\''], rest) else literalBlock (count + 1) rest
        else if 3 ≤ count then some (List.replicate (count - 3) '\'', c :: rest)
        else if isText c = true ∨ c = '\n' then
          (literalBlock 0 rest).map (prepend (List.replicate count '\'' ++ [c]))
        else none := by
  have hp : ∀ p : List Char × List Char,
      prepend (List.replicate count '\'' ++ [c]) p = (List.replicate count '\'' ++ c :: p.1, p.2) :=
    fun p => by rw [prepend, List.append_assoc]; rfl
  rw [funext hp, literalBlock.eq_def]
  show (if c = '\'' then _ else if 3 ≤ count then _ else _) = _
  by_cases hq : c = '\''
  · rw [if_pos hq, if_pos hq]
  · rw [if_neg hq, if_neg hq]
    by_cases h3 : 3 ≤ count
    · rw [if_pos h3, if_pos h3]
    · rw [if_neg h3, if_neg h3]
      by_cases hn : c = '\n'
      · subst hn
        rw [if_pos (Or.inr rfl)]
        rfl
      · show (if c = '\n' then _ else if c = '\r' then _ else _) = _
        rw [if_neg hn, if_neg (hr (Nat.lt_of_not_le h3))]
        simp only [hn, or_false]

theorem literalBlock_quote {count : Nat} (hcount : count ≠ 4) (rest : List Char) :
    literalBlock count ('\'' :: rest) = literalBlock (count + 1) rest := by
  rw [literalBlock_cons (fun _ => by decide), if_pos rfl, if_neg hcount]

/-- A run of three quotes or more ends the block, all but the last three
quotes being part of the string. -/
theorem literalBlock_end (count : Nat) {rest : List Char} (h : rest.head? ≠ some '\'') :
    literalBlock (count + 3) rest = some (List.replicate count '\'', rest) := by
  cases rest with
  | nil =>
    show (if 3 ≤ count + 3 then _ else _) = _
    rw [if_pos (by omega), Nat.add_sub_cancel]
  | cons c rest =>
    have hc : c ≠ '\'' := fun hc => h (by rw [hc]; rfl)
    rw [literalBlock_cons (fun hlt => absurd hlt (by omega)), if_neg hc, if_pos (by omega),
      Nat.add_sub_cancel]

/-- The closing quotes end a block, the quotes directly before them being
the last characters of the string. -/
theorem literalBlock_closing {count : Nat} (hcount : count ≤ 2) {rest : List Char}
    (h : rest.head? ≠ some '\'') :
    literalBlock count ('\'' :: '\'' :: '\'' :: rest)
      = some (List.replicate count '\'', rest) := by
  rw [literalBlock_quote (by omega), literalBlock_quote (by omega)]
  by_cases h2 : count = 2
  · -- the fifth quote of a run ends the block at once
    subst h2
    rw [literalBlock_cons (fun _ => by decide), if_pos rfl, if_pos rfl]
    rfl
  · rw [literalBlock_quote (by omega)]
    exact literalBlock_end count h

/-- A character other than a quote or a carriage return is read back as
itself, behind a run of quotes that belongs to the string. -/
theorem literalBlock_text {count : Nat} (hcount : count ≤ 2) {c : Char}
    (ht : isText c = true ∨ c = '\n') (hq : c ≠ '\'') (hr : c ≠ '\r') (rest : List Char) :
    literalBlock count (c :: rest)
      = (literalBlock 0 rest).map (prepend (List.replicate count '\'' ++ [c])) := by
  rw [literalBlock_cons (fun _ => hr), if_neg hq, if_neg (by omega), if_pos ht]

/-- **A text without a run of more than two quotes is read back** from
between tripled quotes. -/
theorem literalBlock_append {s : List Char} (ht : ∀ c ∈ s, isText c = true ∨ c = '\n')
    (hr : '\r' ∉ s) {rest : List Char} (h : rest.head? ≠ some '\'') {count : Nat}
    (hrun : longestRun '\'' count s ≤ 2) :
    literalBlock count (s ++ '\'' :: '\'' :: '\'' :: rest)
      = some (List.replicate count '\'' ++ s, rest) := by
  have hcount : count ≤ 2 := Nat.le_trans (le_longestRun _ _ _) hrun
  induction s generalizing count with
  | nil =>
    rw [List.nil_append, List.append_nil]
    exact literalBlock_closing hcount h
  | cons c s ih =>
    have ih' := @ih (fun d hd => ht d (List.mem_cons_of_mem _ hd))
      (fun hs => hr (List.mem_cons_of_mem _ hs))
    rw [longestRun] at hrun
    rw [List.cons_append]
    by_cases hq : c = '\''
    · subst hq
      rw [if_pos rfl] at hrun
      have hcount' := Nat.le_trans (le_longestRun _ _ _) hrun
      rw [literalBlock_quote (by omega), ih' hrun hcount', List.replicate_succ', List.append_assoc]
      rfl
    · rw [if_neg hq] at hrun
      have hc : c ≠ '\r' := fun hc => hr (by rw [hc]; exact List.mem_cons_self)
      rw [literalBlock_text hcount (ht c List.mem_cons_self) hq hc,
        ih' (Nat.le_trans (Nat.le_max_right _ _) hrun) (Nat.zero_le 2)]
      simp [prepend]

/-! ## The four forms -/

/-- A text that begins with no line end is left as it is. -/
theorem dropNewline_of_head? {text : List Char} (hn : text.head? ≠ some '\n')
    (hr : text.head? ≠ some '\r') : dropNewline text = text := by
  unfold dropNewline newline?
  split
  · exact absurd rfl hn
  · exact absurd rfl hr
  · rfl

/-- **The conditions under which a form holds a string.** The basic forms
hold every string; the literal ones hold text without quotes, or without
a run of three. -/
def Form.Holds (s : List Char) : Form → Prop
  | .basic => True
  | .basicBlock => True
  | .literal => s ≠ [] ∧ (∀ c ∈ s, isText c = true) ∧ '\'' ∉ s
  | .literalBlock =>
    (∀ c ∈ s, isText c = true ∨ c = '\n') ∧ '\r' ∉ s ∧ longestRun '\'' 0 s ≤ 2

/-- **The form chosen for a string holds it.** -/
theorem form_holds (s : List Char) : (form s).Holds s := by
  have htext : s.any needsEscape = false → ∀ c ∈ s, c ≠ '\n' → isText c = true := by
    intro h c hc hn
    rw [List.any_eq_false] at h
    exact isText_of_not_needsEscape (by simpa using h c hc) hn
  unfold form
  dsimp only
  split_ifs with h₁ h₂ h₃ h₄ h₅
  · trivial
  · simp only [Bool.and_eq_true, Bool.not_eq_true', beq_iff_eq] at h₂
    obtain ⟨⟨he, hs⟩, hn⟩ := h₂
    have hmem : ∀ c ∈ s, c ≠ '\n' := by
      rintro c hc rfl
      exact Bool.false_ne_true (hn.symm.trans (List.contains_iff_mem.mpr hc))
    refine ⟨?_, fun c hc => htext he c hc (hmem c hc), notMem_of_longestRun_eq_zero hs⟩
    rintro rfl
    exact h₁ (by decide)
  · trivial
  · simp only [Bool.and_eq_true, Bool.not_eq_true', decide_eq_true_eq] at h₄
    obtain ⟨he, hs⟩ := h₄
    refine ⟨fun c hc => or_iff_not_imp_right.mpr (htext he c hc), fun hr => ?_, hs⟩
    rw [List.any_eq_false] at he
    exact he '\r' hr (by decide)
  · trivial
  · trivial

/-- The inside of a block begins with a line end only if the string
does. -/
theorem head?_writeBasic {s : List Char} (hn : '\n' ∉ s) (tail : List Char) :
    (writeBasic true 0 s ++ '"' :: tail).head? ≠ some '\n'
      ∧ (writeBasic true 0 s ++ '"' :: tail).head? ≠ some '\r' := by
  cases s with
  | nil => exact ⟨by simp [writeBasic], by simp [writeBasic]⟩
  | cons c s =>
    rw [writeBasic]
    by_cases hq : c = '"'
    · rw [if_pos hq]
      exact ⟨by simp, by simp⟩
    · rw [if_neg hq]
      cases he : escaped? true c with
      | some e =>
        rcases escaped?_eq_some he with ⟨l, rfl, -⟩ | ⟨-, rfl⟩ <;> exact ⟨by simp, by simp⟩
      | none =>
        have hc : c ≠ '\n' := fun hc => hn (by rw [hc]; exact List.mem_cons_self)
        exact ⟨by simpa using hc, by simpa using ne_return_of_escaped?_eq_none he⟩

/-- **A basic string is read back as a key**, which stays on its line. -/
theorem lineString?_encodeAs_basic (s rest : List Char) :
    lineString? (encodeAs .basic s ++ rest) = some (s, rest) := by
  show basicBody .none ((writeBasic false 0 s ++ ['"']) ++ rest) = _
  rw [List.append_assoc]
  exact basicBody_writeBasic s rest 0

/-- The opening of a block is passed over, with the line end behind it. -/
theorem dropNewline_opening {s inside : List Char}
    (h : '\n' ∉ s → inside.head? ≠ some '\n' ∧ inside.head? ≠ some '\r') :
    dropNewline ((if s.contains '\n' then ['\n'] else []) ++ inside) = inside := by
  by_cases hn : '\n' ∈ s
  · rw [if_pos (List.contains_iff_mem.mpr hn)]
    rfl
  · rw [if_neg (fun h' => hn (List.contains_iff_mem.mp h')), List.nil_append]
    exact dropNewline_of_head? (h hn).1 (h hn).2

/-- A string between quotes is not taken for one between three, unless it
is empty. -/
theorem encodeAs_basic_ne {s : List Char} {rest : List Char} (hd : rest.head? ≠ some '"')
    (t : List Char) : encodeAs .basic s ++ rest ≠ '"' :: '"' :: '"' :: t := by
  intro ht
  cases s with
  | nil =>
    -- two quotes stand there, and the third would be what follows
    have hrest : rest = '"' :: t := by injection ht with _ ht; injection ht
    exact hd (by rw [hrest]; rfl)
  | cons c s =>
    have ht' : writeBasic false 0 (c :: s) ++ ['"'] ++ rest = '"' :: '"' :: t := by injection ht
    rw [writeBasic] at ht'
    by_cases hq : c = '"'
    · -- a quote in the string has a backslash before it
      rw [if_pos hq] at ht'
      exact absurd ht' (by simp)
    · rw [if_neg hq] at ht'
      cases he : escaped? false c with
      | some e =>
        rw [he] at ht'
        rcases escaped?_eq_some he with ⟨l, rfl, -⟩ | ⟨-, rfl⟩ <;> exact absurd ht' (by simp)
      | none =>
        rw [he] at ht'
        exact hq (by injection ht')

theorem string?_encodeAs_literal {s : List Char} (hf : Form.Holds s .literal) (rest : List Char) :
    string? (encodeAs .literal s ++ rest) = some (s, rest) := by
  obtain ⟨hne, ht, hq⟩ := hf
  have hread := literalBody_append (fun c hc => ⟨ht c hc, fun h => hq (h ▸ hc)⟩) rest
  have htext : encodeAs .literal s ++ rest = '\'' :: (s ++ '\'' :: rest) := by
    simp [encodeAs]
  rw [htext, ← hread]
  refine string?.eq_3 _ (fun t ht => by cases ht) (fun t ht => ?_)
  obtain ⟨c, s', rfl⟩ := List.exists_cons_of_ne_nil hne
  have hc : c = '\'' := by injection ht with _ ht; injection ht
  exact hq (by rw [hc]; exact List.mem_cons_self)

theorem string?_encodeAs_basicBlock (s : List Char) {rest : List Char}
    (hd : rest.head? ≠ some '"') : string? (encodeAs .basicBlock s ++ rest) = some (s, rest) := by
  have htext : encodeAs .basicBlock s ++ rest
      = '"' :: '"' :: '"' :: ((if s.contains '\n' then ['\n'] else [])
        ++ (writeBasic true 0 s ++ '"' :: '"' :: '"' :: rest)) := by
    simp [encodeAs]
  rw [htext]
  show basicBlock .none (dropNewline _) = _
  rw [dropNewline_opening (fun hn => head?_writeBasic hn _)]
  exact basicBlock_writeBasic s hd (Nat.zero_le 2)

theorem string?_encodeAs_literalBlock {s : List Char} (hf : Form.Holds s .literalBlock)
    {rest : List Char} (hs : rest.head? ≠ some '\'') :
    string? (encodeAs .literalBlock s ++ rest) = some (s, rest) := by
  obtain ⟨ht, hr, hrun⟩ := hf
  have htext : encodeAs .literalBlock s ++ rest
      = '\'' :: '\'' :: '\'' :: ((if s.contains '\n' then ['\n'] else [])
        ++ (s ++ '\'' :: '\'' :: '\'' :: rest)) := by
    simp [encodeAs]
  rw [htext]
  show literalBlock 0 (dropNewline _) = _
  rw [dropNewline_opening]
  · exact literalBlock_append ht hr hs hrun
  · -- a string on one line cannot begin with a line end
    intro hn
    cases s with
    | nil => exact ⟨by simp, by simp⟩
    | cons c s =>
      refine ⟨fun h => hn ?_, fun h => hr ?_⟩
      · injection h with h
        rw [h]
        exact List.mem_cons_self
      · injection h with h
        rw [h]
        exact List.mem_cons_self

/-- **A string is read back from every form that holds it.** -/
theorem string?_encodeAs {f : Form} {s : List Char} (hf : f.Holds s) {rest : List Char}
    (hd : rest.head? ≠ some '"') (hs : rest.head? ≠ some '\'') :
    string? (encodeAs f s ++ rest) = some (s, rest) := by
  cases f with
  | basic =>
    rw [← lineString?_encodeAs_basic s rest]
    exact string?.eq_3 _ (encodeAs_basic_ne hd) (fun t ht => by cases ht)
  | literal => exact string?_encodeAs_literal hf rest
  | basicBlock => exact string?_encodeAs_basicBlock s hd
  | literalBlock => exact string?_encodeAs_literalBlock hf hs

/-- **A written string is read back**, whatever is in it, unless a quote
follows it. -/
theorem string?_encode (s : List Char) {rest : List Char} (hd : rest.head? ≠ some '"')
    (hs : rest.head? ≠ some '\'') : string? (encode s ++ rest) = some (s, rest) :=
  string?_encodeAs (form_holds s) hd hs

end DocSite.Toml
