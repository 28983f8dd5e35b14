import Mathlib.Tactic.Common
import DocSite.Json.Quoted

/-!
# A written string is read back from JSON

A string has one written form in JSON: between quotes, with an escape for
quotes, backslashes and controls. `string_encode` reads it back, whatever
is in it and whatever follows, for the closing quote ends it for good.

The reader is an automaton that may be halfway through an escape or a
surrogate pair. Written strings never leave it in the midst of a pair, so
one lemma for one character, as it is written, carries the induction
(`body_written`). The same look at one character shows that no line ends
within a written string (`not_control_of_mem_encode`).
-/

namespace DocSite.Json

open DocSite.Unicode (hexDigit?)

/-- How one character is written. -/
def written (c : Char) : List Char := (escaped? c).getD [c]

theorem hexDigit?_digitChar : ∀ d < 16, hexDigit? (Nat.digitChar d) = some d := by
  decide

/-- **The two kinds of escapes**: one letter behind a backslash, or the
code point of a control in four digits. -/
theorem escaped?_eq_some {c : Char} {e : List Char} (h : escaped? c = some e) :
    (∃ l, e = ['\\', l] ∧ l ≠ 'u' ∧ simpleEscape? l = some c)
      ∨ (c.toNat < 0x20 ∧ e
        = ['\\', 'u', '0', '0', Nat.digitChar (c.toNat / 16), Nat.digitChar (c.toNat % 16)]) := by
  unfold escaped? at h
  split at h
  · next hc => exact Or.inl ⟨'"', (Option.some.inj h).symm, by decide, by rw [hc]; rfl⟩
  split at h
  · next hc => exact Or.inl ⟨'\\', (Option.some.inj h).symm, by decide, by rw [hc]; rfl⟩
  split at h
  · next hc => exact Or.inl ⟨'b', (Option.some.inj h).symm, by decide, by rw [hc]; rfl⟩
  split at h
  · next hc => exact Or.inl ⟨'f', (Option.some.inj h).symm, by decide, by rw [hc]; rfl⟩
  split at h
  · next hc => exact Or.inl ⟨'n', (Option.some.inj h).symm, by decide, by rw [hc]; rfl⟩
  split at h
  · next hc => exact Or.inl ⟨'r', (Option.some.inj h).symm, by decide, by rw [hc]; rfl⟩
  split at h
  · next hc => exact Or.inl ⟨'t', (Option.some.inj h).symm, by decide, by rw [hc]; rfl⟩
  split at h
  · next hc => exact Or.inr ⟨hc, (Option.some.inj h).symm⟩
  · exact absurd h (by simp)

/-- A character without an escape is none of those that end a string or
begin an escape, and no control. -/
theorem ne_of_escaped?_eq_none {c : Char} (h : escaped? c = none) :
    c ≠ '"' ∧ c ≠ '\\' ∧ ¬c.toNat < 0x20 := by
  refine ⟨?_, ?_, ?_⟩
  · rintro rfl
    exact absurd h (by decide)
  · rintro rfl
    exact absurd h (by decide)
  · intro hc
    unfold escaped? at h
    rw [if_pos hc] at h
    split_ifs at h

/-! ## Reading -/

theorem body_simpleEscape {l c : Char} (hl : l ≠ 'u') (h : simpleEscape? l = some c)
    (rest : List Char) : body none .none ('\\' :: l :: rest) = (body none .none rest).cons c := by
  rw [body, if_pos rfl, body, if_neg hl, h]
  rfl

theorem body_digits {c : Char} (h : c.toNat < 0x20) (rest : List Char) :
    body none .none ('\\' :: 'u' :: '0' :: '0' :: Nat.digitChar (c.toNat / 16)
        :: Nat.digitChar (c.toNat % 16) :: rest)
      = (body none .none rest).cons c := by
  have hzero : hexDigit? '0' = some 0 := by decide
  have hfirst := hexDigit?_digitChar (c.toNat / 16) (by omega)
  have hsecond := hexDigit?_digitChar (c.toNat % 16) (by omega)
  have hcode : 16 * (16 * (16 * (16 * 0 + 0) + 0) + c.toNat / 16) + c.toNat % 16 = c.toNat := by
    omega
  -- a control is no half of a surrogate pair
  have hhigh : isHigh c.toNat = false := by
    unfold isHigh
    rw [Bool.and_eq_false_iff]
    exact Or.inl (decide_eq_false (by omega))
  have hlow : isLow c.toNat = false := by
    unfold isLow
    rw [Bool.and_eq_false_iff]
    exact Or.inl (decide_eq_false (by omega))
  rw [body, if_pos rfl, body, if_pos rfl]
  simp only [body, hzero, hfirst, hsecond, hcode, hhigh, hlow]
  rw [Char.ofNat_toNat]
  rfl

theorem body_plain {c : Char} (h : escaped? c = none) (rest : List Char) :
    body none .none (c :: rest) = (body none .none rest).cons c := by
  obtain ⟨hquote, hback, hcontrol⟩ := ne_of_escaped?_eq_none h
  rw [body, if_neg hback, if_neg hquote, if_neg hcontrol]
  rfl

/-- **One character as it is written is read back.** -/
theorem body_written (c : Char) (rest : List Char) :
    body none .none (written c ++ rest) = (body none .none rest).cons c := by
  unfold written
  cases h : escaped? c with
  | none => exact body_plain h rest
  | some e =>
    rcases escaped?_eq_some h with ⟨l, rfl, hl, hsimple⟩ | ⟨hc, rfl⟩
    · exact body_simpleEscape hl hsimple rest
    · exact body_digits hc rest

/-- A written string begins with a quote. -/
theorem encode_eq_cons (s : List Char) : encode s = '"' :: (s.flatMap written ++ ['"']) := rfl

/-- **A written string is read back**, and what follows is left alone. -/
theorem string_encode (s rest : List Char) :
    string (s.flatMap written ++ ['"'] ++ rest) = .text s rest := by
  unfold string
  induction s with
  | nil =>
    rw [List.flatMap_nil, List.nil_append, List.singleton_append, body]
    rfl
  | cons c s ih =>
    rw [List.flatMap_cons, List.append_assoc, List.append_assoc, body_written,
      ← List.append_assoc, ih]
    rfl

/-! ## No line ends within a string -/

theorem not_control_digitChar : ∀ d < 16, ¬(Nat.digitChar d).toNat < 0x20 := by
  decide

theorem not_control_of_simpleEscape? {l c : Char} (h : simpleEscape? l = some c) :
    ¬l.toNat < 0x20 := by
  unfold simpleEscape? at h
  split at h
  all_goals first | decide | exact absurd h (by simp)

theorem not_control_of_mem_written {c d : Char} (h : d ∈ written c) : ¬d.toNat < 0x20 := by
  unfold written at h
  cases hc : escaped? c with
  | none =>
    rw [hc] at h
    rw [List.mem_singleton.mp h]
    exact (ne_of_escaped?_eq_none hc).2.2
  | some e =>
    rw [hc] at h
    rcases escaped?_eq_some hc with ⟨l, rfl, -, hsimple⟩ | ⟨hcontrol, rfl⟩
    · rcases List.mem_cons.mp h with rfl | h
      · decide
      · rw [List.mem_singleton.mp h]
        exact not_control_of_simpleEscape? hsimple
    · have hfirst := not_control_digitChar (c.toNat / 16) (by omega)
      have hsecond := not_control_digitChar (c.toNat % 16) (by omega)
      simp only [Option.getD_some, List.mem_cons, List.not_mem_nil, or_false] at h
      rcases h with rfl | rfl | rfl | rfl | rfl | rfl
      · decide
      · decide
      · decide
      · decide
      · exact hfirst
      · exact hsecond

/-- **A written string has no control in it**, and so no line end. -/
theorem not_control_of_mem_encode {s : List Char} {d : Char} (h : d ∈ encode s) :
    ¬d.toNat < 0x20 := by
  rw [encode_eq_cons] at h
  rcases List.mem_cons.mp h with rfl | h
  · decide
  rcases List.mem_append.mp h with h | h
  · obtain ⟨c, -, hd⟩ := List.mem_flatMap.mp h
    exact not_control_of_mem_written hd
  · rw [List.mem_singleton.mp h]
    decide

end DocSite.Json
