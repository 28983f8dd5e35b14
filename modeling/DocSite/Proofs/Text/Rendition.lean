import Mathlib.Tactic.Common
import DocSite.Proofs.Text.Segments
import DocSite.Text.LogLine

/-!
# Renditions in a text

A rendition is an escape sequence that ends in `m`: it changes how what
follows is shown, and nothing else. `withoutRenditions` takes them out of
a text, from left to right, and `Styled` says that there is one. The two
are about the same thing: a text stays as it is exactly if it is not
styled (`withoutRenditions_eq_self_iff`).

Clearing a line is an escape sequence too, and no rendition, so a text
may be plain to the eye and still not be free of escapes.
-/

namespace DocSite.Text

/-! ## Renditions -/

/-- The character that escape sequences begin with. -/
def escape : Char := '\x1b'

/-- A parameter of an escape sequence: a digit, or what may stand between
two numbers. -/
def isParameter (c : Char) : Bool :=
  '0' ≤ c && c ≤ '?'

/-- **A rendition**: `ESC [`, parameters, `m`. -/
def IsRendition (sequence : List Char) : Prop :=
  ∃ parameters, parameters.all isParameter = true
    ∧ sequence = escape :: '[' :: parameters ++ ['m']

/-- **A text with a rendition in it.** -/
def Styled (text : List Char) : Prop :=
  ∃ sequence, IsRendition sequence ∧ sequence <:+: text

/-- What stands behind the rendition that a text begins with, if it begins
with one. -/
def behindRendition? (text : List Char) : Option (List Char) :=
  (stripPrefix? [escape, '['] text).bind fun inside =>
    stripPrefix? ['m'] (inside.dropWhile isParameter)

/-- **A text begins with a rendition** if something stands behind it. -/
theorem behindRendition?_eq_some_iff (text rest : List Char) :
    behindRendition? text = some rest
      ↔ ∃ sequence, IsRendition sequence ∧ text = sequence ++ rest := by
  unfold behindRendition?
  rw [Option.bind_eq_some_iff]
  constructor
  · rintro ⟨inside, hinside, hrest⟩
    rw [stripPrefix?_eq_some_iff] at hinside hrest
    refine ⟨_, ⟨inside.takeWhile isParameter, List.all_takeWhile, rfl⟩, ?_⟩
    rw [hinside, List.append_assoc]
    show _ = escape :: '[' :: (inside.takeWhile isParameter ++ (['m'] ++ rest))
    rw [← hrest, List.takeWhile_append_dropWhile]
    rfl
  · rintro ⟨sequence, ⟨parameters, hall, rfl⟩, rfl⟩
    refine ⟨parameters ++ (['m'] ++ rest), ?_, ?_⟩
    · rw [stripPrefix?_eq_some_iff, List.append_assoc]
      rfl
    · rw [stripPrefix?_eq_some_iff, List.dropWhile_append_of_pos (List.all_eq_true.mp hall)]
      rfl

theorem length_behindRendition? {text rest : List Char}
    (h : behindRendition? text = some rest) : rest.length < text.length := by
  obtain ⟨sequence, ⟨parameters, -, rfl⟩, rfl⟩ := (behindRendition?_eq_some_iff _ _).mp h
  simp only [List.cons_append, List.length_cons, List.length_append]
  omega

/-- **The text without its renditions.** -/
def withoutRenditions : List Char → List Char
  | [] => []
  | c :: rest =>
    match _hbehind : behindRendition? (c :: rest) with
    | some behind => withoutRenditions behind
    | none => c :: withoutRenditions rest
termination_by text => text.length
decreasing_by
  · exact length_behindRendition? _hbehind
  · exact Nat.lt_succ_self _

theorem length_withoutRenditions_le (text : List Char) :
    (withoutRenditions text).length ≤ text.length := by
  induction text using withoutRenditions.induct with
  | case1 => simp [withoutRenditions]
  | case2 c rest behind hbehind ih =>
    rw [withoutRenditions, hbehind]
    exact Nat.le_trans ih (Nat.le_of_lt (length_behindRendition? hbehind))
  | case3 c rest hbehind ih =>
    rw [withoutRenditions, hbehind]
    exact Nat.succ_le_succ ih

/-! ## Texts without renditions -/

/-- A text is styled if it begins with a rendition or is styled behind its
first character. -/
theorem styled_cons_iff (c : Char) (rest : List Char) :
    Styled (c :: rest) ↔ (behindRendition? (c :: rest)).isSome = true ∨ Styled rest := by
  constructor
  · rintro ⟨sequence, hsequence, front, back, htext⟩
    cases front with
    | nil =>
      refine Or.inl (Option.isSome_iff_exists.mpr ⟨back, ?_⟩)
      exact (behindRendition?_eq_some_iff _ _).mpr ⟨sequence, hsequence, htext.symm⟩
    | cons first front =>
      refine Or.inr ⟨sequence, hsequence, front, back, ?_⟩
      injection htext
  · rintro (h | ⟨sequence, hsequence, hpart⟩)
    · obtain ⟨back, hback⟩ := Option.isSome_iff_exists.mp h
      obtain ⟨sequence, hsequence, htext⟩ := (behindRendition?_eq_some_iff _ _).mp hback
      exact ⟨sequence, hsequence, [], back, htext.symm⟩
    · exact ⟨sequence, hsequence, List.infix_cons hpart⟩

theorem not_styled_nil : ¬Styled [] := by
  rintro ⟨sequence, ⟨parameters, -, rfl⟩, hpart⟩
  exact absurd (List.infix_nil.mp hpart) (List.cons_ne_nil _ _)

/-- **A text stays as it is exactly if it is not styled.** -/
theorem withoutRenditions_eq_self_iff (text : List Char) :
    withoutRenditions text = text ↔ ¬Styled text := by
  induction text using withoutRenditions.induct with
  | case1 =>
    rw [withoutRenditions]
    exact ⟨fun _ => not_styled_nil, fun _ => rfl⟩
  | case2 c rest behind hbehind _ =>
    have hstyled : Styled (c :: rest) :=
      (styled_cons_iff c rest).mpr (Or.inl (by rw [hbehind]; rfl))
    refine ⟨fun h => ?_, fun h => absurd hstyled h⟩
    -- what is left is too short to be the text
    rw [withoutRenditions, hbehind] at h
    change withoutRenditions behind = c :: rest at h
    have hshort := Nat.lt_of_le_of_lt (length_withoutRenditions_le behind)
      (length_behindRendition? hbehind)
    rw [h] at hshort
    exact absurd hshort (Nat.lt_irrefl _)
  | case3 c rest hbehind ih =>
    rw [withoutRenditions, hbehind, styled_cons_iff, hbehind, List.cons_inj_right, ih]
    exact ⟨fun h => not_or.mpr ⟨Bool.false_ne_true, h⟩, fun h => (not_or.mp h).2⟩

theorem not_styled_of_notMem {text : List Char} (h : escape ∉ text) : ¬Styled text := by
  rintro ⟨sequence, ⟨parameters, -, rfl⟩, hpart⟩
  exact h (hpart.subset List.mem_cons_self)

/-- What is in front of a styled text leaves it styled. -/
theorem Styled.append_left {text : List Char} (h : Styled text) (front : List Char) :
    Styled (front ++ text) :=
  let ⟨sequence, hsequence, hpart⟩ := h
  ⟨sequence, hsequence, hpart.trans (List.suffix_append front text).isInfix⟩

/-- What is behind a styled text leaves it styled. -/
theorem Styled.append_right {text : List Char} (h : Styled text) (back : List Char) :
    Styled (text ++ back) :=
  let ⟨sequence, hsequence, hpart⟩ := h
  ⟨sequence, hsequence, hpart.trans (List.prefix_append text back).isInfix⟩

/-- What is in front of a text and has no escapes does not count. -/
theorem styled_append_iff {front : List Char} (h : escape ∉ front) (text : List Char) :
    Styled (front ++ text) ↔ Styled text := by
  induction front with
  | nil => exact Iff.rfl
  | cons c front ih =>
    have hnone : behindRendition? (c :: (front ++ text)) = none := by
      have hne : escape ≠ c := fun heq => h (heq ▸ List.mem_cons_self)
      unfold behindRendition?
      rw [stripPrefix?, if_neg hne]
      rfl
    rw [List.cons_append, styled_cons_iff, hnone, ih fun hmem => h (List.mem_cons_of_mem _ hmem)]
    exact or_iff_right Bool.false_ne_true

/-! ## Line by line -/

/-- A part without a separator is on one side of it. -/
theorem infix_append_cons_iff {separator : Char} {part front back : List Char}
    (h : separator ∉ part) :
    part <:+: front ++ separator :: back ↔ part <:+: front ∨ part <:+: back := by
  have hnil : ∀ {first : List Char}, separator ∉ first → first <+: separator :: back →
      first = [] := by
    intro first hfirst hprefix
    rcases List.prefix_cons_iff.mp hprefix with rfl | ⟨rest, rfl, -⟩
    · rfl
    · exact absurd List.mem_cons_self hfirst
  rw [List.infix_append_iff]
  constructor
  · rintro (hfront | hback | ⟨first, second, rfl, hfirst, hsecond⟩)
    · exact Or.inl hfront
    · rcases List.infix_cons_iff.mp hback with hback | hback
      · exact Or.inl (hnil h hback ▸ List.nil_infix)
      · exact Or.inr hback
    · rw [hnil (fun hmem => h (List.mem_append_right _ hmem)) hsecond, List.append_nil]
      exact Or.inl hfirst.isInfix
  · rintro (hfront | hback)
    · exact Or.inl hfront
    · exact Or.inr (Or.inl (List.infix_cons hback))

/-- **A rendition stands on one line**, so a text is styled if it is before a
line end or behind it. -/
theorem styled_lineEnd_iff (front back : List Char) :
    Styled (front ++ '\n' :: back) ↔ Styled front ∨ Styled back := by
  have hline : ∀ {sequence : List Char}, IsRendition sequence → '\n' ∉ sequence := by
    rintro _ ⟨parameters, hall, rfl⟩ hmem
    rcases List.mem_append.mp hmem with hmem | hmem
    · rcases List.mem_cons.mp hmem with h | hmem
      · exact absurd h (by decide)
      · rcases List.mem_cons.mp hmem with h | hmem
        · exact absurd h (by decide)
        · exact absurd (List.all_eq_true.mp hall _ hmem) (by decide)
    · exact absurd (List.mem_singleton.mp hmem) (by decide)
  unfold Styled
  rw [← exists_or]
  refine exists_congr fun sequence => ?_
  rw [← and_or_left]
  exact and_congr_right fun hsequence => infix_append_cons_iff (hline hsequence)

/-- **A text of several lines is styled if one of them is.** -/
theorem styled_join_iff (lines : List (List Char)) :
    Styled (join '\n' lines) ↔ ∃ line ∈ lines, Styled line := by
  induction lines with
  | nil => exact iff_of_false not_styled_nil fun ⟨_, hline, _⟩ => absurd hline List.not_mem_nil
  | cons line lines ih =>
    rw [List.exists_mem_cons_iff, ← ih]
    cases lines with
    | nil => exact (or_iff_left not_styled_nil).symm
    | cons next more => exact styled_lineEnd_iff line _

theorem styled_iff_lines (text : List Char) :
    Styled text ↔ ∃ line ∈ split (· == '\n') text, Styled line := by
  rw [← styled_join_iff, join_split]

/-! ## Texts without escapes -/

/-- **A text without escapes.** -/
def EscapeFree (text : String) : Prop := ∀ c ∈ text.toList, c ≠ escape

instance (text : String) : Decidable (EscapeFree text) :=
  List.decidableBAll (· ≠ escape) text.toList

theorem EscapeFree.append {first second : String} (h : EscapeFree first)
    (h' : EscapeFree second) : EscapeFree (first ++ second) := by
  unfold EscapeFree
  rw [String.toList_append]
  intro c hc
  exact (List.mem_append.mp hc).elim (h c) (h' c)

theorem EscapeFree.join {texts : List String} (h : ∀ text ∈ texts, EscapeFree text) :
    EscapeFree (String.join texts) := by
  unfold EscapeFree
  rw [String.toList_join]
  intro c hc
  obtain ⟨text, htext, hc⟩ := List.mem_flatMap.mp hc
  exact h text htext c hc

/-- Characters of a kind that the escape is not of. -/
theorem escapeFree_ofList {kind : Char → Bool} {chars : List Char}
    (h : chars.all kind = true) (hescape : kind escape = false) :
    EscapeFree (String.ofList chars) := by
  unfold EscapeFree
  rw [String.toList_ofList]
  rintro c hc rfl
  exact Bool.false_ne_true (hescape.symm.trans (List.all_eq_true.mp h escape hc))

theorem EscapeFree.not_styled {text : String} (h : EscapeFree text) : ¬Styled text.toList :=
  not_styled_of_notMem fun hmem => h escape hmem rfl

theorem EscapeFree.styled_append_iff {front : String} (h : EscapeFree front) (text : String) :
    Styled (front ++ text).toList ↔ Styled text.toList := by
  rw [String.toList_append, Text.styled_append_iff fun hmem => h escape hmem rfl]

/-! ## What messages are made of -/

theorem isRendition_rendition (code : Nat) : IsRendition (rendition code).toList := by
  refine ⟨Nat.toDigits 10 code, List.all_eq_true.mpr fun c hc => ?_, ?_⟩
  · have hdigit := Nat.isDigit_of_mem_toDigits (by decide) (by decide) hc
    unfold Char.isDigit at hdigit
    rw [Bool.and_eq_true, decide_eq_true_iff, decide_eq_true_iff] at hdigit
    unfold isParameter
    rw [Bool.and_eq_true, decide_eq_true_iff, decide_eq_true_iff]
    exact ⟨hdigit.1, Nat.le_trans hdigit.2 (by decide)⟩
  · unfold rendition
    rw [String.toList_append, String.toList_append]
    show _ ++ (Nat.repr code).toList ++ _ = _
    rw [Nat.repr_eq_ofList_toDigits, @String.toList_ofList (Nat.toDigits 10 code)]
    rfl

theorem styled_bold (text : String) : Styled (bold text).toList := by
  unfold bold
  rw [String.toList_append, String.toList_append, List.append_assoc]
  exact ⟨_, isRendition_rendition 1, (List.prefix_append _ _).isInfix⟩

/-- **Log lines are styled**, whatever their topic. -/
theorem styled_logLine (topic message : String) : Styled (logLine topic message).toList := by
  unfold logLine
  rw [String.toList_append, String.toList_append, String.toList_append, String.toList_append]
  exact ((((styled_bold _).append_left _).append_right _).append_right _).append_right _

end DocSite.Text
