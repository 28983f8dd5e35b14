import Mathlib.Tactic.Common
import DocSite.Proofs.Toml.Value

/-!
# The layout of written TOML

A document is written in lines, each with its end, and without a control
character but tabs and line feeds: a string that has others is written
with escapes. Both are kept by putting texts one behind the other, so
they are one condition, `Ruled`, with one case for each part of the
printer (`ruled_write`).
-/

namespace DocSite.Toml

/-! ## Characters -/

/-- A character that a document may have: text, or a line feed. -/
def isLaid (c : Char) : Bool :=
  isText c || c == '\n'

theorem isLaid_of_isText {c : Char} (h : isText c = true) : isLaid c = true := by
  unfold isLaid
  rw [h, Bool.true_or]

theorem isText_of_simpleEscape?_eq_some {l c : Char} (h : simpleEscape? l = some c) :
    isText l = true := by
  unfold simpleEscape? at h
  split at h
  iterate 7 decide
  exact absurd h (by simp)

theorem all_isText_fourDigits : ∀ n < 128, (fourDigits n).all isText = true := by
  decide

/-- An escape is text. -/
theorem all_isLaid_of_escaped? {block : Bool} {c : Char} {e : List Char}
    (h : escaped? block c = some e) : e.all isLaid = true := by
  have htext : e.all isText = true := by
    rcases escaped?_eq_some h with ⟨l, rfl, hl⟩ | ⟨hc, rfl⟩
    · rw [List.all_cons, List.all_cons, isText_of_simpleEscape?_eq_some hl]
      rfl
    · rw [List.all_cons, List.all_cons, all_isText_fourDigits _ hc]
      rfl
  exact List.all_eq_true.mpr fun d hd => isLaid_of_isText (List.all_eq_true.mp htext d hd)

/-- The inside of a basic string has no control. -/
theorem all_isLaid_writeBasic (block : Bool) (quotes : Nat) (s : List Char) :
    (writeBasic block quotes s).all isLaid = true := by
  induction s generalizing quotes with
  | nil => rfl
  | cons c s ih =>
    rw [writeBasic]
    split_ifs with hquote hrun
    · rw [List.all_cons, ih, Bool.and_true]
      decide
    · rw [List.all_cons, List.all_cons, ih, Bool.and_true]
      decide
    · cases hescaped : escaped? block c with
      | some e =>
        dsimp only
        rw [List.all_append, all_isLaid_of_escaped? hescaped, ih, Bool.and_true]
      | none =>
        dsimp only
        rw [List.all_cons, ih, Bool.and_true]
        by_cases hn : c = '\n'
        · rw [hn]
          decide
        · have hplain := isPlain_of_escaped?_eq_none hescaped hquote hn
          unfold isPlain at hplain
          rw [Bool.and_eq_true, Bool.and_eq_true] at hplain
          exact isLaid_of_isText hplain.1.1

theorem all_isLaid_encodeAs {f : Form} {s : List Char} (h : f.Holds s) :
    (encodeAs f s).all isLaid = true := by
  have hopening : (if s.contains '\n' then ['\n'] else []).all isLaid = true := by
    split <;> decide
  unfold encodeAs
  cases f with
  | basic =>
    rw [List.all_append, List.all_cons, all_isLaid_writeBasic]
    decide
  | literal =>
    have hs : s.all isLaid = true :=
      List.all_eq_true.mpr fun c hc => isLaid_of_isText (h.2.1 c hc)
    rw [List.all_append, List.all_cons, hs]
    decide
  | basicBlock =>
    rw [List.all_append, List.all_append, List.all_append, hopening, all_isLaid_writeBasic]
    decide
  | literalBlock =>
    have hs : s.all isLaid = true := by
      refine List.all_eq_true.mpr fun c hc => ?_
      unfold isLaid
      rw [Bool.or_eq_true, beq_iff_eq]
      exact h.1 c hc
    rw [List.all_append, List.all_append, List.all_append, hopening, hs]
    decide

/-- **A written string has no control** but tabs and line feeds. -/
theorem all_isLaid_encode (s : List Char) : (encode s).all isLaid = true :=
  all_isLaid_encodeAs (form_holds s)

theorem isText_of_isBare {c : Char} (h : isBare c = true) : isText c = true := by
  have hcodes : ∀ first last : Char, 0x20 ≤ first.toNat → last.toNat < 0x7F →
      first ≤ c ∧ c ≤ last → isText c = true := by
    intro first last hfirst hlast hc
    have hge : first.toNat ≤ c.toNat := hc.1
    have hle : c.toNat ≤ last.toNat := hc.2
    simp only [isText, Bool.or_eq_true, Bool.and_eq_true, decide_eq_true_eq, bne_iff_ne, ne_eq]
    exact Or.inr ⟨by omega, by omega⟩
  simp only [isBare, Bool.or_eq_true, Bool.and_eq_true, decide_eq_true_eq, beq_iff_eq] at h
  rcases h with (((h | h) | h) | rfl) | rfl
  · exact hcodes 'a' 'z' (by decide) (by decide) h
  · exact hcodes 'A' 'Z' (by decide) (by decide) h
  · exact hcodes '0' '9' (by decide) (by decide) h
  · decide
  · decide

theorem all_isLaid_writeKey (key : String) : (writeKey key).all isLaid = true := by
  unfold writeKey
  dsimp only
  split_ifs with h
  · rw [Bool.and_eq_true] at h
    refine List.all_eq_true.mpr fun c hc => isLaid_of_isText ?_
    exact isText_of_isBare (List.all_eq_true.mp h.2 c hc)
  · exact all_isLaid_encodeAs (f := .basic) trivial

theorem all_isLaid_writePath (way : List String) : (writePath way).all isLaid = true := by
  cases way with
  | nil => rfl
  | cons key way =>
    induction way generalizing key with
    | nil =>
      show (writeKey key ++ []).all isLaid = true
      rw [List.append_nil, all_isLaid_writeKey]
    | cons next way ih =>
      rw [writePath_cons, List.all_append, List.all_cons, all_isLaid_writeKey, ih]
      decide

theorem all_isLaid_commaSeparated {pieces : List (List Char)}
    (h : ∀ piece ∈ pieces, piece.all isLaid = true) :
    (commaSeparated pieces).all isLaid = true := by
  induction pieces with
  | nil => rfl
  | cons piece pieces ih =>
    have hpiece := h piece List.mem_cons_self
    have hpieces := ih fun p hp => h p (List.mem_cons_of_mem _ hp)
    cases pieces with
    | nil => exact hpiece
    | cons next pieces =>
      rw [commaSeparated_cons, List.all_append, List.all_cons, List.all_cons, hpiece, hpieces]
      decide

mutual

/-- **A value on its line has no control** but tabs and line feeds. -/
theorem all_isLaid_inlineValue : ∀ doc : Doc, (inlineValue doc).all isLaid = true
  | .text s => by
    rw [inlineValue]
    exact all_isLaid_encode _
  | .flag b => by
    cases b <;> decide
  | .list items => by
    have hitems := all_isLaid_commaSeparated (all_isLaid_inlineItems items)
    rw [inlineValue, List.all_append, List.all_cons, hitems]
    decide
  | .record fields => by
    have hfields := all_isLaid_commaSeparated (all_isLaid_inlineFields fields)
    rw [inlineValue]
    split_ifs
    · decide
    · rw [List.all_append, List.all_append, hfields]
      decide

theorem all_isLaid_inlineItems : ∀ (items : List Doc),
    ∀ piece ∈ inlineItems items, piece.all isLaid = true
  | [], piece, h => absurd h List.not_mem_nil
  | item :: items, piece, h => by
    rw [inlineItems] at h
    rcases List.mem_cons.mp h with rfl | h
    · exact all_isLaid_inlineValue item
    · exact all_isLaid_inlineItems items piece h

theorem all_isLaid_inlineFields : ∀ (fields : List (String × Doc)),
    ∀ piece ∈ inlineFields fields, piece.all isLaid = true
  | [], piece, h => absurd h List.not_mem_nil
  | (name, field) :: fields, piece, h => by
    rw [inlineFields] at h
    rcases List.mem_cons.mp h with rfl | h
    · rw [List.all_append, List.all_append, all_isLaid_writeKey, all_isLaid_inlineValue field]
      decide
    · exact all_isLaid_inlineFields fields piece h

end

/-! ## Lines -/

/-- **Lines, each with its end**, and without a control but tabs. -/
structure Ruled (text : List Char) : Prop where
  /-- There is no control but tabs and line feeds. -/
  laid : text.all isLaid = true
  /-- The last line has its end, if there is a line. -/
  ended : text = [] ∨ text.getLast? = some '\n'

namespace Ruled

theorem nil : Ruled [] := ⟨rfl, Or.inl rfl⟩

theorem line {text : List Char} (h : text.all isLaid = true) : Ruled (text ++ ['\n']) where
  laid := by
    rw [List.all_append, h]
    decide
  ended := Or.inr List.getLast?_concat

theorem append {first second : List Char} (h : Ruled first) (h' : Ruled second) :
    Ruled (first ++ second) where
  laid := by rw [List.all_append, h.laid, h'.laid, Bool.and_true]
  ended := by
    rcases h'.ended with rfl | hlast
    · rw [List.append_nil]
      exact h.ended
    · refine Or.inr ?_
      rw [List.getLast?_append, hlast]
      rfl

/-- Lines that have lost what they begin with. -/
theorem drop {text : List Char} (h : Ruled text) (n : Nat) : Ruled (text.drop n) where
  laid := List.all_eq_true.mpr fun c hc => List.all_eq_true.mp h.laid c (List.mem_of_mem_drop hc)
  ended := by
    by_cases hn : text.length ≤ n
    · exact Or.inl (List.drop_eq_nil_of_le hn)
    · refine Or.inr ?_
      rw [List.getLast?_drop, if_neg hn]
      refine h.ended.resolve_left ?_
      rintro rfl
      exact hn (Nat.zero_le n)

end Ruled

theorem ruled_valueLines (fields : List (String × Doc)) : Ruled (valueLines fields) := by
  induction fields with
  | nil => exact Ruled.nil
  | cons field fields ih =>
    obtain ⟨name, doc⟩ := field
    rw [valueLines]
    refine Ruled.append ?_ ih
    split_ifs
    · exact Ruled.nil
    · refine Ruled.line ?_
      rw [List.all_append, List.all_append, all_isLaid_writeKey, all_isLaid_inlineValue]
      decide

/-- A header is a line, behind an empty one. -/
theorem ruled_writeHeader (row : Bool) (way : List String) : Ruled (writeHeader row way) := by
  have hpath := all_isLaid_writePath way
  unfold writeHeader
  cases row with
  | true =>
    rw [if_pos rfl]
    have htext : ['\n', '[', '['] ++ writePath way ++ [']', ']', '\n']
        = '\n' :: '[' :: '[' :: writePath way ++ [']', ']'] ++ ['\n'] := by simp
    rw [htext]
    refine Ruled.line ?_
    rw [List.all_append, List.all_cons, List.all_cons, List.all_cons, hpath]
    decide
  | false =>
    rw [if_neg Bool.false_ne_true]
    have htext : ['\n', '['] ++ writePath way ++ [']', '\n']
        = '\n' :: '[' :: writePath way ++ [']'] ++ ['\n'] := by simp
    rw [htext]
    refine Ruled.line ?_
    rw [List.all_append, List.all_cons, List.all_cons, hpath]
    decide

mutual

theorem ruled_fieldSections : ∀ (doc : Doc) (way : List String), Ruled (fieldSections way doc)
  | .text _, _ => Ruled.nil
  | .flag _, _ => Ruled.nil
  | .list items, way => by
    rw [fieldSections]
    split_ifs
    · exact ruled_rows items way
    · exact Ruled.nil
  | .record fields, way => by
    rw [fieldSections]
    refine Ruled.append ?_ (ruled_sections fields way)
    split_ifs
    · exact (ruled_writeHeader false way).append (ruled_valueLines fields)
    · exact Ruled.nil

theorem ruled_sections : ∀ (fields : List (String × Doc)) (way : List String),
    Ruled (sections way fields)
  | [], _ => Ruled.nil
  | (name, field) :: fields, way => by
    rw [sections]
    exact (ruled_fieldSections field (way ++ [name])).append (ruled_sections fields way)

theorem ruled_rows : ∀ (items : List Doc) (way : List String), Ruled (rows way items)
  | [], _ => Ruled.nil
  | item :: items, way => by
    rw [rows]
    exact (ruled_rowSections item way).append (ruled_rows items way)

theorem ruled_rowSections : ∀ (item : Doc) (way : List String), Ruled (rowSections way item)
  | .text _, _ => Ruled.nil
  | .flag _, _ => Ruled.nil
  | .list _, _ => Ruled.nil
  | .record fields, way => by
    rw [rowSections]
    exact ((ruled_writeHeader true way).append (ruled_valueLines fields)).append
      (ruled_sections fields way)

end

/-- **A document is written in lines**, without a control but tabs. -/
theorem ruled_write (fields : List (String × Doc)) : Ruled (write fields) := by
  unfold write
  dsimp only
  split_ifs
  · exact (ruled_sections fields []).drop 1
  · exact (ruled_valueLines fields).append (ruled_sections fields [])

end DocSite.Toml
