import Mathlib.Tactic.Common
import DocSite.Export.Format
import DocSite.Proofs.Json.Quoted
import DocSite.Proofs.Text.Segments

/-!
# The layout of written JSON

Only the layout of a written document has line ends: a string writes its
own with an escape, so no line of the text begins within one. Indenting
the lines of a document is therefore no more than writing it further in
(`indented_write`), and taking the indentation away again gives the text
back (`unindent_deepen`).

Indenting works on the lines as an editor shows them. `deepen` is the
same without lines, character by character, and carries the induction
over a document.
-/

namespace DocSite.Json

open Text (split join)

/-! ## Further in -/

/-- **Four blanks behind every line feed.** -/
def deepen (text : List Char) : List Char :=
  text.flatMap fun c => if c = '\n' then ['\n', ' ', ' ', ' ', ' '] else [c]

/-- **Takes away the four blanks** that follow each line feed. -/
def unindent : List Char → List Char
  | [] => []
  | '\n' :: ' ' :: ' ' :: ' ' :: ' ' :: rest => '\n' :: unindent rest
  | c :: rest => c :: unindent rest

theorem deepen_append (first second : List Char) :
    deepen (first ++ second) = deepen first ++ deepen second :=
  List.flatMap_append

theorem deepen_newline_cons (rest : List Char) :
    deepen ('\n' :: rest) = '\n' :: ' ' :: ' ' :: ' ' :: ' ' :: deepen rest := rfl

theorem deepen_cons {c : Char} (h : c ≠ '\n') (rest : List Char) :
    deepen (c :: rest) = c :: deepen rest := by
  unfold deepen
  rw [List.flatMap_cons, if_neg h]
  rfl

theorem deepen_of_notMem {text : List Char} (h : '\n' ∉ text) : deepen text = text := by
  induction text with
  | nil => rfl
  | cons c text ih =>
    rw [deepen_cons (fun hc => h (hc ▸ List.mem_cons_self)),
      ih (fun hmem => h (List.mem_cons_of_mem _ hmem))]

/-- **What has been put in is taken away again**, and nothing else. -/
theorem unindent_deepen (text : List Char) : unindent (deepen text) = text := by
  induction text with
  | nil => rfl
  | cons c text ih =>
    by_cases hc : c = '\n'
    · rw [hc, deepen_newline_cons, unindent, ih]
    · rw [deepen_cons hc, unindent.eq_3 _ _ (fun _ h _ => hc h), ih]

/-- Joined by line feeds and indented, pieces are joined by both. -/
theorem deepen_join {pieces : List (List Char)} (h : ∀ piece ∈ pieces, '\n' ∉ piece) :
    deepen (join '\n' pieces) = (pieces.intersperse ['\n', ' ', ' ', ' ', ' ']).flatten := by
  induction pieces with
  | nil => rfl
  | cons piece pieces ih =>
    have hpiece := deepen_of_notMem (h piece List.mem_cons_self)
    cases pieces with
    | nil => simpa [join] using hpiece
    | cons next pieces =>
      show deepen (piece ++ '\n' :: join '\n' (next :: pieces)) = _
      rw [deepen_append, hpiece, deepen_newline_cons,
        ih (fun p hp => h p (List.mem_cons_of_mem _ hp)), List.intersperse_cons_cons,
        List.flatten_cons, List.flatten_cons]
      rfl

/-- **Indenting lines is putting blanks behind line feeds**, where lines
are pieces. -/
theorem indented_eq_deepen {text : List Char} (hreturn : '\r' ∉ text) (hne : text ≠ [])
    (h : text.getLast? ≠ some '\n') : Export.indented text = deepen text := by
  unfold Export.indented
  rw [Text.lines_eq_split hreturn hne h, ← deepen_join (fun _ => Text.notMem_of_mem_split),
    Text.join_split]

/-! ## Documents -/

/-- A new line is further in by two levels. -/
theorem deepen_newline (level : Nat) : deepen (newline level) = newline (level + 2) := by
  have hblanks : deepen (List.replicate (2 * level) ' ') = List.replicate (2 * level) ' ' :=
    deepen_of_notMem fun h => absurd (List.eq_of_mem_replicate h) (by decide)
  unfold newline
  rw [deepen_newline_cons, hblanks]
  rfl

theorem newline_notMem_encode (s : List Char) : '\n' ∉ encode s :=
  fun h => not_control_of_mem_encode h (by decide)

mutual

/-- **A document with its lines indented is the document written further
in.** -/
theorem deepen_write : ∀ (doc : Doc) (level : Nat),
    deepen (write level doc) = write (level + 2) doc
  | .text s, level => by
    rw [write, write, deepen_of_notMem (newline_notMem_encode _)]
  | .flag b, level => by
    cases b <;> rfl
  | .list [], level => rfl
  | .list (item :: items), level => by
    have hitems := deepen_writeItems true (item :: items) (level + 1)
    simp only [write, List.isEmpty_cons, Bool.false_eq_true, if_false, List.cons_append]
    rw [deepen_cons (by decide), deepen_append, deepen_append, hitems, deepen_newline]
    rfl
  | .record [], level => rfl
  | .record (field :: fields), level => by
    have hfields := deepen_writeFields true (field :: fields) (level + 1)
    simp only [write, List.isEmpty_cons, Bool.false_eq_true, if_false, List.cons_append]
    rw [deepen_cons (by decide), deepen_append, deepen_append, hfields, deepen_newline]
    rfl

theorem deepen_writeItems : ∀ (first : Bool) (items : List Doc) (level : Nat),
    deepen (writeItems level first items) = writeItems (level + 2) first items
  | _, [], _ => rfl
  | first, item :: items, level => by
    rw [writeItems, writeItems, deepen_append, deepen_append, deepen_append, deepen_newline,
      deepen_write item, deepen_writeItems false items]
    cases first <;> rfl

theorem deepen_writeFields : ∀ (first : Bool) (fields : List (String × Doc)) (level : Nat),
    deepen (writeFields level first fields) = writeFields (level + 2) first fields
  | _, [], _ => rfl
  | first, (name, field) :: fields, level => by
    rw [writeFields, writeFields, deepen_append, deepen_append, deepen_append, deepen_append,
      deepen_append, deepen_newline, deepen_of_notMem (newline_notMem_encode _),
      deepen_write field, deepen_writeFields false fields]
    cases first <;> rfl

end

/-- A character that a document may have: a line feed or no control. -/
def isLaid (c : Char) : Bool :=
  c == '\n' || 0x20 ≤ c.toNat

theorem all_isLaid_encode (s : List Char) : (encode s).all isLaid = true := by
  rw [List.all_eq_true]
  intro c hc
  have hcontrol := not_control_of_mem_encode hc
  unfold isLaid
  rw [Bool.or_eq_true, decide_eq_true_iff]
  exact Or.inr (by omega)

theorem all_isLaid_newline (level : Nat) : (newline level).all isLaid = true := by
  unfold newline
  rw [List.all_cons, List.all_eq_true.mpr fun c hc => List.eq_of_mem_replicate hc ▸ by decide]
  rfl

mutual

/-- **A document has no control but line feeds.** -/
theorem all_isLaid_write : ∀ (doc : Doc) (level : Nat), (write level doc).all isLaid = true
  | .text s, level => by
    rw [write]
    exact all_isLaid_encode _
  | .flag b, level => by
    cases b <;> rfl
  | .list [], level => rfl
  | .list (item :: items), level => by
    have hitems := all_isLaid_writeItems true (item :: items) (level + 1)
    simp only [write, List.isEmpty_cons, Bool.false_eq_true, if_false, List.cons_append,
      List.all_cons, List.all_append, hitems, all_isLaid_newline]
    decide
  | .record [], level => rfl
  | .record (field :: fields), level => by
    have hfields := all_isLaid_writeFields true (field :: fields) (level + 1)
    simp only [write, List.isEmpty_cons, Bool.false_eq_true, if_false, List.cons_append,
      List.all_cons, List.all_append, hfields, all_isLaid_newline]
    decide

theorem all_isLaid_writeItems : ∀ (first : Bool) (items : List Doc) (level : Nat),
    (writeItems level first items).all isLaid = true
  | _, [], _ => rfl
  | first, item :: items, level => by
    rw [writeItems, List.all_append, List.all_append, List.all_append, all_isLaid_newline,
      all_isLaid_write item, all_isLaid_writeItems false items]
    cases first <;> decide

theorem all_isLaid_writeFields : ∀ (first : Bool) (fields : List (String × Doc)) (level : Nat),
    (writeFields level first fields).all isLaid = true
  | _, [], _ => rfl
  | first, (name, field) :: fields, level => by
    rw [writeFields, List.all_append, List.all_append, List.all_append, List.all_append,
      List.all_append, all_isLaid_newline, all_isLaid_encode, all_isLaid_write field,
      all_isLaid_writeFields false fields]
    cases first <;> decide

end

/-- A document ends with a token. -/
theorem getLast?_write (level : Nat) (doc : Doc) :
    ∃ c, (write level doc).getLast? = some c ∧ c ≠ '\n' := by
  cases doc with
  | text s =>
    refine ⟨'"', ?_, by decide⟩
    rw [write, encode_eq_cons, ← List.cons_append, List.getLast?_concat]
  | flag b =>
    cases b
    · exact ⟨'e', rfl, by decide⟩
    · exact ⟨'e', rfl, by decide⟩
  | list items =>
    refine ⟨']', ?_, by decide⟩
    cases items with
    | nil => rfl
    | cons item items => exact List.getLast?_concat
  | record fields =>
    refine ⟨'\x7d', ?_, by decide⟩
    cases fields with
    | nil => rfl
    | cons field fields => exact List.getLast?_concat

/-- **Indenting a document is writing it further in.** -/
theorem indented_write (level : Nat) (doc : Doc) :
    Export.indented (write level doc) = write (level + 2) doc := by
  obtain ⟨c, hlast, hc⟩ := getLast?_write level doc
  have hreturn : '\r' ∉ write level doc := fun h =>
    absurd (List.all_eq_true.mp (all_isLaid_write doc level) _ h) (by decide)
  have hne : write level doc ≠ [] := by
    intro hnil
    rw [hnil] at hlast
    exact absurd hlast (by simp)
  rw [indented_eq_deepen hreturn hne (by rw [hlast]; simpa using hc), deepen_write]

end DocSite.Json
