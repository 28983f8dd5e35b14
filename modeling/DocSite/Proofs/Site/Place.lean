import Mathlib.Tactic.Common
import DocSite.Proofs.Text.Segments
import DocSite.Site.Place

/-!
# Places in writing

The text of a place is its root, and behind it the steps that lead down, a
name behind a dot and a position between brackets. A dot and an opening
bracket are marks: a step begins with one, and has no other in it if its
name has none. So a text that is cut at the marks falls into the root and
the steps (`split_text`), and as a position ends in a closing bracket and
such a name does not, each step can be told from what is left of it. The
steps are read back (`readSteps_text`), and no two ways down from a root
are written alike.

The root may be any text but the empty one, behind which a name would
have no dot. It may have marks in it: it is cut into several pieces then,
always into the same.
-/

namespace DocSite.Place

/-- The characters that steps begin with. -/
def isMark (c : Char) : Bool := c == '.' || c == '['

theorem isMark_eq_false_iff (c : Char) : isMark c = false ↔ c ≠ '.' ∧ c ≠ '[' := by
  unfold isMark
  rw [Bool.or_eq_false_iff, beq_eq_false_iff_ne, beq_eq_false_iff_ne]

/-! ## Steps -/

namespace Step

/-- **A step that can be read back**: the name of a field, if it is one, has
no character in it that belongs to the writing of steps. It may be
empty. -/
def IsPlain : Step → Prop
  | .key name => ∀ c ∈ name.toList, c ≠ '.' ∧ c ≠ '[' ∧ c ≠ ']'
  | .index _ => True

-- The instance is named, as searching may come upon one that tries all
-- characters there are.
instance : DecidablePred IsPlain
  | .key name => List.decidableBAll (fun c => c ≠ '.' ∧ c ≠ '[' ∧ c ≠ ']') name.toList
  | .index _ => inferInstanceAs (Decidable True)

/-- The mark a step begins with. -/
def mark : Step → Char
  | .key _ => '.'
  | .index _ => '['

/-- What is written behind the mark of a step. -/
def body : Step → List Char
  | .key name => name.toList
  | .index position => (toString position).toList ++ [']']

theorem isMark_mark (step : Step) : isMark step.mark = true := by
  cases step <;> rfl

theorem toList_toString (position : Nat) :
    (toString position).toList = Nat.toDigits 10 position := by
  rw [Nat.toString_eq_ofList_toDigits, String.toList_ofList]

/-- Behind its mark a step has none. -/
theorem isMark_of_mem_body {step : Step} (h : step.IsPlain) {c : Char} (hc : c ∈ step.body) :
    isMark c = false := by
  rw [isMark_eq_false_iff]
  cases step with
  | key name => exact ⟨(h c hc).1, (h c hc).2.1⟩
  | index position =>
    rcases List.mem_append.mp hc with hc | hc
    · rw [toList_toString] at hc
      have hdigit := Nat.isDigit_of_mem_toDigits (by decide) (by decide) hc
      constructor
      · rintro rfl
        exact absurd hdigit (by decide)
      · rintro rfl
        exact absurd hdigit (by decide)
    · rw [List.mem_singleton.mp hc]
      decide

/-- **A step in writing**: its mark, and what is behind that. -/
theorem toList_extend {text : String} (h : text ≠ "") (step : Step) :
    (step.extend text).toList = text.toList ++ step.mark :: step.body := by
  cases step with
  | key name =>
    show (if text = "" then name else text ++ "." ++ name).toList = _
    rw [if_neg h, String.toList_append, String.toList_append, List.append_assoc]
    rfl
  | index position =>
    show (text ++ "[" ++ toString position ++ "]").toList = _
    rw [String.toList_append, String.toList_append, String.toList_append, List.append_assoc,
      List.append_assoc]
    rfl

theorem extend_ne_empty {text : String} (h : text ≠ "") (step : Step) : step.extend text ≠ "" := by
  intro hempty
  have hlist := congrArg String.toList hempty
  rw [toList_extend h] at hlist
  exact List.append_ne_nil_of_right_ne_nil _ (List.cons_ne_nil _ _) hlist

/-- **A step is one piece more.** -/
theorem split_extend {text : String} (h : text ≠ "") {step : Step} (hstep : step.IsPlain) :
    Text.split isMark (step.extend text).toList
      = Text.split isMark text.toList ++ [step.body] := by
  rw [toList_extend h, Text.split_append_separator step.isMark_mark,
    Text.split_of_forall fun c hc => isMark_of_mem_body hstep hc]

/-- The step that is left without its mark: a position ends in a closing
bracket. -/
def ofBody (body : List Char) : Step :=
  if body.getLast? = some ']' then .index (Nat.ofDigitChars 10 body.dropLast 0)
  else .key (String.ofList body)

/-- **A step is told from what is left of it.** -/
theorem ofBody_body {step : Step} (h : step.IsPlain) : ofBody step.body = step := by
  cases step with
  | key name =>
    have hlast : name.toList.getLast? ≠ some ']' := by
      intro hlast
      exact (h ']' (List.mem_of_getLast? hlast)).2.2 rfl
    show (if name.toList.getLast? = some ']' then _ else Step.key (String.ofList name.toList)) = _
    rw [if_neg hlast, String.ofList_toList]
  | index position =>
    unfold ofBody body
    rw [List.getLast?_concat, if_pos rfl, List.dropLast_concat, toList_toString,
      Nat.ofDigitChars_ten_toDigits]

end Step

/-! ## Fields and elements -/

theorem text_index_ne_empty (parent : Place) (i : Nat) : (parent.index i).text ≠ "" := by
  unfold index
  rw [text_down]
  intro h
  have hlist := congrArg String.toList h
  simp [Step.extend] at hlist

/-- The text of a field, where its place is not the very beginning. -/
theorem text_key {place : Place} (h : place.text ≠ "") (name : String) :
    (place.key name).text = place.text ++ "." ++ name := by
  unfold key
  rw [text_down]
  show (if place.text = "" then name else place.text ++ "." ++ name) = _
  rw [if_neg h]

/-- **Fields of a place in writing.** -/
theorem text_keys {place : Place} (h : place.text ≠ "") (names : List String) :
    (names.foldl key place).text
      = names.foldl (fun text name => text ++ "." ++ name) place.text := by
  induction names generalizing place with
  | nil => rfl
  | cons name names ih =>
    have hne : (place.key name).text ≠ "" := by
      rw [key, text_down]
      exact Step.extend_ne_empty h _
    rw [List.foldl_cons, List.foldl_cons, ih hne, text_key h]

/-- The steps to a field of a place come behind those to the place. -/
theorem keys_eq (place : Place) (names : List String) :
    names.foldl key place = ⟨place.root, place.steps ++ names.map Step.key⟩ := by
  induction names generalizing place with
  | nil =>
    rw [List.map_nil, List.append_nil]
    rfl
  | cons name names ih =>
    rw [List.foldl_cons, ih, List.map_cons]
    show Place.mk place.root (place.steps ++ [.key name] ++ _) = _
    rw [List.append_assoc]
    rfl

/-! ## Reading back -/

/-- **A place falls into its root and its steps** when its text is cut at
the marks. -/
theorem split_text {root : String} (hroot : root ≠ "") {steps : List Step}
    (hsteps : ∀ step ∈ steps, step.IsPlain) :
    Text.split isMark (text ⟨root, steps⟩).toList
      = Text.split isMark root.toList ++ steps.map Step.body := by
  induction steps generalizing root with
  | nil => exact (List.append_nil _).symm
  | cons step steps ih =>
    -- behind its first step a place is one with a longer root
    have hrest := ih (step.extend_ne_empty hroot) fun s hs => hsteps s (List.mem_cons_of_mem _ hs)
    show Text.split isMark (text ⟨step.extend root, steps⟩).toList = _
    rw [hrest, Step.split_extend hroot (hsteps step List.mem_cons_self), List.append_assoc]
    rfl

/-- **The steps that lead down from a root**, read off a text. -/
def readSteps (root text : String) : List Step :=
  ((Text.split isMark text.toList).drop (Text.split isMark root.toList).length).map Step.ofBody

/-- **The steps of a place are read back** off its text. -/
theorem readSteps_text {root : String} (hroot : root ≠ "") {steps : List Step}
    (hsteps : ∀ step ∈ steps, step.IsPlain) : readSteps root (text ⟨root, steps⟩) = steps := by
  unfold readSteps
  rw [split_text hroot hsteps, List.drop_left, List.map_map]
  exact (List.map_congr_left fun step hstep => Step.ofBody_body (hsteps step hstep)).trans
    (List.map_id steps)

/-- The field of an item, read back. -/
example : readSteps "sidebar" "sidebar[1].items[0].slug"
    = [.index 1, .key "items", .index 0, .key "slug"] := by
  decide

/-- **Ways down from a root that are written alike are the same.** -/
theorem steps_eq_of_text_eq {root : String} (hroot : root ≠ "") {steps others : List Step}
    (hsteps : ∀ step ∈ steps, step.IsPlain) (hothers : ∀ step ∈ others, step.IsPlain)
    (htext : text ⟨root, steps⟩ = text ⟨root, others⟩) : steps = others := by
  rw [← readSteps_text hroot hsteps, htext, readSteps_text hroot hothers]

end DocSite.Place
