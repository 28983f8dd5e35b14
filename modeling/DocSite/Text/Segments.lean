/-!
# Cutting text at separators

`split` cuts a list of characters at every separator and keeps the empty
pieces, so that `join` with a one-character separator undoes it –
`join_split`. `lines` cuts a text into the lines an editor shows: a line
ends at a line feed, a carriage return before it is part of the ending,
and no empty line follows the last ending.
-/

namespace DocSite.Text

/-- The pieces between the characters that `isSeparator` accepts. There
is always at least one piece, and it may be empty. -/
def split (isSeparator : Char → Bool) : List Char → List (List Char)
  | [] => [[]]
  | c :: rest =>
    if isSeparator c then [] :: split isSeparator rest
    else
      match split isSeparator rest with
      | [] => [[c]]
      | piece :: pieces => (c :: piece) :: pieces

/-- The pieces with one separator between neighbours. -/
def join (separator : Char) : List (List Char) → List Char
  | [] => []
  | [piece] => piece
  | piece :: pieces => piece ++ separator :: join separator pieces

theorem split_ne_nil (isSeparator : Char → Bool) (text : List Char) :
    split isSeparator text ≠ [] := by
  cases text with
  | nil => simp [split]
  | cons c rest =>
    unfold split
    split
    · simp
    · split <;> simp

/-- **Joining undoes cutting.** -/
theorem join_split (separator : Char) (text : List Char) :
    join separator (split (· == separator) text) = text := by
  induction text with
  | nil => rfl
  | cons c rest ih =>
    unfold split
    by_cases h : c = separator
    · subst h
      simp only [beq_self_eq_true, if_true]
      cases hs : split (· == c) rest with
      | nil => exact absurd hs (split_ne_nil _ _)
      | cons piece pieces =>
        rw [hs] at ih
        simp [join, ih]
    · have hne : (c == separator) = false := by simpa using h
      simp only [hne, Bool.false_eq_true, if_false]
      cases hs : split (· == separator) rest with
      | nil => exact absurd hs (split_ne_nil _ _)
      | cons piece pieces =>
        rw [hs] at ih
        cases pieces with
        | nil => simpa [join] using ih
        | cons next more => simpa [join] using ih

/-- One line without its ending: a carriage return directly before the
line feed goes with it. -/
def dropReturn (line : List Char) : List Char :=
  match line.reverse with
  | '\r' :: before => before.reverse
  | _ => line

/-- **The lines of a text.** What stands after the last line feed is a
line of its own unless it is empty, and a carriage return there is an
ordinary character. -/
def lines (text : List Char) : List (List Char) :=
  let pieces := split (· == '\n') text
  let last := pieces.getLast?.getD []
  pieces.dropLast.map dropReturn ++ (if last.isEmpty then [] else [last])

/-- Strips a leading word, if the text begins with it. -/
def stripPrefix? : List Char → List Char → Option (List Char)
  | [], text => some text
  | _ :: _, [] => none
  | w :: word, c :: text => if w = c then stripPrefix? word text else none

/-- The text without the slashes around it. -/
def trimSlashes (text : List Char) : List Char :=
  ((text.dropWhile (· == '/')).reverse.dropWhile (· == '/')).reverse

end DocSite.Text
