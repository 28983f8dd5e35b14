/-!
# Blank text

A character is **blank** when Unicode gives it the property
`White_Space`. Titles and labels count as empty when nothing but blanks
is left of them, and slugs, directories and base paths may hold no
blank at all.

The property has twenty-five characters, so its ranges are written out
here rather than packed into a table. It is wider than ASCII blank
space (it holds the no-break space and the ideographic space) and it
leaves out look-alikes that have no width, such as U+200B and U+FEFF.
-/

namespace DocSite.Text

/-- **The ranges of `White_Space`**, in ascending order, ends
included. -/
def blankRanges : List (Nat × Nat) :=
  [(0x9, 0xD), (0x20, 0x20), (0x85, 0x85), (0xA0, 0xA0), (0x1680, 0x1680), (0x2000, 0x200A),
   (0x2028, 0x2029), (0x202F, 0x202F), (0x205F, 0x205F), (0x3000, 0x3000)]

/-- A character with the property `White_Space`. -/
def isBlank (c : Char) : Bool :=
  blankRanges.any fun range => range.1 ≤ c.toNat && c.toNat ≤ range.2

/-- Nothing but blanks, the empty text included. -/
def blank (text : String) : Bool :=
  text.toList.all isBlank

/-- At least one blank. -/
def hasBlank (text : String) : Bool :=
  text.toList.any isBlank

/-- Blank and free of blanks at once: only the empty text. -/
theorem toList_eq_nil_of_blank {text : String} (h : blank text = true)
    (free : hasBlank text = false) : text.toList = [] := by
  unfold blank at h
  unfold hasBlank at free
  cases hs : text.toList with
  | nil => rfl
  | cons c rest =>
    rw [hs] at h free
    simp_all

end DocSite.Text
