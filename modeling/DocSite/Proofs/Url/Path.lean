import Mathlib.Tactic.Common
import DocSite.Proofs.Text.Segments
import DocSite.Text.Blank
import DocSite.Url.Basic

/-!
# The path of a URL of the web

Whatever is behind the host of a URL of the web, its path is written from
segments that are settled: each is plain ASCII without any character that
a path reserves, and none stands for staying or for leaving
(`isWebPath_pathOf`). A path of that kind is read as itself
(`IsWebPath.pathOf_eq`), so reading a path settles it once and for all.

Reading a path is a walk over its segments. What a step keeps settled,
the walk keeps settled; and where all segments are, no step does anything
but keep them.
-/

namespace DocSite.Url

/-! ## Characters -/

/-- **A character that a path is written with** as it is. -/
structure IsPathChar (c : Char) : Prop where
  /-- It is in ASCII. -/
  ascii : c.toNat < 0x80
  /-- It is not reserved. -/
  free : isPathReserved c = false
  /-- It is no slash of either kind. -/
  slash : isAnySlash c = false

instance : DecidablePred IsPathChar := fun c =>
  decidable_of_iff (c.toNat < 0x80 ∧ isPathReserved c = false ∧ isAnySlash c = false)
    ⟨fun h => ⟨h.1, h.2.1, h.2.2⟩, fun h => ⟨h.ascii, h.free, h.slash⟩⟩

namespace IsPathChar

variable {c : Char}

theorem ne (h : IsPathChar c) {d : Char} (hd : ¬IsPathChar d) : c ≠ d := by
  rintro rfl
  exact hd h

theorem control (h : IsPathChar c) : isControl c = false := by
  cases hc : isControl c with
  | false => rfl
  | true =>
    have hfree := h.free
    unfold isPathReserved at hfree
    rw [hc] at hfree
    exact absurd hfree (by simp)

theorem space_lt (h : IsPathChar c) : 0x20 < c.toNat := by
  have hcontrol := h.control
  unfold isControl at hcontrol
  rw [Bool.or_eq_false_iff, decide_eq_false_iff_not] at hcontrol
  have hspace : c.toNat ≠ 0x20 := fun heq => h.ne (d := ' ') (by decide) (Char.toNat_inj.mp heq)
  omega

/-- **No such character is blank.** -/
theorem isBlank (h : IsPathChar c) : Text.isBlank c = false := by
  have hlow := h.space_lt
  have hhigh := h.ascii
  have houtside : ∀ range ∈ Text.blankRanges, range.2 ≤ 0x20 ∨ 0x80 ≤ range.1 := by decide
  refine List.any_eq_false.mpr fun range hrange hblank => ?_
  rw [Bool.and_eq_true, decide_eq_true_iff, decide_eq_true_iff] at hblank
  have hrange := houtside range hrange
  omega

end IsPathChar

/-- Whether a text is written with characters of a path can be decided
character by character. -/
theorem isPathChar_of_all {text : List Char} (h : text.all (fun c => decide (IsPathChar c)) = true) :
    ∀ c ∈ text, IsPathChar c :=
  fun c hc => of_decide_eq_true (List.all_eq_true.mp h c hc)

/-- The digits of a byte are characters of a path. -/
theorem isPathChar_digitChar : ∀ n < 16, IsPathChar (Nat.digitChar n).toUpper := by
  decide

/-- **What is encoded is written with characters of a path.** -/
theorem isPathChar_of_mem_encodeChar {c d : Char} (h : d ∈ encodeChar c) : IsPathChar d := by
  obtain ⟨byte, -, hd⟩ := List.mem_flatMap.mp h
  have hbyte : byte.toNat < 256 := byte.toNat_lt
  unfold encodeByte at hd
  simp only [List.mem_cons, List.not_mem_nil, or_false] at hd
  rcases hd with rfl | rfl | rfl
  · decide
  · exact isPathChar_digitChar _ (by omega)
  · exact isPathChar_digitChar _ (by omega)

theorem isPathChar_of_mem_percentEncode {piece : List Char}
    (hpiece : ∀ c ∈ piece, isAnySlash c = false) {c : Char}
    (h : c ∈ percentEncode isPathReserved piece) : IsPathChar c := by
  obtain ⟨d, hd, hc⟩ := List.mem_flatMap.mp h
  by_cases hencoded : (isPathReserved d || decide (0x80 ≤ d.toNat)) = true
  · rw [if_pos hencoded] at hc
    exact isPathChar_of_mem_encodeChar hc
  · rw [if_neg hencoded] at hc
    rw [Bool.not_eq_true, Bool.or_eq_false_iff, decide_eq_false_iff_not, Nat.not_le] at hencoded
    rw [List.mem_singleton.mp hc]
    exact ⟨hencoded.2, hencoded.1, hpiece d hd⟩

/-- Characters of a path are not encoded. -/
theorem percentEncode_of_isPathChar {piece : List Char} (h : ∀ c ∈ piece, IsPathChar c) :
    percentEncode isPathReserved piece = piece := by
  induction piece with
  | nil => rfl
  | cons c piece ih =>
    have hc := h c List.mem_cons_self
    have hkept : ¬(isPathReserved c || decide (0x80 ≤ c.toNat)) = true := by
      rw [hc.free, Bool.false_or, decide_eq_true_iff, Nat.not_le]
      exact hc.ascii
    show (if _ then encodeChar c else [c]) ++ percentEncode isPathReserved piece = _
    rw [if_neg hkept, ih fun d hd => h d (List.mem_cons_of_mem _ hd)]
    rfl

/-! ## Segments -/

/-- **A segment that reading a path keeps** as it is. -/
structure IsSettled (segment : Segment) : Prop where
  /-- It is written with characters of a path. -/
  chars : ∀ c ∈ segment, IsPathChar c
  /-- It does not stand for staying. -/
  here : isHere segment = false
  /-- It does not stand for leaving the segment before it. -/
  above : isAbove segment = false

theorem isSettled_nil : IsSettled [] :=
  ⟨fun _ h => absurd h List.not_mem_nil, rfl, rfl⟩

theorem IsSettled.ne_dots {segment : Segment} (h : IsSettled segment) :
    segment ≠ ['.'] ∧ segment ≠ ['.', '.'] := by
  constructor
  · rintro rfl
    exact absurd h.here (by decide)
  · rintro rfl
    exact absurd h.above (by decide)

/-- What is left after leaving was there before. -/
theorem mem_of_mem_leave {kept : List Segment} {segment : Segment} (h : segment ∈ leave kept) :
    segment ∈ kept := by
  cases kept with
  | nil => exact h
  | cons last before =>
    rw [leave] at h
    split at h
    · exact h
    · exact List.mem_cons_of_mem _ h

/-- **A step keeps what it keeps settled.** -/
theorem isSettled_of_mem_step {kept : List Segment} (hkept : ∀ s ∈ kept, IsSettled s)
    {segment : Segment} (hchars : ∀ c ∈ segment, IsPathChar c) {s : Segment}
    (h : s ∈ step kept segment) : IsSettled s := by
  unfold step at h
  split at h
  · exact hkept s (mem_of_mem_leave h)
  · next habove =>
    split at h
    · exact hkept s h
    · next hhere =>
      rcases List.mem_cons.mp h with rfl | h
      · exact ⟨hchars, Bool.eq_false_iff.mpr hhere, Bool.eq_false_iff.mpr habove⟩
      · exact hkept s h

/-- The last step does so too. -/
theorem isSettled_of_mem_finish {kept : List Segment} (hkept : ∀ s ∈ kept, IsSettled s)
    {segment : Segment} (hchars : ∀ c ∈ segment, IsPathChar c) {s : Segment}
    (h : s ∈ finish kept segment) : IsSettled s := by
  have hstep : s = [] ∨ s ∈ step kept segment := by
    unfold finish at h
    unfold step
    split
    · next habove =>
      rw [if_pos habove] at h
      exact List.mem_cons.mp h
    · next habove =>
      rw [if_neg habove] at h
      split
      · next hhere =>
        rw [if_pos hhere] at h
        exact List.mem_cons.mp h
      · next hhere =>
        rw [if_neg hhere] at h
        exact Or.inr h
  rcases hstep with rfl | hstep
  · exact isSettled_nil
  · exact isSettled_of_mem_step hkept hchars hstep

/-- **The segments that remain are settled.** -/
theorem isSettled_of_mem_reduce {kept segments : List Segment} (hkept : ∀ s ∈ kept, IsSettled s)
    (hchars : ∀ s ∈ segments, ∀ c ∈ s, IsPathChar c) {s : Segment}
    (h : s ∈ reduce kept segments) : IsSettled s := by
  induction kept, segments using reduce.induct with
  | case1 kept => exact hkept s (List.mem_reverse.mp h)
  | case2 kept last =>
    exact isSettled_of_mem_finish hkept (hchars last List.mem_cons_self) (List.mem_reverse.mp h)
  | case3 kept segment next rest ih =>
    refine ih (fun s => ?_) (fun s hs => hchars s (List.mem_cons_of_mem _ hs)) h
    exact isSettled_of_mem_step hkept (hchars segment List.mem_cons_self)

theorem finish_ne_nil (kept : List Segment) (segment : Segment) : finish kept segment ≠ [] := by
  unfold finish
  split
  · exact List.cons_ne_nil _ _
  · split <;> exact List.cons_ne_nil _ _

/-- **The last segment is read by the last step**, and those before it one
after the other. -/
theorem reduce_concat (kept segments : List Segment) (last : Segment) :
    reduce kept (segments ++ [last]) = (finish (segments.foldl step kept) last).reverse := by
  induction segments generalizing kept with
  | nil => rfl
  | cons segment segments ih =>
    rw [List.foldl_cons, ← ih]
    cases segments <;> rfl

/-- **Settled segments remain as they are.** -/
theorem reduce_of_isSettled (kept : List Segment) {segments : List Segment}
    (h : ∀ s ∈ segments, IsSettled s) : reduce kept segments = kept.reverse ++ segments := by
  have hkeeps : ∀ {s : Segment}, IsSettled s → ∀ kept, step kept s = s :: kept
      ∧ finish kept s = s :: kept := by
    intro s hs kept
    unfold step finish
    rw [hs.above, hs.here]
    exact ⟨rfl, rfl⟩
  induction kept, segments using reduce.induct with
  | case1 kept => exact (List.append_nil _).symm
  | case2 kept last =>
    rw [reduce, (hkeeps (h last List.mem_cons_self) kept).2, List.reverse_cons]
  | case3 kept segment next rest ih =>
    rw [reduce, ih fun s hs => h s (List.mem_cons_of_mem _ hs),
      (hkeeps (h segment List.mem_cons_self) kept).1, List.reverse_cons, List.append_assoc]
    rfl

/-! ## Paths -/

/-- A slash in front of every segment is one in front, and one between
them. -/
theorem written_eq {segments : List Segment} (hne : segments ≠ []) :
    written segments = '/' :: Text.join '/' segments := by
  induction segments with
  | nil => exact absurd rfl hne
  | cons segment segments ih =>
    cases segments with
    | nil => exact List.append_nil _
    | cons next segments =>
      show '/' :: segment ++ written (next :: segments) = _
      rw [ih (List.cons_ne_nil _ _)]
      rfl

/-- **The path of a URL of the web**: settled segments, at least one, with
a slash in front of each. -/
def IsWebPath (path : List Char) : Prop :=
  ∃ segments : List Segment, segments ≠ [] ∧ (∀ s ∈ segments, IsSettled s)
    ∧ path = '/' :: Text.join '/' segments

theorem isPathChar_of_mem_segmentsOf {text : List Char} {segment : Segment}
    (h : segment ∈ segmentsOf isAnySlash text) {c : Char} (hc : c ∈ segment) : IsPathChar c := by
  obtain ⟨piece, hpiece, rfl⟩ := List.mem_map.mp h
  exact isPathChar_of_mem_percentEncode (fun d => Text.of_mem_split hpiece) hc

theorem exists_segmentsOf_eq (text : List Char) :
    ∃ front last, segmentsOf isAnySlash text = front ++ [last] := by
  have hne : segmentsOf isAnySlash text ≠ [] := by
    simpa [segmentsOf] using Text.split_ne_nil isAnySlash text
  exact ⟨_, _, (List.dropLast_concat_getLast hne).symm⟩

/-- **Every text is read as the path of a URL of the web.** -/
theorem isWebPath_pathOf (text : List Char) : IsWebPath (pathOf isAnySlash text) := by
  unfold pathOf
  obtain ⟨front, last, hsegments⟩ := exists_segmentsOf_eq (dropSeparator isAnySlash text)
  have hne : reduce [] (segmentsOf isAnySlash (dropSeparator isAnySlash text)) ≠ [] := by
    rw [hsegments, reduce_concat, ne_eq, List.reverse_eq_nil_iff]
    exact finish_ne_nil _ last
  refine ⟨_, hne, fun s hs => ?_, written_eq hne⟩
  exact isSettled_of_mem_reduce (fun _ h => absurd h List.not_mem_nil)
    (fun s hs c => isPathChar_of_mem_segmentsOf hs) hs

namespace IsWebPath

variable {path : List Char}

theorem chars (h : IsWebPath path) : ∀ c ∈ path, c = '/' ∨ IsPathChar c := by
  obtain ⟨segments, -, hsegments, rfl⟩ := h
  intro c hc
  rcases List.mem_cons.mp hc with hc | hc
  · exact Or.inl hc
  · refine (Text.mem_join hc).imp id ?_
    rintro ⟨s, hs, hc⟩
    exact (hsegments s hs).chars c hc

/-- The pieces between the slashes of a path are settled. -/
theorem isSettled_of_mem_split (h : IsWebPath path) {piece : List Char}
    (hpiece : piece ∈ Text.split (· == '/') path) : IsSettled piece := by
  obtain ⟨segments, hne, hsegments, rfl⟩ := h
  rw [Text.split, if_pos (beq_self_eq_true '/'),
    Text.split_join hne fun s hs hslash => (hsegments s hs).chars '/' hslash |>.ne (by decide) rfl]
    at hpiece
  rcases List.mem_cons.mp hpiece with rfl | hpiece
  · exact isSettled_nil
  · exact hsegments piece hpiece

/-- **A path is read as itself.** -/
theorem pathOf_eq (h : IsWebPath path) : pathOf isAnySlash path = path := by
  have hchars := h.chars
  obtain ⟨segments, hne, hsegments, rfl⟩ := h
  have hsplit : Text.split isAnySlash (Text.join '/' segments) = segments := by
    rw [Text.split_congr (q := (· == '/')) fun c hc => ?_, Text.split_join hne fun s hs hslash =>
      ((hsegments s hs).chars '/' hslash).ne (by decide) rfl]
    -- of the two slashes a path has but one
    rcases hchars c (List.mem_cons_of_mem _ hc) with rfl | hc
    · rfl
    · rw [hc.slash, eq_comm, beq_eq_false_iff_ne]
      exact hc.ne (by decide)
  have hread : segmentsOf isAnySlash (Text.join '/' segments) = segments := by
    unfold segmentsOf
    rw [hsplit]
    exact (List.map_congr_left fun s hs =>
      percentEncode_of_isPathChar (hsegments s hs).chars).trans (List.map_id segments)
  show written (reduce [] (segmentsOf isAnySlash (Text.join '/' segments))) = _
  rw [hread, reduce_of_isSettled [] hsegments]
  exact written_eq hne

/-- **What is left of a path without the slashes around it** is a path
again, behind one slash. -/
theorem trimSlashes (h : IsWebPath path) : IsWebPath ('/' :: Text.trimSlashes path) := by
  refine ⟨Text.split (· == '/') (Text.trimSlashes path), Text.split_ne_nil _ _, fun s hs => ?_, ?_⟩
  · exact h.isSettled_of_mem_split (Text.mem_split_of_trimSlashes hs)
  · rw [Text.join_split]

end IsWebPath

/-! ## A slash behind a path -/

/-- A slash behind a text is one empty segment more. -/
theorem segmentsOf_concat_slash (text : List Char) :
    segmentsOf isAnySlash (text ++ ['/']) = segmentsOf isAnySlash text ++ [[]] := by
  unfold segmentsOf
  rw [Text.split_append_separator (show isAnySlash '/' = true by decide), List.map_append]
  rfl

/-- An empty segment behind the last one: the last step has left it
already, or it comes on top. -/
theorem finish_step (kept : List Segment) (last : Segment) :
    finish (step kept last) [] = finish kept last
      ∨ finish (step kept last) [] = [] :: finish kept last := by
  show [] :: step kept last = _ ∨ [] :: step kept last = _
  unfold step finish
  split
  · exact Or.inl rfl
  · split
    · exact Or.inl rfl
    · exact Or.inr rfl

/-- **A slash behind a text** leaves its path as it is, or is found at its
end. -/
theorem pathOf_concat_slash (text : List Char) :
    pathOf isAnySlash (text ++ ['/']) = pathOf isAnySlash text
      ∨ pathOf isAnySlash (text ++ ['/']) = pathOf isAnySlash text ++ ['/'] := by
  cases text with
  | nil => exact Or.inl rfl
  | cons c rest =>
    have hdrop : dropSeparator isAnySlash (c :: rest ++ ['/'])
        = dropSeparator isAnySlash (c :: rest) ++ ['/'] := by
      show (if _ then rest ++ ['/'] else c :: (rest ++ ['/'])) = (if _ then rest else c :: rest) ++ _
      split <;> rfl
    unfold pathOf
    rw [hdrop, segmentsOf_concat_slash]
    obtain ⟨front, last, hsegments⟩ := exists_segmentsOf_eq (dropSeparator isAnySlash (c :: rest))
    rw [hsegments, reduce_concat, List.foldl_concat, reduce_concat]
    rcases finish_step (front.foldl step []) last with h | h
    · rw [h]
      exact Or.inl rfl
    · rw [h, List.reverse_cons]
      unfold written
      rw [List.flatMap_append]
      exact Or.inr rfl

/-- **A slash behind a text** is lost with the slashes around its path. -/
theorem trimSlashes_pathOf_concat_slash (text : List Char) :
    Text.trimSlashes (pathOf isAnySlash (text ++ ['/']))
      = Text.trimSlashes (pathOf isAnySlash text) := by
  rcases pathOf_concat_slash text with h | h
  · rw [h]
  · rw [h, Text.trimSlashes_concat]

end DocSite.Url
