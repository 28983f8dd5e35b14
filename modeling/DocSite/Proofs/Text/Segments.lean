import Mathlib.Data.List.DropRight
import Mathlib.Tactic.Common
import DocSite.Text.Segments

/-!
# Pieces and lines

Cutting a text and joining pieces are inverse to each other where no
piece has the separator in it. What is cut or joined in two parts is
found in two parts again, and with that a text that is written piece by
piece can be followed through both.

Without the slashes around it a text has fewer empty pieces at its ends,
and is otherwise as it was.

The lines of a text are its pieces between line feeds, except that an
editor takes a carriage return for a part of the ending and sees no empty
line at the end. `lines_eq_split` says when that makes no difference.
-/

namespace DocSite.Text

/-! ## Cutting and joining -/

/-- **No piece of a cut text has a separator in it.** -/
theorem of_mem_split {isSeparator : Char → Bool} {text piece : List Char}
    (h : piece ∈ split isSeparator text) {c : Char} (hc : c ∈ piece) : isSeparator c = false := by
  induction text generalizing piece with
  | nil =>
    rw [split, List.mem_singleton] at h
    rw [h] at hc
    exact absurd hc List.not_mem_nil
  | cons d rest ih =>
    unfold split at h
    by_cases hd : isSeparator d = true
    · rw [if_pos hd] at h
      rcases List.mem_cons.mp h with rfl | h
      · exact absurd hc List.not_mem_nil
      · exact ih h hc
    · rw [if_neg hd] at h
      cases hs : split isSeparator rest with
      | nil => exact absurd hs (split_ne_nil _ _)
      | cons first pieces =>
        rw [hs] at h
        dsimp only at h
        rw [hs] at ih
        rcases List.mem_cons.mp h with rfl | h
        · rcases List.mem_cons.mp hc with rfl | hc
          · exact Bool.eq_false_iff.mpr hd
          · exact ih List.mem_cons_self hc
        · exact ih (List.mem_cons_of_mem _ h) hc

theorem notMem_of_mem_split {separator : Char} {text piece : List Char}
    (h : piece ∈ split (· == separator) text) : separator ∉ piece := by
  intro hmem
  have hne := of_mem_split h hmem
  rw [beq_self_eq_true] at hne
  exact Bool.false_ne_true hne.symm

/-- A text is cut at the separators it has. -/
theorem split_congr {p q : Char → Bool} {text : List Char} (h : ∀ c ∈ text, p c = q c) :
    split p text = split q text := by
  induction text with
  | nil => rfl
  | cons c rest ih =>
    rw [split, split, h c List.mem_cons_self, ih fun d hd => h d (List.mem_cons_of_mem _ hd)]

/-- **A text is cut at a separator** as what stands before it and what
stands behind it. -/
theorem split_append_separator {isSeparator : Char → Bool} {c : Char} (hc : isSeparator c = true)
    (first rest : List Char) :
    split isSeparator (first ++ c :: rest) = split isSeparator first ++ split isSeparator rest := by
  induction first with
  | nil =>
    show (if isSeparator c = true then _ else _) = [] :: split isSeparator rest
    rw [if_pos hc]
  | cons d first ih =>
    rw [List.cons_append, split, split, ih]
    by_cases hd : isSeparator d = true
    · rw [if_pos hd, if_pos hd]
      rfl
    · rw [if_neg hd, if_neg hd]
      cases hs : split isSeparator first with
      | nil => exact absurd hs (split_ne_nil _ _)
      | cons piece pieces => rfl

/-- A text is cut at the one character that separates it. -/
theorem split_append_cons (separator : Char) (first rest : List Char) :
    split (· == separator) (first ++ separator :: rest)
      = split (· == separator) first ++ split (· == separator) rest :=
  @split_append_separator (· == separator) separator (beq_self_eq_true separator) first rest

theorem split_of_forall {isSeparator : Char → Bool} {piece : List Char}
    (h : ∀ c ∈ piece, isSeparator c = false) : split isSeparator piece = [piece] := by
  induction piece with
  | nil => rfl
  | cons c piece ih =>
    have hc : ¬isSeparator c = true := Bool.eq_false_iff.mp (h c List.mem_cons_self)
    rw [split, if_neg hc, ih (fun d hd => h d (List.mem_cons_of_mem _ hd))]

theorem split_of_notMem {separator : Char} {piece : List Char} (h : separator ∉ piece) :
    split (· == separator) piece = [piece] := by
  refine split_of_forall fun c hc => beq_eq_false_iff_ne.mpr ?_
  rintro rfl
  exact h hc

/-- A piece without the separator in front of a text. -/
theorem split_append {separator : Char} {piece : List Char} (h : separator ∉ piece)
    (rest : List Char) :
    split (· == separator) (piece ++ separator :: rest)
      = piece :: split (· == separator) rest := by
  rw [split_append_cons, split_of_notMem h]
  rfl

/-- What has no separator in it stands at the beginning of the first
piece. -/
theorem split_append_of_notMem {separator : Char} {front : List Char} (h : separator ∉ front)
    (rest : List Char) : ∃ piece pieces,
    split (· == separator) (front ++ rest) = (front ++ piece) :: pieces := by
  induction front with
  | nil => exact List.exists_cons_of_ne_nil (split_ne_nil _ rest)
  | cons c front ih =>
    obtain ⟨piece, pieces, hpieces⟩ := ih (fun hmem => h (List.mem_cons_of_mem _ hmem))
    have hc : ¬(c == separator) = true := by
      intro heq
      exact h (eq_of_beq heq ▸ List.mem_cons_self)
    refine ⟨piece, pieces, ?_⟩
    rw [List.cons_append, split, if_neg hc, hpieces]
    rfl

theorem join_append (separator : Char) {first second : List (List Char)} (hfirst : first ≠ [])
    (hsecond : second ≠ []) :
    join separator (first ++ second)
      = join separator first ++ separator :: join separator second := by
  induction first with
  | nil => exact absurd rfl hfirst
  | cons piece first ih =>
    cases first with
    | nil =>
      obtain ⟨next, rest, rfl⟩ := List.exists_cons_of_ne_nil hsecond
      rfl
    | cons next first =>
      show piece ++ separator :: join separator (next :: first ++ second) = _
      rw [ih (List.cons_ne_nil _ _)]
      exact (List.append_assoc piece (separator :: join separator (next :: first)) _).symm

/-- **Cutting undoes joining**, if no piece has the separator in it. -/
theorem split_join {separator : Char} {pieces : List (List Char)} (hne : pieces ≠ [])
    (h : ∀ piece ∈ pieces, separator ∉ piece) :
    split (· == separator) (join separator pieces) = pieces := by
  induction pieces with
  | nil => exact absurd rfl hne
  | cons piece pieces ih =>
    have hpiece := h piece List.mem_cons_self
    cases pieces with
    | nil => exact split_of_notMem hpiece
    | cons next pieces =>
      show split (· == separator) (piece ++ separator :: join separator (next :: pieces)) = _
      rw [split_append hpiece, ih (List.cons_ne_nil _ _)
        (fun p hp => h p (List.mem_cons_of_mem _ hp))]

/-- What is in joined pieces is in one of them, or is the separator. -/
theorem mem_join {separator c : Char} {pieces : List (List Char)}
    (h : c ∈ join separator pieces) : c = separator ∨ ∃ piece ∈ pieces, c ∈ piece := by
  induction pieces with
  | nil => exact absurd h List.not_mem_nil
  | cons piece pieces ih =>
    cases pieces with
    | nil => exact Or.inr ⟨piece, List.mem_cons_self, h⟩
    | cons next pieces =>
      rcases List.mem_append.mp h with h | h
      · exact Or.inr ⟨piece, List.mem_cons_self, h⟩
      · rcases List.mem_cons.mp h with h | h
        · exact Or.inl h
        · refine (ih h).imp id ?_
          rintro ⟨p, hp, hc⟩
          exact ⟨p, List.mem_cons_of_mem _ hp, hc⟩

theorem mem_join_of_mem {separator c : Char} {piece : List Char} {pieces : List (List Char)}
    (hp : piece ∈ pieces) (hc : c ∈ piece) : c ∈ join separator pieces := by
  induction pieces with
  | nil => exact absurd hp List.not_mem_nil
  | cons first pieces ih =>
    cases pieces with
    | nil =>
      rw [List.mem_singleton.mp hp] at hc
      exact hc
    | cons next pieces =>
      refine List.mem_append.mpr ?_
      rcases List.mem_cons.mp hp with rfl | hp
      · exact Or.inl hc
      · exact Or.inr (List.mem_cons_of_mem _ (ih hp))

/-! ## Slashes around a text -/

/-- Slashes are taken off the front, and then off the end. -/
theorem trimSlashes_eq (text : List Char) :
    trimSlashes text = (text.dropWhile (· == '/')).rdropWhile (· == '/') := rfl

/-- **What is left without the slashes around it does not begin with
one.** -/
theorem head?_trimSlashes (text : List Char) : (trimSlashes text).head? ≠ some '/' := by
  intro hhead
  obtain ⟨rest, hrest⟩ := List.head?_eq_some_iff.mp hhead
  have hprefix : trimSlashes text <+: text.dropWhile (· == '/') := List.rdropWhile_prefix _ _
  obtain ⟨behind, hbehind⟩ := hprefix
  have hfirst := List.head?_dropWhile_not (· == '/') text
  rw [← hbehind, hrest] at hfirst
  exact absurd hfirst (by simp)

theorem getLast?_trimSlashes (text : List Char) : (trimSlashes text).getLast? ≠ some '/' := by
  intro hlast
  rw [List.getLast?_eq_some_iff] at hlast
  obtain ⟨front, hfront⟩ := hlast
  have hnot := List.rdropWhile_last_not (· == '/') (text.dropWhile (· == '/')) (by
    rw [← trimSlashes_eq, hfront]
    exact List.append_ne_nil_of_right_ne_nil _ (List.cons_ne_nil _ _))
  simp only [← trimSlashes_eq, hfront, List.getLast_concat] at hnot
  exact hnot (beq_self_eq_true '/')

/-- **A text with a slash in front and no other around it** is the text
again. -/
theorem trimSlashes_cons {text : List Char} (hhead : text.head? ≠ some '/')
    (hlast : text.getLast? ≠ some '/') : trimSlashes ('/' :: text) = text := by
  have hfront : text.dropWhile (· == '/') = text := by
    cases text with
    | nil => rfl
    | cons c rest =>
      refine List.dropWhile_cons_of_neg ?_
      rw [beq_iff_eq]
      rintro rfl
      exact hhead rfl
  rw [trimSlashes_eq, List.dropWhile_cons, if_pos (beq_self_eq_true '/'), hfront]
  refine List.rdropWhile_eq_self_iff.mpr fun hne hslash => hlast ?_
  rw [List.getLast?_eq_some_getLast hne, eq_of_beq hslash]

theorem trimSlashes_concat (text : List Char) : trimSlashes (text ++ ['/']) = trimSlashes text := by
  rw [trimSlashes_eq, trimSlashes_eq, List.dropWhile_append]
  by_cases hempty : text.dropWhile (· == '/') = []
  · rw [hempty]
    rfl
  · rw [if_neg (by simpa using hempty), List.rdropWhile_concat, if_pos (beq_self_eq_true '/')]

/-- The pieces of a text without its last slashes are pieces of the
text. -/
theorem mem_split_of_rdropWhile {text piece : List Char}
    (h : piece ∈ split (· == '/') (text.rdropWhile (· == '/'))) : piece ∈ split (· == '/') text := by
  induction text using List.reverseRecOn with
  | nil => exact h
  | append_singleton front c ih =>
    rw [List.rdropWhile_concat] at h
    split at h
    · next hc =>
      rw [eq_of_beq hc, split_append_cons]
      exact List.mem_append_left _ (ih h)
    · exact h

/-- **The pieces of a text without the slashes around it** are pieces of
the text. -/
theorem mem_split_of_trimSlashes {text piece : List Char}
    (h : piece ∈ split (· == '/') (trimSlashes text)) : piece ∈ split (· == '/') text := by
  have hfront := mem_split_of_rdropWhile h
  clear h
  induction text with
  | nil => exact hfront
  | cons c rest ih =>
    rw [List.dropWhile_cons] at hfront
    by_cases hc : (c == '/') = true
    · rw [if_pos hc] at hfront
      rw [split, if_pos hc]
      exact List.mem_cons_of_mem _ (ih hfront)
    · rw [if_neg hc] at hfront
      exact hfront

/-! ## Lines -/

/-- The last piece of a text is empty only behind a separator. -/
theorem getLast?_split {separator : Char} {text : List Char} (hne : text ≠ [])
    (h : text.getLast? ≠ some separator) : (split (· == separator) text).getLast? ≠ some [] := by
  intro hlast
  obtain ⟨front, hfront⟩ := List.getLast?_eq_some_iff.mp hlast
  have htext := join_split separator text
  rw [hfront] at htext
  cases front with
  | nil => exact hne htext.symm
  | cons piece front =>
    rw [join_append separator (List.cons_ne_nil _ _) (List.cons_ne_nil _ _)] at htext
    refine h ?_
    rw [← htext]
    exact List.getLast?_concat

theorem dropReturn_of_notMem {line : List Char} (h : '\r' ∉ line) : dropReturn line = line := by
  unfold dropReturn
  split
  · next before hbefore =>
    have hmem : '\r' ∈ line.reverse := by
      rw [hbefore]
      exact List.mem_cons_self
    exact absurd (List.mem_reverse.mp hmem) h
  · rfl

/-- **The lines of a text are its pieces** if no carriage return is in it
and it does not end with a line feed. -/
theorem lines_eq_split {text : List Char} (hreturn : '\r' ∉ text) (hne : text ≠ [])
    (h : text.getLast? ≠ some '\n') : lines text = split (· == '\n') text := by
  obtain ⟨front, last, hpieces⟩ : ∃ front last, split (· == '\n') text = front ++ [last] :=
    ⟨_, _, (List.dropLast_concat_getLast (split_ne_nil _ text)).symm⟩
  have hlast : last ≠ [] := by
    intro hempty
    have hend := getLast?_split hne h
    rw [hpieces, hempty, List.getLast?_concat] at hend
    exact hend rfl
  have hfront : front.map dropReturn = front := by
    refine (List.map_congr_left fun line hline => ?_).trans (List.map_id front)
    refine dropReturn_of_notMem fun hmem => hreturn ?_
    rw [← join_split '\n' text, hpieces]
    exact mem_join_of_mem (List.mem_append_left _ hline) hmem
  unfold lines
  dsimp only
  rw [hpieces, List.dropLast_concat, List.getLast?_concat, hfront]
  show front ++ (if last.isEmpty then [] else [last]) = _
  rw [if_neg (by simpa using hlast)]

/-- **Lines written one after the other** are found again. -/
theorem split_flatMap {separator : Char} {lines : List (List Char)}
    (h : ∀ line ∈ lines, separator ∉ line) (rest : List Char) :
    split (· == separator) (lines.flatMap (· ++ [separator]) ++ rest)
      = lines ++ split (· == separator) rest := by
  induction lines with
  | nil => rfl
  | cons line lines ih =>
    rw [List.flatMap_cons, List.append_assoc, List.append_assoc, List.singleton_append,
      split_append (h line List.mem_cons_self),
      ih (fun other hother => h other (List.mem_cons_of_mem _ hother))]
    rfl

/-! ## Words at the beginning -/

/-- A word is stripped off the texts that begin with it. -/
theorem stripPrefix?_eq_some_iff (word text rest : List Char) :
    stripPrefix? word text = some rest ↔ text = word ++ rest := by
  induction word generalizing text with
  | nil =>
    rw [stripPrefix?, Option.some_inj]
    exact Iff.rfl
  | cons w word ih =>
    cases text with
    | nil => simp [stripPrefix?]
    | cons c text =>
      rw [stripPrefix?]
      by_cases hc : w = c
      · rw [if_pos hc, ih, hc, List.cons_append, List.cons.injEq]
        exact (and_iff_right rfl).symm
      · rw [if_neg hc, List.cons_append, List.cons.injEq]
        exact ⟨fun h => absurd h (by simp), fun h => absurd h.1.symm hc⟩

end DocSite.Text
