import Mathlib.Data.List.DropRight
import Mathlib.Tactic.Common
import DocSite.Proofs.Url.Scheme

/-!
# A text behind a URL

A URL of the web is read from the left: its scheme, the slashes, the
authority, and the path up to where it ends. None of these is read
differently for a text that follows, if the text begins with one of the
characters that end an authority and the URL does not end in a blank that
would not count without the text. So what is behind the authority is all
that changes (`parse_append`): the text comes behind it.
-/

namespace DocSite.Url

/-! ## Cutting in front of a character -/

section Cutting

variable {α : Type} {p : α → Bool} {c : α}

/-- What is taken from a text ends where it is to end. -/
theorem takeWhile_append_cons (hc : p c = false) (text more : List α) :
    (text ++ c :: more).takeWhile p = text.takeWhile p := by
  induction text with
  | nil => exact List.takeWhile_cons_of_neg (Bool.not_eq_true _ ▸ hc)
  | cons d text ih =>
    rw [List.cons_append, List.takeWhile_cons, List.takeWhile_cons, ih]

/-- The rest of a text has behind it what the text has. -/
theorem dropWhile_append_cons (hc : p c = false) (text more : List α) :
    (text ++ c :: more).dropWhile p = text.dropWhile p ++ c :: more := by
  induction text with
  | nil => exact List.dropWhile_cons_of_neg (Bool.not_eq_true _ ▸ hc)
  | cons d text ih =>
    rw [List.cons_append, List.dropWhile_cons, List.dropWhile_cons, ih]
    split <;> rfl

/-- Nothing is dropped at the end beyond such a character. -/
theorem rdropWhile_append_cons (hc : p c = false) (text more : List α) :
    (text ++ c :: more).rdropWhile p = text ++ c :: more.rdropWhile p := by
  have hreverse : (text ++ c :: more).reverse = more.reverse ++ c :: text.reverse := by simp
  unfold List.rdropWhile
  rw [hreverse, dropWhile_append_cons hc]
  simp

/-- Where something is left, what is taken does not depend on what
follows. -/
theorem takeWhile_append_of_dropWhile {text : List α} (h : text.dropWhile p ≠ []) (more : List α) :
    (text ++ more).takeWhile p = text.takeWhile p := by
  obtain ⟨d, rest, hrest⟩ := List.exists_cons_of_ne_nil h
  have hd := List.head?_dropWhile_not p text
  rw [hrest] at hd
  have htext : text = text.takeWhile p ++ d :: rest := by
    rw [← hrest, List.takeWhile_append_dropWhile]
  rw [htext, List.append_assoc, List.cons_append, takeWhile_append_cons hd,
    takeWhile_append_cons hd]

/-- Where something is left, what follows comes behind it. -/
theorem dropWhile_append_of_ne_nil {text : List α} (h : text.dropWhile p ≠ []) (more : List α) :
    (text ++ more).dropWhile p = text.dropWhile p ++ more := by
  rw [List.dropWhile_append, if_neg (by simpa using h)]

end Cutting

/-! ## What counts of a longer text -/

/-- A character that counts at the ends of a text counts anywhere. -/
theorem isLineBlank_eq_false {c : Char} (h : isOuterBlank c = false) : isLineBlank c = false := by
  cases hblank : isLineBlank c with
  | false => rfl
  | true =>
    unfold isLineBlank at hblank
    rw [Bool.or_eq_true, Bool.or_eq_true, beq_iff_eq, beq_iff_eq, beq_iff_eq] at hblank
    rcases hblank with (rfl | rfl) | rfl <;> exact absurd h (by decide)

/-- What counts of a text that follows another. -/
def significantTail (text : List Char) : List Char :=
  (text.rdropWhile isOuterBlank).filter (!isLineBlank ·)

/-- **A text behind another** adds what counts of it, if it does not begin
with a blank and the other does not end in one. -/
theorem significant_append {c mark : Char} (hc : isOuterBlank c = false)
    (hmark : isOuterBlank mark = false) (front more : List Char) :
    significant (front ++ [c] ++ mark :: more)
      = significant (front ++ [c]) ++ mark :: significantTail more := by
  have hline := isLineBlank_eq_false hmark
  show ((_ : List Char).rdropWhile isOuterBlank).filter (!isLineBlank ·)
    = ((_ : List Char).rdropWhile isOuterBlank).filter (!isLineBlank ·) ++ _
  rw [List.append_assoc, List.singleton_append, dropWhile_append_cons hc,
    dropWhile_append_cons hc, List.rdropWhile_concat, if_neg (Bool.eq_false_iff.mp hc),
    ← List.singleton_append, ← List.append_assoc, rdropWhile_append_cons hmark,
    List.filter_append, List.filter_cons, hline]
  rfl

theorem significant_of_all {text : List Char} (h : ∀ c ∈ text, isOuterBlank c = false) :
    significant text = text := by
  have hfront : text.dropWhile isOuterBlank = text := by
    refine List.dropWhile_eq_self_iff.mpr fun hlength => ?_
    rw [h _ (List.getElem_mem hlength)]
    exact Bool.false_ne_true
  have hend : text.rdropWhile isOuterBlank = text := by
    refine List.rdropWhile_eq_self_iff.mpr fun hne => ?_
    rw [h _ (List.getLast_mem hne)]
    exact Bool.false_ne_true
  show ((text.dropWhile isOuterBlank).rdropWhile isOuterBlank).filter (!isLineBlank ·) = text
  rw [hfront, hend, List.filter_eq_self]
  intro c hc
  rw [isLineBlank_eq_false (h c hc)]
  rfl

/-- What a scheme is cut off: it begins with a letter, and a colon is
behind it. -/
theorem scheme?_eq_some_iff (text scheme rest : List Char) :
    scheme? text = some (scheme, rest) ↔ text.dropWhile isSchemeChar = ':' :: rest
      ∧ (text.takeWhile isSchemeChar).head?.any isLetter = true
      ∧ lowered (text.takeWhile isSchemeChar) = scheme := by
  unfold scheme?
  split
  · next behind hbehind =>
    dsimp only
    rw [hbehind, List.cons.injEq, eq_self_iff_true, true_and]
    split
    · next hletter =>
      rw [Option.some.injEq, Prod.mk.injEq, and_iff_right hletter]
      exact and_comm
    · next hletter => exact ⟨nofun, fun h => absurd h.2.1 hletter⟩
  · next hbehind => exact ⟨nofun, fun h => absurd h.1 (hbehind rest)⟩

/-- **A scheme is read off a longer text**, and leaves more behind it. -/
theorem scheme?_append {text scheme rest : List Char} (h : scheme? text = some (scheme, rest))
    (more : List Char) : scheme? (text ++ more) = some (scheme, rest ++ more) := by
  obtain ⟨hrest, hletter, hscheme⟩ := (scheme?_eq_some_iff text scheme rest).mp h
  have hne : text.dropWhile isSchemeChar ≠ [] := by
    rw [hrest]
    exact List.cons_ne_nil _ _
  rw [scheme?_eq_some_iff, dropWhile_append_of_ne_nil hne, takeWhile_append_of_dropWhile hne, hrest]
  exact ⟨rfl, hletter, hscheme⟩

/-! ## What is read behind the scheme -/

/-- An authority with a host is read alike, whether or not something
follows it. -/
theorem authority_of_host {followed : Bool} {text : List Char} {parts : Authority}
    (h : authority followed text = .ok parts) (hhost : parts.host ≠ []) (other : Bool) :
    authority other text = .ok parts := by
  have hread : ∀ followed, (cutAtLastAt text).2 ≠ [] →
      authority followed text = .ok ⟨(cutAtLastAt text).1.any (fun c => c != [] && c != [':']),
        (cutAtPort false (cutAtLastAt text).2).1, (cutAtPort false (cutAtLastAt text).2).2⟩ :=
    fun followed hne => if_neg fun hempty => hne hempty.2.1
  have hne : (cutAtLastAt text).2 ≠ [] := by
    intro hempty
    unfold authority at h
    dsimp only at h
    rw [hempty] at h
    split at h
    · exact absurd h (by simp)
    · injection h with h
      exact hhost (by rw [← h]; rfl)
  rw [hread other hne, ← h, hread followed hne]

/-- **A URL of the web with a text behind it** has its host, and a path
that is read from more. -/
theorem web_append {scheme rest : List Char} {url : Url} (h : web scheme rest = .ok url)
    {mark : Char} (hmark : endsAuthority mark = true) (more : List Char) :
    web scheme (rest ++ mark :: more)
      = .ok { url with
          path := pathOf isAnySlash (untilEnd (behindAuthority rest ++ mark :: more)) } := by
  obtain ⟨parts, host, hparts, hhost, hwebHost, hport, rfl⟩ := (web_eq_ok_iff scheme rest url).mp h
  have hslashes : behindSlashes rest ≠ [] := by
    intro hempty
    rw [hempty] at hparts
    unfold authority at hparts
    injection hparts with hparts
    exact hhost (by rw [← hparts])
  have hbehind : behindSlashes (rest ++ mark :: more) = behindSlashes rest ++ mark :: more :=
    dropWhile_append_of_ne_nil hslashes _
  have hends : (!endsAuthority mark) = false := by rw [hmark]; rfl
  refine (web_eq_ok_iff _ _ _).mpr ⟨parts, host, ?_, hhost, hwebHost, hport, ?_⟩
  · rw [hbehind, takeWhile_append_cons (p := fun c => !endsAuthority c) hends]
    exact authority_of_host hparts hhost _
  · unfold behindAuthority
    rw [hbehind, dropWhile_append_cons (p := fun c => !endsAuthority c) hends]

/-- What is behind the authority is part of the text. -/
theorem mem_of_mem_behindAuthority {rest : List Char} {c : Char} (h : c ∈ behindAuthority rest) :
    c ∈ rest :=
  (List.dropWhile_suffix _).mem ((List.dropWhile_suffix _).mem h)

/-! ## Whole URLs -/

/-- A URL with the scheme of a site is one of the web. -/
theorem parse_of_scheme? {text scheme rest : List Char}
    (h : scheme? (significant text) = some (scheme, rest))
    (hs : Validation.siteSchemes.contains scheme = true) : parse text = web scheme rest := by
  unfold parse
  rw [h]
  dsimp only
  rw [ofScheme_of_siteSchemes hs]

/-- What counts of a text is part of it, and what is behind the scheme is
part of that. -/
theorem mem_of_scheme? {text scheme rest : List Char}
    (h : scheme? (significant text) = some (scheme, rest)) {c : Char} (hc : c ∈ rest) :
    c ∈ text := by
  have hsignificant : c ∈ significant text := by
    refine (List.dropWhile_suffix isSchemeChar).mem ?_
    rw [((scheme?_eq_some_iff _ _ _).mp h).1]
    exact List.mem_cons_of_mem _ hc
  exact (List.dropWhile_suffix isOuterBlank).mem
    ((List.rdropWhile_prefix isOuterBlank _).mem (List.mem_filter.mp hsignificant).1)

/-- What a text begins with that follows a URL ends an authority, and is
no blank. -/
theorem of_mem_marks {mark : Char} (h : mark ∈ ['/', '?', '#']) :
    isOuterBlank mark = false ∧ endsAuthority mark = true := by
  simp only [List.mem_cons, List.not_mem_nil, or_false] at h
  rcases h with rfl | rfl | rfl <;> decide

/-- **A URL of a site with a text behind it.** The URL does not end in a
blank. Its path is read from some part of it, and with a text behind it,
which begins with a slash or with what ends a path, from that part with
the text behind it. -/
theorem parse_append {text : List Char} {url : Url} (h : parse text = .ok url)
    (hs : Validation.siteSchemes.contains url.scheme = true)
    (hlast : ∀ c, text.getLast? = some c → isOuterBlank c = false) :
    ∃ behind, (∀ c ∈ behind, c ∈ text) ∧ url.path = pathOf isAnySlash (untilEnd behind)
      ∧ ∀ mark ∈ ['/', '?', '#'], ∀ more, parse (text ++ mark :: more)
        = .ok { url with
            path := pathOf isAnySlash (untilEnd (behind ++ mark :: significantTail more)) } := by
  obtain ⟨rest, hscheme, hweb⟩ := exists_web_of_parse h hs
  have hne : text ≠ [] := by
    rintro rfl
    exact absurd ((scheme?_eq_some_iff _ _ _).mp hscheme).1 (by simp [significant])
  obtain ⟨front, c, rfl⟩ : ∃ front c, text = front ++ [c] :=
    ⟨_, _, (List.dropLast_concat_getLast hne).symm⟩
  have hc := hlast c List.getLast?_concat
  refine ⟨behindAuthority rest, fun d hd => mem_of_scheme? hscheme (mem_of_mem_behindAuthority hd),
    ?_, fun mark hmark more => ?_⟩
  · obtain ⟨parts, host, -, -, -, -, hurl⟩ := (web_eq_ok_iff _ _ _).mp hweb
    rw [hurl]
  · obtain ⟨hblank, hends⟩ := of_mem_marks hmark
    have hlonger := scheme?_append hscheme (mark :: significantTail more)
    rw [← significant_append hc hblank] at hlonger
    rw [parse_of_scheme? hlonger hs, web_append hweb hends]

/-! ## Where the path ends -/

/-- What does not end a path. -/
theorem endsPath_eq_false_iff (c : Char) : endsPath c = false ↔ c ≠ '?' ∧ c ≠ '#' := by
  unfold endsPath
  rw [Bool.or_eq_false_iff, beq_eq_false_iff_ne, beq_eq_false_iff_ne]

theorem untilEnd_of_all {text : List Char} (h : ∀ c ∈ text, endsPath c = false) :
    untilEnd text = text := by
  refine List.takeWhile_eq_self_iff.mpr fun c hc => ?_
  rw [h c hc]
  rfl

/-- A path ends where it is to end. -/
theorem untilEnd_append {mark : Char} (hmark : endsPath mark = true) (text more : List Char) :
    untilEnd (text ++ mark :: more) = untilEnd text := by
  refine takeWhile_append_cons (p := fun c => !endsPath c) ?_ text more
  rw [hmark]
  rfl

end DocSite.Url
