import Mathlib.Tactic.Common
import DocSite.Proofs.Text.Segments
import DocSite.Site.RelativePath

/-!
# What a relative path is

`fault?` looks for faults one after the other and reports the first. What
is left when it finds none is said here without an order: a relative path
is one segment or more, joined by slashes, each of which names something
(`fault?_eq_none_iff`).

The argument is that cutting and joining are inverse to each other where
no piece has the separator in it. That the ends of a path are not slashes
needs no care of its own then, for a path that ended in one would have an
empty segment there.

What is asked of a path is asked of each segment alone. So it makes no
difference where a path is cut at its slashes: both parts are paths, and
joined they are the path again (`paths_accepted`).
-/

namespace DocSite

namespace RelativePath

/-- **A segment that names something**: it is not empty, neither `.` nor
`..`, and has no blanks. -/
structure IsSegment (segment : List Char) : Prop where
  /-- It is not empty. -/
  ne_nil : segment ≠ []
  /-- It does not stay where it is. -/
  ne_dot : segment ≠ ['.']
  /-- It does not lead up. -/
  ne_dots : segment ≠ ['.', '.']
  /-- No segment goes on behind a slash. -/
  slash : '/' ∉ segment
  /-- It has no blanks. -/
  blank : ∀ c ∈ segment, Text.isBlank c = false

/-- **A relative path**: segments that name something, at least one, with
slashes between them. -/
def IsPath (text : String) : Prop :=
  ∃ segments : List (List Char), segments ≠ [] ∧ (∀ segment ∈ segments, IsSegment segment)
    ∧ text.toList = Text.join '/' segments

/-- **A path is a text all of whose segments name something.** What it is
joined of is what it is cut into. -/
theorem isPath_iff_segments (text : String) :
    IsPath text ↔ ∀ segment ∈ segments text, IsSegment segment := by
  constructor
  · rintro ⟨pieces, hne, hpieces, htext⟩
    unfold segments
    rw [htext, Text.split_join hne (fun piece hp => (hpieces piece hp).slash)]
    exact hpieces
  · intro h
    exact ⟨segments text, Text.split_ne_nil _ _, h, (Text.join_split '/' text.toList).symm⟩

theorem isIdle_eq_false_iff (segment : List Char) :
    isIdle segment = false ↔ segment ≠ [] ∧ segment ≠ ['.'] ∧ segment ≠ ['.', '.'] := by
  unfold isIdle
  rw [Bool.or_eq_false_iff, Bool.or_eq_false_iff, List.isEmpty_eq_false_iff,
    beq_eq_false_iff_ne, beq_eq_false_iff_ne, and_assoc]

theorem isPath_iff (text : String) :
    IsPath text ↔ Text.hasBlank text = false ∧ (segments text).any isIdle = false := by
  rw [isPath_iff_segments, Text.hasBlank, List.any_eq_false, List.any_eq_false]
  have htext : Text.join '/' (segments text) = text.toList := Text.join_split '/' text.toList
  constructor
  · intro h
    constructor
    · intro c hc
      rw [← htext] at hc
      rcases Text.mem_join hc with rfl | ⟨piece, hp, hc⟩
      · decide
      · rw [(h piece hp).blank c hc]
        exact Bool.false_ne_true
    · intro piece hp
      have hidle := (isIdle_eq_false_iff piece).mpr
        ⟨(h piece hp).ne_nil, (h piece hp).ne_dot, (h piece hp).ne_dots⟩
      rw [hidle]
      exact Bool.false_ne_true
  · rintro ⟨hblank, hidle⟩ piece hp
    obtain ⟨hnil, hdot, hdots⟩ :=
      (isIdle_eq_false_iff piece).mp (Bool.eq_false_iff.mpr (hidle piece hp))
    refine ⟨hnil, hdot, hdots, Text.notMem_of_mem_split hp, fun c hc => ?_⟩
    -- what is in a piece is in the text
    have hmem : c ∈ text.toList := by
      rw [← htext]
      exact Text.mem_join_of_mem hp hc
    exact Bool.eq_false_iff.mpr (hblank c hmem)

theorem ends_of_join {pieces : List (List Char)} (hne : pieces ≠ [])
    (hpieces : ∀ piece ∈ pieces, IsSegment piece) :
    (∃ c ≠ '/', (Text.join '/' pieces).head? = some c)
      ∧ ∃ c ≠ '/', (Text.join '/' pieces).getLast? = some c := by
  constructor
  · cases pieces with
    | nil => exact absurd rfl hne
    | cons piece pieces =>
      have hpiece := hpieces piece List.mem_cons_self
      obtain ⟨c, rest, rfl⟩ := List.exists_cons_of_ne_nil hpiece.ne_nil
      refine ⟨c, fun hc => hpiece.slash (hc ▸ List.mem_cons_self), ?_⟩
      cases pieces <;> rfl
  · induction pieces with
    | nil => exact absurd rfl hne
    | cons piece pieces ih =>
      cases pieces with
      | nil =>
        have hpiece := hpieces piece List.mem_cons_self
        refine ⟨piece.getLast hpiece.ne_nil, fun hc => hpiece.slash (hc ▸ List.getLast_mem _), ?_⟩
        exact List.getLast?_eq_some_getLast hpiece.ne_nil
      | cons next pieces =>
        obtain ⟨c, hc, hlast⟩ := ih (List.cons_ne_nil _ _)
          (fun p hp => hpieces p (List.mem_cons_of_mem _ hp))
        refine ⟨c, hc, ?_⟩
        show (piece ++ '/' :: Text.join '/' (next :: pieces)).getLast? = some c
        rw [List.getLast?_append, List.getLast?_cons, hlast]
        rfl

/-- **Nothing is wrong with a relative path, and with nothing else.** -/
theorem fault?_eq_none_iff (text : String) : fault? text = none ↔ IsPath text := by
  constructor
  · intro h
    rw [isPath_iff]
    unfold fault? at h
    dsimp only at h
    by_cases hblank : Text.hasBlank text = true
    · rw [if_pos hblank] at h
      split_ifs at h
    · by_cases hidle : (segments text).any isIdle = true
      · rw [if_pos hidle] at h
        split_ifs at h
      · exact ⟨Bool.eq_false_iff.mpr hblank, Bool.eq_false_iff.mpr hidle⟩
  · intro h
    obtain ⟨hblank, hidle⟩ := (isPath_iff text).mp h
    obtain ⟨pieces, hpieces, hall, htext⟩ := h
    -- of the faults at the ends neither is there, as segments stand there
    obtain ⟨⟨first, hfirst, hhead⟩, last, hlast, hend⟩ := ends_of_join hpieces hall
    rw [← htext] at hhead hend
    have hne : text.toList.isEmpty = false := by
      cases hs : text.toList with
      | nil =>
        rw [hs] at hhead
        exact absurd hhead (by simp)
      | cons c rest => rfl
    unfold fault?
    dsimp only
    rw [hne, hhead, hend, hblank, hidle, if_neg Bool.false_ne_true, if_neg (by simpa using hfirst),
      if_neg (by simpa using hlast), if_neg Bool.false_ne_true, if_neg Bool.false_ne_true]

/-- A path does not begin with a slash, and so it has a first
character. -/
theorem IsPath.head {text : String} (h : IsPath text) : ∃ c ≠ '/', text.toList.head? = some c := by
  obtain ⟨pieces, hne, hpieces, htext⟩ := h
  rw [htext]
  exact (ends_of_join hne hpieces).1

/-- A path does not end with a slash, and so it has a last character. -/
theorem IsPath.last {text : String} (h : IsPath text) :
    ∃ c ≠ '/', text.toList.getLast? = some c := by
  obtain ⟨pieces, hne, hpieces, htext⟩ := h
  rw [htext]
  exact (ends_of_join hne hpieces).2

/-- The segments of a text below another follow those of the other. -/
theorem segments_below (first second : String) :
    segments (first ++ "/" ++ second) = segments first ++ segments second := by
  have htext : (first ++ "/" ++ second).toList = first.toList ++ '/' :: second.toList := by
    rw [String.toList_append, String.toList_append, List.append_assoc]
    rfl
  unfold segments
  rw [htext, Text.split_append_cons]

/-- **A text below another is a path exactly if both are paths.** -/
theorem isPath_below_iff (first second : String) :
    IsPath (first ++ "/" ++ second) ↔ IsPath first ∧ IsPath second := by
  rw [isPath_iff_segments, isPath_iff_segments, isPath_iff_segments, segments_below,
    List.forall_mem_append]

/-- A path below a path is a path. -/
theorem IsPath.down {first second : String} (h : IsPath first) (h' : IsPath second) :
    IsPath (first ++ "/" ++ second) :=
  (isPath_below_iff first second).mpr ⟨h, h'⟩

/-- Segments of a path make a path, as long as there is one. -/
theorem IsPath.of_subset {text : String} (h : IsPath text) {run : List (List Char)}
    (hne : run ≠ []) (hrun : run ⊆ segments text) : IsPath (String.ofList (Text.join '/' run)) := by
  refine ⟨run, hne, fun segment hsegment => ?_, String.toList_ofList⟩
  exact (isPath_iff_segments text).mp h segment (hrun hsegment)

theorem IsSegment.ended {segment ending : List Char} (h : IsSegment segment)
    (hlength : 2 ≤ ending.length) (hending : ∀ c ∈ ending, c ≠ '/' ∧ Text.isBlank c = false) :
    IsSegment (segment ++ ending) := by
  have hpos := List.length_pos_iff.mpr h.ne_nil
  refine ⟨List.append_ne_nil_of_left_ne_nil h.ne_nil _, ?_, ?_, ?_, ?_⟩
  · intro hdot
    have hlen := congrArg List.length hdot
    rw [List.length_append, List.length_singleton] at hlen
    omega
  · intro hdots
    have hlen := congrArg List.length hdots
    rw [List.length_append, List.length_cons, List.length_singleton] at hlen
    omega
  · intro hslash
    exact (List.mem_append.mp hslash).elim h.slash fun hmem => (hending _ hmem).1 rfl
  · intro c hc
    exact (List.mem_append.mp hc).elim (h.blank c) fun hmem => (hending c hmem).2

/-- **A path with an ending is a path**: the ending goes to the last
segment, and is long enough for it not to become idle. -/
theorem IsPath.ended {text ending : String} (h : IsPath text) (hlength : 2 ≤ ending.toList.length)
    (hending : ∀ c ∈ ending.toList, c ≠ '/' ∧ Text.isBlank c = false) : IsPath (text ++ ending) := by
  obtain ⟨pieces, hne, hpieces, htext⟩ := h
  obtain ⟨front, last, rfl⟩ : ∃ front last, pieces = front ++ [last] :=
    ⟨_, _, (List.dropLast_concat_getLast hne).symm⟩
  have hlast := (hpieces last (List.mem_append_right _ List.mem_cons_self)).ended hlength hending
  refine ⟨front ++ [last ++ ending.toList], List.append_ne_nil_of_right_ne_nil _ (by simp), ?_, ?_⟩
  · intro piece hp
    rcases List.mem_append.mp hp with hp | hp
    · exact hpieces piece (List.mem_append_left _ hp)
    · rw [List.mem_singleton.mp hp]
      exact hlast
  · rw [String.toList_append, htext]
    cases front with
    | nil => rfl
    | cons piece front =>
      rw [Text.join_append '/' (List.cons_ne_nil _ _) (List.cons_ne_nil _ _),
        Text.join_append '/' (List.cons_ne_nil _ _) (List.cons_ne_nil _ _), List.append_assoc]
      rfl

/-! ## What is accepted -/

/-- **Exactly the relative paths are accepted**: segments that name
something, at least one, with slashes between them. So a text with a slash
in it is accepted exactly if what is before the slash and what is behind it
are, and of what is accepted any run of segments is, if there is one in
it. -/
theorem paths_accepted :
    (∀ text, fault? text = none ↔ IsPath text)
      ∧ (∀ first second, fault? (first ++ "/" ++ second) = none
          ↔ fault? first = none ∧ fault? second = none)
      ∧ ∀ text run, fault? text = none → run ≠ [] → run <:+: segments text →
          fault? (String.ofList (Text.join '/' run)) = none := by
  refine ⟨fault?_eq_none_iff, fun first second => ?_, fun text run h hne hrun => ?_⟩
  · rw [fault?_eq_none_iff, fault?_eq_none_iff, fault?_eq_none_iff, isPath_below_iff]
  · have hpath := (fault?_eq_none_iff text).mp h
    exact (fault?_eq_none_iff _).mpr (hpath.of_subset hne hrun.subset)

theorem paths_accepted_guides :
    fault? "guides/setup/linux" = none
      ∧ ["setup".toList, "linux".toList] <:+: segments "guides/setup/linux"
      ∧ fault? (String.ofList (Text.join '/' ["setup".toList, "linux".toList])) = none
      ∧ fault? "guides" = none
      ∧ fault? ("guides" ++ "/" ++ "setup/../linux") ≠ none := by
  have h : fault? "guides/setup/linux" = none := by decide
  have hrun : ["setup".toList, "linux".toList] <:+: segments "guides/setup/linux" :=
    ⟨["guides".toList], [], by decide⟩
  obtain ⟨-, hbelow, hruns⟩ := paths_accepted
  refine ⟨h, hrun, hruns _ _ h (by simp) hrun, by decide, fun hdots => ?_⟩
  exact absurd ((hbelow "guides" "setup/../linux").mp hdots).2 (by decide)

end RelativePath

end DocSite
