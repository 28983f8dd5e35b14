import Mathlib.Tactic.Common
import DocSite.Proofs.Files.Write
import DocSite.Proofs.Validation.RelativePath

/-!
# Paths below a root

A path is below a root if it is written as the root and a relative path
behind it. Reading a relative path from a root always gives such a path
(`below_join`), so it never takes the place of the root and never has a
name that leads up or stays.

The text is not all there is to it: where such a path leads on a disk, if
it leads anywhere, is below where the root leads (`Below.leads?`).
-/

namespace DocSite.Files

open RelativePath (IsPath IsSegment)

/-- What stands between a root and what is read from it: a slash, unless
there is one already or the root is no path at all. -/
def separator (root : String) : List Char :=
  if root = "" ∨ root.toList.getLast? = some '/' then [] else ['/']

/-- **A path below a root**: the root, and behind it names that lead down,
at least one. -/
def Below (root path : String) : Prop :=
  ∃ rest, IsPath rest ∧ path.toList = root.toList ++ separator root ++ rest.toList

/-! ## Reading from a root -/

theorem isAbsolute_of_isPath {path : String} (h : IsPath path) : isAbsolute path = false := by
  obtain ⟨c, hc, hhead⟩ := h.head
  unfold isAbsolute
  rw [hhead]
  simpa using hc

/-- **What is read from a root stands behind it.** -/
theorem toList_join {root path : String} (h : IsPath path) :
    (join root path).toList = root.toList ++ separator root ++ path.toList := by
  unfold join separator
  rw [isAbsolute_of_isPath h, if_neg Bool.false_ne_true]
  by_cases hempty : root = ""
  · rw [if_pos hempty, if_pos (Or.inl hempty), hempty]
    rfl
  · by_cases hslash : root.toList.getLast? = some '/'
    · rw [if_neg hempty, if_pos hslash, if_pos (Or.inr hslash), String.toList_append,
        List.append_nil]
    · rw [if_neg hempty, if_neg hslash, if_neg (not_or.mpr ⟨hempty, hslash⟩),
        String.toList_append, String.toList_append]
      rfl

/-- **A relative path read from a root is below it.** -/
theorem below_join (root : String) {path : String} (h : IsPath path) : Below root (join root path) :=
  ⟨path, h, toList_join h⟩

/-- What is read from what is below a root is below it too, one path
behind the other. -/
theorem join_join (root : String) {first second : String} (h : IsPath first) (h' : IsPath second) :
    join (join root first) second = join root (first ++ "/" ++ second) := by
  obtain ⟨c, hc, hlast⟩ := h.last
  have htext := @toList_join root _ h
  have hend : (join root first).toList.getLast? = some c := by
    rw [htext, List.getLast?_append, hlast]
    rfl
  have hsep : separator (join root first) = ['/'] := by
    unfold separator
    rw [if_neg]
    rintro (hempty | hslash)
    · rw [hempty] at hend
      exact absurd hend (by simp)
    · rw [hslash] at hend
      exact hc (Option.some.inj hend).symm
  rw [← String.toList_inj, toList_join h', hsep, htext, toList_join (h.down h'),
    String.toList_append, String.toList_append, List.append_assoc, List.append_assoc,
    List.append_assoc, List.append_assoc, List.append_assoc]
  rfl

/-! ## Where a path below a root leads -/

/-- The names that segments write. -/
def segmentNames (segments : List (List Char)) : List String := segments.map String.ofList

/-- A segment is a name that leads down. -/
theorem name_of_isSegment {segment : List Char} (h : IsSegment segment) :
    String.ofList segment ≠ "" ∧ String.ofList segment ≠ "." ∧ String.ofList segment ≠ ".." := by
  have htext : ∀ text : String, segment ≠ text.toList → String.ofList segment ≠ text := by
    intro text hne heq
    exact hne (by rw [← heq, String.toList_ofList])
  exact ⟨htext "" h.ne_nil, htext "." h.ne_dot, htext ".." h.ne_dots⟩

/-- **Segments lead down**, each one step, if they lead anywhere. -/
theorem Tree.walk_segments {tree : Tree} {here there : List String} {segments : List (List Char)}
    (hsegments : ∀ segment ∈ segments, IsSegment segment)
    (h : tree.walk here (segmentNames segments) = .ok there) :
    there = here ++ segmentNames segments
      ∧ (segments ≠ [] → tree.get? here = some .directory) := by
  induction segments generalizing here with
  | nil =>
    injection h with h
    exact ⟨by rw [← h]; exact (List.append_nil here).symm, fun hne => absurd rfl hne⟩
  | cons segment segments ih =>
    obtain ⟨hempty, hdot, hdots⟩ := name_of_isSegment (hsegments segment List.mem_cons_self)
    have hrest := fun s hs => hsegments s (List.mem_cons_of_mem _ hs)
    have hwalk : tree.walk here (String.ofList segment :: segmentNames segments) = .ok there := h
    cases hitem : tree.get? here with
    | none =>
      rw [Tree.walk, hitem] at hwalk
      exact absurd hwalk (by simp)
    | some item =>
      cases item with
      | file content =>
        rw [Tree.walk, hitem] at hwalk
        exact absurd hwalk (by simp)
      | directory =>
        by_cases hlong : lengthLimits.1 < (String.ofList segment).utf8ByteSize
        · rw [Tree.walk, hitem] at hwalk
          dsimp only at hwalk
          rw [if_neg (not_or.mpr ⟨hempty, hdot⟩), if_neg hdots, if_pos hlong] at hwalk
          exact absurd hwalk (by simp)
        · rw [Tree.walk_down hitem hempty (not_or.mpr ⟨hdot, hdots⟩) hlong] at hwalk
          obtain ⟨hthere, -⟩ := ih hrest hwalk
          refine ⟨?_, fun _ => rfl⟩
          rw [hthere, List.append_assoc]
          rfl

namespace Workspace

/-- The names of a path whose text is a text, a slash and segments. -/
theorem parts_of_slash {path : String} {front : List Char} {segments : List (List Char)}
    (hne : segments ≠ []) (hsegments : ∀ segment ∈ segments, IsSegment segment)
    (h : path.toList = front ++ '/' :: Text.join '/' segments) :
    parts path = (Text.split (· == '/') front).map String.ofList ++ segmentNames segments := by
  unfold parts
  rw [h, Text.split_append_cons, Text.split_join hne fun s hs => (hsegments s hs).slash,
    List.map_append]
  rfl

/-- The names of a path below a root: those of the root, but for an empty
one at its end, and the segments. -/
theorem exists_parts_of_below {root path : String} (h : Below root path) :
    ∃ stem segments, segments ≠ [] ∧ (∀ segment ∈ segments, IsSegment segment)
      ∧ parts path = stem ++ segmentNames segments
      ∧ (parts root = stem ∨ parts root = stem ++ [""]) := by
  obtain ⟨rest, ⟨segments, hne, hsegments, hrest⟩, htext⟩ := h
  unfold separator at htext
  by_cases hempty : root = ""
  · rw [if_pos (Or.inl hempty), hempty, hrest] at htext
    refine ⟨[], segments, hne, hsegments, ?_, Or.inr (by rw [hempty]; rfl)⟩
    unfold parts
    rw [htext]
    show (Text.split (· == '/') (Text.join '/' segments)).map String.ofList = _
    rw [Text.split_join hne fun s hs => (hsegments s hs).slash]
    rfl
  · by_cases hslash : root.toList.getLast? = some '/'
    · -- the slash at the end of the root has an empty name behind it
      obtain ⟨front, hfront⟩ := List.getLast?_eq_some_iff.mp hslash
      rw [if_pos (Or.inr hslash), hfront, hrest, List.append_nil, List.append_assoc] at htext
      refine ⟨_, segments, hne, hsegments, parts_of_slash hne hsegments htext, Or.inr ?_⟩
      unfold parts
      rw [hfront, Text.split_append_cons, List.map_append]
      rfl
    · rw [if_neg (not_or.mpr ⟨hempty, hslash⟩), hrest, List.append_assoc] at htext
      exact ⟨_, segments, hne, hsegments, parts_of_slash hne hsegments htext, Or.inl rfl⟩

/-- A path below a root is read from where the root is read from. -/
theorem start_of_below (w : Workspace) {root path : String} (h : Below root path) :
    w.start path = w.start root := by
  obtain ⟨rest, hrest, htext⟩ := h
  have habsolute : isAbsolute path = isAbsolute root := by
    by_cases hempty : root = ""
    · rw [hempty] at htext ⊢
      have hpath : path = rest := String.toList_inj.mp htext
      rw [hpath, isAbsolute_of_isPath hrest]
      rfl
    · obtain ⟨c, front, hroot⟩ : ∃ c front, root.toList = c :: front := by
        refine List.exists_cons_of_ne_nil fun hnil => hempty ?_
        rw [← String.toList_inj, hnil]
        rfl
      unfold isAbsolute
      rw [htext, hroot]
      rfl
  unfold start
  rw [habsolute]

/-- **A path below a root leads below where the root leads**, if it leads
anywhere. -/
theorem leads?_of_below {w : Workspace} {root path : String} (h : Below root path)
    {there : List String} (hleads : w.leads? path = .ok there) :
    ∃ top more, w.leads? root = .ok top ∧ more ≠ [] ∧ there = top ++ more := by
  obtain ⟨stem, segments, hne, hsegments, hpath, hroot⟩ := exists_parts_of_below h
  unfold leads? at hleads ⊢
  rw [hpath, Tree.walk_append, start_of_below w h] at hleads
  cases hstem : w.tree.walk (w.start root) stem with
  | error fault =>
    rw [hstem] at hleads
    exact absurd hleads (by simp [Except.bind])
  | ok top =>
    rw [hstem] at hleads
    obtain ⟨hthere, hdirectory⟩ := Tree.walk_segments hsegments hleads
    refine ⟨top, segmentNames segments, ?_, by simpa [segmentNames] using hne, hthere⟩
    rcases hroot with hroot | hroot
    · rw [hroot]
      exact hstem
    · -- the empty name at the end stays in the directory
      rw [hroot, Tree.walk_append, hstem]
      show w.tree.walk top [""] = _
      rw [Tree.walk, hdirectory hne]
      rfl

end Workspace

end DocSite.Files
