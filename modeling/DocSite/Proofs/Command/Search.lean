import Mathlib.Data.List.Infix
import Mathlib.Tactic.Common
import DocSite.Proofs.Command.Load

/-!
# The nearest configuration file

A configuration file is looked for in the directory one works in and in
those above it. `Nearest` says without a search which of these counts: the
innermost directory from which a name leads to what is wanted.

The search wants no file. It stops at the first path under which there is
anything at all, so what it finds is the nearest thing of that name, and
the nearest file only if no directory of that name is nearer
(`findConfig_nearest`). Where one is, it takes the place of the file above
it, and loading fails (`findConfig_stops_short`).
-/

namespace DocSite.Files

/-! ## The directories above a directory -/

/-- **A directory is in those whose names its own begin with.** -/
theorem mem_ancestors_iff (names directory : List String) :
    directory ∈ ancestors names ↔ directory <+: names := by
  induction names generalizing directory with
  | nil => rw [ancestors, List.mem_singleton, List.prefix_nil]
  | cons name rest ih =>
    rw [ancestors, List.mem_append, List.mem_map, List.mem_singleton, List.prefix_cons_iff, or_comm]
    refine or_congr Iff.rfl ⟨?_, ?_⟩
    · rintro ⟨inner, hinner, rfl⟩
      exact ⟨inner, rfl, (ih inner).mp hinner⟩
    · rintro ⟨inner, rfl, hinner⟩
      exact ⟨inner, (ih inner).mpr hinner, rfl⟩

/-- They are listed from the inside out. -/
theorem ancestors_sorted (names : List String) :
    (ancestors names).Pairwise fun inner outer => outer.length < inner.length := by
  induction names with
  | nil => exact List.pairwise_singleton _ _
  | cons name rest ih =>
    rw [ancestors, List.pairwise_append, List.pairwise_map]
    refine ⟨ih.imp Nat.succ_lt_succ, List.pairwise_singleton _ _, fun inner hinner outer houter => ?_⟩
    obtain ⟨below, -, rfl⟩ := List.mem_map.mp hinner
    rw [List.mem_singleton.mp houter]
    exact Nat.succ_pos _

/-- **The first directory of a kind is the innermost.** -/
theorem find?_ancestors_eq_some_iff (isWanted : List String → Bool) (names directory : List String) :
    (ancestors names).find? isWanted = some directory
      ↔ directory <+: names ∧ isWanted directory = true
        ∧ ∀ nearer, nearer <+: names → directory.length < nearer.length →
          isWanted nearer = false := by
  -- what is found is wanted, and what is nearer stands before it
  have hfound : ∀ found, (ancestors names).find? isWanted = some found →
      found <+: names ∧ isWanted found = true
        ∧ ∀ nearer, nearer <+: names → found.length < nearer.length → isWanted nearer = false := by
    intro found h
    obtain ⟨hwanted, before, after, hsplit, hbefore⟩ := List.find?_eq_some_iff_append.mp h
    have hsorted := ancestors_sorted names
    rw [hsplit, List.pairwise_append, List.pairwise_cons] at hsorted
    refine ⟨(mem_ancestors_iff names found).mp (List.mem_of_find?_eq_some h), hwanted, ?_⟩
    intro nearer hnearer hlength
    have hmem := (mem_ancestors_iff names nearer).mpr hnearer
    rw [hsplit] at hmem
    rcases List.mem_append.mp hmem with hmem | hmem
    · exact Bool.not_eq_true' _ ▸ hbefore nearer hmem
    · rcases List.mem_cons.mp hmem with rfl | hmem
      · exact absurd hlength (Nat.lt_irrefl _)
      · exact absurd (hsorted.2.1.1 nearer hmem) (Nat.lt_asymm hlength)
  refine ⟨hfound directory, fun ⟨habove, hwanted, hfirst⟩ => ?_⟩
  cases hsearch : (ancestors names).find? isWanted with
  | none =>
    have hmem := (mem_ancestors_iff names directory).mpr habove
    exact absurd hwanted (List.find?_eq_none.mp hsearch directory hmem)
  | some found =>
    obtain ⟨habove', hwanted', hfirst'⟩ := hfound found hsearch
    rcases Nat.lt_trichotomy directory.length found.length with hlt | heq | hlt
    · rw [hfirst found habove' hlt] at hwanted'
      exact absurd hwanted' Bool.false_ne_true
    · exact congrArg some ((List.prefix_of_prefix_length_le habove' habove heq.ge).eq_of_length heq.symm)
    · rw [hfirst' directory habove hlt] at hwanted
      exact absurd hwanted Bool.false_ne_true

end DocSite.Files

namespace DocSite.Command

open Files (Workspace join absolute ancestors)
open Session (on)

/-! ## What is nearest -/

/-- The path that a name is from a directory. -/
def pathFrom (name : String) (directory : List String) : String := join (absolute directory) name

/-- **The nearest directory with what is wanted**: the innermost of a
directory and those it is in from which a name leads there. -/
structure Nearest (wanted : String → Prop) (start : List String) (name : String)
    (directory : List String) : Prop where
  /-- It is the directory itself, or one it is in. -/
  above : directory <+: start
  /-- What is wanted is there. -/
  there : wanted (pathFrom name directory)
  /-- It is nowhere nearer. -/
  first : ∀ nearer, nearer <+: start → directory.length < nearer.length →
    ¬wanted (pathFrom name nearer)

/-- **The path that is found** from a directory, wherever one works. -/
def foundFrom (w : Workspace) (start : List String) (name : String) : Option String :=
  ((firstPresent (configCandidates start name) : StateM Workspace _).run w).1

variable {w : Workspace} {start : List String} {name : String}

/-- The search goes through the directories from the inside out. -/
theorem foundFrom_eq (w : Workspace) (start : List String) (name : String) :
    foundFrom w start name
      = ((ancestors start).find? fun directory => (w.kind? (pathFrom name directory)).isSome).map
        (pathFrom name) := by
  unfold foundFrom configCandidates
  rw [firstPresent_run]
  exact List.find?_map

/-- **What is found is the nearest thing of the name.** -/
theorem foundFrom_eq_some_iff (path : String) :
    foundFrom w start name = some path
      ↔ ∃ directory, Nearest (fun path => (w.kind? path).isSome = true) start name directory
        ∧ pathFrom name directory = path := by
  rw [foundFrom_eq, Option.map_eq_some_iff]
  refine exists_congr fun directory => and_congr_left fun _ => ?_
  rw [Files.find?_ancestors_eq_some_iff]
  simp only [← Bool.not_eq_true]
  exact ⟨fun ⟨habove, hthere, hfirst⟩ => ⟨habove, hthere, hfirst⟩,
    fun h => ⟨h.above, h.there, h.first⟩⟩

/-- **Nothing is found if nothing of the name is there**, in no directory. -/
theorem foundFrom_eq_none_iff :
    foundFrom w start name = none
      ↔ ∀ directory, directory <+: start → w.kind? (pathFrom name directory) = none := by
  rw [foundFrom_eq, Option.map_eq_none_iff, List.find?_eq_none]
  refine forall_congr' fun directory => ?_
  rw [Files.mem_ancestors_iff, Option.not_isSome_iff_eq_none]

theorem isSome_kind?_iff (path : String) :
    (w.kind? path).isSome = true ↔ w.kind? path = some .file ∨ w.kind? path = some .directory := by
  cases w.kind? path with
  | none => simp
  | some kind => cases kind <;> simp

/-- **The nearest file is found if no directory of the name is nearer**, and
only then. -/
theorem foundFrom_file_iff {directory : List String}
    (h : Nearest (fun path => w.kind? path = some .file) start name directory) :
    foundFrom w start name = some (pathFrom name directory)
      ↔ ∀ nearer, nearer <+: start → directory.length < nearer.length →
        w.kind? (pathFrom name nearer) ≠ some .directory := by
  rw [foundFrom_eq_some_iff]
  constructor
  · rintro ⟨found, hfound, hpath⟩ nearer hnearer hlength hkind
    -- what is found is no nearer than the file, for the same path is found there
    have hle : found.length ≤ directory.length := by
      refine Nat.not_lt.mp fun hlt => h.first found hfound.above hlt ?_
      rw [hpath]
      exact h.there
    refine hfound.first nearer hnearer (Nat.lt_of_le_of_lt hle hlength) ?_
    exact (isSome_kind?_iff _).mpr (Or.inr hkind)
  · intro hnone
    refine ⟨directory, ⟨h.above, (isSome_kind?_iff _).mpr (Or.inl h.there), ?_⟩, rfl⟩
    intro nearer hnearer hlength hsome
    rcases (isSome_kind?_iff _).mp hsome with hkind | hkind
    · exact h.first nearer hnearer hlength hkind
    · exact hnone nearer hnearer hlength hkind

/-- **Loading reads what is found** from the directory one works in. -/
theorem loaded_of_relative (hrelative : Files.isAbsolute name = false)
    (hhere : w.tree.isDirectory w.here = true) :
    loaded w name = match foundFrom w w.here name with
      | none => .error (.noConfig name)
      | some path => (configAt w path).bind checked := by
  unfold loaded
  rw [findConfig_of_relative hrelative, if_pos hhere]
  rfl

/-- **What the search for a configuration file finds.** From any directory
it finds the nearest thing of the name, and nothing only if nothing of the
name is there. So the nearest file is found exactly if no directory of the
name is nearer, and where there is no file nothing is found exactly if there
is no directory of the name either. What is found from the directory one
works in is what loading reads. -/
theorem findConfig_nearest (w : Workspace) (name : String) :
    (∀ start path, foundFrom w start name = some path
        ↔ ∃ directory, Nearest (fun path => (w.kind? path).isSome = true) start name directory
          ∧ pathFrom name directory = path)
      ∧ (∀ start, foundFrom w start name = none
        ↔ ∀ directory, directory <+: start → w.kind? (pathFrom name directory) = none)
      ∧ (∀ start directory, Nearest (fun path => w.kind? path = some .file) start name directory →
        (foundFrom w start name = some (pathFrom name directory)
          ↔ ∀ nearer, nearer <+: start → directory.length < nearer.length →
            w.kind? (pathFrom name nearer) ≠ some .directory))
      ∧ (∀ start, (∀ directory, directory <+: start →
          w.kind? (pathFrom name directory) ≠ some .file) →
        (foundFrom w start name = none ↔ ∀ directory, directory <+: start →
          w.kind? (pathFrom name directory) ≠ some .directory))
      ∧ (Files.isAbsolute name = false → w.tree.isDirectory w.here = true → ∀ t, ∃ t',
        on (load name) t w = ((match foundFrom w w.here name with
          | none => .error (.noConfig name)
          | some path => (configAt w path).bind checked, t'), w)) := by
  refine ⟨fun start path => foundFrom_eq_some_iff path, fun start => foundFrom_eq_none_iff,
    fun start directory h => foundFrom_file_iff h, fun start hfile => ?_,
    fun hrelative hhere t => ?_⟩
  · rw [foundFrom_eq_none_iff]
    refine forall_congr' fun directory => imp_congr_right fun habove => ?_
    rw [← Option.not_isSome_iff_eq_none, isSome_kind?_iff, not_or]
    exact and_iff_right (hfile directory habove)
  · rw [← loaded_of_relative hrelative hhere]
    exact load_on name t w

/-- A tree with a configuration file, and in the directory one works in a
directory of the same name. -/
def shadowedWorkspace : Workspace where
  tree := ⟨[(["docs.toml"], .file "title = \"t\"\n".toUTF8), (["sub"], .directory),
    (["sub", "docs.toml"], .directory)]⟩
  here := ["sub"]

/-- **A directory stops the search short of the file.** The nearest file of
the name is above, but the directory of that name is found, and loading
fails for it is no file. -/
theorem findConfig_stops_short :
    Nearest (fun path => shadowedWorkspace.kind? path = some .file) shadowedWorkspace.here
        "docs.toml" []
      ∧ pathFrom "docs.toml" [] = "/docs.toml"
      ∧ foundFrom shadowedWorkspace shadowedWorkspace.here "docs.toml" = some "/sub/docs.toml"
      ∧ (on (load "docs.toml") {} shadowedWorkspace).1.1
        = .error (.unreadable "/sub/docs.toml" .isDirectory) := by
  refine ⟨⟨List.nil_prefix, by rfl, ?_⟩, by rfl, by rfl, by rfl⟩
  intro nearer hnearer hlength
  have hsub : nearer = ["sub"] := hnearer.eq_of_length (Nat.le_antisymm hnearer.length_le hlength)
  rw [hsub]
  decide

end DocSite.Command
