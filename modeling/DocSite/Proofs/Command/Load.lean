import Mathlib.Tactic.Common
import DocSite.Command.Load
import DocSite.Proofs.Command.Session

/-!
# Loading a configuration, as a function

Loading says things on the way, but what it comes to depends on the tree
alone: `loaded` is that function, and `load_on` the one place where the
steps of a session are taken apart to arrive at it. Loading leaves the
tree as it is and writes nothing out (`load_quiet`).
-/

namespace DocSite.Command

open Files (Workspace)
open Session (Quiet on)

/-- **Of several paths the first that leads anywhere is found.** -/
theorem firstPresent_run (paths : List String) (w : Workspace) :
    (firstPresent paths : StateM Workspace _).run w
      = (paths.find? fun path => (w.kind? path).isSome, w) := by
  induction paths with
  | nil => rfl
  | cons path paths ih =>
    show StateT.run (if (w.kind? path).isSome then pure (some path) else firstPresent paths) w = _
    rw [List.find?_cons]
    cases (w.kind? path).isSome with
    | true => rfl
    | false => exact ih

theorem firstPresent_still (paths : List String) :
    Still (firstPresent paths : StateM Workspace _) := by
  intro w
  rw [firstPresent_run]

theorem findConfigFrom_still (here : List String) (name : String) :
    Still (findConfigFrom here name : StateM Workspace _) := by
  unfold findConfigFrom
  split_ifs
  · exact firstPresent_still [name]
  · exact firstPresent_still (configCandidates here name)

/-- **A configuration file is looked for from the directory one works in**, and
nowhere if that is gone. -/
theorem findConfig_run (name : String) (w : Workspace) :
    (findConfig name : StateM Workspace _).run w
      = if w.tree.isDirectory w.here then
          (findConfigFrom w.here name : StateM Workspace _).run w
        else (none, w) := by
  have hask : ∀ next : Option (List String) → StateM Workspace (Option String),
      (Disk.here >>= next).run w
        = (next (if w.tree.isDirectory w.here then some w.here else none)).run w := fun _ => rfl
  unfold findConfig
  rw [hask]
  split_ifs <;> rfl

theorem findConfig_still (name : String) : Still (findConfig name : StateM Workspace _) := by
  intro w
  rw [findConfig_run]
  split_ifs
  · exact findConfigFrom_still w.here name w
  · rfl

/-- **Where a relative configuration file is looked for**: in the directory
one works in, if there is one, and in those above it. -/
theorem findConfig_of_relative {name : String} (hrelative : Files.isAbsolute name = false)
    (w : Workspace) :
    ((findConfig name : StateM Workspace _).run w).1
      = if w.tree.isDirectory w.here then
          ((firstPresent (configCandidates w.here name) : StateM Workspace _).run w).1
        else none := by
  rw [findConfig_run]
  unfold findConfigFrom
  rw [hrelative, if_neg Bool.false_ne_true]
  split_ifs <;> rfl

/-- **An absolute configuration file is looked for in its place**, if there
is a directory one works in. -/
theorem findConfig_of_absolute {name : String} (habsolute : Files.isAbsolute name = true)
    (w : Workspace) :
    ((findConfig name : StateM Workspace _).run w).1
      = if w.tree.isDirectory w.here then
          ((firstPresent [name] : StateM Workspace _).run w).1
        else none := by
  rw [findConfig_run]
  unfold findConfigFrom
  rw [if_pos habsolute]
  split_ifs <;> rfl

/-- Nothing is found from a directory that is gone. -/
theorem isDirectory_of_findConfig {name path : String} {w : Workspace}
    (h : ((findConfig name : StateM Workspace _).run w).1 = some path) :
    w.tree.isDirectory w.here = true := by
  rw [findConfig_run] at h
  split_ifs at h with hhere
  exact hhere

theorem sayAll_quiet (messages : List Message) :
    Quiet (sayAll messages : Session (StateM Workspace) Unit) := by
  induction messages with
  | nil => exact Quiet.pure ()
  | cons message messages ih => exact (Quiet.say message).bind fun _ => ih

/-- **Saying several things** is saying them one after the other. -/
theorem sayAll_on (messages : List Message) (t : Transcript) (w : Workspace) :
    on (sayAll messages) t w
      = ((.ok (), { t with messages := t.messages ++ messages }), w) := by
  induction messages generalizing t with
  | nil =>
    rw [List.append_nil]
    rfl
  | cons message messages ih =>
    show on (sayAll messages) { t with messages := t.messages ++ [message] } w = _
    rw [ih, List.append_assoc]
    rfl

theorem checkConfig_quiet (config : SiteConfig) :
    Quiet (checkConfig config : Session (StateM Workspace) Unit) := by
  refine (Quiet.say _).bind fun _ => ?_
  split
  · exact Quiet.pure ()
  · exact Quiet.fail _

theorem readConfig_quiet (path : String) :
    Quiet (readConfig path : Session (StateM Workspace) SiteConfig) := by
  refine (Quiet.ask fun _ => rfl).bind fun text => ?_
  cases text with
  | error fault => exact Quiet.fail _
  | ok text =>
    dsimp only
    cases SiteConfig.ofToml text with
    | error why => exact Quiet.fail _
    | ok read =>
      obtain ⟨config, ignored⟩ := read
      exact (sayAll_quiet _).bind fun _ => Quiet.pure config

/-- **Loading a configuration is quiet.** -/
theorem load_quiet (name : String) : Quiet (load name : Session (StateM Workspace) SiteConfig) := by
  refine (Quiet.ask (findConfig_still name)).bind fun found => ?_
  cases found with
  | none => exact Quiet.fail _
  | some path =>
    refine (Quiet.say _).bind fun _ => (readConfig_quiet path).bind fun config => ?_
    exact (checkConfig_quiet config).bind fun _ => Quiet.pure config

/-! ## What loading comes to -/

/-- The configuration in the file under a path, not checked yet. -/
def configAt (w : Workspace) (path : String) : Except Failure SiteConfig :=
  match w.read path with
  | .error fault => .error (.unreadable path fault)
  | .ok text => match SiteConfig.ofToml text with
    | .error why => .error (.unfit text why)
    | .ok (config, _) => .ok config

/-- A configuration that is accepted, or the report on it. -/
def checked (config : SiteConfig) : Except Failure SiteConfig :=
  if config.report.passes then .ok config else .error (.rejected config.report)

/-- **What loading the configuration file of a name comes to.** -/
def loaded (w : Workspace) (name : String) : Except Failure SiteConfig :=
  match ((findConfig name : StateM Workspace _).run w).1 with
  | none => .error (.noConfig name)
  | some path => (configAt w path).bind checked

/-- Reading a configuration file comes to the configuration in it. -/
theorem readConfig_on (path : String) (t : Transcript) (w : Workspace) :
    ∃ t', on (readConfig path) t w = ((configAt w path, t'), w) := by
  unfold readConfig configAt
  rw [Session.on_bind, Session.on_ask]
  show ∃ t', on (match w.read path with
    | .error fault => _
    | .ok text => _) t w = _
  cases w.read path with
  | error fault => exact ⟨t, rfl⟩
  | ok text =>
    dsimp only
    cases SiteConfig.ofToml text with
    | error why => exact ⟨t, rfl⟩
    | ok read =>
      obtain ⟨config, ignored⟩ := read
      refine ⟨{ t with messages := t.messages ++ ignoredMessages path ignored }, ?_⟩
      dsimp only
      rw [Session.on_bind, sayAll_on]
      rfl

theorem checkConfig_on (config : SiteConfig) (t : Transcript) (w : Workspace) :
    ∃ t', on (do checkConfig config; pure config) t w = ((checked config, t'), w) := by
  unfold checkConfig checked
  refine ⟨{ t with messages := t.messages ++ [.plain config.report.warningText] }, ?_⟩
  rw [Session.on_bind, Session.on_bind, Session.on_say]
  dsimp only
  by_cases hpasses : config.report.passes = true
  · rw [if_pos hpasses, if_pos hpasses]
    rfl
  · rw [if_neg hpasses, if_neg hpasses]
    rfl

/-- **Loading comes to what the tree says**, and leaves the tree as it
is. -/
theorem load_on (name : String) (t : Transcript) (w : Workspace) :
    ∃ t', on (load name) t w = ((loaded w name, t'), w) := by
  unfold load loaded
  rw [Session.on_bind, Session.on_ask, findConfig_still name w]
  dsimp only
  -- from here on nothing is asked of the tree but the text of one file
  cases ((findConfig name : StateM Workspace _).run w).1 with
  | none => exact ⟨t, rfl⟩
  | some path =>
    dsimp only
    rw [Session.on_bind, Session.on_say]
    dsimp only
    obtain ⟨t', ht'⟩ := readConfig_on path
      { t with messages := t.messages ++ [.detail "config" ("loading " ++ path)] } w
    rw [Session.on_bind, ht']
    cases configAt w path with
    | error failure => exact ⟨t', rfl⟩
    | ok config => exact checkConfig_on config t' w

/-- A file holds a configuration if its text is one. -/
theorem configAt_eq_ok_iff (w : Workspace) (path : String) (config : SiteConfig) :
    configAt w path = .ok config
      ↔ ∃ text ignored, w.read path = .ok text ∧ SiteConfig.ofToml text = .ok (config, ignored) := by
  unfold configAt
  cases w.read path with
  | error fault =>
    constructor
    · intro h
      exact absurd h (by simp)
    · rintro ⟨text, ignored, h, -⟩
      exact absurd h (by simp)
  | ok text =>
    dsimp only
    cases hread : SiteConfig.ofToml text with
    | error why =>
      constructor
      · intro h
        exact absurd h (by simp)
      · rintro ⟨other, ignored, h, hother⟩
        injection h with h
        rw [← h, hread] at hother
        exact absurd hother (by simp)
    | ok read =>
      obtain ⟨found, ignored⟩ := read
      constructor
      · intro h
        injection h with h
        exact ⟨text, ignored, rfl, by rw [hread, h]⟩
      · rintro ⟨other, others, h, hother⟩
        injection h with h
        rw [← h, hread] at hother
        injection hother with hother
        injection hother with hother
        rw [hother]

/-- **Loading succeeds** exactly if a file is found, its text is that of a
configuration, and the configuration is accepted. -/
theorem loaded_eq_ok_iff (w : Workspace) (name : String) (config : SiteConfig) :
    loaded w name = .ok config ↔ ∃ path text ignored,
      ((findConfig name : StateM Workspace _).run w).1 = some path
        ∧ w.read path = .ok text ∧ SiteConfig.ofToml text = .ok (config, ignored)
        ∧ config.report.passes = true := by
  unfold loaded
  cases ((findConfig name : StateM Workspace _).run w).1 with
  | none =>
    constructor
    · intro h
      exact absurd h (by simp)
    · rintro ⟨path, text, ignored, h, -⟩
      exact absurd h (by simp)
  | some path =>
    -- a check returns what it is given or nothing
    have hchecked : ∀ found : SiteConfig, checked found = .ok config
        ↔ found = config ∧ config.report.passes = true := by
      intro found
      unfold checked
      by_cases hpasses : found.report.passes = true
      · rw [if_pos hpasses, Except.ok.injEq]
        exact ⟨fun h => ⟨h, h ▸ hpasses⟩, And.left⟩
      · rw [if_neg hpasses]
        exact ⟨fun h => absurd h (by simp), fun h => absurd (h.1 ▸ h.2) hpasses⟩
    dsimp only
    constructor
    · intro h
      cases hat : configAt w path with
      | error failure =>
        rw [hat] at h
        exact absurd h (by simp [Except.bind])
      | ok found =>
        rw [hat] at h
        obtain ⟨rfl, hpasses⟩ := (hchecked found).mp h
        obtain ⟨text, ignored, hread, htext⟩ := (configAt_eq_ok_iff w path found).mp hat
        exact ⟨path, text, ignored, rfl, hread, htext, hpasses⟩
    · rintro ⟨other, text, ignored, hother, hread, htext, hpasses⟩
      injection hother with hother
      rw [← hother] at hread
      have hat := (configAt_eq_ok_iff w path config).mpr ⟨text, ignored, hread, htext⟩
      rw [hat]
      exact (hchecked config).mpr ⟨rfl, hpasses⟩

end DocSite.Command
