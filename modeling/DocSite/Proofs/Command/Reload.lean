import Mathlib.Tactic.Common
import DocSite.Proofs.Command.Effects
import DocSite.Proofs.Export.RoundTrip
import DocSite.Proofs.Files.Reread
import DocSite.Proofs.Toml.Layout

/-!
# What the program has written is loaded again

A configuration that is exported to a configuration file is the one that
is loaded from there, and a first configuration file is loaded as the
first configuration and checks without complaint (`written_is_loaded`).
Nothing is said about unknown keys, for there are none. Wherever the file
is, nothing comes before it: looking for it begins in the directory one
works in, and an absolute path is looked for nowhere else.

All stages of the way take part: the text is written in lines, so that no
line end has to be added; it is read as what it was made from, behind a
comment too; and it is found, where writing has put it, from the root.
The last is where the way has its limits. A relative path may be followed
although the path from the root is too long to be, and an absolute one is
followed from a directory that is gone, where nothing is looked for. Then
a file is written that no one finds again (`emit_unfound`).
-/

namespace DocSite.Command

open Files (Workspace)
open Session (on)

/-! ## Loading a file -/

/-- A path that leads anywhere is the first that does. -/
theorem firstPresent_of_find {w : Workspace} {path : String} {item : Files.Item}
    (h : w.find path = .ok item) (paths : List String) :
    ((firstPresent (path :: paths) : StateM Workspace _).run w).1 = some path := by
  have hthere : (w.kind? path).isSome = true := by
    unfold Workspace.kind?
    rw [h]
    rfl
  rw [firstPresent_run, List.find?_cons, hthere]

/-- A directory is the innermost of those it is in. -/
theorem exists_ancestors (names : List String) : ∃ more, Files.ancestors names = names :: more := by
  induction names with
  | nil => exact ⟨[], rfl⟩
  | cons name names ih =>
    obtain ⟨more, hmore⟩ := ih
    refine ⟨more.map (name :: ·) ++ [[]], ?_⟩
    rw [Files.ancestors, hmore]
    rfl

/-- **A file under a name is the configuration file of that name**, if there
is a directory one works in: nothing that is further up counts before it. -/
theorem exists_findConfig {w : Workspace} (hsound : w.tree.Sound)
    (hhere : w.tree.isDirectory w.here = true) {name : String} (hroot : w.FromRoot name)
    {item : Files.Item} (h : w.find name = .ok item) :
    ∃ path, ((findConfig name : StateM Workspace _).run w).1 = some path
      ∧ w.find path = .ok item := by
  by_cases habsolute : Files.isAbsolute name = true
  · rw [findConfig_of_absolute habsolute, if_pos hhere]
    exact ⟨name, firstPresent_of_find h [], h⟩
  · have hrelative := Bool.eq_false_iff.mpr habsolute
    have haccepted : Workspace.refused? name = none := by
      unfold Workspace.find at h
      split at h
      · exact absurd h (by simp)
      · assumption
    have hfind := Workspace.find_join hsound ((Files.Tree.isDirectory_iff _ _).mp hhere) hrelative
      haccepted hroot
    rw [h] at hfind
    obtain ⟨more, hmore⟩ := exists_ancestors w.here
    refine ⟨Files.join (Files.absolute w.here) name, ?_, hfind⟩
    rw [findConfig_of_relative hrelative, if_pos hhere]
    unfold configCandidates
    rw [hmore]
    exact firstPresent_of_find hfind _

/-- **What loading says where it succeeds**: which file it reads, the keys
it ignores, and the warnings of the report. -/
theorem load_on_ok {name path text : String} {ignored : List String} {config : SiteConfig}
    {w : Workspace} (hfound : ((findConfig name : StateM Workspace _).run w).1 = some path)
    (hread : w.read path = .ok text) (htext : SiteConfig.ofToml text = .ok (config, ignored))
    (hpasses : config.report.passes = true) (t : Transcript) :
    on (load name) t w = ((.ok config, { t with messages := t.messages
      ++ [.detail "config" ("loading " ++ path)] ++ ignoredMessages path ignored
      ++ [.plain config.report.warningText] }), w) := by
  have hconfig : ∀ t, on (readConfig path) t w
      = ((.ok config, { t with messages := t.messages ++ ignoredMessages path ignored }), w) := by
    intro t
    have hask : (Disk.read path : StateM Workspace _).run w = (.ok text, w) :=
      congrArg (·, w) hread
    unfold readConfig
    rw [Session.on_bind, Session.on_ask, hask]
    dsimp only
    rw [htext]
    dsimp only
    rw [Session.on_bind, sayAll_on]
    rfl
  unfold load
  rw [Session.on_bind, Session.on_ask, findConfig_still name w, hfound]
  dsimp only
  rw [Session.on_bind, Session.on_say]
  dsimp only
  rw [Session.on_bind, hconfig]
  dsimp only
  unfold checkConfig
  rw [Session.on_bind, Session.on_bind, Session.on_say]
  dsimp only
  rw [if_pos hpasses]
  rfl

/-! ## Texts that are written -/

/-- A configuration file has its line end already. -/
theorem withLineEnd_tomlText (config : SiteConfig) :
    withLineEnd (Export.tomlText config) = Export.tomlText config := by
  obtain ⟨-, c, t, hct, -⟩ := Toml.write_eq config.exists_plain
  have hlast := (Toml.ruled_write config.fileFields).ended.resolve_left (by rw [hct]; simp)
  unfold withLineEnd Export.tomlText
  rw [String.toList_ofList, if_pos hlast]

/-- **An exported configuration file is read as the configuration.** -/
theorem ofToml_exported {config : SiteConfig} (h : Entry.nestings config.sidebar ≤ 30) :
    SiteConfig.ofToml (withLineEnd (Export.render config .toml)) = .ok (config, []) := by
  show SiteConfig.ofToml (withLineEnd (Export.tomlText config)) = _
  rw [withLineEnd_tomlText]
  exact SiteConfig.ofToml_idle Toml.Idle.nil h

/-- **The first configuration file is read as the first configuration.** -/
theorem ofToml_starterText : SiteConfig.ofToml starterText = .ok (starter, []) := by
  have hcomment : Toml.Spells
      ('#' :: " platforma docs configuration (platforma-docs v0.1.0)".toList ++ ['\n'])
      [.blank] := Toml.spells_comment (by decide)
  have hidle : Toml.Idle _ _ := ⟨hcomment.append Toml.spells_blank, by simp, by simp⟩
  have hread := @SiteConfig.ofToml_idle _ _ hidle starter (by decide)
  rw [String.ofList_append] at hread
  exact hread

theorem passes_starter : starter.report.passes = true := by
  decide +kernel

/-! ## Files that are loaded -/

/-- **A name under which a configuration is loaded**: nothing is said but
which file it is, to those who want to know, and the warnings of the
report. -/
def Loads (w : Workspace) (name : String) (config : SiteConfig) : Prop :=
  ∃ path, on (load name) {} w = ((.ok config, { messages :=
    [.detail "config" ("loading " ++ path), .plain config.report.warningText] }), w)

/-- **A configuration that has been written is loaded** from where it has
been written, if there is a directory one works in. -/
theorem loads_of_write {w w' : Workspace} (hsound : w.tree.Sound)
    (hhere : w.tree.isDirectory w.here = true) {path text : String}
    (hwrite : w.write path text = .ok w') (hroot : w.FromRoot path) {config : SiteConfig}
    (htext : SiteConfig.ofToml text = .ok (config, [])) (hpasses : config.report.passes = true) :
    w'.here = w.here ∧ Loads w' path config := by
  have hsame := (Workspace.sameBut_of_write hwrite).here
  have hhere' : w'.tree.isDirectory w'.here = true := by
    rw [hsame]
    exact Workspace.isDirectory_of_write hwrite hhere
  have hroot' : w'.FromRoot path := by
    unfold Workspace.FromRoot
    rw [hsame]
    exact hroot
  obtain ⟨found, hfound, hfind⟩ := exists_findConfig (Workspace.sound_of_write hsound hwrite)
    hhere' hroot' (Workspace.find_of_write hwrite)
  exact ⟨hsame, found, load_on_ok hfound (Workspace.read_of_find hfind) htext hpasses {}⟩

/-- A check that does not look at the content succeeds. -/
theorem checkSite_on (config : SiteConfig) (t : Transcript) (w : Workspace) :
    ∃ t', on (checkSite config none) t w = ((.ok (), t'), w) := by
  unfold checkSite
  cases config.servedBase? with
  | none => exact ⟨_, rfl⟩
  | some base => exact ⟨_, rfl⟩

/-! ## Runs that write -/

/-- A write that has gone well has done what it should. -/
theorem write_of_on {path text : String}
    {next : Except Files.Fault Unit → Session (StateM Workspace) Unit}
    (hfail : ∀ fault, ∃ failure, next (.error fault) = Session.fail failure)
    (hsay : ∃ message, next (.ok ()) = Session.say message) {t t' : Transcript} {w w' : Workspace}
    (h : on (Session.ask (Disk.write path text) >>= next) t w = ((.ok (), t'), w')) :
    w.write path text = .ok w' := by
  rw [Session.on_bind, Session.on_ask] at h
  cases hwrite : w.write path text with
  | error fault =>
    obtain ⟨failure, hfailure⟩ := hfail fault
    rw [Disk.write_error hwrite] at h
    dsimp only at h
    rw [hfailure] at h
    exact absurd h (by simp [Session.on_fail])
  | ok after =>
    obtain ⟨message, hmessage⟩ := hsay
    rw [Disk.write_ok hwrite] at h
    dsimp only at h
    rw [hmessage] at h
    injection h with _ h
    rw [h]

variable {wording : Wording} {words : List String} {arguments : Arguments} {w : Workspace}

/-- A run that has succeeded has performed what it was asked for. -/
theorem perform_of_exit (hwords : Arguments.ofWords words = .ok arguments)
    (hexit : (ran wording words w).1.exit = 0) :
    ∃ t', on (perform arguments) {} w = ((.ok (), t'), (ran wording words w).2) := by
  rw [ran_of_arguments hwords] at hexit ⊢
  rcases hend : on (perform arguments) {} w with ⟨⟨result, t'⟩, w'⟩
  rw [hend] at hexit
  cases result with
  | error failure => exact absurd hexit Nat.one_ne_zero
  | ok _ => exact ⟨t', rfl⟩

/-- **An export that has gone well** has loaded a configuration and written
it. -/
theorem write_of_emit (hwords : Arguments.ofWords words = .ok arguments) {format : Export}
    {path : String} (haction : arguments.action = .emit format (some path))
    (hexit : (ran wording words w).1.exit = 0) :
    ∃ config, loaded w arguments.config = .ok config
      ∧ w.write path (withLineEnd (Export.render config format)) = .ok (ran wording words w).2 := by
  obtain ⟨t', hend⟩ := perform_of_exit hwords hexit
  unfold perform at hend
  rw [haction] at hend
  dsimp only at hend
  obtain ⟨t₁, hload⟩ := load_on arguments.config {} w
  rw [Session.on_bind, hload] at hend
  cases hloaded : loaded w arguments.config with
  | error failure =>
    rw [hloaded] at hend
    exact absurd hend (by simp)
  | ok config =>
    rw [hloaded] at hend
    exact ⟨config, rfl, write_of_on (fun fault => ⟨_, rfl⟩) ⟨_, rfl⟩ hend⟩

/-- **A first configuration file that has gone well** has been written. -/
theorem write_of_init (hwords : Arguments.ofWords words = .ok arguments) {force : Bool}
    (haction : arguments.action = .init false force) (hexit : (ran wording words w).1.exit = 0) :
    w.write arguments.config starterText = .ok (ran wording words w).2 := by
  obtain ⟨t', hend⟩ := perform_of_exit hwords hexit
  unfold perform at hend
  rw [haction] at hend
  change on (Session.ask (Disk.kind? arguments.config) >>= fun found =>
    if !force && found.isSome then Session.fail (.present arguments.config)
    else Session.ask (Disk.write arguments.config starterText) >>= _) {} w = _ at hend
  rw [Session.on_bind, Session.on_ask] at hend
  dsimp only at hend
  split_ifs at hend
  · exact absurd hend (by simp [Session.on_fail])
  · exact write_of_on (fun fault => ⟨_, rfl⟩) ⟨_, rfl⟩ hend

/-- A dry run writes out the first configuration file. -/
theorem ran_of_dry (hwords : Arguments.ofWords words = .ok arguments) {force : Bool}
    (haction : arguments.action = .init true force) (w : Workspace) :
    (ran wording words w).1.exit = 0 ∧ (ran wording words w).1.out = starterText := by
  rw [ran_of_arguments hwords]
  unfold perform
  rw [haction]
  exact ⟨rfl, String.empty_append⟩

theorem exit_of_check (hwords : Arguments.ofWords words = .ok arguments)
    (haction : arguments.action = .check none) {config : SiteConfig}
    (hloads : Loads w arguments.config config) : (ran wording words w).1.exit = 0 := by
  obtain ⟨path, hload⟩ := hloads
  rw [ran_of_arguments hwords]
  unfold perform
  rw [haction]
  dsimp only
  rw [Session.on_bind, hload]
  obtain ⟨t', hcheck⟩ := checkSite_on config { messages :=
    [.detail "config" ("loading " ++ path), .plain config.report.warningText] } w
  dsimp only
  rw [hcheck]
  rfl

/-- **What the program writes it loads again**, from any tree as disks have
them, if the path from the root is not too long.

* If a configuration is loaded and exported to a configuration file, and
  no group of its sidebar nests too deep, then it is loaded from that file.
* If a first configuration file is written, and there is a directory one
  works in, the first configuration is loaded from it, and a check of it
  succeeds.
* A dry run always succeeds, and writes out byte for byte what a first
  configuration file that is written holds. -/
theorem written_is_loaded (wording : Wording) (hsound : w.tree.Sound)
    (hwords : Arguments.ofWords words = .ok arguments) :
    (∀ path, arguments.action = .emit .toml (some path) → (ran wording words w).1.exit = 0 →
        ∃ config, (on (load arguments.config) {} w).1.1 = .ok config
          ∧ (Entry.nestings config.sidebar ≤ 30 → w.FromRoot path →
            (ran wording words w).2.here = w.here ∧ Loads (ran wording words w).2 path config))
      ∧ (∀ force, arguments.action = .init false force → (ran wording words w).1.exit = 0 →
          w.tree.isDirectory w.here = true → w.FromRoot arguments.config →
          (ran wording words w).2.here = w.here
            ∧ Loads (ran wording words w).2 arguments.config starter
            ∧ ∀ others checking, Arguments.ofWords others = .ok checking →
              checking.config = arguments.config → checking.action = .check none →
              (ran wording others (ran wording words w).2).1.exit = 0)
      ∧ ∀ force, arguments.action = .init true force →
          (ran wording words w).1.exit = 0
            ∧ ∀ others writing force', Arguments.ofWords others = .ok writing →
              writing.action = .init false force' → (ran wording others w).1.exit = 0 →
              (ran wording others w).2.find writing.config
                = .ok (.file (ran wording words w).1.out.toUTF8) := by
  refine ⟨fun path haction hexit => ?_, fun force haction hexit hhere hroot => ?_,
    fun force haction => ?_⟩
  · obtain ⟨config, hloaded, hwrite⟩ := write_of_emit hwords haction hexit
    obtain ⟨t', hload⟩ := load_on arguments.config {} w
    refine ⟨config, by rw [hload, hloaded], fun hnestings hroot => ?_⟩
    -- what has been loaded has been found from somewhere, and has passed its check already
    obtain ⟨_, _, _, hfound, _, _, hpasses⟩ :=
      (loaded_eq_ok_iff w arguments.config config).mp hloaded
    exact loads_of_write hsound (isDirectory_of_findConfig hfound) hwrite hroot
      (ofToml_exported hnestings) hpasses
  · obtain ⟨hsame, hloads⟩ := loads_of_write hsound hhere (write_of_init hwords haction hexit) hroot
      ofToml_starterText passes_starter
    refine ⟨hsame, hloads, fun others checking hothers hconfig hcheck => ?_⟩
    rw [← hconfig] at hloads
    exact exit_of_check hothers hcheck hloads
  · obtain ⟨hexit, hout⟩ := @ran_of_dry wording _ _ hwords _ haction w
    refine ⟨hexit, fun others writing force' hothers hwriting hwritten => ?_⟩
    rw [hout]
    exact Workspace.find_of_write (write_of_init hothers hwriting hwritten)

/-- A directory with a configuration file. -/
def smallSite : Workspace where
  tree := (({} : Files.Tree).put ["site"] .directory).put ["site", "docs.toml"]
    (.file "title = \"t\"\n".toUTF8)
  here := ["site"]

theorem sound_smallSite : smallSite.tree.Sound := by
  have hsite : (({} : Files.Tree).put ["site"] .directory).Sound :=
    @Files.Tree.Sound.put _ Files.Tree.Sound.empty [] "site" rfl
      ⟨by decide, by decide, by decide, by decide, by decide⟩ (by decide +kernel) _
  exact @Files.Tree.Sound.put _ hsite ["site"] "docs.toml" rfl
    ⟨by decide, by decide, by decide, by decide, by decide⟩ (by decide +kernel) _

theorem loads_smallSite : Loads smallSite "docs.toml" { title := "t" } := by
  have hfound : ((findConfig "docs.toml" : StateM Workspace _).run smallSite).1
      = some "/site/docs.toml" := by decide +kernel
  have hexport : withLineEnd (Export.render { title := "t" } .toml) = "title = \"t\"\n" := by
    decide +kernel
  have hread : smallSite.read "/site/docs.toml" = .ok "title = \"t\"\n" := by decide +kernel
  have htext := @ofToml_exported { title := "t" } (by decide)
  rw [hexport] at htext
  exact ⟨_, load_on_ok hfound hread htext (by decide +kernel) {}⟩

theorem written_is_loaded_smallSite :
    smallSite.tree.Sound ∧ smallSite.tree.isDirectory smallSite.here = true
      ∧ Loads (ran .plain ["emit", "-f", "toml", "-o", "../copy.toml"] smallSite).2 "../copy.toml"
        { title := "t" }
      ∧ Loads (ran .plain ["init", "-C", "new.toml"] smallSite).2 "new.toml" starter
      ∧ (ran .plain ["check", "-C", "new.toml"]
          (ran .plain ["init", "-C", "new.toml"] smallSite).2).1.exit = 0
      ∧ (ran .plain ["init", "-C", "new.toml"] smallSite).2.find "new.toml"
        = .ok (.file (ran .plain ["init", "--dry"] smallSite).1.out.toUTF8) := by
  obtain ⟨config, hload, hcopied⟩ := (@written_is_loaded
    ["emit", "-f", "toml", "-o", "../copy.toml"]
    ⟨.auto, "docs.toml", false, .emit .toml (some "../copy.toml")⟩ smallSite .plain sound_smallSite
    (by decide +kernel)).1 "../copy.toml" rfl (by decide +kernel)
  obtain ⟨-, hstarter, hcheck⟩ := (@written_is_loaded ["init", "-C", "new.toml"]
    ⟨.auto, "new.toml", false, .init false false⟩ smallSite .plain sound_smallSite
    (by decide +kernel)).2.1 false rfl (by decide +kernel) (by decide +kernel)
    (Or.inr (by decide +kernel))
  obtain ⟨-, hdry⟩ := (@written_is_loaded ["init", "--dry"]
    ⟨.auto, "docs.toml", false, .init true false⟩ smallSite .plain sound_smallSite
    (by decide +kernel)).2.2 false rfl
  obtain ⟨path, hloads⟩ := loads_smallSite
  dsimp only at hload
  rw [hloads] at hload
  rw [← Except.ok.inj hload] at hcopied
  refine ⟨sound_smallSite, by decide +kernel, (hcopied (by decide) (Or.inr (by decide +kernel))).2,
    hstarter, ?_, ?_⟩
  · exact hcheck ["check", "-C", "new.toml"] ⟨.auto, "new.toml", false, .check none⟩
      (by decide +kernel) rfl rfl
  · exact hdry ["init", "-C", "new.toml"] ⟨.auto, "new.toml", false, .init false false⟩ false
      (by decide +kernel) rfl (by decide +kernel)

/-! ## Paths that are not found again -/

/-- **A relative path as long as a path may be is never found**: from the
root, or from any directory, it is longer. -/
theorem findConfig_of_long (w : Workspace) {path : String}
    (hrelative : Files.isAbsolute path = false)
    (hlong : Files.Tree.lengthLimits.2 ≤ path.utf8ByteSize) :
    ((findConfig path : StateM Workspace _).run w).1 = none := by
  have hpresent : ∀ directories : List (List String),
      ((firstPresent (directories.map fun directory =>
        Files.join (Files.absolute directory) path) : StateM Workspace _).run w).1 = none := by
    intro directories
    induction directories with
    | nil => rfl
    | cons directory directories ih =>
      show ((if (w.kind? (Files.join (Files.absolute directory) path)).isSome then _
        else firstPresent _ : StateM Workspace (Option String)).run w).1 = none
      rw [Workspace.kind?_join_of_long w hrelative hlong directory]
      exact ih
  rw [findConfig_of_relative hrelative]
  split_ifs
  · exact hpresent (Files.ancestors w.here)
  · rfl

/-- A word that begins with a dot is no option. -/
theorem ofText_of_dot {text : String} {rest : List Char} (h : text.toList = '.' :: rest) :
    Word.ofText text = .plain text := by
  unfold Word.ofText
  rw [h]
  rfl

/-- An export to a path, read off the command line. -/
theorem ofWords_emit {path : String} (hplain : Word.ofText path = .plain path)
    (hempty : path ≠ "") :
    Arguments.ofWords ["emit", "-f", "toml", "-o", path]
      = .ok ⟨.auto, "docs.toml", false, .emit .toml (some path)⟩ := by
  have hbehind : readLevel (.behind .emit) {} ["-f", "toml", "-o", path]
      = .ok (⟨[(.format, "toml")], some (.output, some path)⟩, none) := by
    show readLevel (.behind .emit) ⟨[(.format, "toml")], some (.output, none)⟩ [path] = _
    rw [readLevel, hplain]
    rfl
  have hrecord : Progress.settle ⟨[(.format, "toml")], some (.output, some path)⟩
      = .ok ⟨[(.format, "toml"), (.output, path)], none⟩ := by
    have haccepts : Opt.accepts .output path = true := by
      show (path != "") = true
      simpa using hempty
    show Progress.record ⟨[(.format, "toml")], none⟩ .output path = _
    unfold Progress.record
    rw [haccepts]
    rfl
  unfold Arguments.ofWords
  show (readLevel (.behind .emit) {} ["-f", "toml", "-o", path] >>= _) = _
  rw [hbehind]
  show (Progress.settle ⟨[(.format, "toml")], some (.output, some path)⟩ >>= _) = _
  rw [hrecord]
  rfl

/-- **An export to a relative path as long as a path may be** is written, if
it can be, and not found again. -/
theorem unfound_of_long {words : List String} {arguments : Arguments} {w : Workspace}
    (hwords : Arguments.ofWords words = .ok arguments) {format : Export} {path : String}
    (haction : arguments.action = .emit format (some path)) {config : SiteConfig}
    (hloads : Loads w arguments.config config) {names : List String}
    (htarget : w.target path = .ok names) (hrelative : Files.isAbsolute path = false)
    (hlong : Files.Tree.lengthLimits.2 ≤ path.utf8ByteSize) :
    (ran wording words w).1.exit = 0
      ∧ (on (load path) {} (ran wording words w).2).1.1 = .error (.noConfig path) := by
  constructor
  · obtain ⟨found, hloads⟩ := hloads
    obtain ⟨after, hwrite⟩ : ∃ after,
        w.write path (withLineEnd (Export.render config format)) = .ok after := by
      unfold Workspace.write
      rw [htarget]
      exact ⟨_, rfl⟩
    rw [ran_of_arguments hwords]
    unfold perform
    rw [haction]
    dsimp only
    rw [Session.on_bind, hloads]
    dsimp only
    unfold emit
    rw [Session.on_bind, Session.on_ask, Disk.write_ok hwrite]
    rfl
  · obtain ⟨t', hload⟩ := load_on path {} (ran wording words w).2
    rw [hload]
    unfold loaded
    rw [findConfig_of_long _ hrelative hlong]

/-- A path of 4095 bytes, which is as long as a path may be. -/
def longPath : String := Workspace.behindDots 2044 "xy.toml"

/-- A directory that is gone, and one works in it. -/
def goneSite : Workspace where
  here := ["site"]

/-- **Files that are written and not found again.** One path is not too long
to write to, and from the root it is too long to be followed. The other is
absolute, and is written to from a directory that is gone. -/
theorem emit_unfound :
    smallSite.tree.Sound
      ∧ Arguments.ofWords ["emit", "-f", "toml", "-o", longPath]
        = .ok ⟨.auto, "docs.toml", false, .emit .toml (some longPath)⟩
      ∧ Loads smallSite "docs.toml" { title := "t" }
      ∧ Entry.nestings ({ title := "t" } : SiteConfig).sidebar ≤ 30
      ∧ (ran .plain ["emit", "-f", "toml", "-o", longPath] smallSite).1.exit = 0
      ∧ (on (load longPath) {} (ran .plain ["emit", "-f", "toml", "-o", longPath] smallSite).2).1.1
        = .error (.noConfig longPath)
      ∧ goneSite.tree.Sound
      ∧ (ran .plain ["init", "-C", "/new.toml"] goneSite).1.exit = 0
      ∧ (on (load "/new.toml") {} (ran .plain ["init", "-C", "/new.toml"] goneSite).2).1.1
        = .error (.noConfig "/new.toml")
      ∧ (ran .plain ["check", "-C", "/new.toml"]
          (ran .plain ["init", "-C", "/new.toml"] goneSite).2).1.exit = 1 := by
  have hname : Files.IsName "xy.toml" :=
    ⟨by decide, by decide, by decide, by decide, by decide⟩
  have htext : longPath.toList = '.' :: '/' :: (Workspace.behindDots 2043 "xy.toml").toList :=
    Workspace.toList_behindDots 2043 "xy.toml"
  have hsize : longPath.utf8ByteSize = 4095 :=
    (Workspace.utf8ByteSize_behindDots 2044 "xy.toml").trans (by decide)
  have hwords : Arguments.ofWords ["emit", "-f", "toml", "-o", longPath]
      = .ok ⟨.auto, "docs.toml", false, .emit .toml (some longPath)⟩ := by
    refine ofWords_emit (ofText_of_dot htext) fun hempty => ?_
    rw [hempty] at htext
    exact absurd htext (by simp)
  have htarget : smallSite.target longPath = .ok (smallSite.here ++ ["xy.toml"]) :=
    @Workspace.target_behindDots "xy.toml" smallSite rfl hname 2044 (by decide) (by decide +kernel)
  obtain ⟨hexit, hunfound⟩ := @unfound_of_long .plain _ _ _ hwords _ _ rfl _ loads_smallSite _
    htarget (Workspace.isAbsolute_behindDots hname.slash 2044) hsize.ge
  have hgone : (on (load "/new.toml") {}
      (ran .plain ["init", "-C", "/new.toml"] goneSite).2).1.1 = .error (.noConfig "/new.toml") := by
    rfl
  exact ⟨sound_smallSite, hwords, loads_smallSite, by decide, hexit, hunfound,
    Files.Tree.Sound.empty, by decide +kernel, hgone, by decide +kernel⟩

end DocSite.Command
