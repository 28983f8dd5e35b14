import Mathlib.Tactic.Common
import DocSite.Proofs.Command.Effects
import DocSite.Proofs.Command.OneMore

/-!
# Telling more

One who asks to be told more is told one line more: which configuration
file is loaded. Two runs that differ in nothing else do the same, end the
same way and write the same out, and what they say differs by that line,
which comes first (`ran_verbose`). It is said as soon as the file has been
found, so it is there also where the run fails later on, and never where
no file is looked for.

The line is the only detail there is. Everything said behind it reads the
same for everyone, which is the invariant of a session here: `Heard` keeps
what has been heard up to some point, and a text that everyone has heard
since.
-/

namespace DocSite.Command

open Files (Workspace Fault)
open Session (Meets on)

/-! ## What everyone hears -/

/-- **Everyone has heard the same since**: what has been said is what each
had heard at first, and then one text. -/
def Heard (first : Bool → String) (t : Transcript) (_ : Workspace) : Prop :=
  ∃ text, ∀ verbose, t.shown verbose = first verbose ++ text

/-- A session that everyone hears alike. -/
abbrev Frank {α : Type} (first : Bool → String) (session : Session (StateM Workspace) α) : Prop :=
  Meets (Heard first) session (fun _ => Heard first) fun _ => Heard first

section

variable {first : Bool → String}

/-- Messages that read the same for everyone. -/
theorem Heard.messages {t : Transcript} {w : Workspace} (h : Heard first t w)
    {messages : List Message}
    (hmessages : ∀ verbose, messages.map (Message.shown verbose)
      = messages.map (Message.shown false)) :
    Heard first { t with messages := t.messages ++ messages } w := by
  obtain ⟨before, hbefore⟩ := h
  refine ⟨before ++ String.join (messages.map (Message.shown false)), fun verbose => ?_⟩
  rw [shown_messages, hbefore, hmessages, String.append_assoc]

theorem frank_log (topic text : String) : Frank first (Session.say (.log topic text)) :=
  Meets.say fun _ _ h => h.messages fun _ => rfl

theorem frank_plain (text : String) : Frank first (Session.say (.plain text)) :=
  Meets.say fun _ _ h => h.messages fun _ => rfl

theorem frank_ignoredMessages (path : String) (ignored : List String) :
    Frank first (sayAll (ignoredMessages path ignored)) := by
  intro t w h
  rw [sayAll_on]
  refine h.messages fun verbose => ?_
  unfold ignoredMessages
  split_ifs
  · rfl
  · rw [List.map_cons, List.map_cons, List.map_map, List.map_map]
    rfl

theorem frank_readConfig (path : String) : Frank first (readConfig path) := by
  refine Meets.bind (fun _ => Heard first) (Meets.ask fun _ _ h => h) fun text => ?_
  cases text with
  | error fault => exact Meets.fail fun _ _ h => h
  | ok text =>
    dsimp only
    cases SiteConfig.ofToml text with
    | error why => exact Meets.fail fun _ _ h => h
    | ok read =>
      obtain ⟨config, ignored⟩ := read
      exact (frank_ignoredMessages path ignored).bind _ fun _ => Meets.pure fun _ _ h => h

theorem frank_checkConfig (config : SiteConfig) : Frank first (checkConfig config) := by
  refine Meets.bind _ (frank_plain _) fun _ => ?_
  split
  · exact Meets.pure fun _ _ h => h
  · exact Meets.fail fun _ _ h => h

theorem frank_resolve (config : SiteConfig) (root : String) :
    Frank first (resolve config root) := by
  refine Meets.bind (fun _ => Heard first) (Meets.ask fun _ _ h => h) fun kind => ?_
  split
  · refine Meets.bind (fun _ => Heard first) (Meets.ask fun _ _ h => h) fun missing => ?_
    dsimp only
    split
    · exact Meets.pure fun _ _ h => h
    · exact Meets.fail fun _ _ h => h
  · exact Meets.fail fun _ _ h => h

/-- What a check of a site says at its end. -/
theorem frank_conclusion (config : SiteConfig) :
    Frank first (do
      Session.say (.log "check" (summary config))
      match config.servedBase? with
      | some base => Session.say (.log "check" ("served under " ++ base))
      | none => pure ()) := by
  refine Meets.bind _ (frank_log _ _) fun _ => ?_
  cases config.servedBase? with
  | none => exact Meets.pure fun _ _ h => h
  | some base => exact frank_log _ _

theorem frank_checkSite (config : SiteConfig) (content : Option String) :
    Frank first (checkSite config content) := by
  cases content with
  | none => exact frank_conclusion config
  | some root =>
    refine (frank_resolve config root).bind _ fun _ => ?_
    exact Meets.bind _ (frank_log _ _) fun _ => frank_conclusion config

/-- Writing a text to a file, where one says nothing but a log line. -/
theorem frank_write {path text : String}
    {next : Except Fault Unit → Session (StateM Workspace) Unit}
    (hfail : ∀ fault, ∃ failure, next (.error fault) = Session.fail failure)
    (hsay : ∃ topic text, next (.ok ()) = Session.say (.log topic text)) :
    Frank first (Session.ask (Disk.write path text) >>= next) := by
  refine Meets.bind (fun _ => Heard first) (Meets.ask fun _ _ h => h) fun result => ?_
  cases result with
  | error fault =>
    obtain ⟨failure, hfailure⟩ := hfail fault
    rw [hfailure]
    exact Meets.fail fun _ _ h => h
  | ok _ =>
    obtain ⟨topic, text, hmessage⟩ := hsay
    rw [hmessage]
    exact frank_log topic text

theorem frank_emit (config : SiteConfig) (format : Export) (output : Option String) :
    Frank first (emit config format output) := by
  cases output with
  | none => exact Meets.print fun _ _ h => h
  | some path => exact frank_write (fun _ => ⟨_, rfl⟩) ⟨_, _, rfl⟩

theorem frank_init (name : String) (dry force : Bool) : Frank first (init name dry force) := by
  cases dry with
  | true => exact Meets.print fun _ _ h => h
  | false =>
    refine Meets.bind (fun _ => Heard first) (Meets.ask fun _ _ h => h) fun found => ?_
    split
    · exact Meets.fail fun _ _ h => h
    · exact frank_write (fun _ => ⟨_, rfl⟩) ⟨_, _, rfl⟩

end

/-! ## The one detail -/

/-- **The configuration file that is loaded**: the one that is found, if the
action is one on a configuration. -/
def Arguments.configPath? (arguments : Arguments) (w : Workspace) : Option String :=
  match arguments.action with
  | .init _ _ => none
  | .check _ | .emit _ _ => ((findConfig arguments.config : StateM Workspace _).run w).1

/-- What is said about the file that is loaded, to one who asks to be told
more. -/
def loadingLine (path? : Option String) : String :=
  path?.elim "" fun path => Text.logLine "config" ("loading " ++ path)

/-- What each has heard when the file has been found. -/
def announced (path? : Option String) (verbose : Bool) : String :=
  if verbose then loadingLine path? else ""

/-- What the one who asks has heard is what the other has, behind the line. -/
theorem Heard.told {path? : Option String} {t : Transcript} {w : Workspace}
    (h : Heard (announced path?) t w) : t.shown true = loadingLine path? ++ t.shown false := by
  obtain ⟨text, htext⟩ := h
  rw [htext true, htext false]
  show _ = loadingLine path? ++ ("" ++ text)
  rw [String.empty_append]
  rfl

theorem heard_nothing (w : Workspace) : Heard (announced none) {} w := by
  refine ⟨"", fun verbose => ?_⟩
  cases verbose <;> rfl

/-- **Loading says one detail**, and says it first. -/
theorem heard_load (name : String) (path? : Option String) :
    Meets (fun t w => t = {} ∧ ((findConfig name : StateM Workspace _).run w).1 = path?)
      (load name) (fun _ => Heard (announced path?)) fun _ => Heard (announced path?) := by
  refine Meets.bind (fun found t _ => found = path? ∧ t = {}) ?_ fun found => ?_
  · exact Meets.ask fun t w h => ⟨h.2, h.1⟩
  · cases found with
    | none =>
      refine Meets.fail ?_
      rintro t w ⟨rfl, rfl⟩
      exact heard_nothing w
    | some path =>
      rintro t w ⟨rfl, rfl⟩
      have hdetail : Heard (announced (some path))
          { messages := [] ++ [.detail "config" ("loading " ++ path)] } w := by
        refine ⟨"", fun verbose => ?_⟩
        rw [shown_messages verbose {}, List.map_singleton, String.join_cons, String.join_nil]
        cases verbose <;> rfl
      have hrest : Frank (announced (some path))
          (do let config ← readConfig path; checkConfig config; pure config) := by
        refine (frank_readConfig path).bind _ fun config => ?_
        exact (frank_checkConfig config).bind _ fun _ => Meets.pure fun _ _ h => h
      dsimp only
      rw [Session.on_bind, Session.on_say]
      exact hrest _ w hdetail

/-- **What a command line asks for says one detail at most.** -/
theorem heard_perform (arguments : Arguments) (w : Workspace) :
    Meets (fun t w' => t = {} ∧ w' = w) (perform arguments)
      (fun _ => Heard (announced (arguments.configPath? w)))
      fun _ => Heard (announced (arguments.configPath? w)) := by
  obtain ⟨colour, config, verbose, action⟩ := arguments
  cases action with
  | init dry force =>
    refine (frank_init config dry force).imp ?_
    rintro t w' ⟨rfl, rfl⟩
    exact heard_nothing w'
  | check content =>
    refine Meets.bind _ ((heard_load config _).imp ?_) fun found => frank_checkSite found content
    rintro t w' ⟨rfl, rfl⟩
    exact ⟨rfl, rfl⟩
  | emit format output =>
    refine Meets.bind _ ((heard_load config _).imp ?_) fun found => frank_emit found format output
    rintro t w' ⟨rfl, rfl⟩
    exact ⟨rfl, rfl⟩

/-! ## Runs -/

/-- **Asking to be told more changes one line.** A command line that does not
ask can be made to ask. Of two command lines that say the same, but one asks
to be told more and the other does not, both runs end with the same exit
code, write the same out and leave the same tree behind. What the one who
asks is told is what the other is told, behind one line that says which
configuration file is loaded. The line is there exactly if the command is
one on a configuration and the file has been found, whatever comes after. -/
theorem ran_verbose (wording : Wording) {words : List String} {arguments : Arguments}
    (hwords : Arguments.ofWords words = .ok arguments) (hbrief : arguments.verbose = false)
    (w : Workspace) :
    Arguments.ofWords ("--verbose" :: words) = .ok { arguments with verbose := true }
      ∧ ∀ others, Arguments.ofWords others = .ok { arguments with verbose := true } →
        (ran wording others w).1.exit = (ran wording words w).1.exit
          ∧ (ran wording others w).1.out = (ran wording words w).1.out
          ∧ (ran wording others w).2 = (ran wording words w).2
          ∧ (ran wording others w).1.err
            = loadingLine (arguments.configPath? w) ++ (ran wording words w).1.err := by
  refine ⟨ofWords_verbose hwords hbrief, fun others hothers => ?_⟩
  have hheard := heard_perform arguments w {} w ⟨rfl, rfl⟩
  rw [ran_of_arguments hwords, ran_of_arguments hothers, hbrief,
    show perform { arguments with verbose := true } = perform arguments from rfl]
  rcases hend : on (perform arguments) {} w with ⟨⟨result, t'⟩, w'⟩
  rw [hend] at hheard
  cases result with
  | ok _ => exact ⟨rfl, rfl, rfl, Heard.told hheard⟩
  | error failure =>
    refine ⟨rfl, rfl, rfl, ?_⟩
    show t'.shown true ++ failure.shown wording = _ ++ (t'.shown false ++ failure.shown wording)
    rw [Heard.told hheard, String.append_assoc]

/-- A directory with a configuration without a title. -/
def untitledWorkspace : Workspace where
  tree := ⟨[(["site"], .directory), (["site", "docs.toml"], .file "title = \"\"\n".toUTF8)]⟩
  here := ["site"]

/-- A check that fails, and says first which file has been loaded. -/
theorem ran_verbose_untitledWorkspace :
    (ran .plain ["check", "-v"] untitledWorkspace).1.exit = 1
      ∧ (ran .plain ["check", "-v"] untitledWorkspace).1.err
        = Text.logLine "config" "loading /site/docs.toml"
          ++ (ran .plain ["check"] untitledWorkspace).1.err := by
  have hwords : Arguments.ofWords ["check"] = .ok ⟨.auto, "docs.toml", false, .check none⟩ := by
    decide +kernel
  obtain ⟨-, hothers⟩ := ran_verbose .plain hwords rfl untitledWorkspace
  obtain ⟨hexit, -, -, herr⟩ := hothers ["check", "-v"] (by decide +kernel)
  refine ⟨hexit.trans (by decide +kernel), herr.trans ?_⟩
  rw [show Arguments.configPath? _ untitledWorkspace = some "/site/docs.toml" by decide +kernel]
  rfl

end DocSite.Command
