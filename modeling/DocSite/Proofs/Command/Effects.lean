import Mathlib.Tactic.Common
import DocSite.Command.Run
import DocSite.Proofs.Command.Load
import DocSite.Proofs.Content.Resolution
import DocSite.Proofs.Files.Write

/-!
# What a run leaves behind

A run that fails leaves the tree as it was and writes nothing out, and
one that succeeds changes at most the file it was asked to write
(`run_effects`).

All that can go wrong goes wrong before anything is written: a command is
a quiet session followed by one step that either fails and does nothing,
or does its work and cannot fail any more. `Contained` is what such a
session satisfies, and it is enough to look at the last step of each
command.
-/

namespace DocSite.Command

open Files (Workspace Fault)
open Session (Quiet on)

/-! ## Contained sessions -/

/-- **A contained session** leaves no trace if it fails, and does to a tree
what it may if it succeeds. -/
structure Contained {α : Type} (effect : Workspace → Workspace → Prop)
    (session : Session (StateM Workspace) α) : Prop where
  /-- It fails without a trace. -/
  failed : ∀ {t w failure t' w'}, on session t w = ((.error failure, t'), w') →
    w' = w ∧ t'.out = t.out
  /-- It succeeds with an effect. -/
  done : ∀ {t w a t' w'}, on session t w = ((.ok a, t'), w') → effect w w'

namespace Contained

variable {α β : Type} {effect : Workspace → Workspace → Prop}

/-- A session that has one of two ends is contained: it has failed and
done nothing, or it has succeeded with an effect. -/
theorem of_cases {session : Session (StateM Workspace) α}
    (h : ∀ t w, (∃ failure t', on session t w = ((.error failure, t'), w) ∧ t'.out = t.out)
      ∨ ∃ a t' w', on session t w = ((.ok a, t'), w') ∧ effect w w') :
    Contained effect session where
  failed {t w failure t' w'} hon := by
    rcases h t w with ⟨failure₁, t₁, hend, hout⟩ | ⟨a, t₁, w₁, hend, -⟩
    · rw [hend] at hon
      injection hon with hon hw
      injection hon with _ ht
      exact ⟨hw.symm, ht ▸ hout⟩
    · rw [hend] at hon
      exact absurd hon (by simp)
  done {t w a t' w'} hon := by
    rcases h t w with ⟨failure, t₁, hend, -⟩ | ⟨a₁, t₁, w₁, hend, heffect⟩
    · rw [hend] at hon
      exact absurd hon (by simp)
    · rw [hend] at hon
      injection hon with _ hw
      exact hw ▸ heffect

/-- A failure leaves no trace. -/
theorem fail (failure : Failure) :
    Contained effect (Session.fail failure : Session (StateM Workspace) α) :=
  of_cases fun t w => Or.inl ⟨failure, t, Session.on_fail t w failure, rfl⟩

/-- A quiet session is contained, where nothing is an effect. -/
theorem of_quiet {session : Session (StateM Workspace) α} (h : Quiet session)
    (heffect : ∀ w, effect w w) : Contained effect session := by
  refine of_cases fun t w => (h.cases t w).imp id ?_
  rintro ⟨a, t', hend, -⟩
  exact ⟨a, t', w, hend, heffect w⟩

/-- **A session is contained if it is quiet up to a contained one.** -/
theorem after {session : Session (StateM Workspace) α}
    {next : α → Session (StateM Workspace) β} (h : Quiet session)
    (h' : ∀ a, Contained effect (next a)) : Contained effect (session >>= next) where
  failed {t w failure t' w'} hon := by
    rw [Session.on_bind] at hon
    rcases h.cases t w with ⟨failure₁, t₁, hend, hout⟩ | ⟨a, t₁, hend, hout⟩
    · rw [hend] at hon
      injection hon with hon hw
      injection hon with _ ht
      exact ⟨hw.symm, ht ▸ hout⟩
    · rw [hend] at hon
      obtain ⟨htree', hout'⟩ := (h' a).failed hon
      exact ⟨htree', hout'.trans hout⟩
  done {t w b t' w'} hon := by
    rw [Session.on_bind] at hon
    rcases h.cases t w with ⟨failure, t₁, hend, -⟩ | ⟨a, t₁, hend, -⟩
    · rw [hend] at hon
      exact absurd hon (by simp)
    · rw [hend] at hon
      exact (h' a).done hon

/-- A session is contained with any effect that follows from its own. -/
theorem imp {effect' : Workspace → Workspace → Prop} {session : Session (StateM Workspace) α}
    (h : Contained effect session) (h' : ∀ w w', effect w w' → effect' w w') :
    Contained effect' session :=
  ⟨h.failed, fun hon => h' _ _ (h.done hon)⟩

/-- **A question has its answer in the effect** of what follows. -/
theorem ask {question : StateM Workspace α} {effect : α → Workspace → Workspace → Prop}
    {next : α → Session (StateM Workspace) β} (h : Still question)
    (h' : ∀ a, Contained (effect a) (next a)) :
    Contained (fun w w' => effect (question.run w).1 w w') (Session.ask question >>= next) where
  failed {t w failure t' w'} hon := by
    rw [Session.on_bind, Session.on_ask, h w] at hon
    exact (h' _).failed hon
  done {t w b t' w'} hon := by
    rw [Session.on_bind, Session.on_ask, h w] at hon
    exact (h' _).done hon

/-- Writing something out is contained, where nothing is an effect. -/
theorem print (text : String) (heffect : ∀ w, effect w w) :
    Contained effect (Session.print text) :=
  of_cases fun t w => Or.inr ⟨(), _, w, Session.on_print t w text, heffect w⟩

/-- **Writing a file is contained** if one fails where it fails, and has
nothing left but to say something where it succeeds. -/
theorem write (path text : String)
    {next : Except Fault Unit → Session (StateM Workspace) Unit}
    (hfail : ∀ fault, ∃ failure, next (.error fault) = Session.fail failure)
    (hsay : ∃ message, next (.ok ()) = Session.say message) :
    Contained (fun w w' => w.SameBut path w')
      (Session.ask (Disk.write path text) >>= next) := by
  refine of_cases fun t w => ?_
  rw [Session.on_bind, Session.on_ask]
  cases hwrite : w.write path text with
  | error fault =>
    -- the disk has refused before it has changed anything
    obtain ⟨failure, hfailure⟩ := hfail fault
    rw [Disk.write_error hwrite]
    dsimp only
    rw [hfailure]
    exact Or.inl ⟨failure, t, rfl, rfl⟩
  | ok after =>
    obtain ⟨message, hmessage⟩ := hsay
    rw [Disk.write_ok hwrite]
    dsimp only
    rw [hmessage]
    exact Or.inr ⟨(), _, after, Session.on_say t after message,
      Files.Workspace.sameBut_of_write hwrite⟩

end Contained

/-! ## The commands -/

theorem unmet_still (requirements : List Requirement) :
    Still (unmet requirements : StateM Workspace _) :=
  fun w => congrArg Prod.snd (Content.unmet_run requirements w)

theorem resolve_quiet (config : SiteConfig) (root : String) :
    Quiet (resolve config root : Session (StateM Workspace) Unit) := by
  refine (Quiet.ask fun _ => rfl).bind fun kind => ?_
  split
  · refine (Quiet.ask (unmet_still _)).bind fun missing => ?_
    dsimp only
    split
    · exact Quiet.pure ()
    · exact Quiet.fail _
  · exact Quiet.fail _

/-- **Checking a site is quiet.** -/
theorem checkSite_quiet (config : SiteConfig) (content : Option String) :
    Quiet (checkSite config content : Session (StateM Workspace) Unit) := by
  unfold checkSite
  have hsummary : Quiet (Session.say (.log "check" (summary config)) :
      Session (StateM Workspace) Unit) := Quiet.say _
  cases config.servedBase? with
  | none =>
    cases content with
    | none => exact (Quiet.pure ()).bind fun _ => hsummary.bind fun _ => Quiet.pure ()
    | some root =>
      refine (resolve_quiet config root).bind fun _ => (Quiet.say _).bind fun _ => ?_
      exact hsummary.bind fun _ => Quiet.pure ()
  | some base =>
    cases content with
    | none => exact (Quiet.pure ()).bind fun _ => hsummary.bind fun _ => Quiet.say _
    | some root =>
      refine (resolve_quiet config root).bind fun _ => (Quiet.say _).bind fun _ => ?_
      exact hsummary.bind fun _ => Quiet.say _

/-- **What an action may do to a tree**, the configuration file being the
one of a path. -/
def Action.Effect (config : String) (w w' : Workspace) : Action → Prop
  | .init true _ => w' = w
  | .init false force => w.SameBut config w' ∧ (force = true ∨ w.kind? config = none)
  | .check _ => w' = w
  | .emit _ none => w' = w
  | .emit _ (some path) => w.SameBut path w'

theorem emit_contained (name : String) (config : SiteConfig) (format : Export)
    (output : Option String) : Contained (fun w w' => (Action.emit format output).Effect name w w')
      (emit config format output : Session (StateM Workspace) Unit) := by
  cases output with
  | none => exact Contained.print _ fun _ => rfl
  | some path => exact Contained.write path _ (fun fault => ⟨_, rfl⟩) ⟨_, rfl⟩

/-- **Writing a first configuration is contained**, and does not succeed
where something is there that one does not insist on replacing. -/
theorem init_contained (name : String) (dry force : Bool) :
    Contained (fun w w' => (Action.init dry force).Effect name w w')
      (init name dry force : Session (StateM Workspace) Unit) := by
  cases dry with
  | true => exact Contained.print _ fun _ => rfl
  | false =>
    -- what is found decides whether one goes on, so it has to be kept
    refine @Contained.ask _ _ (Disk.kind? name)
      (fun found w w' => w.SameBut name w' ∧ (force = true ∨ found = none)) _
      (fun _ => rfl) fun found => ?_
    split
    · exact Contained.fail _
    · next hfree =>
      refine (Contained.write name starterText (fun fault => ⟨_, rfl⟩) ⟨_, rfl⟩).imp ?_
      intro w w' hsame
      cases force with
      | true => exact ⟨hsame, Or.inl rfl⟩
      | false => exact ⟨hsame, Or.inr (by simpa using hfree)⟩

/-- **What a command line asks for is contained.** -/
theorem perform_contained (arguments : Arguments) :
    Contained (fun w w' => arguments.action.Effect arguments.config w w')
      (perform arguments : Session (StateM Workspace) Unit) := by
  unfold perform
  cases arguments.action with
  | init dry force => exact init_contained arguments.config dry force
  | check content =>
    refine Contained.after (load_quiet arguments.config) fun config => ?_
    exact Contained.of_quiet (checkSite_quiet config content) fun _ => rfl
  | emit format output =>
    refine Contained.after (load_quiet arguments.config) fun config => ?_
    exact emit_contained arguments.config config format output

/-! ## Runs -/

/-- **What a run on a command line comes to**, and the tree it leaves
behind. -/
def ran (wording : Wording) (words : List String) (w : Workspace) : Outcome × Workspace :=
  (run wording words : StateM Workspace Outcome).run w

variable {wording : Wording}

theorem ran_of_stop {words : List String} {stop : Stop}
    (h : Arguments.ofWords words = .error stop) (w : Workspace) :
    ran wording words w = (stop.outcome wording words, w) := by
  unfold ran run
  rw [h]
  rfl

/-- A command line that has been read is performed, with nothing said or
written out before. -/
theorem ran_of_arguments {words : List String} {arguments : Arguments}
    (h : Arguments.ofWords words = .ok arguments) (w : Workspace) :
    ran wording words w = (.ofSession wording arguments.verbose (on (perform arguments) {} w).1,
      (on (perform arguments) {} w).2) := by
  unfold ran run
  rw [h]
  rfl

/-- **What a run leaves behind.** If it fails, nothing is written out and
the tree is as it was. If it succeeds, the tree is as it was after a text
that has been asked for, and what its action may make of it otherwise. It
is the same in whatever words the readers put things. -/
theorem run_effects (wording : Wording) (words : List String) (w : Workspace) :
    ((ran wording words w).1.exit ≠ 0 →
        (ran wording words w).1.out = "" ∧ (ran wording words w).2 = w)
      ∧ ((ran wording words w).1.exit = 0 →
        (∀ stop, Arguments.ofWords words = .error stop → (ran wording words w).2 = w)
        ∧ ∀ arguments, Arguments.ofWords words = .ok arguments →
          arguments.action.Effect arguments.config w (ran wording words w).2) := by
  cases hwords : Arguments.ofWords words with
  | error stop =>
    rw [ran_of_stop hwords]
    unfold Stop.outcome
    split
    · exact ⟨fun hexit => absurd rfl hexit, fun _ => ⟨fun _ _ => rfl, nofun⟩⟩
    · next hexit => exact ⟨fun _ => ⟨rfl, rfl⟩, fun hzero => absurd hzero hexit⟩
  | ok arguments =>
    rw [ran_of_arguments hwords]
    have hcontained := perform_contained arguments
    rcases hend : on (perform arguments) {} w with ⟨⟨result, t'⟩, w'⟩
    cases result with
    | error failure =>
      obtain ⟨htree, hout⟩ := hcontained.failed hend
      exact ⟨fun _ => ⟨hout, htree⟩, fun hexit => absurd hexit Nat.one_ne_zero⟩
    | ok _ =>
      refine ⟨fun hexit => absurd rfl hexit, fun _ => ⟨nofun, fun other hother => ?_⟩⟩
      injection hother with hother
      rw [← hother]
      exact hcontained.done hend

end DocSite.Command
