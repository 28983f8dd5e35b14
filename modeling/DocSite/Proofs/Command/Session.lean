import Mathlib.Tactic.Common
import DocSite.Command.Session

/-!
# Sessions on a tree of files

A session is written for any disk. On a tree of files it is a function:
`Session.on` gives how it ends, what it has said, and the tree it leaves
behind. Each way of putting sessions together has its equation here, so
that a command is taken apart in the order in which it is written.

A session is `Quiet` when it leaves the tree as it is and writes nothing
out, whether it succeeds or fails. What is put together from quiet
sessions is quiet.

`Meets` is the general form of such a law: what holds when a session
begins, what holds when it has succeeded, and what when it has failed.
-/

namespace DocSite.Command

open Files (Workspace)

variable {α β : Type}

/-- **A question is still** if asking it leaves the tree as it is. -/
def Still (question : StateM Workspace α) : Prop := ∀ w, (question.run w).2 = w

theorem Still.pure (a : α) : Still (pure a) := fun _ => rfl

theorem Still.bind {question : StateM Workspace α} {next : α → StateM Workspace β}
    (h : Still question) (h' : ∀ a, Still (next a)) : Still (question >>= next) := by
  intro w
  show ((next (question.run w).1).run (question.run w).2).2 = w
  rw [h' _ _, h w]

theorem Disk.write_error {w : Workspace} {path text : String} {fault : Files.Fault}
    (h : w.write path text = .error fault) :
    (Disk.write path text : StateM Workspace _).run w = (.error fault, w) := by
  dsimp only [StateT.run, write]
  rw [h]

theorem Disk.write_ok {w after : Workspace} {path text : String}
    (h : w.write path text = .ok after) :
    (Disk.write path text : StateM Workspace _).run w = (.ok (), after) := by
  dsimp only [StateT.run, write]
  rw [h]

/-- Messages are told in their order. -/
theorem shown_messages (verbose : Bool) (t : Transcript) (messages : List Message) :
    Transcript.shown verbose { t with messages := t.messages ++ messages }
      = t.shown verbose ++ String.join (messages.map (Message.shown verbose)) := by
  unfold Transcript.shown
  rw [List.map_append, String.join_append]

/-- **What a session does on a tree of files.** -/
def Session.on (session : Session (StateM Workspace) α) (t : Transcript) (w : Workspace) :
    (Except Failure α × Transcript) × Workspace :=
  (session.run.run t).run w

namespace Session

variable (t : Transcript) (w : Workspace)

theorem on_fail (failure : Failure) :
    on (fail failure : Session (StateM Workspace) α) t w = ((.error failure, t), w) := rfl

theorem on_say (message : Message) :
    on (say message) t w = ((.ok (), { t with messages := t.messages ++ [message] }), w) := rfl

theorem on_print (text : String) :
    on (print text) t w = ((.ok (), { t with out := t.out ++ text }), w) := rfl

theorem on_ask (question : StateM Workspace α) :
    on (ask question) t w = ((.ok (question.run w).1, t), (question.run w).2) := rfl

/-- **A session goes on where the first part has ended**, unless it has
failed. -/
theorem on_bind (session : Session (StateM Workspace) α)
    (next : α → Session (StateM Workspace) β) :
    on (session >>= next) t w = match on session t w with
      | ((.ok a, t'), w') => on (next a) t' w'
      | ((.error failure, t'), w') => ((.error failure, t'), w') := by
  have hstep : on (session >>= next) t w
      = ((ExceptT.bindCont next (on session t w).1.1).run (on session t w).1.2).run
        (on session t w).2 := rfl
  rw [hstep]
  obtain ⟨⟨result, t'⟩, w'⟩ := on session t w
  cases result with
  | error failure => rfl
  | ok a => rfl

/-- **A session is quiet** if it leaves the tree as it is and writes
nothing out. -/
def Quiet (session : Session (StateM Workspace) α) : Prop :=
  ∀ t w, (on session t w).2 = w ∧ (on session t w).1.2.out = t.out

theorem Quiet.pure (a : α) : Quiet (pure a) := fun _ _ => ⟨rfl, rfl⟩

theorem Quiet.fail (failure : Failure) : Quiet (fail failure : Session (StateM Workspace) α) :=
  fun _ _ => ⟨rfl, rfl⟩

theorem Quiet.say (message : Message) : Quiet (say message) := fun _ _ => ⟨rfl, rfl⟩

theorem Quiet.ask {question : StateM Workspace α} (h : Still question) : Quiet (ask question) :=
  fun _ w => ⟨h w, rfl⟩

/-- **The two ends of a quiet session**, both on the tree it began with. -/
theorem Quiet.cases {session : Session (StateM Workspace) α} (h : Quiet session) :
    (∃ failure t', on session t w = ((.error failure, t'), w) ∧ t'.out = t.out)
      ∨ ∃ a t', on session t w = ((.ok a, t'), w) ∧ t'.out = t.out := by
  obtain ⟨htree, hout⟩ := h t w
  rcases hend : on session t w with ⟨⟨result, t'⟩, w'⟩
  rw [hend] at htree hout
  rw [show w' = w from htree]
  cases result with
  | error failure => exact Or.inl ⟨failure, t', rfl, hout⟩
  | ok a => exact Or.inr ⟨a, t', rfl, hout⟩

/-- **Quiet sessions in a row are quiet.** -/
theorem Quiet.bind {session : Session (StateM Workspace) α}
    {next : α → Session (StateM Workspace) β} (h : Quiet session) (h' : ∀ a, Quiet (next a)) :
    Quiet (session >>= next) := by
  intro t w
  rw [on_bind]
  rcases h.cases t w with ⟨failure, t', hend, hout⟩ | ⟨a, t', hend, hout⟩
  · rw [hend]
    exact ⟨rfl, hout⟩
  · rw [hend]
    obtain ⟨htree', hout'⟩ := h' a t' w
    exact ⟨htree', hout'.trans hout⟩

/-! ## Before and after -/

/-- **A session meets its conditions**: begun where `before` holds it either
succeeds, and `done` holds, or fails, and `failed` does. -/
def Meets (before : Transcript → Workspace → Prop) (session : Session (StateM Workspace) α)
    (done : α → Transcript → Workspace → Prop)
    (failed : Failure → Transcript → Workspace → Prop) : Prop :=
  ∀ t w, before t w → match on session t w with
    | ((.ok a, t'), w') => done a t' w'
    | ((.error failure, t'), w') => failed failure t' w'

namespace Meets

variable {before : Transcript → Workspace → Prop}
variable {failed : Failure → Transcript → Workspace → Prop}

theorem pure {done : α → Transcript → Workspace → Prop} {a : α}
    (h : ∀ t w, before t w → done a t w) : Meets before (pure a) done failed :=
  h

theorem fail {done : α → Transcript → Workspace → Prop} {failure : Failure}
    (h : ∀ t w, before t w → failed failure t w) :
    Meets before (fail failure) done failed :=
  h

theorem say {done : Unit → Transcript → Workspace → Prop} {message : Message}
    (h : ∀ t w, before t w → done () { t with messages := t.messages ++ [message] } w) :
    Meets before (say message) done failed :=
  h

theorem print {done : Unit → Transcript → Workspace → Prop} {text : String}
    (h : ∀ t w, before t w → done () { t with out := t.out ++ text } w) :
    Meets before (print text) done failed :=
  h

theorem imp {before' : Transcript → Workspace → Prop} {done : α → Transcript → Workspace → Prop}
    {session : Session (StateM Workspace) α} (h : Meets before session done failed)
    (h' : ∀ t w, before' t w → before t w) : Meets before' session done failed :=
  fun t w hbefore => h t w (h' t w hbefore)

theorem mono {done done' : α → Transcript → Workspace → Prop}
    {session : Session (StateM Workspace) α} (h : Meets before session done failed)
    (h' : ∀ a t w, done a t w → done' a t w) : Meets before session done' failed := by
  intro t w hbefore
  have hsession := h t w hbefore
  rcases hend : on session t w with ⟨⟨result, t'⟩, w'⟩
  rw [hend] at hsession
  cases result with
  | error failure => exact hsession
  | ok a => exact h' a t' w' hsession

/-- A question is met by its answer, on the tree it leaves behind. -/
theorem ask {done : α → Transcript → Workspace → Prop} {question : StateM Workspace α}
    (h : ∀ t w, before t w → done (question.run w).1 t (question.run w).2) :
    Meets before (ask question) done failed :=
  h

/-- **What holds where the first part has succeeded** is what the second
begins with. -/
theorem bind (middle : α → Transcript → Workspace → Prop)
    {done : β → Transcript → Workspace → Prop} {session : Session (StateM Workspace) α}
    {next : α → Session (StateM Workspace) β} (h : Meets before session middle failed)
    (h' : ∀ a, Meets (middle a) (next a) done failed) :
    Meets before (session >>= next) done failed := by
  intro t w hbefore
  have hsession := h t w hbefore
  rw [on_bind]
  rcases hend : on session t w with ⟨⟨result, t'⟩, w'⟩
  rw [hend] at hsession
  cases result with
  | error failure => exact hsession
  | ok a => exact h' a t' w' hsession

end Meets

end Session

end DocSite.Command
