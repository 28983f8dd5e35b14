import Mathlib.Tactic.Common
import DocSite.Proofs.Command.Reading

/-!
# One option more

An option that has been taken down already changes nothing about the
others. Words that come to something come to the same behind one more
option, if they do not have that option themselves (`reads_behind`): each
step of the reader goes on as before, and what it has taken down stands
behind the option. What a line asks for is then the same but for that
option (`ofWords_verbose`).
-/

namespace DocSite.Command

namespace Progress

variable {entry : Opt × String} {p q : Progress} {opt : Opt} {value : String}

/-- What has been read behind one more option. -/
def behind (entry : Opt × String) (p : Progress) : Progress :=
  { p with given := entry :: p.given }

/-- **An option that has not been met.** -/
structure Free (opt : Opt) (p : Progress) : Prop where
  /-- It has not been taken down. -/
  given : p.given.lookup opt = none
  /-- It does not wait. -/
  waiting : ∀ value, p.waiting ≠ some (opt, value)

/-- Another option is looked up behind an entry as without it. -/
theorem lookup_behind {opt : Opt} (h : opt ≠ entry.1) (given : List (Opt × String)) :
    (entry :: given).lookup opt = given.lookup opt := by
  rw [List.lookup_cons, beq_eq_false_iff_ne.mpr h]

/-- What is taken down has been met. -/
theorem ne_of_record (h : p.record opt value = .ok q) {other : Opt} (hfree : q.Free other) :
    opt ≠ other ∧ p.Free other := by
  obtain ⟨-, -, rfl⟩ := record_eq_ok_iff.mp h
  have hgiven := hfree.given
  rw [List.lookup_append, Option.or_eq_none_iff] at hgiven
  refine ⟨?_, hgiven.1, hfree.waiting⟩
  rintro rfl
  exact absurd hgiven.2 (by simp)

theorem record_behind (h : p.record opt value = .ok q) (hfree : q.Free entry.1) :
    p.Free entry.1 ∧ (p.behind entry).record opt value = .ok (q.behind entry) := by
  obtain ⟨hne, hbefore⟩ := ne_of_record h hfree
  obtain ⟨hnew, hfits, rfl⟩ := record_eq_ok_iff.mp h
  exact ⟨hbefore, record_eq_ok_iff.mpr ⟨(lookup_behind hne p.given).trans hnew, hfits, rfl⟩⟩

theorem settle_behind (h : p.settle = .ok q) (hfree : q.Free entry.1) :
    p.Free entry.1 ∧ (p.behind entry).settle = .ok (q.behind entry) := by
  rcases settle_cases h with ⟨hwaiting, rfl⟩ | ⟨opt, value, hwaiting, hrecord⟩
  · exact ⟨hfree, settle_of_none hwaiting⟩
  · obtain ⟨hne, -⟩ := ne_of_record hrecord hfree
    obtain ⟨hbefore, hbehind⟩ := record_behind hrecord hfree
    have hsettle : (p.behind entry).settle
        = ({ p with waiting := none : Progress }.behind entry).record opt value :=
      settle_of_some hwaiting
    refine ⟨⟨hbefore.given, fun other hother => hne ?_⟩, hsettle.trans hbehind⟩
    exact congrArg Prod.fst (Option.some.inj (hwaiting.symm.trans hother))

theorem add_behind (h : p.add opt value = .ok q) (hfree : q.Free entry.1) :
    p.Free entry.1 ∧ (p.behind entry).add opt value = .ok (q.behind entry) := by
  obtain ⟨settled, hsettle, hrecord⟩ := exists_of_bind h
  obtain ⟨hsettled, hrecord'⟩ := record_behind hrecord hfree
  obtain ⟨hbefore, hsettle'⟩ := settle_behind hsettle hsettled
  refine ⟨hbefore, ?_⟩
  unfold add
  rw [hsettle']
  exact hrecord'

theorem await_behind (h : p.await opt = .ok q) (hfree : q.Free entry.1) :
    p.Free entry.1 ∧ (p.behind entry).await opt = .ok (q.behind entry) := by
  obtain ⟨settled, hsettle, hwait⟩ := exists_of_bind h
  obtain rfl := Except.ok.inj hwait
  have hsettled : settled.Free entry.1 :=
    ⟨hfree.given, fun value => by rw [eq_of_settle hsettle]; exact nofun⟩
  obtain ⟨hbefore, hsettle'⟩ := settle_behind hsettle hsettled
  refine ⟨hbefore, ?_⟩
  unfold await
  rw [hsettle']
  rfl

end Progress

variable {level : Level} {entry : Opt × String} {p q : Progress}

open Progress (Free settle_behind add_behind await_behind)

theorem readLong_behind {name : String} {value : Option String}
    (h : readLong level p name value = .ok q) (hfree : q.Free entry.1) :
    p.Free entry.1 ∧ readLong level (p.behind entry) name value = .ok (q.behind entry) := by
  unfold readLong at h ⊢
  cases hlong : level.long? name with
  | none =>
    rw [hlong] at h
    exact absurd h (by simp)
  | some opt =>
    rw [hlong] at h
    dsimp only at h ⊢
    cases htakes : opt.takesValue <;> cases value <;> rw [htakes] at h <;> dsimp only at h ⊢
    · exact add_behind h hfree
    · exact absurd h (by simp)
    · exact await_behind h hfree
    · exact add_behind h hfree

theorem readLetters_behind (letters : List Char) : ∀ {p : Progress},
    readLetters level p letters = .ok q → q.Free entry.1 →
    p.Free entry.1 ∧ readLetters level (p.behind entry) letters = .ok (q.behind entry) := by
  induction letters with
  | nil =>
    intro p h hfree
    rw [readLetters] at h
    obtain rfl := Except.ok.inj h
    exact ⟨hfree, by rw [readLetters]⟩
  | cons letter rest ih =>
    intro p h hfree
    rw [readLetters] at h ⊢
    cases hletter : level.letter? letter with
    | none =>
      rw [hletter] at h
      exact absurd h (by simp)
    | some opt =>
      rw [hletter] at h
      dsimp only at h ⊢
      by_cases htakes : opt.takesValue = true
      · rw [if_pos htakes] at h ⊢
        split at h
        · exact await_behind h hfree
        · exact add_behind h hfree
        · exact add_behind h hfree
      · rw [if_neg htakes] at h ⊢
        obtain ⟨next, hadd, hread⟩ := exists_of_bind h
        obtain ⟨hnext, hread'⟩ := ih hread hfree
        obtain ⟨hbefore, hadd'⟩ := add_behind hadd hnext
        refine ⟨hbefore, ?_⟩
        rw [hadd']
        exact hread'

/-- **Words come to the same behind one more option**, if they come to none
like it. -/
theorem reads_behind (words : List String) {given : List (Opt × String)}
    {next : Option (Name × List String)} (hnew : given.lookup entry.1 = none) : ∀ {p : Progress},
    Reads level p words given next →
    p.Free entry.1 ∧ Reads level (p.behind entry) words (entry :: given) next := by
  have hfree : Progress.Free entry.1 { given := given } := ⟨hnew, fun _ => nofun⟩
  induction words with
  | nil =>
    intro p h
    obtain ⟨hsettle, hnext⟩ := reads_nil.mp h
    obtain ⟨hbefore, hsettle'⟩ := settle_behind hsettle hfree
    exact ⟨hbefore, reads_nil.mpr ⟨hsettle', hnext⟩⟩
  | cons text rest ih =>
    intro p h
    have hrole := reads_cons.mp h
    rw [reads_cons, show (p.behind entry).waiting = p.waiting from rfl]
    cases hof : roleOf level p.waiting text <;> rw [hof] at hrole
    case help => exact absurd hrole id
    case surplus => exact absurd hrole id
    case command name =>
      obtain ⟨hbefore, hsettle⟩ := settle_behind hrole.1 hfree
      exact ⟨hbefore, hsettle, hrole.2⟩
    case ending =>
      obtain ⟨hbefore, hsettle⟩ := settle_behind hrole.1 hfree
      exact ⟨hbefore, hsettle, hrole.2⟩
    case long name value =>
      obtain ⟨q, hlong, hread⟩ := hrole
      obtain ⟨hq, hread'⟩ := ih hread
      obtain ⟨hbefore, hlong'⟩ := readLong_behind hlong hq
      exact ⟨hbefore, q.behind entry, hlong', hread'⟩
    case letters letters =>
      obtain ⟨q, hletters, hread⟩ := hrole
      obtain ⟨hq, hread'⟩ := ih hread
      obtain ⟨hbefore, hletters'⟩ := readLetters_behind letters hletters hq
      exact ⟨hbefore, q.behind entry, hletters', hread'⟩
    case value opt value =>
      obtain ⟨hbefore, hread⟩ := ih hrole
      refine ⟨⟨hbefore.given, fun other hother => ?_⟩, hread⟩
      -- the option that waits goes on waiting, with its value
      rw [(of_roleOf_eq_value hof).1] at hother
      injection hother with hother
      injection hother with hopt
      exact hbefore.waiting (some value) (congrArg (fun opt => some (opt, some value)) hopt)

/-! ## Being told more -/

/-- One option more before the command, that of being told more. -/
theorem ofGiven_verbose (name : Name) (before behind : List (Opt × String)) :
    Arguments.ofGiven name ((.verbose, "") :: before) behind
      = { Arguments.ofGiven name before behind with verbose := true } := by
  have hother : ∀ opt : Opt, opt ≠ .verbose →
      (behind ++ (.verbose, "") :: before).lookup opt = (behind ++ before).lookup opt := by
    intro opt hopt
    rw [List.lookup_append, List.lookup_append, Progress.lookup_behind hopt]
  have hverbose : ((behind ++ (.verbose, "") :: before).lookup Opt.verbose).isSome = true := by
    rw [List.lookup_append, Option.isSome_or, List.lookup_cons_self, Option.isSome_some,
      Bool.or_true]
  unfold Arguments.ofGiven
  dsimp only
  rw [hother .colour nofun, hother .config nofun, hverbose]

/-- **A command line that does not ask to be told more** says the same when
that is asked for first. -/
theorem ofWords_verbose {words : List String} {arguments : Arguments}
    (h : Arguments.ofWords words = .ok arguments) (hbrief : arguments.verbose = false) :
    Arguments.ofWords ("--verbose" :: words) = .ok { arguments with verbose := true } := by
  obtain ⟨name, rest, before, behind, next, hroot, hbehind, rfl⟩ := ofWords_eq_ok_iff.mp h
  have hnone : (behind ++ before).lookup .verbose = none :=
    Option.not_isSome_iff_eq_none.mp (Bool.eq_false_iff.mp hbrief)
  rw [List.lookup_append, Option.or_eq_none_iff] at hnone
  have hroot' : Reads .root (Progress.behind (.verbose, "") {}) words _ _ :=
    (reads_behind words hnone.2 hroot).2
  refine ofWords_eq_ok_iff.mpr ⟨name, rest, _, behind, next, ?_, hbehind,
    (ofGiven_verbose name before behind).symm⟩
  rw [reads_cons]
  exact ⟨_, rfl, hroot'⟩

end DocSite.Command
