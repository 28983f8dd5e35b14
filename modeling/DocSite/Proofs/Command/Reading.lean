import Mathlib.Tactic.Common
import DocSite.Command.Arguments
import DocSite.Proofs.Steps

/-!
# What the words of a command line come to

The reader of a command line takes down options one after the other, and
an option only if it has not been taken down before and its value is one
of its own (`Progress.record_eq_ok_iff`). Which errors there are, and
which of several comes first, does not matter here: `Reads` says what the
words of a level come to where there is no error.

A word has a role where it stands, and what it comes to is told by that
role (`reads_cons`); the words of a level are taken apart by it, one after
the other. An option whose value is there waits until the next option
comes. That is as good as taking it down at once (`reads_settle_iff`). An
option whose value is missing has the next word if that is plain, and
otherwise the level comes to nothing (`not_reads_open`).
-/

namespace DocSite.Command

/-! ## Options and their values -/

/-- **An option with a value that counts**: the value is one of the option,
and the option does not ask for a text instead. -/
structure Fits (entry : Opt × String) : Prop where
  /-- The value is one of the option. -/
  accepted : entry.1.takesValue = true → entry.1.accepts entry.2 = true
  /-- The option does not ask for help. -/
  help : entry.1 ≠ .help
  /-- The option does not ask for the version. -/
  version : entry.1 ≠ .version

namespace Progress

variable {entry : Opt × String} {p q : Progress} {opt : Opt} {value : String}

/-- **An option is taken down if it is new and counts.** -/
theorem record_eq_ok_iff : p.record opt value = .ok q
    ↔ p.given.lookup opt = none ∧ Fits (opt, value)
      ∧ q = { p with given := p.given ++ [(opt, value)] } := by
  have hvalue : (opt.takesValue && !opt.accepts value) = true
      ↔ ¬(opt.takesValue = true → opt.accepts value = true) := by
    cases opt.takesValue <;> cases opt.accepts value <;> decide
  unfold record
  constructor
  · intro h
    split_ifs at h with hrepeated hwrong hhelp hversion
    injection h with h
    rw [hvalue, not_not] at hwrong
    exact ⟨Option.not_isSome_iff_eq_none.mp hrepeated, ⟨hwrong, hhelp, hversion⟩, h.symm⟩
  · rintro ⟨hnew, hfits, rfl⟩
    rw [if_neg (Option.not_isSome_iff_eq_none.mpr hnew),
      if_neg (fun hwrong => hvalue.mp hwrong hfits.accepted), if_neg hfits.help,
      if_neg hfits.version]

theorem settle_of_none (h : p.waiting = none) : p.settle = .ok p := by
  unfold settle
  rw [h]

theorem settle_of_some (h : p.waiting = some (opt, some value)) :
    p.settle = { p with waiting := none : Progress }.record opt value := by
  unfold settle
  rw [h]

/-- **What is settled**: nothing waits, or an option with its value, which
is taken down. -/
theorem settle_cases (h : p.settle = .ok q) :
    (p.waiting = none ∧ q = p) ∨ ∃ opt value, p.waiting = some (opt, some value)
      ∧ { p with waiting := none : Progress }.record opt value = .ok q := by
  rcases hwaiting : p.waiting with _ | ⟨opt, _ | value⟩
  · rw [settle_of_none hwaiting] at h
    exact Or.inl ⟨rfl, (Except.ok.inj h).symm⟩
  · unfold settle at h
    rw [hwaiting] at h
    exact absurd h nofun
  · rw [settle_of_some hwaiting] at h
    exact Or.inr ⟨opt, value, rfl, h⟩

/-- What is settled is what has been taken down, and nothing waits. -/
theorem eq_of_settle (h : p.settle = .ok q) : q = { given := q.given } := by
  rcases settle_cases h with ⟨hwaiting, rfl⟩ | ⟨opt, value, -, hrecord⟩
  · obtain ⟨given, waiting⟩ := q
    exact congrArg (Progress.mk given) hwaiting
  · obtain ⟨-, -, rfl⟩ := record_eq_ok_iff.mp hrecord
    rfl

/-- What is settled stays as it is. -/
theorem settle_settled (h : p.settle = .ok q) : q.settle = .ok q := by
  rw [eq_of_settle h]
  rfl

theorem settle_eq_ok_iff : p.settle = .ok q ↔ ∃ s, p.settle = .ok s ∧ s.settle = .ok q := by
  constructor
  · exact fun h => ⟨q, h, settle_settled h⟩
  · rintro ⟨s, hsettle, hsettle'⟩
    rw [hsettle, ← settle_settled hsettle, hsettle']

/-- **A step that settles first** may start from what is settled. -/
theorem settle_bind_iff {α : Type} {step : Progress → Except Stop α} {a : α} :
    p.settle >>= step = .ok a ↔ ∃ s, p.settle = .ok s ∧ s.settle >>= step = .ok a := by
  constructor
  · intro h
    obtain ⟨s, hsettle, hstep⟩ := exists_of_bind h
    refine ⟨s, hsettle, ?_⟩
    rw [settle_settled hsettle]
    exact hstep
  · rintro ⟨s, hsettle, hstep⟩
    rw [settle_settled hsettle] at hstep
    rw [hsettle]
    exact hstep

end Progress

variable {level : Level} {p q : Progress}

open Progress (settle_bind_iff)

theorem readLong_settle_iff {name : String} {value? : Option String} :
    readLong level p name value? = .ok q
      ↔ ∃ s, p.settle = .ok s ∧ readLong level s name value? = .ok q := by
  unfold readLong
  cases level.long? name with
  | none => exact iff_of_false nofun fun ⟨_, _, h⟩ => absurd h nofun
  | some opt =>
    dsimp only
    cases opt.takesValue <;> cases value?
    · exact settle_bind_iff
    · exact iff_of_false nofun fun ⟨_, _, h⟩ => absurd h nofun
    · exact settle_bind_iff
    · exact settle_bind_iff

theorem readLetters_settle_iff {letter : Char} {rest : List Char} :
    readLetters level p (letter :: rest) = .ok q
      ↔ ∃ s, p.settle = .ok s ∧ readLetters level s (letter :: rest) = .ok q := by
  simp only [readLetters]
  cases level.letter? letter with
  | none => exact iff_of_false nofun fun ⟨_, _, h⟩ => absurd h nofun
  | some opt =>
    dsimp only
    by_cases htakes : opt.takesValue = true
    · simp only [if_pos htakes]
      split <;> exact settle_bind_iff
    · simp only [if_neg htakes, Progress.add, bind_assoc]
      exact settle_bind_iff

/-! ## Word by word -/

/-- **What a word is at its place** on a command line. -/
inductive Role where
  /-- The command that asks for help. -/
  | help
  /-- A command. -/
  | command (name : Name)
  /-- The end of the options. -/
  | ending
  /-- An option by its long name. -/
  | long (name : String) (value : Option String)
  /-- Options by their letters. -/
  | letters (letters : List Char)
  /-- The value of the option that waits. -/
  | value (opt : Opt) (text : String)
  /-- A word too many. -/
  | surplus

/-- Whether an option waits for its value. -/
def isOpen : Option (Opt × Option String) → Bool
  | some (_, none) => true
  | _ => false

/-- The role of a word that is no command. -/
def optionRole (waiting : Option (Opt × Option String)) (text : String) : Role :=
  match Word.ofText text, waiting with
  | .ending, _ => .ending
  | .long name value, _ => .long name value
  | .letters letters, _ => .letters letters
  | .plain text, some (opt, none) => .value opt text
  | .plain _, _ => .surplus

/-- **The role of a word** at a level, where something may wait. A word is a
command where commands may stand and no option waits for a value. -/
def roleOf (level : Level) (waiting : Option (Opt × Option String)) (text : String) : Role :=
  if isOpen waiting = false ∧ level = .root then
    if text = "help" then .help
    else (Name.ofWord? text).elim (optionRole waiting text) .command
  else optionRole waiting text

/-- A plain word is all of it. -/
theorem eq_of_ofText_plain {text plain : String} (h : Word.ofText text = .plain plain) :
    plain = text := by
  unfold Word.ofText at h
  split at h
  · exact absurd h nofun
  · exact absurd h nofun
  · exact (Word.plain.inj h).symm
  · exact absurd h nofun
  · exact (Word.plain.inj h).symm

/-- A word of letters has some. -/
theorem ofText_ne_letters_nil {text : String} : Word.ofText text ≠ .letters [] := by
  unfold Word.ofText
  split
  · exact nofun
  · exact nofun
  · exact nofun
  · next hne _ =>
    intro h
    injection h with h
    exact hne h
  · exact nofun

variable {waiting : Option (Opt × Option String)} {text value : String} {opt : Opt}

/-- A word is a value only where an option waits for it, and if it is plain. -/
theorem of_roleOf_eq_value (h : roleOf level waiting text = .value opt value) :
    waiting = some (opt, none) ∧ Word.ofText text = .plain text := by
  have hoption : optionRole waiting text = .value opt value →
      waiting = some (opt, none) ∧ Word.ofText text = .plain text := by
    unfold optionRole
    intro hrole
    split at hrole
    · exact absurd hrole nofun
    · exact absurd hrole nofun
    · exact absurd hrole nofun
    · next hword =>
      injection hrole with hopt
      exact ⟨by rw [hopt], by rw [hword, eq_of_ofText_plain hword]⟩
    · exact absurd hrole nofun
  unfold roleOf at h
  split_ifs at h
  · cases hname : Name.ofWord? text with
    | none =>
      rw [hname] at h
      exact hoption h
    | some name =>
      rw [hname] at h
      exact absurd h nofun
  · exact hoption h

/-- What has its value already does not count. -/
theorem roleOf_of_isOpen (h : isOpen waiting = false) :
    roleOf level waiting text = roleOf level none text := by
  rcases waiting with _ | ⟨opt, _ | value⟩
  · rfl
  · exact absurd h nofun
  · unfold roleOf optionRole
    cases Word.ofText text <;> rfl

theorem roleOf_ne_letters_nil : roleOf level waiting text ≠ .letters [] := by
  have hoption : optionRole waiting text ≠ .letters [] := by
    unfold optionRole
    split
    · exact nofun
    · exact nofun
    · next hword =>
      intro h
      injection h with h
      exact ofText_ne_letters_nil (h ▸ hword)
    · exact nofun
    · exact nofun
  unfold roleOf
  split_ifs
  · exact nofun
  · cases Name.ofWord? text with
    | none => exact hoption
    | some name => exact nofun
  · exact hoption

/-- How a level is read on behind a word with a role. -/
def readRole (level : Level) (p : Progress) (rest : List String) :
    Role → Except Stop (Progress × Option (Name × List String))
  | .help => .error (readHelp rest)
  | .command name => .ok (p, some (name, rest))
  | .ending => (readRest level p rest).map fun p => (p, none)
  | .long name value => do readLevel level (← readLong level p name value) rest
  | .letters letters => do readLevel level (← readLetters level p letters) rest
  | .value opt text => readLevel level { p with waiting := some (opt, some text) } rest
  | .surplus => .error level.surplus

/-- **A level is read word by word**, each by its role. -/
theorem readLevel_cons (level : Level) (p : Progress) (text : String) (rest : List String) :
    readLevel level p (text :: rest) = readRole level p rest (roleOf level p.waiting text) := by
  obtain ⟨given, waiting⟩ := p
  rw [readLevel]
  unfold roleOf
  rcases waiting with _ | ⟨opt, _ | value⟩ <;> cases level
  case none.root | some.some.root =>
    -- a command may stand here
    show _ = readRole .root _ rest (if text = "help" then .help
      else (Name.ofWord? text).elim (optionRole _ text) .command)
    split
    · next hword =>
      change some text = some "help" at hword
      rw [if_pos (Option.some.inj hword)]
      rfl
    · next hword =>
      rw [if_neg fun hhelp => hword (congrArg some hhelp)]
      split
      · next name hname =>
        change Name.ofWord? text = some name at hname
        rw [hname]
        rfl
      · next hname =>
        change Name.ofWord? text = none at hname
        rw [hname]
        show _ = readRole _ _ rest (optionRole _ text)
        unfold optionRole
        cases Word.ofText text <;> rfl
  all_goals
    unfold optionRole
    cases Word.ofText text <;> rfl

/-! ## What words come to -/

/-- **What the words of a level come to**: the options that have been taken
down when nothing waits any more, and the command with the words behind
it. -/
def Reads (level : Level) (p : Progress) (words : List String) (given : List (Opt × String))
    (next : Option (Name × List String)) : Prop :=
  ∃ q, readLevel level p words = .ok (q, next) ∧ q.settle = .ok { given := given }

/-- What a word with a role comes to, with the words behind it. -/
def Role.Reads (level : Level) (p : Progress) (rest : List String) (given : List (Opt × String))
    (next : Option (Name × List String)) : Role → Prop
  | .help => False
  | .command name => p.settle = .ok { given := given } ∧ next = some (name, rest)
  | .ending => p.settle = .ok { given := given } ∧ next = none ∧ rest = []
  | .long name text? =>
    ∃ q, readLong level p name text? = .ok q ∧ Command.Reads level q rest given next
  | .letters chars =>
    ∃ q, readLetters level p chars = .ok q ∧ Command.Reads level q rest given next
  | .value opt text =>
    Command.Reads level { p with waiting := some (opt, some text) } rest given next
  | .surplus => False

variable {given : List (Opt × String)} {next : Option (Name × List String)}

theorem reads_end {end? : Option (Name × List String)} :
    (∃ q, (.ok (p, end?) : Except Stop _) = .ok (q, next) ∧ q.settle = .ok { given := given })
      ↔ p.settle = .ok { given := given } ∧ next = end? := by
  constructor
  · rintro ⟨q, hread, hsettle⟩
    obtain ⟨rfl, rfl⟩ := Prod.mk.inj (Except.ok.inj hread)
    exact ⟨hsettle, rfl⟩
  · rintro ⟨hsettle, rfl⟩
    exact ⟨p, rfl, hsettle⟩

theorem reads_nil : Reads level p [] given next
    ↔ p.settle = .ok { given := given } ∧ next = none := by
  unfold Reads
  rw [readLevel]
  exact reads_end

theorem reads_bind {step : Except Stop Progress} {rest : List String} :
    (∃ q, (do readLevel level (← step) rest) = .ok (q, next) ∧ q.settle = .ok { given := given })
      ↔ ∃ q, step = .ok q ∧ Reads level q rest given next := by
  constructor
  · rintro ⟨q, hread, hsettle⟩
    obtain ⟨first, hstep, hread⟩ := exists_of_bind hread
    exact ⟨first, hstep, q, hread, hsettle⟩
  · rintro ⟨first, rfl, q, hread, hsettle⟩
    exact ⟨q, hread, hsettle⟩

/-- **What words come to is told by the role of the first.** -/
theorem reads_cons {text : String} {rest : List String} : Reads level p (text :: rest) given next
    ↔ (roleOf level p.waiting text).Reads level p rest given next := by
  unfold Reads
  rw [readLevel_cons]
  cases roleOf level p.waiting text with
  | help => exact ⟨nofun, nofun⟩
  | surplus => exact ⟨nofun, nofun⟩
  | value opt text => exact Iff.rfl
  | long name value => exact reads_bind
  | letters letters => exact reads_bind
  | command name => exact reads_end
  | ending =>
    cases rest with
    | nil => exact reads_end.trans (and_congr_right fun _ => (and_iff_left rfl).symm)
    | cons other rest =>
      refine iff_of_false ?_ fun h => absurd h.2.2 nofun
      rintro ⟨q, hread, -⟩
      dsimp only [readRole, readRest] at hread
      split_ifs at hread <;> exact absurd hread nofun

/-! ## What waits -/

/-- **What waits is taken down before the next option**, so words come to what
they come to when it is taken down at once, except for its value. -/
theorem Role.reads_settle_iff {role : Role} (hvalue : ∀ opt text, role ≠ .value opt text)
    (hletters : role ≠ .letters []) {rest : List String} :
    role.Reads level p rest given next
      ↔ ∃ s, p.settle = .ok s ∧ role.Reads level s rest given next := by
  cases role with
  | help => exact iff_of_false id fun ⟨_, _, h⟩ => h
  | surplus => exact iff_of_false id fun ⟨_, _, h⟩ => h
  | value opt text => exact absurd rfl (hvalue opt text)
  | command name =>
    dsimp only [Role.Reads]
    rw [Progress.settle_eq_ok_iff]
    simp only [← and_assoc, exists_and_right]
  | ending =>
    dsimp only [Role.Reads]
    rw [Progress.settle_eq_ok_iff]
    simp only [← and_assoc, exists_and_right]
  | long name text? =>
    constructor
    · rintro ⟨q, hlong, hread⟩
      obtain ⟨s, hsettle, hlong⟩ := readLong_settle_iff.mp hlong
      exact ⟨s, hsettle, q, hlong, hread⟩
    · rintro ⟨s, hsettle, q, hlong, hread⟩
      exact ⟨q, readLong_settle_iff.mpr ⟨s, hsettle, hlong⟩, hread⟩
  | letters chars =>
    obtain ⟨letter, others, rfl⟩ := List.exists_cons_of_ne_nil fun h => hletters (congrArg _ h)
    constructor
    · rintro ⟨q, hletters, hread⟩
      obtain ⟨s, hsettle, hletters⟩ := readLetters_settle_iff.mp hletters
      exact ⟨s, hsettle, q, hletters, hread⟩
    · rintro ⟨s, hsettle, q, hletters, hread⟩
      exact ⟨q, readLetters_settle_iff.mpr ⟨s, hsettle, hletters⟩, hread⟩

/-- **What waits with its value** is taken down before anything else. -/
theorem reads_settle_iff (hopen : isOpen p.waiting = false) {words : List String} :
    Reads level p words given next ↔ ∃ s, p.settle = .ok s ∧ Reads level s words given next := by
  have hrole : ∀ text s, p.settle = .ok s →
      roleOf level s.waiting text = roleOf level p.waiting text := by
    intro text s hsettle
    rw [Progress.eq_of_settle hsettle, roleOf_of_isOpen hopen]
  cases words with
  | nil =>
    simp only [reads_nil]
    rw [Progress.settle_eq_ok_iff]
    simp only [← and_assoc, exists_and_right]
  | cons text rest =>
    have hvalue : ∀ opt value, roleOf level p.waiting text ≠ .value opt value := by
      intro opt value h
      rw [(of_roleOf_eq_value h).1] at hopen
      exact absurd hopen nofun
    rw [reads_cons, Role.reads_settle_iff hvalue roleOf_ne_letters_nil]
    refine exists_congr fun s => and_congr_right fun hsettle => ?_
    rw [reads_cons, hrole text s hsettle]

/-- **What waits without a value** has the next word, or there is no value. -/
theorem not_reads_open {taken : List (Opt × String)} {words : List String}
    (hwords : ∀ text ∈ words.head?, Word.ofText text ≠ .plain text) :
    ¬Reads level { given := taken, waiting := some (opt, none) } words given next := by
  intro h
  cases words with
  | nil => exact absurd (reads_nil.mp h).1 nofun
  | cons text rest =>
    obtain ⟨s, hsettle, -⟩ := (Role.reads_settle_iff
      (fun opt value hrole => hwords text rfl (of_roleOf_eq_value hrole).2)
      roleOf_ne_letters_nil).mp (reads_cons.mp h)
    exact absurd hsettle nofun

/-- **A command line that can be read**: the words before the command come
to something, and those behind it do. -/
theorem ofWords_eq_ok_iff {words : List String} {arguments : Arguments} :
    Arguments.ofWords words = .ok arguments
      ↔ ∃ name rest before behind next, Reads .root {} words before (some (name, rest))
        ∧ Reads (.behind name) {} rest behind next
        ∧ arguments = .ofGiven name before behind := by
  constructor
  · intro h
    obtain ⟨⟨before, _ | ⟨name, rest⟩⟩, hroot, h⟩ := exists_of_bind h
    · obtain ⟨settled, -, h⟩ := exists_of_bind h
      exact absurd h (by simp)
    · obtain ⟨⟨behind, next⟩, hbehind, h⟩ := exists_of_bind h
      obtain ⟨behind', hsettle', h⟩ := exists_of_bind h
      obtain ⟨before', hsettle, h⟩ := exists_of_bind h
      refine ⟨name, rest, before'.given, behind'.given, next, ⟨before, hroot, ?_⟩,
        ⟨behind, hbehind, ?_⟩, (Except.ok.inj h).symm⟩
      · rw [hsettle, ← Progress.eq_of_settle hsettle]
      · rw [hsettle', ← Progress.eq_of_settle hsettle']
  · rintro ⟨name, rest, before, behind, next, ⟨p, hroot, hsettle⟩, ⟨q, hbehind, hsettle'⟩, rfl⟩
    unfold Arguments.ofWords
    rw [hroot]
    show (readLevel (.behind name) {} rest >>= _) = _
    rw [hbehind]
    show (q.settle >>= _) = _
    rw [hsettle']
    show (p.settle >>= _) = _
    rw [hsettle]
    rfl

end DocSite.Command
