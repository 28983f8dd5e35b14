import Mathlib.Tactic.Common
import DocSite.Proofs.Command.Reading
import DocSite.Proofs.Data.Keys

/-!
# What the paths of a command line are made of

A path that a command line gives is a word of it, or the end of one, or
the name that configuration files have where none is given. So what no
word has in it, no path has (`made_of_ofWords`).

The reader is followed word by word: `Progress.Made` says of everything
that has been taken down so far that it is made of the right characters,
and in every role a word can have each step of the reader keeps it
(`reads_made`).
-/

namespace DocSite.Command

/-- **The paths a command line names.** -/
def Action.paths : Action → List String
  | .init _ _ => []
  | .check content => content.toList
  | .emit _ output => output.toList

/-- All paths of a command line, that of the configuration file first. -/
def Arguments.paths (arguments : Arguments) : List String :=
  arguments.config :: arguments.action.paths

section

variable {p : Char → Prop}

/-- A text made of certain characters. -/
def Made (p : Char → Prop) (text : String) : Prop := ∀ c ∈ text.toList, p c

theorem made_empty : Made p "" := fun _ h => absurd h List.not_mem_nil

theorem made_ofList {chars : List Char} (h : ∀ c ∈ chars, p c) : Made p (String.ofList chars) := by
  unfold Made
  rw [String.toList_ofList]
  exact h

/-- **Values that are made of certain characters**, those that have been
taken down and the one that waits. -/
structure Progress.Made (p : Char → Prop) (progress : Progress) : Prop where
  /-- What has been taken down. -/
  given : ∀ entry ∈ progress.given, Command.Made p entry.2
  /-- What waits. -/
  waiting : ∀ opt value, progress.waiting = some (opt, some value) → Command.Made p value

namespace Progress.Made

theorem nothing : Progress.Made p {} where
  given _ h := absurd h List.not_mem_nil
  waiting _ _ h := absurd h (by simp)

variable {progress after : Progress} {opt : Opt} {value : String}

theorem record (h : progress.Made p) (hvalue : Command.Made p value)
    (hrecord : progress.record opt value = .ok after) : after.Made p := by
  obtain ⟨-, -, rfl⟩ := Progress.record_eq_ok_iff.mp hrecord
  refine ⟨fun entry hentry => ?_, h.waiting⟩
  rcases List.mem_append.mp hentry with hentry | hentry
  · exact h.given entry hentry
  · rw [List.mem_singleton.mp hentry]
    exact hvalue

theorem settle (h : progress.Made p) (hsettle : progress.settle = .ok after) : after.Made p := by
  rcases Progress.settle_cases hsettle with ⟨-, rfl⟩ | ⟨opt, value, hwaiting, hrecord⟩
  · exact h
  · have hnone : Progress.Made p { progress with waiting := none } :=
      ⟨h.given, fun _ _ hw => absurd hw (by simp)⟩
    exact hnone.record (h.waiting opt value hwaiting) hrecord

theorem add (h : progress.Made p) (hvalue : Command.Made p value)
    (hadd : progress.add opt value = .ok after) : after.Made p := by
  obtain ⟨settled, hsettle, hrecord⟩ := exists_of_bind hadd
  exact (h.settle hsettle).record hvalue hrecord

theorem await (h : progress.Made p) (hawait : progress.await opt = .ok after) :
    after.Made p := by
  obtain ⟨settled, hsettle, hwait⟩ := exists_of_bind hawait
  injection hwait with hwait
  rw [← hwait]
  exact ⟨(h.settle hsettle).given, fun _ _ hw => absurd hw (by simp)⟩

end Progress.Made

/-! ## Words -/

/-- What stands behind the equals sign is an end of the text. -/
theorem mem_of_cutAtEquals {text value : List Char} (h : (cutAtEquals text).2 = some value) :
    ∀ c ∈ value, c ∈ text := by
  unfold cutAtEquals at h
  split at h
  · exact absurd h (by simp)
  · next hdrop =>
    injection h with h
    intro c hc
    have hsuffix := List.dropWhile_suffix (l := text) (· != '=')
    rw [hdrop, h] at hsuffix
    exact hsuffix.subset (List.mem_cons_of_mem _ hc)

/-- What a word says is made of certain characters; names do not count. -/
def Word.Made (p : Char → Prop) : Word → Prop
  | .ending => True
  | .long _ value => ∀ v, value = some v → Command.Made p v
  | .letters chars => ∀ c ∈ chars, p c
  | .plain text => Command.Made p text

/-- **A word says nothing that is not in its text.** -/
theorem made_word {text : String} (h : Made p text) : (Word.ofText text).Made p := by
  unfold Word.ofText
  unfold Made at h
  split
  · trivial
  · next rest htext =>
    rw [htext] at h
    rintro v hv
    obtain ⟨value, hvalue, rfl⟩ := Option.map_eq_some_iff.mp hv
    exact made_ofList fun c hc => h c (List.mem_cons_of_mem _
      (List.mem_cons_of_mem _ (mem_of_cutAtEquals hvalue c hc)))
  · exact h
  · next rest _ _ htext =>
    rw [htext] at h
    exact fun c hc => h c (List.mem_cons_of_mem _ hc)
  · exact h

/-- What a role says is made of certain characters; names do not count. -/
def Role.Made (p : Char → Prop) : Role → Prop
  | .long _ text? => ∀ v, text? = some v → Command.Made p v
  | .letters chars => ∀ c ∈ chars, p c
  | .value _ text => Command.Made p text
  | _ => True

/-- **In no role a word says anything that is not in its text.** -/
theorem made_role {level : Level} {waiting : Option (Opt × Option String)} {text : String}
    (h : Made p text) : (roleOf level waiting text).Made p := by
  have hoption : (optionRole waiting text).Made p := by
    have hword := made_word h
    unfold optionRole
    cases hof : Word.ofText text <;> rw [hof] at hword
    case plain plain =>
      rcases waiting with _ | ⟨opt, _ | value⟩
      · trivial
      · exact hword
      · trivial
    all_goals exact hword
  unfold roleOf
  split_ifs
  · trivial
  · cases Name.ofWord? text with
    | none => exact hoption
    | some name => trivial
  · exact hoption

variable {level : Level} {progress after : Progress}

theorem readLong_made (h : progress.Made p) {name : String} {value : Option String}
    (hvalue : ∀ v, value = some v → Made p v)
    (hread : readLong level progress name value = .ok after) : after.Made p := by
  unfold readLong at hread
  split at hread
  · exact absurd hread (by simp)
  · split at hread
    · exact h.add (hvalue _ rfl) hread
    · exact h.await hread
    · exact absurd hread (by simp)
    · exact h.add made_empty hread

theorem readLetters_made (letters : List Char) : ∀ {progress : Progress}, progress.Made p →
    (∀ c ∈ letters, p c) → readLetters level progress letters = .ok after → after.Made p := by
  induction letters with
  | nil =>
    intro progress h _ hread
    rw [readLetters] at hread
    injection hread with hread
    exact hread ▸ h
  | cons letter rest ih =>
    intro progress h hletters hread
    have hrest := fun c hc => hletters c (List.mem_cons_of_mem _ hc)
    rw [readLetters] at hread
    split at hread
    · exact absurd hread (by simp)
    · next opt _ =>
      split_ifs at hread with htakes
      · split at hread
        · exact h.await hread
        · exact h.add (made_ofList fun c hc => hrest c (List.mem_cons_of_mem _ hc)) hread
        · exact h.add (made_ofList hrest) hread
      · obtain ⟨next, hadd, hread⟩ := exists_of_bind hread
        exact ih (h.add made_empty hadd) hrest hread

/-- **What words come to is made of what they are made of**, and so are the
words that are left. -/
theorem reads_made (words : List String) {given : List (Opt × String)}
    {next : Option (Name × List String)} : ∀ {progress : Progress}, progress.Made p →
    (∀ word ∈ words, Made p word) → Reads level progress words given next →
    (∀ entry ∈ given, Made p entry.2)
      ∧ ∀ name rest, next = some (name, rest) → ∀ word ∈ rest, Made p word := by
  induction words with
  | nil =>
    intro progress h _ hread
    obtain ⟨hsettle, rfl⟩ := reads_nil.mp hread
    exact ⟨(h.settle hsettle).given, nofun⟩
  | cons text rest ih =>
    intro progress h hwords hread
    obtain ⟨htext, hrest⟩ := List.forall_mem_cons.mp hwords
    have hmade : (roleOf level progress.waiting text).Made p := made_role htext
    have hrole := reads_cons.mp hread
    cases hof : roleOf level progress.waiting text <;> rw [hof] at hrole hmade
    case help => exact absurd hrole id
    case surplus => exact absurd hrole id
    case command name =>
      -- the word is that of a command, and the others are left
      obtain ⟨hsettle, rfl⟩ := hrole
      refine ⟨(h.settle hsettle).given, fun name words hsome => ?_⟩
      obtain ⟨-, rfl⟩ := Prod.mk.inj (Option.some.inj hsome)
      exact hrest
    case ending =>
      obtain ⟨hsettle, rfl, -⟩ := hrole
      exact ⟨(h.settle hsettle).given, nofun⟩
    case long name text? =>
      obtain ⟨q, hlong, hread⟩ := hrole
      exact ih (readLong_made h hmade hlong) hrest hread
    case letters chars =>
      obtain ⟨q, hletters, hread⟩ := hrole
      exact ih (readLetters_made chars h hmade hletters) hrest hread
    case value opt value =>
      refine @ih { progress with waiting := some (opt, some value) }
        ⟨h.given, fun other value hwaiting => ?_⟩ hrest hrole
      obtain ⟨-, hvalue⟩ := Prod.mk.inj (Option.some.inj hwaiting)
      exact Option.some.inj hvalue ▸ hmade

/-! ## Command lines -/

/-- A value that is looked up has been given. -/
theorem made_of_lookup {given : List (Opt × String)} (h : ∀ entry ∈ given, Made p entry.2)
    {opt : Opt} {value : String} (hlookup : given.lookup opt = some value) : Made p value :=
  h (opt, value) (mem_of_lookup hlookup)

/-- The paths of an action are values that have been given. -/
theorem made_of_actionOf {name : Name} {given : List (Opt × String)}
    (h : ∀ entry ∈ given, Made p entry.2) : ∀ path ∈ (actionOf name given).paths, Made p path := by
  intro path hpath
  cases name with
  | init => exact absurd hpath List.not_mem_nil
  | check => exact made_of_lookup h (Option.mem_toList.mp hpath)
  | emit => exact made_of_lookup h (Option.mem_toList.mp hpath)

/-- **The paths of a command line are made of what its words are made
of**, but for the name that configuration files have where none is
given. -/
theorem made_of_ofWords {words : List String} {arguments : Arguments}
    (hwords : ∀ word ∈ words, Made p word) (hname : Made p configFileName)
    (h : Arguments.ofWords words = .ok arguments) : ∀ path ∈ arguments.paths, Made p path := by
  obtain ⟨name, rest, before, behind, next, hroot, hlevel, rfl⟩ := ofWords_eq_ok_iff.mp h
  obtain ⟨hbefore, hrest⟩ := reads_made words Progress.Made.nothing hwords hroot
  obtain ⟨hbehind, -⟩ := reads_made rest Progress.Made.nothing (hrest name rest rfl) hlevel
  intro path hpath
  rcases List.mem_cons.mp hpath with rfl | hpath
  · -- the configuration file is that of the last option, or has its usual name
    show Made p (((behind ++ before).lookup .config).getD configFileName)
    cases hlookup : (behind ++ before).lookup .config with
    | none => exact hname
    | some value =>
      refine made_of_lookup (fun entry hentry => ?_) hlookup
      exact (List.mem_append.mp hentry).elim (hbehind entry) (hbefore entry)
  · exact made_of_actionOf hbehind path hpath

end

end DocSite.Command
