import Mathlib.Data.List.TakeWhile
import DocSite.Proofs.Command.Reading
import DocSite.Proofs.Data.Keys

/-!
# Options as they are written

An option can be written in many ways: by its long name, or by its letter
behind those of flags, and with its value behind an equals sign, right
behind the letter, or as a word of its own. `Written` says how, with
`Written.words` for the words it comes to and `Written.settings` for what
it says.

Words that are written so are read as what they say. Options that stand in
a row come to something exactly if each has a value as it should and none
of them is said twice (`reads_options`), however they are written, and a
command line exactly if that holds on both sides of its command
(`ofWords_line_iff`). Only before the command an option has to have its
value with it, for otherwise the name of the command would be the value.
-/

namespace DocSite.Command

/-! ## Words for options -/

/-- **How an option is called.** -/
inductive Handle where
  /-- By its long name. -/
  | long
  /-- By its letter, behind those of some flags. -/
  | letters (flags : List Opt)

/-- The flags that are called together with an option. -/
def Handle.flags : Handle → List Opt
  | long => []
  | letters flags => flags

/-- **How a value is attached** to an option. -/
inductive Attachment where
  /-- There is none. -/
  | bare
  /-- Behind an equals sign. -/
  | equals (value : String)
  /-- Right behind the letter. -/
  | joined (value : String)
  /-- As the next word. -/
  | apart (value : String)

namespace Attachment

/-- The value; a flag has the value `""`. -/
def text : Attachment → String
  | bare => ""
  | equals value => value
  | joined value => value
  | apart value => value

/-- What stands in the word of the option behind its name. -/
def suffix : Attachment → String
  | equals value => "=" ++ value
  | joined value => value
  | _ => ""

/-- The value that is in the word of the option. -/
def inside? : Attachment → Option String
  | equals value => some value
  | joined value => some value
  | _ => none

/-- The word behind that of the option. -/
def behind : Attachment → List String
  | apart value => [value]
  | _ => []

end Attachment

/-- **An option as it is written**, in one word or in two. -/
structure Written where
  /-- How the option is called. -/
  handle : Handle
  /-- The option. -/
  opt : Opt
  /-- Its value. -/
  value : Attachment

namespace Written

/-- The name in the word of an option. -/
def name (o : Written) : String :=
  match o.handle with
  | .long => "--" ++ o.opt.long
  | .letters flags => "-" ++ String.ofList ((flags ++ [o.opt]).filterMap Opt.letter?)

/-- **The words of an option.** -/
def words (o : Written) : List String :=
  (o.name ++ o.value.suffix) :: o.value.behind

/-- **What an option says**, together with the flags that are called with
it. -/
def settings (o : Written) : List (Opt × String) :=
  o.handle.flags.map (·, "") ++ [(o.opt, o.value.text)]

/-- **An option that is written with certain options**, as one can write
it. Whether it should have a value, and has one, is not asked. -/
structure Of (options : List Opt) (o : Written) : Prop where
  /-- The option is one of them. -/
  opt : o.opt ∈ options
  /-- So are the flags it is called with, and they have letters. -/
  flags : ∀ flag ∈ o.handle.flags,
    flag ∈ options ∧ flag.takesValue = false ∧ flag.letter?.isSome = true
  /-- An option that is called by its letter has one. -/
  letter : ∀ flags, o.handle = .letters flags → o.opt.letter?.isSome = true
  /-- Right behind a letter stands the value of the option, and not the
  next letter. -/
  joined : ∀ value, o.value = .joined value → o.handle ≠ .long ∧ o.opt.takesValue = true
    ∧ value ≠ "" ∧ value.toList.head? ≠ some '='
  /-- The next word is the value of the option, and not the next option. -/
  apart : ∀ value, o.value = .apart value → o.opt.takesValue = true

/-- An option that takes a value and has none takes the next word. -/
def Whole (o : Written) : Prop := o.value = .bare → o.opt.takesValue = false

/-- **An option that has a value exactly if it takes one.** A word of its own
is a value only if it does not look like an option. -/
def Sound (o : Written) : Prop :=
  match o.value with
  | .bare => o.opt.takesValue = false
  | .apart value => Word.ofText value = .plain value
  | _ => o.opt.takesValue = true

example (value : String) : words ⟨.letters [], .config, .apart value⟩ = ["-C", value] := by rfl

end Written

/-! ## Words by what they are -/

/-- The options of a level have long names of their own. -/
theorem long?_of_mem {level : Level} : ∀ opt ∈ level.options, level.long? opt.long = some opt := by
  rcases level with _ | (_ | _ | _) <;> decide

theorem letter?_of_mem {level : Level} {opt : Opt} (hopt : opt ∈ level.options) {letter : Char}
    (hletter : opt.letter? = some letter) : level.letter? letter = some opt := by
  have hall : ∀ opt ∈ level.options,
      (opt.letter?.all fun letter => level.letter? letter = some opt) = true := by
    rcases level with _ | (_ | _ | _) <;> decide
  have hown := hall opt hopt
  rw [hletter] at hown
  exact of_decide_eq_true hown

theorem letter?_equals {level : Level} : level.letter? '=' = none := by
  rcases level with _ | (_ | _ | _) <;> decide

theorem letter?_ne_hyphen {opt : Opt} : opt.letter? ≠ some '-' := by
  cases opt <;> decide

/-- Cutting at an equals sign that is the first. -/
theorem cutAtEquals_append {name : List Char} (hname : ∀ c ∈ name, (c != '=') = true)
    (value : List Char) : cutAtEquals (name ++ '=' :: value) = (name, some value) := by
  unfold cutAtEquals
  rw [List.dropWhile_append_of_pos hname, List.takeWhile_append_of_pos hname]
  show (name ++ [], some value) = _
  rw [List.append_nil]

/-- Cutting where there is no equals sign. -/
theorem cutAtEquals_of_forall {name : List Char} (hname : ∀ c ∈ name, (c != '=') = true) :
    cutAtEquals name = (name, none) := by
  unfold cutAtEquals
  rw [List.dropWhile_eq_nil_iff.mpr hname]

theorem ofText_long {text : String} {rest : List Char} (h : text.toList = '-' :: '-' :: rest)
    (hrest : rest ≠ []) : Word.ofText text
      = .long (String.ofList (cutAtEquals rest).1) ((cutAtEquals rest).2.map String.ofList) := by
  unfold Word.ofText
  rw [h]
  obtain ⟨c, rest, rfl⟩ := List.exists_cons_of_ne_nil hrest
  rfl

theorem ofText_letters {text : String} {c : Char} {rest : List Char}
    (h : text.toList = '-' :: c :: rest) (hc : c ≠ '-') :
    Word.ofText text = .letters (c :: rest) := by
  unfold Word.ofText
  rw [h]
  split
  · next h => exact absurd (List.cons.inj (List.cons.inj h).2).1 hc
  · next h => exact absurd (List.cons.inj (List.cons.inj h).2).1 hc
  · next h => exact absurd (List.cons.inj h).2 nofun
  · next h => rw [(List.cons.inj h).2]
  · next h => exact absurd rfl (h _)

/-- The names of commands look like no option. -/
theorem plain_of_command {text : String} (h : (Name.ofWord? text).isSome = true ∨ text = "help") :
    Word.ofText text = .plain text := by
  have hwords : ∀ name : Name, ∀ word ∈ name.words, Word.ofText word = .plain word := by
    intro name
    cases name <;> decide
  rcases h with h | rfl
  · obtain ⟨name, hname⟩ := Option.isSome_iff_exists.mp h
    have hcontains : name.words.contains text = true :=
      List.find?_some (p := fun name : Name => name.words.contains text) hname
    exact hwords name text (List.contains_iff_mem.mp hcontains)
  · decide

/-- A word that looks like an option is one, or the end of them. -/
theorem roleOf_of_ofText {level : Level} {waiting : Option (Opt × Option String)} {text : String}
    (h : Word.ofText text ≠ .plain text) :
    roleOf level waiting text = optionRole waiting text := by
  unfold roleOf
  split_ifs with hplace hhelp
  · exact absurd (plain_of_command (Or.inr hhelp)) h
  · cases hname : Name.ofWord? text with
    | none => rfl
    | some name => exact absurd (plain_of_command (Or.inl (by rw [hname]; rfl))) h
  · rfl

/-! ## Options that can be taken down -/

/-- **Options that can be taken down** one after the other: no option stands
twice, and each counts. -/
structure Acceptable (given : List (Opt × String)) : Prop where
  /-- No option stands twice. -/
  keys : (given.map Prod.fst).Nodup
  /-- Each counts. -/
  fits : ∀ entry ∈ given, Fits entry

namespace Acceptable

variable {given others : List (Opt × String)} {opt : Opt} {value : String}

theorem nil : Acceptable [] := ⟨List.nodup_nil, fun _ h => absurd h List.not_mem_nil⟩

/-- Options can be taken down in any order. -/
theorem perm_iff (h : given.Perm others) : Acceptable given ↔ Acceptable others := by
  have hperm : ∀ {l l' : List (Opt × String)}, l.Perm l' → Acceptable l → Acceptable l' :=
    fun h hl => ⟨(h.map Prod.fst).nodup_iff.mp hl.keys, fun entry hentry =>
      hl.fits entry (h.mem_iff.mpr hentry)⟩
  exact ⟨hperm h, hperm h.symm⟩

/-- **Options in a row** can be taken down if those on both sides can and none
is on both. -/
theorem append_iff : Acceptable (given ++ others)
    ↔ Acceptable given ∧ Acceptable others
      ∧ ∀ entry ∈ given, ∀ other ∈ others, entry.1 ≠ other.1 := by
  have hkeys : (given.map Prod.fst ++ others.map Prod.fst).Nodup ↔ _ := List.nodup_append
  rw [← List.map_append] at hkeys
  constructor
  · rintro ⟨hnodup, hfits⟩
    obtain ⟨hgiven, hothers, hne⟩ := hkeys.mp hnodup
    refine ⟨⟨hgiven, fun entry hentry => hfits entry (List.mem_append_left _ hentry)⟩,
      ⟨hothers, fun entry hentry => hfits entry (List.mem_append_right _ hentry)⟩,
      fun entry hentry other hother => ?_⟩
    exact hne _ (List.mem_map_of_mem hentry) _ (List.mem_map_of_mem hother)
  · rintro ⟨hgiven, hothers, hne⟩
    refine ⟨hkeys.mpr ⟨hgiven.keys, hothers.keys, fun key hkey key' hkey' => ?_⟩,
      fun entry hentry => ?_⟩
    · obtain ⟨entry, hentry, rfl⟩ := List.mem_map.mp hkey
      obtain ⟨other, hother, rfl⟩ := List.mem_map.mp hkey'
      exact hne entry hentry other hother
    · exact (List.mem_append.mp hentry).elim (hgiven.fits entry) (hothers.fits entry)

theorem left (h : Acceptable (given ++ others)) : Acceptable given := (append_iff.mp h).1

/-- **One option more is taken down** if all of them can be. -/
theorem add_iff (h : Acceptable given) {q : Progress} :
    Progress.add { given := given } opt value = .ok q
      ↔ Acceptable (given ++ [(opt, value)]) ∧ q = { given := given ++ [(opt, value)] } := by
  show Progress.record _ opt value = .ok q ↔ _
  rw [Progress.record_eq_ok_iff, lookup_eq_none_iff_notMem, ← and_assoc]
  refine and_congr_left fun _ => ⟨fun ⟨hnew, hfits⟩ => ?_, fun hall => ⟨fun hmem => ?_, ?_⟩⟩
  · refine append_iff.mpr ⟨h, ⟨List.nodup_singleton _, ?_⟩, ?_⟩
    · rintro entry hentry
      rw [List.mem_singleton.mp hentry]
      exact hfits
    · rintro entry hentry other hother heq
      rw [List.mem_singleton.mp hother] at heq
      exact hnew (List.mem_map.mpr ⟨entry, hentry, heq⟩)
  · obtain ⟨entry, hentry, heq⟩ := List.mem_map.mp hmem
    exact (append_iff.mp hall).2.2 entry hentry _ (List.mem_singleton_self _) heq
  · exact hall.fits _ (List.mem_append_right _ (List.mem_singleton_self _))

end Acceptable

/-! ## Words for an option, read -/

/-- **Takes an option** that has a value in its word, or none there. -/
def Progress.take (p : Progress) (opt : Opt) (value? : Option String) : Except Stop Progress :=
  match opt.takesValue, value? with
  | true, some value => p.add opt value
  | true, none => p.await opt
  | false, some _ => .error .flagValue
  | false, none => p.add opt ""

variable {level : Level} {opt : Opt} {p q : Progress}

theorem readLong_of_mem (h : opt ∈ level.options) (p : Progress) (value? : Option String) :
    readLong level p opt.long value? = p.take opt value? := by
  unfold readLong
  rw [long?_of_mem opt h]
  rfl

/-- The last letter of a word, and what stands behind it. -/
theorem readLetters_last (hopt : opt ∈ level.options) {letter : Char}
    (hletter : opt.letter? = some letter) {value : Attachment} (hjoined : ∀ v, value = .joined v →
      opt.takesValue = true ∧ v ≠ "" ∧ v.toList.head? ≠ some '=') :
    readLetters level p (letter :: value.suffix.toList) = .ok q
      ↔ p.take opt value.inside? = .ok q := by
  rw [readLetters, letter?_of_mem hopt hletter]
  dsimp only
  unfold Progress.take
  cases htakes : opt.takesValue with
  | true =>
    rw [if_pos rfl]
    cases value with
    | bare => rfl
    | apart v => rfl
    | equals v =>
      rw [show (Attachment.equals v).suffix.toList = '=' :: v.toList from String.toList_append]
      show p.add opt (String.ofList v.toList) = .ok q ↔ _
      rw [String.ofList_toList]
      rfl
    | joined v =>
      obtain ⟨-, hne, hhead⟩ := hjoined v rfl
      split
      · next hnil => exact absurd (String.toList_eq_nil_iff.mp hnil) hne
      · next value heq => exact absurd (congrArg List.head? heq) hhead
      · show p.add opt (String.ofList v.toList) = .ok q ↔ _
        rw [String.ofList_toList]
        rfl
  | false =>
    rw [if_neg Bool.false_ne_true]
    have hend : (do readLetters level (← p.add opt "") []) = p.add opt "" := by
      cases p.add opt "" with
      | error stop => rfl
      | ok q =>
        show readLetters level q [] = .ok q
        rw [readLetters]
    cases value with
    | bare => exact iff_of_eq (congrArg (· = Except.ok q) hend)
    | apart v => exact iff_of_eq (congrArg (· = Except.ok q) hend)
    | equals v =>
      refine iff_of_false (fun h => ?_) (by simp [Attachment.inside?])
      obtain ⟨next, -, hread⟩ := exists_of_bind h
      rw [show (Attachment.equals v).suffix.toList = '=' :: v.toList from String.toList_append,
        readLetters, letter?_equals] at hread
      exact absurd hread (by simp)
    | joined v => exact absurd (htakes.symm.trans (hjoined v rfl).1) Bool.false_ne_true

/-- **The letters of flags** in front of other letters. -/
theorem readLetters_flags {flags : List Opt} (hflags : ∀ flag ∈ flags,
      flag ∈ level.options ∧ flag.takesValue = false ∧ flag.letter?.isSome = true)
    (letters : List Char) : ∀ {given : List (Opt × String)}, Acceptable given →
    (readLetters level { given := given } (flags.filterMap Opt.letter? ++ letters) = .ok q
      ↔ Acceptable (given ++ flags.map (·, ""))
        ∧ readLetters level { given := given ++ flags.map (·, "") } letters = .ok q) := by
  induction flags with
  | nil =>
    intro given hgiven
    rw [List.map_nil, List.append_nil]
    exact (and_iff_right hgiven).symm
  | cons flag flags ih =>
    intro given hgiven
    obtain ⟨hmem, htakes, hsome⟩ := hflags flag List.mem_cons_self
    obtain ⟨letter, hletter⟩ := Option.isSome_iff_exists.mp hsome
    have hrest := fun other hother => hflags other (List.mem_cons_of_mem _ hother)
    rw [List.filterMap_cons_some hletter, List.cons_append, readLetters,
      letter?_of_mem hmem hletter]
    dsimp only
    rw [htakes, if_neg Bool.false_ne_true, List.map_cons, List.append_cons given]
    constructor
    · intro h
      obtain ⟨next, hadd, hread⟩ := exists_of_bind h
      obtain ⟨hadded, rfl⟩ := hgiven.add_iff.mp hadd
      exact (ih hrest hadded).mp hread
    · rintro ⟨hall, hread⟩
      rw [hgiven.add_iff.mpr ⟨hall.left, rfl⟩]
      exact (ih hrest hall.left).mpr ⟨hall, hread⟩

variable {taken given' : List (Opt × String)} {value : String} {rest : List String}
variable {next : Option (Name × List String)}

/-- An option with its value, and the rest of the words. -/
theorem reads_add : (Acceptable taken ∧ ∃ q, Progress.add { given := taken } opt value = .ok q
      ∧ Reads level q rest given' next)
    ↔ Acceptable (taken ++ [(opt, value)])
      ∧ Reads level { given := taken ++ [(opt, value)] } rest given' next := by
  constructor
  · rintro ⟨htaken, q, hadd, hread⟩
    obtain ⟨hall, rfl⟩ := htaken.add_iff.mp hadd
    exact ⟨hall, hread⟩
  · rintro ⟨hall, hread⟩
    exact ⟨hall.left, _, hall.left.add_iff.mpr ⟨hall, rfl⟩, hread⟩

/-- The value of an option as a word of its own, and the rest of the words. -/
theorem reads_value : (Acceptable taken
      ∧ Reads level { given := taken, waiting := some (opt, none) } (value :: rest) given' next)
    ↔ Word.ofText value = .plain value ∧ Acceptable (taken ++ [(opt, value)])
      ∧ Reads level { given := taken ++ [(opt, value)] } rest given' next := by
  by_cases hplain : Word.ofText value = .plain value
  · have hrole : roleOf level (some (opt, none)) value = .value opt value := by
      show optionRole _ value = _
      unfold optionRole
      rw [hplain]
    rw [reads_cons, hrole, ← reads_add, and_iff_right hplain]
    exact and_congr_right fun _ => reads_settle_iff rfl
  · refine iff_of_false (fun h => ?_) fun h => hplain h.1
    refine not_reads_open (fun text htext => ?_) h.2
    rw [← Option.some.inj htext]
    exact hplain

namespace Written

variable {o : Written} {options : List Opt}

/-- An option that is called by its long name is told by it. -/
theorem ofText_of_long (ho : o.Of options) (hhandle : o.handle = .long) :
    Word.ofText (o.name ++ o.value.suffix) = .long o.opt.long o.value.inside? := by
  have hname : o.name.toList = '-' :: '-' :: o.opt.long.toList := by
    unfold name
    rw [hhandle]
    exact String.toList_append
  have hlong : o.opt.long.toList ≠ [] ∧ ∀ c ∈ o.opt.long.toList, (c != '=') = true := by
    rw [← List.all_eq_true]
    cases o.opt <;> decide
  have hword : (o.name ++ o.value.suffix).toList
      = '-' :: '-' :: (o.opt.long.toList ++ o.value.suffix.toList) := by
    rw [String.toList_append, hname]
    rfl
  have hcut : cutAtEquals (o.opt.long.toList ++ o.value.suffix.toList)
      = (o.opt.long.toList, o.value.inside?.map String.toList) := by
    cases hvalue : o.value with
    | joined v => exact absurd hhandle (ho.joined v hvalue).1
    | equals v =>
      rw [show (Attachment.equals v).suffix.toList = '=' :: v.toList from String.toList_append]
      exact cutAtEquals_append hlong.2 v.toList
    | bare => exact (congrArg _ (List.append_nil _)).trans (cutAtEquals_of_forall hlong.2)
    | apart v => exact (congrArg _ (List.append_nil _)).trans (cutAtEquals_of_forall hlong.2)
  have hvalue : (o.value.inside?.map String.toList).map String.ofList = o.value.inside? := by
    cases o.value.inside? with
    | none => rfl
    | some v => exact congrArg some String.ofList_toList
  rw [ofText_long hword fun h => hlong.1 (List.append_eq_nil_iff.mp h).1, hcut, hvalue,
    String.ofList_toList]

/-- An option that is called by its letter is told by the letters. -/
theorem ofText_of_letters {flags : List Opt} (hhandle : o.handle = .letters flags)
    {letter : Char} (hletter : o.opt.letter? = some letter) :
    Word.ofText (o.name ++ o.value.suffix)
      = .letters (flags.filterMap Opt.letter? ++ letter :: o.value.suffix.toList) := by
  have hword : (o.name ++ o.value.suffix).toList
      = '-' :: (flags.filterMap Opt.letter? ++ letter :: o.value.suffix.toList) := by
    unfold name
    rw [hhandle]
    have hletters : (String.ofList ((flags ++ [o.opt]).filterMap Opt.letter?)).toList
        = flags.filterMap Opt.letter? ++ [letter] := by
      rw [String.toList_ofList, List.filterMap_append, List.filterMap_cons_some hletter,
        List.filterMap_nil]
    rw [String.toList_append, String.toList_append, hletters]
    show '-' :: (flags.filterMap Opt.letter? ++ [letter] ++ o.value.suffix.toList) = _
    rw [List.append_assoc]
    rfl
  -- no letter is a hyphen, and the first is that of a flag or of the option
  cases hflags : flags.filterMap Opt.letter? with
  | nil =>
    rw [hflags] at hword
    exact ofText_letters hword fun h => letter?_ne_hyphen (h ▸ hletter)
  | cons first others =>
    obtain ⟨flag, -, hfirst⟩ := List.mem_filterMap.mp (hflags ▸ List.mem_cons_self)
    rw [hflags] at hword
    exact ofText_letters hword fun h => letter?_ne_hyphen (h ▸ hfirst)

variable {given : List (Opt × String)}

/-- **The word of an option, read**: the flags are taken down, and the option is
taken. -/
theorem reads_word (ho : o.Of level.options) (hgiven : Acceptable given) :
    Reads level { given := given } ((o.name ++ o.value.suffix) :: rest) given' next
      ↔ Acceptable (given ++ o.handle.flags.map (·, ""))
        ∧ ∃ q, Progress.take { given := given ++ o.handle.flags.map (·, "") } o.opt o.value.inside?
            = .ok q ∧ Reads level q rest given' next := by
  cases hhandle : o.handle with
  | long =>
    have hword := ofText_of_long ho hhandle
    rw [reads_cons, roleOf_of_ofText (by rw [hword]; exact nofun)]
    unfold optionRole
    rw [hword]
    dsimp only [Role.Reads]
    rw [readLong_of_mem ho.opt]
    show _ ↔ Acceptable (given ++ []) ∧ ∃ q, Progress.take { given := given ++ [] } _ _ = _ ∧ _
    rw [List.append_nil]
    exact (and_iff_right hgiven).symm
  | letters flags =>
    obtain ⟨letter, hletter⟩ := Option.isSome_iff_exists.mp (ho.letter flags hhandle)
    have hword := ofText_of_letters hhandle hletter
    have hflags := ho.flags
    rw [hhandle] at hflags
    rw [reads_cons, roleOf_of_ofText (by rw [hword]; exact nofun)]
    unfold optionRole
    rw [hword]
    dsimp only [Role.Reads, Handle.flags]
    have hlast : ∀ {p q : Progress}, readLetters level p (letter :: o.value.suffix.toList) = .ok q
        ↔ p.take o.opt o.value.inside? = .ok q :=
      readLetters_last ho.opt hletter fun v hv => (ho.joined v hv).2
    constructor
    · rintro ⟨q, hread, hrest⟩
      obtain ⟨htaken, hread⟩ := (readLetters_flags hflags _ hgiven).mp hread
      exact ⟨htaken, q, hlast.mp hread, hrest⟩
    · rintro ⟨htaken, q, htake, hrest⟩
      exact ⟨q, (readLetters_flags hflags _ hgiven).mpr ⟨htaken, hlast.mpr htake⟩, hrest⟩

theorem not_plain (ho : o.Of options) :
    Word.ofText (o.name ++ o.value.suffix) ≠ .plain (o.name ++ o.value.suffix) := by
  cases hhandle : o.handle with
  | long =>
    rw [ofText_of_long ho hhandle]
    exact nofun
  | letters flags =>
    obtain ⟨letter, hletter⟩ := Option.isSome_iff_exists.mp (ho.letter flags hhandle)
    rw [ofText_of_letters hhandle hletter]
    exact nofun

/-- **The words of an option, read**: it says what it does if it has a value as it
should, and the rest is read where that is taken down. -/
theorem reads_words (ho : o.Of level.options) (hgiven : Acceptable given)
    (hrest : o.Whole ∨ ∀ text ∈ rest.head?, Word.ofText text ≠ .plain text) :
    Reads level { given := given } (o.words ++ rest) given' next
      ↔ o.Sound ∧ Acceptable (given ++ o.settings)
        ∧ Reads level { given := given ++ o.settings } rest given' next := by
  have hsettings : given ++ o.settings
      = given ++ o.handle.flags.map (·, "") ++ [(o.opt, o.value.text)] :=
    (List.append_assoc _ _ _).symm
  rw [words, List.cons_append, reads_word ho hgiven, hsettings]
  generalize given ++ o.handle.flags.map (·, "") = taken
  unfold Sound Progress.take
  cases htakes : o.opt.takesValue <;> cases hvalue : o.value
  case false.bare => exact reads_add.trans (and_iff_right rfl).symm
  case false.equals v =>
    exact iff_of_false (fun ⟨_, _, h, _⟩ => absurd h nofun) fun h => absurd h.1 nofun
  case false.joined v => exact absurd (htakes.symm.trans (ho.joined v hvalue).2.1) nofun
  case false.apart v => exact absurd (htakes.symm.trans (ho.apart v hvalue)) nofun
  case true.bare =>
    refine iff_of_false ?_ fun h => absurd h.1 nofun
    rintro ⟨-, q, hawait, hread⟩
    obtain rfl := Except.ok.inj hawait
    have hdashed := hrest.resolve_left fun h => absurd (htakes.symm.trans (h hvalue)) nofun
    exact not_reads_open hdashed hread
  case true.equals v => exact reads_add.trans (and_iff_right rfl).symm
  case true.joined v => exact reads_add.trans (and_iff_right rfl).symm
  case true.apart v =>
    constructor
    · rintro ⟨htaken, q, hawait, hread⟩
      obtain rfl := Except.ok.inj hawait
      exact reads_value.mp ⟨htaken, hread⟩
    · intro h
      obtain ⟨htaken, hread⟩ := reads_value.mpr h
      exact ⟨htaken, _, rfl, hread⟩

/-- **Options in a row, read.** -/
theorem reads_flatMap {os : List Written} (hos : ∀ o ∈ os, o.Of level.options)
    (hrest : (∀ o ∈ os, o.Whole) ∨ ∀ text ∈ rest.head?, Word.ofText text ≠ .plain text) :
    ∀ {given : List (Opt × String)}, Acceptable given →
    (Reads level { given := given } (os.flatMap words ++ rest) given' next
      ↔ (∀ o ∈ os, o.Sound) ∧ Acceptable (given ++ os.flatMap settings)
        ∧ Reads level { given := given ++ os.flatMap settings } rest given' next) := by
  induction os with
  | nil =>
    intro given hgiven
    rw [List.flatMap_nil, List.flatMap_nil, List.nil_append, List.append_nil, and_iff_right hgiven]
    exact (and_iff_right fun o ho => absurd ho List.not_mem_nil).symm
  | cons o os ih =>
    intro given hgiven
    obtain ⟨ho, hos⟩ := List.forall_mem_cons.mp hos
    have hrest' : (∀ o ∈ os, o.Whole) ∨ ∀ text ∈ rest.head?, Word.ofText text ≠ .plain text :=
      hrest.imp_left fun h => (List.forall_mem_cons.mp h).2
    have hnext : o.Whole ∨ ∀ text ∈ (os.flatMap words ++ rest).head?,
        Word.ofText text ≠ .plain text := by
      refine hrest.imp (fun h => (List.forall_mem_cons.mp h).1) fun h => ?_
      cases os with
      | nil => exact h
      | cons other others =>
        intro text htext
        rw [← Option.some.inj htext]
        exact not_plain (hos other List.mem_cons_self)
    rw [List.flatMap_cons, List.flatMap_cons, List.append_assoc, reads_words ho hgiven hnext,
      List.forall_mem_cons, ← List.append_assoc given]
    constructor
    · rintro ⟨hsound, htaken, hread⟩
      obtain ⟨hsounds, hall, hread⟩ := (ih hos hrest' htaken).mp hread
      exact ⟨⟨hsound, hsounds⟩, hall, hread⟩
    · rintro ⟨⟨hsound, hsounds⟩, hall, hread⟩
      exact ⟨hsound, hall.left, (ih hos hrest' hall.left).mpr ⟨hsounds, hall, hread⟩⟩

end Written

/-! ## Command lines -/

/-- **A command line**: options, the name of a command, and options. -/
def line (before : List Written) (word : String) (behind : List Written) : List String :=
  before.flatMap Written.words ++ word :: behind.flatMap Written.words

theorem roleOf_command {name : Name} {word : String} (hword : word ∈ name.words) :
    roleOf .root none word = .command name := by
  have hwords : ∀ word ∈ name.words, word ≠ "help" ∧ Name.ofWord? word = some name := by
    cases name <;> decide
  obtain ⟨hhelp, hname⟩ := hwords word hword
  unfold roleOf
  rw [if_pos ⟨rfl, rfl⟩, if_neg hhelp, hname]
  rfl

/-- **Options that can be read**: each has a value as it should, and all of them
can be taken down. -/
structure Readable (os : List Written) : Prop where
  /-- Each has a value as it should. -/
  sound : ∀ o ∈ os, o.Sound
  /-- All of them can be taken down. -/
  acceptable : Acceptable (os.flatMap Written.settings)

theorem Readable.nil : Readable [] := ⟨fun _ h => absurd h List.not_mem_nil, Acceptable.nil⟩

/-- Where nothing waits, nothing is left to be settled. -/
theorem settle_given_iff {given given' : List (Opt × String)} :
    Progress.settle { given := given } = .ok { given := given' } ↔ given' = given :=
  ⟨fun h => (congrArg Progress.given (Except.ok.inj h)).symm, fun h => h ▸ rfl⟩

/-- **Options at the beginning of a level, read.** -/
theorem reads_options {os : List Written} (hos : ∀ o ∈ os, o.Of level.options)
    (hrest : (∀ o ∈ os, o.Whole) ∨ ∀ text ∈ rest.head?, Word.ofText text ≠ .plain text) :
    Reads level {} (os.flatMap Written.words ++ rest) given' next
      ↔ Readable os ∧ Reads level { given := os.flatMap Written.settings } rest given' next := by
  refine (Written.reads_flatMap hos hrest Acceptable.nil).trans ?_
  rw [List.nil_append, ← and_assoc]
  exact and_congr_left fun _ => ⟨fun h => ⟨h.1, h.2⟩, fun h => ⟨h.sound, h.acceptable⟩⟩

/-- **A command line can be read** exactly if the options on each side of the
command can be, and asks for what they say. -/
theorem ofWords_line_iff {name : Name} {word : String} (hword : word ∈ name.words)
    {before behind : List Written} (hbefore : ∀ o ∈ before, o.Of (Level.options .root) ∧ o.Whole)
    (hbehind : ∀ o ∈ behind, o.Of (Level.options (.behind name))) {arguments : Arguments} :
    Arguments.ofWords (line before word behind) = .ok arguments
      ↔ Readable before ∧ Readable behind ∧ arguments
        = .ofGiven name (before.flatMap Written.settings) (behind.flatMap Written.settings) := by
  have hroot : ∀ {given next}, Reads .root {} (line before word behind) given next
      ↔ Readable before ∧ given = before.flatMap Written.settings
        ∧ next = some (name, behind.flatMap Written.words) := by
    intro given next
    unfold line
    rw [reads_options (fun o ho => (hbefore o ho).1) (Or.inl fun o ho => (hbefore o ho).2),
      reads_cons, roleOf_command hword]
    exact and_congr_right fun _ => and_congr_left fun _ => settle_given_iff
  have hlevel : ∀ {given next}, Reads (.behind name) {} (behind.flatMap Written.words) given next
      ↔ Readable behind ∧ given = behind.flatMap Written.settings ∧ next = none := by
    intro given next
    have hend : ∀ text ∈ ([] : List String).head?, Word.ofText text ≠ .plain text :=
      fun text htext => absurd htext (Option.not_mem_none text)
    rw [← List.append_nil (behind.flatMap Written.words), reads_options hbehind (Or.inr hend),
      reads_nil, settle_given_iff]
  rw [ofWords_eq_ok_iff]
  constructor
  · rintro ⟨name', rest, given, given', next, hread, hread', rfl⟩
    obtain ⟨hbefore, rfl, hnext⟩ := hroot.mp hread
    obtain ⟨rfl, rfl⟩ := Prod.mk.inj (Option.some.inj hnext)
    obtain ⟨hbehind, rfl, -⟩ := hlevel.mp hread'
    exact ⟨hbefore, hbehind, rfl⟩
  · rintro ⟨hbefore, hbehind, rfl⟩
    exact ⟨name, _, _, _, none, hroot.mpr ⟨hbefore, rfl, rfl⟩, hlevel.mpr ⟨hbehind, rfl, rfl⟩, rfl⟩

end DocSite.Command
