import DocSite.Proofs.Command.Written

/-!
# Options on either side of a command

A global option says the same before a command and behind it, among the
options of the command wherever it stands there. If it stands on both
sides, the one behind counts (`ofWords_anywhere`).

The reason is that the two ranges of options have nothing in common. What
is taken down behind a command can be parted into both, so it can be taken
down exactly if each part can (`readable_among_iff`), and no part hides
what is looked up in the other (`ofGiven_anywhere`). That two commands use
one letter for different options does no harm, for a letter is looked up
at the level where it stands.
-/

namespace DocSite.Command

/-! ## Options of two ranges -/

/-- The options of a command are its own. -/
theorem notMem_globalOptions {name : Name} : ∀ opt ∈ name.options, opt ∉ globalOptions := by
  cases name <;> decide

theorem globalOptions_subset (level : Level) : globalOptions ⊆ level.options := by
  rcases level with _ | name
  · exact List.subset_append_left _ _
  · exact List.subset_append_right _ _

theorem options_subset (name : Name) : name.options ⊆ Level.options (.behind name) :=
  List.subset_append_left _ _

namespace Written

variable {o : Written} {options others : List Opt}

theorem Of.mono (h : o.Of options) (hsub : options ⊆ others) : o.Of others where
  opt := hsub h.opt
  flags flag hflag := ⟨hsub (h.flags flag hflag).1, (h.flags flag hflag).2⟩
  letter := h.letter
  joined := h.joined
  apart := h.apart

/-- An option says something about the options it is written with. -/
theorem Of.fst_mem (h : o.Of options) {entry : Opt × String} (hentry : entry ∈ o.settings) :
    entry.1 ∈ options := by
  rcases List.mem_append.mp hentry with hentry | hentry
  · obtain ⟨flag, hflag, rfl⟩ := List.mem_map.mp hentry
    exact (h.flags flag hflag).1
  · rw [List.mem_singleton.mp hentry]
    exact h.opt

theorem fst_mem_of_flatMap {os : List Written} (hos : ∀ o ∈ os, o.Of options)
    {entry : Opt × String} (hentry : entry ∈ os.flatMap settings) : entry.1 ∈ options := by
  obtain ⟨o, ho, hentry⟩ := List.mem_flatMap.mp hentry
  exact (hos o ho).fst_mem hentry

end Written

/-! ## What is asked for -/

theorem actionOf_congr {name : Name} {given others : List (Opt × String)}
    (h : ∀ opt ∈ name.options, given.lookup opt = others.lookup opt) :
    actionOf name given = actionOf name others := by
  cases name <;> unfold actionOf <;> dsimp only
  case init => rw [h .dry (by decide), h .force (by decide)]
  case check => rw [h .content (by decide)]
  case emit => rw [h .format (by decide), h .output (by decide)]

/-- **What a command line asks for** is told by the options of the command, and by
the other options on both sides. -/
theorem ofGiven_congr {name : Name} {before behind before' behind' : List (Opt × String)}
    (hown : ∀ opt ∈ name.options, behind.lookup opt = behind'.lookup opt)
    (hglobal : ∀ opt, (behind ++ before).lookup opt = (behind' ++ before').lookup opt) :
    Arguments.ofGiven name before behind = .ofGiven name before' behind' := by
  unfold Arguments.ofGiven
  dsimp only
  rw [actionOf_congr hown, hglobal .colour, hglobal .config, hglobal .verbose]

section

variable {name : Name} {own own₁ own₂ settings : List (Opt × String)}

/-- **An option behind the command** says what it says before it. -/
theorem ofGiven_anywhere (hkeys : Acceptable (own₁ ++ (settings ++ own₂)))
    (hsettings : ∀ entry ∈ settings, entry.1 ∈ globalOptions) :
    Arguments.ofGiven name settings (own₁ ++ own₂)
      = .ofGiven name [] (own₁ ++ (settings ++ own₂)) := by
  have hperm : (own₁ ++ (settings ++ own₂)).Perm (own₁ ++ own₂ ++ settings) := by
    rw [List.append_assoc]
    exact List.perm_append_comm.append_left own₁
  have hsame : ∀ opt, (own₁ ++ (settings ++ own₂)).lookup opt
      = ((own₁ ++ own₂).lookup opt).or (settings.lookup opt) := fun opt =>
    (lookup_perm hperm hkeys.keys opt).trans List.lookup_append
  refine ofGiven_congr (fun opt hopt => ?_) fun opt => ?_
  · have hnone : settings.lookup opt = none := by
      rw [lookup_eq_none_iff_notMem]
      intro hmem
      obtain ⟨entry, hentry, rfl⟩ := List.mem_map.mp hmem
      exact notMem_globalOptions _ hopt (hsettings entry hentry)
    rw [hsame, hnone, Option.or_none]
  · rw [List.append_nil, hsame, List.lookup_append]

/-- **Behind the command counts first**: where an option that takes a value has one
behind the command, the one before it is not heard, and of what stands before
the command only the wish to be told more is left. -/
theorem ofGiven_later {given : List (Opt × String)}
    (hvalues : ∀ entry ∈ settings, entry.1.takesValue = true → given.lookup entry.1 ≠ none) :
    Arguments.ofGiven name settings given = { Arguments.ofGiven name [] given with
      verbose := (Arguments.ofGiven name settings []).verbose
        || (Arguments.ofGiven name [] given).verbose } := by
  have hvalue : ∀ opt : Opt, opt.takesValue = true →
      (given ++ settings).lookup opt = (given ++ []).lookup opt := by
    intro opt htakes
    rw [List.append_nil, List.lookup_append]
    cases hgiven : given.lookup opt with
    | some value => rfl
    | none =>
      rw [Option.none_or, lookup_eq_none_iff_notMem]
      intro hmem
      obtain ⟨entry, hentry, rfl⟩ := List.mem_map.mp hmem
      exact hvalues entry hentry htakes hgiven
  have hverbose : ((given ++ settings).lookup Opt.verbose).isSome
      = ((([] ++ settings).lookup Opt.verbose).isSome
        || ((given ++ []).lookup Opt.verbose).isSome) := by
    rw [List.lookup_append, Option.isSome_or, List.append_nil, List.nil_append, Bool.or_comm]
  unfold Arguments.ofGiven
  dsimp only
  rw [hvalue .colour rfl, hvalue .config rfl, hverbose]

end

/-! ## Command lines -/

section

variable {name : Name} {own₁ own₂ : List Written} {g : Written}

/-- What is said by options among which one stands. -/
theorem flatMap_among : (own₁ ++ g :: own₂).flatMap Written.settings
    = own₁.flatMap Written.settings ++ (g.settings ++ own₂.flatMap Written.settings) := by
  rw [List.flatMap_append, List.flatMap_cons]

/-- **An option of the other range** among those of a command can be read if it
can be by itself, and the others can be. -/
theorem readable_among_iff (hown : ∀ o ∈ own₁ ++ own₂, o.Of name.options)
    (hg : g.Of globalOptions) :
    Readable (own₁ ++ g :: own₂) ↔ Readable [g] ∧ Readable (own₁ ++ own₂) := by
  have hsound : (∀ o ∈ own₁ ++ g :: own₂, o.Sound)
      ↔ (∀ o ∈ [g], o.Sound) ∧ ∀ o ∈ own₁ ++ own₂, o.Sound := by
    rw [List.forall_mem_append, List.forall_mem_cons, List.forall_mem_append,
      List.forall_mem_singleton]
    exact and_left_comm
  have hperm : ((own₁ ++ g :: own₂).flatMap Written.settings).Perm
      ([g].flatMap Written.settings ++ (own₁ ++ own₂).flatMap Written.settings) := by
    rw [← List.flatMap_append]
    exact List.perm_middle.flatMap_right _
  have hacceptable : Acceptable ((own₁ ++ g :: own₂).flatMap Written.settings)
      ↔ Acceptable ([g].flatMap Written.settings)
        ∧ Acceptable ((own₁ ++ own₂).flatMap Written.settings) := by
    rw [Acceptable.perm_iff hperm, Acceptable.append_iff, ← and_assoc, and_iff_left]
    intro entry hentry other hother heq
    refine notMem_globalOptions other.1 (Written.fst_mem_of_flatMap hown hother) (heq ▸ ?_)
    exact Written.fst_mem_of_flatMap (List.forall_mem_singleton.mpr hg) hentry
  constructor
  · intro h
    have hsounds := hsound.mp h.sound
    have hall := hacceptable.mp h.acceptable
    exact ⟨⟨hsounds.1, hall.1⟩, ⟨hsounds.2, hall.2⟩⟩
  · rintro ⟨hg, hown⟩
    exact ⟨hsound.mpr ⟨hg.sound, hown.sound⟩, hacceptable.mpr ⟨hg.acceptable, hown.acceptable⟩⟩

/-- The options of a command and one of the other range stand behind the command. -/
theorem among_of (hown : ∀ o ∈ own₁ ++ own₂, o.Of name.options) (hg : g.Of globalOptions) :
    ∀ o ∈ own₁ ++ g :: own₂, o.Of (Level.options (.behind name)) := by
  intro o ho
  rw [List.perm_middle.mem_iff] at ho
  rcases List.mem_cons.mp ho with rfl | ho
  · exact hg.mono (globalOptions_subset _)
  · exact (hown o ho).mono (options_subset name)

variable {word : String} {arguments : Arguments}

/-- What a line with nothing before the command asks for. -/
theorem ofWords_behind_iff (hword : word ∈ name.words) {behind : List Written}
    (hbehind : ∀ o ∈ behind, o.Of (Level.options (.behind name))) :
    Arguments.ofWords (line [] word behind) = .ok arguments
      ↔ Readable behind ∧ arguments = .ofGiven name [] (behind.flatMap Written.settings) :=
  (ofWords_line_iff hword (fun _ h => absurd h List.not_mem_nil) hbehind).trans
    (and_iff_right Readable.nil)

/-- What a line with one option before the command asks for. -/
theorem ofWords_before_iff (hword : word ∈ name.words) (hg : g.Of globalOptions)
    (hwhole : g.Whole) {behind : List Written}
    (hbehind : ∀ o ∈ behind, o.Of (Level.options (.behind name))) :
    Arguments.ofWords (line [g] word behind) = .ok arguments
      ↔ Readable [g] ∧ Readable behind
        ∧ arguments = .ofGiven name g.settings (behind.flatMap Written.settings) := by
  have hbefore : ∀ o ∈ [g], o.Of (Level.options .root) ∧ o.Whole :=
    List.forall_mem_singleton.mpr ⟨hg.mono (globalOptions_subset _), hwhole⟩
  rw [ofWords_line_iff hword hbefore hbehind, List.flatMap_singleton]

/-- **An option behind the command is read as it is before it.** -/
theorem ofWords_across_iff (hword : word ∈ name.words)
    (hown : ∀ o ∈ own₁ ++ own₂, o.Of name.options) (hg : g.Of globalOptions)
    (hwhole : g.Whole) :
    Arguments.ofWords (line [g] word (own₁ ++ own₂)) = .ok arguments
      ↔ Arguments.ofWords (line [] word (own₁ ++ g :: own₂)) = .ok arguments := by
  rw [ofWords_before_iff hword hg hwhole fun o ho => (hown o ho).mono (options_subset name),
    ofWords_behind_iff hword (among_of hown hg), readable_among_iff hown hg, and_assoc]
  refine and_congr_right fun hread => and_congr_right fun hrest => ?_
  have hall := ((readable_among_iff hown hg).mpr ⟨hread, hrest⟩).acceptable
  rw [flatMap_among] at hall ⊢
  rw [List.flatMap_append, ofGiven_anywhere hall fun entry hentry => hg.fst_mem hentry]

section

variable {later : Written}

theorem mem_flatMap_among :
    (later.opt, later.value.text) ∈ (own₁ ++ later :: own₂).flatMap Written.settings := by
  rw [flatMap_among]
  exact List.mem_append_right _ (List.mem_append_left _
    (List.mem_append_right _ (List.mem_singleton_self _)))

/-- **Of one option before the command and the same behind it**, the one behind
counts. -/
theorem ofWords_later_iff (hword : word ∈ name.words)
    (hown : ∀ o ∈ own₁ ++ own₂, o.Of name.options) (hg : g.Of globalOptions) (hwhole : g.Whole)
    (hlater : later.Of globalOptions) (hopt : later.opt = g.opt) :
    Arguments.ofWords (line [g] word (own₁ ++ later :: own₂)) = .ok arguments
      ↔ ∃ alone without, Arguments.ofWords (line [g] word []) = .ok alone
        ∧ Arguments.ofWords (line [] word (own₁ ++ later :: own₂)) = .ok without
        ∧ arguments = { without with verbose := alone.verbose || without.verbose } := by
  have hvalues : ∀ entry ∈ g.settings, entry.1.takesValue = true →
      ((own₁ ++ later :: own₂).flatMap Written.settings).lookup entry.1 ≠ none := by
    intro entry hentry htakes hnone
    rcases List.mem_append.mp hentry with hentry | hentry
    · -- a flag takes no value
      obtain ⟨flag, hflag, rfl⟩ := List.mem_map.mp hentry
      exact absurd (htakes.symm.trans (hg.flags flag hflag).2.1) nofun
    · rw [show entry.1 = later.opt from hopt ▸ congrArg Prod.fst (List.mem_singleton.mp hentry),
        lookup_eq_none_iff_notMem] at hnone
      exact hnone (List.mem_map_of_mem mem_flatMap_among)
  have hbehind := among_of hown hlater
  have hnone : ∀ o ∈ ([] : List Written), o.Of (Level.options (.behind name)) :=
    fun _ h => absurd h List.not_mem_nil
  have hsame : Arguments.ofGiven name g.settings _ = _ := ofGiven_later hvalues
  constructor
  · intro h
    obtain ⟨hread, hrest, rfl⟩ := (ofWords_before_iff hword hg hwhole hbehind).mp h
    exact ⟨_, _, (ofWords_before_iff hword hg hwhole hnone).mpr ⟨hread, Readable.nil, rfl⟩,
      (ofWords_behind_iff hword hbehind).mpr ⟨hrest, rfl⟩, hsame⟩
  · rintro ⟨alone, without, halone, hwithout, rfl⟩
    obtain ⟨hread, -, rfl⟩ := (ofWords_before_iff hword hg hwhole hnone).mp halone
    obtain ⟨hrest, rfl⟩ := (ofWords_behind_iff hword hbehind).mp hwithout
    exact (ofWords_before_iff hword hg hwhole hbehind).mpr ⟨hread, hrest, hsame.symm⟩

/-- **What stands behind the command** has been asked for. -/
theorem value_of_later (hword : word ∈ name.words)
    (hown : ∀ o ∈ own₁ ++ own₂, o.Of name.options) (hlater : later.Of globalOptions)
    (h : Arguments.ofWords (line [] word (own₁ ++ later :: own₂)) = .ok arguments) :
    (later.opt = .config → arguments.config = later.value.text)
      ∧ (later.opt = .colour → ColourChoice.ofWord? later.value.text = some arguments.colour) := by
  obtain ⟨hread, rfl⟩ := (ofWords_behind_iff hword (among_of hown hlater)).mp h
  have hlookup : ((own₁ ++ later :: own₂).flatMap Written.settings).lookup later.opt
      = some later.value.text :=
    (lookup_eq_some_iff_mem hread.acceptable.keys).mpr mem_flatMap_among
  have hfits := hread.acceptable.fits _ mem_flatMap_among
  unfold Arguments.ofGiven
  dsimp only
  rw [List.append_nil]
  constructor
  · intro hconfig
    rw [← hconfig, hlookup]
    rfl
  · intro hcolour
    rw [← hcolour, hlookup]
    rw [hcolour] at hfits
    obtain ⟨choice, hchoice⟩ := Option.isSome_iff_exists.mp (hfits.accepted rfl)
    show ColourChoice.ofWord? _ = some ((ColourChoice.ofWord? _).getD _)
    rw [show ColourChoice.ofWord? later.value.text = some choice from hchoice]
    rfl

end

/-- **Global options mean the same on both sides of a command.** A line is made of
the name of a command, options of that command in any order and in any way
they can be written, and one global option that has its value with it. The
line is read with the option before the command exactly if it is read with the
option behind it, in any place there, and asks for the same.

If the option stands on both sides, the line is read exactly if the bare
command is read behind the earlier one and the rest is read without it. It
asks for what the rest asks for. The earlier one leaves a trace only if it is,
or stands in one word with, the wish to be told more. So the later one
decides, and the value is its own. -/
theorem ofWords_anywhere (hword : word ∈ name.words)
    (hown : ∀ o ∈ own₁ ++ own₂, o.Of name.options) (hg : g.Of globalOptions) (hwhole : g.Whole) :
    (∀ arguments, Arguments.ofWords (line [g] word (own₁ ++ own₂)) = .ok arguments
        ↔ Arguments.ofWords (line [] word (own₁ ++ g :: own₂)) = .ok arguments)
      ∧ ∀ later : Written, later.Of globalOptions → later.opt = g.opt → ∀ arguments,
        (Arguments.ofWords (line [g] word (own₁ ++ later :: own₂)) = .ok arguments
          ↔ ∃ alone without, Arguments.ofWords (line [g] word []) = .ok alone
            ∧ Arguments.ofWords (line [] word (own₁ ++ later :: own₂)) = .ok without
            ∧ arguments = { without with verbose := alone.verbose || without.verbose })
        ∧ (Arguments.ofWords (line [g] word (own₁ ++ later :: own₂)) = .ok arguments →
          (later.opt = .config → arguments.config = later.value.text)
            ∧ (later.opt = .colour →
              ColourChoice.ofWord? later.value.text = some arguments.colour)) := by
  refine ⟨fun _ => ofWords_across_iff hword hown hg hwhole, fun later hlater hopt arguments => ?_⟩
  refine ⟨ofWords_later_iff hword hown hg hwhole hlater hopt, fun h => ?_⟩
  obtain ⟨alone, without, -, hwithout, rfl⟩ :=
    (ofWords_later_iff hword hown hg hwhole hlater hopt).mp h
  have hvalue := value_of_later hword hown hlater hwithout
  exact hvalue

/-- An export that names a configuration file on either side, or on both. -/
theorem ofWords_anywhere_emit :
    (∀ arguments, Arguments.ofWords ["-C", "a", "e", "-fjson", "--output", "x"] = .ok arguments
        ↔ Arguments.ofWords ["e", "-fjson", "-C", "a", "--output", "x"] = .ok arguments)
      ∧ Arguments.ofWords ["-C", "a", "e", "-fjson", "--config=b", "--output", "x"]
        = .ok ⟨.auto, "b", false, .emit .json (some "x")⟩ := by
  have hformat : Written.Of Name.emit.options ⟨.letters [], .format, .joined "json"⟩ := by
    refine ⟨by decide, nofun, fun _ _ => rfl, fun value h => ?_, nofun⟩
    obtain rfl := Attachment.joined.inj h
    exact ⟨nofun, rfl, by decide, by decide⟩
  have houtput : Written.Of Name.emit.options ⟨.long, .output, .apart "x"⟩ :=
    ⟨by decide, nofun, nofun, nofun, fun _ _ => rfl⟩
  have hg : Written.Of globalOptions ⟨.letters [], .config, .apart "a"⟩ :=
    ⟨by decide, nofun, fun _ _ => rfl, nofun, fun _ _ => rfl⟩
  have hlater : Written.Of globalOptions ⟨.long, .config, .equals "b"⟩ :=
    ⟨by decide, nofun, nofun, nofun, nofun⟩
  obtain ⟨hacross, htwice⟩ := @ofWords_anywhere .emit [⟨.letters [], .format, .joined "json"⟩]
    [⟨.long, .output, .apart "x"⟩] ⟨.letters [], .config, .apart "a"⟩ "e" (by decide)
    (List.forall_mem_cons.mpr ⟨hformat, List.forall_mem_singleton.mpr houtput⟩) hg nofun
  refine ⟨hacross, (htwice _ hlater rfl _).1.mpr ⟨⟨.auto, "a", false, .emit .json none⟩,
    ⟨.auto, "b", false, .emit .json (some "x")⟩, ?_, ?_, rfl⟩⟩ <;> decide +kernel

end

end DocSite.Command
