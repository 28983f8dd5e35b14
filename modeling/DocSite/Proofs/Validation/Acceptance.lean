import Mathlib.Tactic.Common
import DocSite.Proofs.Command.Load
import DocSite.Proofs.Text.Segments
import DocSite.Proofs.Url.Scheme
import DocSite.Proofs.Validation.RelativePath
import DocSite.Site.Builder

/-!
# What is accepted

The check of a configuration walks through it and collects defects.
`SiteConfig.Sound` says without a walk what a usable configuration is,
field by field and, for the sidebar, level by level, and `passes_iff`
says that the check accepts exactly the sound ones.

The two differ most in how they treat siblings. The check compares a key
with those before it, and passes over a key that is blank; soundness has
all keys of a level distinct. They agree because a blank key never stands
alone: it is a blank label, which is a defect of its own, or a blank
slug, which is no path (`Entry.Sound.key_not_blank`).
-/

namespace DocSite

open Validation RelativePath

/-! ## Soundness -/

/-- A text that is a URL. -/
def IsUrl (text : String) : Prop := ∃ url, Url.parse text.toList = .ok url

/-- A text that is a URL of a site. -/
def IsSiteUrl (text : String) : Prop :=
  ∃ url, Url.parse text.toList = .ok url
    ∧ (url.scheme = "http".toList ∨ url.scheme = "https".toList)

/-- The label of an entry. Pages may have none, and a slug never has. -/
def Entry.label? : Entry → Option String
  | .slug _ => none
  | .group label _ _ => some label
  | .autogenerate label _ _ => some label
  | .link label _ => some label
  | .page _ label => label

/-- **What an entry has to be**, apart from its siblings and from what is
in it. -/
structure Entry.Sound (packages : List String) (entry : Entry) : Prop where
  /-- Its label, if it has one, is not blank. -/
  label : ∀ label, entry.label? = some label → Text.blank label = false
  /-- A group has items. -/
  items : ∀ label items collapsed, entry = .group label items collapsed → items ≠ []
  /-- A link leads to an absolute path or a URL. -/
  target : ∀ label target, entry = .link label target →
    target.toList.head? = some '/' ∨ IsUrl target
  /-- The slug of a page is a relative path. -/
  slug : ∀ slug, entry.pageSlug? = some slug → IsPath slug
  /-- The page of a package is that of a known one, if any are known. -/
  package : packages ≠ [] → ∀ name, entry.pageSlug? = some (Entry.packagesDirectory ++ name) →
    name ∈ packages
  /-- A listed directory is a relative path. -/
  directory : ∀ label directory collapsed, entry = .autogenerate label directory collapsed →
    IsPath directory

/-- **The levels of a sidebar**: the sidebar itself, and the items of every
group on a level. -/
inductive Level (sidebar : List Entry) : List Entry → Prop where
  /-- The sidebar. -/
  | top : Level sidebar sidebar
  /-- The items of a group. -/
  | items {level : List Entry} {label : String} {items : List Entry} {collapsed : Bool} :
    Level sidebar level → Entry.group label items collapsed ∈ level → Level sidebar items

/-- **What a level has to be**: siblings have distinct keys, and each is
sound by itself. -/
structure LevelSound (packages : List String) (level : List Entry) : Prop where
  /-- No two siblings have one key. -/
  keys : (level.map Entry.key).Nodup
  /-- Each entry is sound. -/
  entries : ∀ entry ∈ level, entry.Sound packages

/-- **A usable configuration.** -/
structure SiteConfig.Sound (config : SiteConfig) : Prop where
  /-- The title is not blank. -/
  title : Text.blank config.title = false
  /-- The address, if there is one, is that of a site. -/
  site : ∀ address, config.site = some address → IsSiteUrl address
  /-- The base, if there is one, is an absolute path without blanks. -/
  base : ∀ base, config.base = some base →
    base.toList.head? = some '/' ∧ Text.hasBlank base = false
  /-- Every social link has a label and leads to a URL. -/
  social : ∀ link ∈ config.social, Text.blank link.label = false ∧ IsUrl link.href
  /-- Every level of the sidebar is sound, at any depth. -/
  sidebar : ∀ level, Level config.sidebar level → LevelSound config.packages level

/-! ## Keys -/

theorem RelativePath.IsPath.not_blank {text : String} (h : IsPath text) :
    Text.blank text = false := by
  rw [Bool.eq_false_iff]
  intro hblank
  have hfree := ((isPath_iff text).mp h).1
  obtain ⟨pieces, hne, hpieces, htext⟩ := h
  obtain ⟨⟨c, -, hhead⟩, -⟩ := ends_of_join hne hpieces
  rw [← htext, Text.toList_eq_nil_of_blank hblank hfree] at hhead
  exact absurd hhead (by simp)

/-- **The key of a sound entry is not blank**, whichever of the five kinds
it is. -/
theorem Entry.Sound.key_not_blank {packages : List String} {entry : Entry}
    (h : entry.Sound packages) : Text.blank entry.key = false := by
  cases entry with
  | slug slug => exact (h.slug slug rfl).not_blank
  | group label items collapsed => exact h.label label rfl
  | autogenerate label directory collapsed => exact h.label label rfl
  | link label target => exact h.label label rfl
  | page slug label =>
    cases label with
    | none => exact (h.slug slug rfl).not_blank
    | some label => exact h.label label rfl

/-! ## Entries without defects -/

/-- **A slug is the page of a package** if the package directory stands
before the name. -/
theorem Entry.packageName?_eq_some_iff (slug name : String) :
    Entry.packageName? slug = some name ↔ slug = Entry.packagesDirectory ++ name := by
  unfold Entry.packageName?
  rw [Option.map_eq_some_iff]
  constructor
  · rintro ⟨rest, hrest, rfl⟩
    rw [Text.stripPrefix?_eq_some_iff] at hrest
    rw [← String.toList_inj, hrest, String.toList_append, String.toList_ofList]
  · rintro rfl
    refine ⟨name.toList, ?_, String.ofList_toList⟩
    rw [Text.stripPrefix?_eq_some_iff, String.toList_append]

namespace Validation

variable {packages : List String}

theorem labelDefects_eq_nil_iff (place : Place) (label : String) :
    labelDefects place label = [] ↔ Text.blank label = false := by
  unfold labelDefects
  cases Text.blank label <;> simp

/-- A slug names no unknown package if no packages are known at all, or the
one it names is. -/
theorem unknownPackage?_eq_none_iff (slug : String) :
    unknownPackage? packages slug = none ↔ (packages ≠ [] →
      ∀ name, slug = Entry.packagesDirectory ++ name → name ∈ packages) := by
  unfold unknownPackage?
  rw [Option.filter_eq_none_iff]
  constructor
  · intro h hne name hname
    have hnot := h name ((Entry.packageName?_eq_some_iff slug name).mpr hname)
    simpa [hne] using hnot
  · intro h name hname
    rw [Entry.packageName?_eq_some_iff] at hname
    by_cases hne : packages = []
    · simp [hne]
    · simp [h hne name hname]

theorem slugDefects_eq_nil_iff (place : Place) (slug : String) :
    slugDefects packages place slug = [] ↔ IsPath slug
      ∧ (packages ≠ [] → ∀ name, slug = Entry.packagesDirectory ++ name → name ∈ packages) := by
  rw [← fault?_eq_none_iff, ← unknownPackage?_eq_none_iff]
  unfold slugDefects
  cases fault? slug with
  | some fault => simp
  | none =>
    dsimp only
    cases unknownPackage? packages slug <;> simp

theorem targetDefects_eq_nil_iff (place : Place) (target : String) :
    targetDefects place target = [] ↔ target.toList.head? = some '/' ∨ IsUrl target := by
  unfold targetDefects IsUrl
  by_cases hslash : target.toList.head? = some '/'
  · simp [hslash]
  · rw [if_neg hslash]
    cases Url.parse target.toList <;> simp [hslash]

theorem directoryDefects_eq_nil_iff (place : Place) (directory : String) :
    directoryDefects place directory = [] ↔ IsPath directory := by
  rw [← fault?_eq_none_iff]
  unfold directoryDefects
  cases fault? directory <;> simp

/-! ## Sound entries, kind by kind -/

theorem sound_slug_iff (slug : String) :
    (Entry.slug slug).Sound packages ↔ IsPath slug
      ∧ (packages ≠ [] → ∀ name, slug = Entry.packagesDirectory ++ name → name ∈ packages) := by
  constructor
  · intro h
    exact ⟨h.slug slug rfl, fun hne name hname => h.package hne name (congrArg some hname)⟩
  · rintro ⟨hslug, hpackage⟩
    refine ⟨nofun, nofun, nofun, ?_, ?_, nofun⟩
    · intro other hother
      injection hother with hother
      rw [← hother]
      exact hslug
    · intro hne name hname
      injection hname with hname
      exact hpackage hne name hname

theorem sound_page_iff (slug : String) (label : Option String) :
    (Entry.page slug label).Sound packages ↔ (IsPath slug
      ∧ (packages ≠ [] → ∀ name, slug = Entry.packagesDirectory ++ name → name ∈ packages))
      ∧ ∀ text, label = some text → Text.blank text = false := by
  constructor
  · intro h
    exact ⟨⟨h.slug slug rfl, fun hne name hname => h.package hne name (congrArg some hname)⟩,
      h.label⟩
  · rintro ⟨⟨hslug, hpackage⟩, hlabel⟩
    refine ⟨hlabel, nofun, nofun, ?_, ?_, nofun⟩
    · intro other hother
      injection hother with hother
      rw [← hother]
      exact hslug
    · intro hne name hname
      injection hname with hname
      exact hpackage hne name hname

theorem sound_link_iff (label target : String) :
    (Entry.link label target).Sound packages ↔ Text.blank label = false
      ∧ (target.toList.head? = some '/' ∨ IsUrl target) := by
  constructor
  · intro h
    exact ⟨h.label label rfl, h.target label target rfl⟩
  · rintro ⟨hlabel, htarget⟩
    refine ⟨?_, nofun, ?_, nofun, nofun, nofun⟩
    · intro other hother
      injection hother with hother
      rw [← hother]
      exact hlabel
    · intro other goal hother
      injection hother with _ hgoal
      rw [← hgoal]
      exact htarget

theorem sound_group_iff (label : String) (items : List Entry) (collapsed : Bool) :
    (Entry.group label items collapsed).Sound packages
      ↔ Text.blank label = false ∧ items ≠ [] := by
  constructor
  · intro h
    exact ⟨h.label label rfl, h.items label items collapsed rfl⟩
  · rintro ⟨hlabel, hitems⟩
    refine ⟨?_, ?_, nofun, nofun, nofun, nofun⟩
    · intro other hother
      injection hother with hother
      rw [← hother]
      exact hlabel
    · intro other more flag hother
      injection hother with _ hmore
      rw [← hmore]
      exact hitems

theorem sound_autogenerate_iff (label directory : String) (collapsed : Bool) :
    (Entry.autogenerate label directory collapsed).Sound packages
      ↔ Text.blank label = false ∧ IsPath directory := by
  constructor
  · intro h
    exact ⟨h.label label rfl, h.directory label directory collapsed rfl⟩
  · rintro ⟨hlabel, hdirectory⟩
    refine ⟨?_, nofun, nofun, nofun, nofun, ?_⟩
    · intro other hother
      injection hother with hother
      rw [← hother]
      exact hlabel
    · intro other path flag hother
      injection hother with _ hpath
      rw [← hpath]
      exact hdirectory

/-! ## The walk -/

/-- Everything below an entry is sound. -/
def SoundBelow (packages : List String) (entry : Entry) : Prop :=
  ∀ level, Level entry.children level → LevelSound packages level

/-- An empty level is sound, and so is everything below it. -/
theorem levelSound_of_nil {level : List Entry} (h : Level [] level) :
    LevelSound packages level := by
  have hnil : level = [] := by
    induction h with
    | top => rfl
    | items _ hmem ih =>
      rw [ih] at hmem
      exact absurd hmem List.not_mem_nil
  rw [hnil]
  exact ⟨List.nodup_nil, fun entry hmem => absurd hmem List.not_mem_nil⟩

/-- A level below an entry of a sidebar is a level of the sidebar. -/
theorem Level.of_children {sidebar level : List Entry} {label : String} {items : List Entry}
    {collapsed : Bool} (hmem : Entry.group label items collapsed ∈ sidebar)
    (h : Level items level) : Level sidebar level := by
  induction h with
  | top => exact Level.items Level.top hmem
  | items _ hgroup ih => exact Level.items ih hgroup

/-- **The levels of a sidebar are itself and those below its entries.** -/
theorem soundLevels_iff (entries : List Entry) :
    (∀ level, Level entries level → LevelSound packages level)
      ↔ LevelSound packages entries ∧ ∀ entry ∈ entries, SoundBelow packages entry := by
  constructor
  · intro h
    refine ⟨h entries Level.top, fun entry hmem level hlevel => ?_⟩
    cases entry with
    | group label items collapsed => exact h level (Level.of_children hmem hlevel)
    | slug slug => exact levelSound_of_nil hlevel
    | autogenerate label directory collapsed => exact levelSound_of_nil hlevel
    | link label target => exact levelSound_of_nil hlevel
    | page slug label => exact levelSound_of_nil hlevel
  · rintro ⟨htop, hbelow⟩ level hlevel
    -- a level is the top, or is below the entry the way to it begins with
    have hcases : level = entries ∨ ∃ entry ∈ entries, Level entry.children level := by
      induction hlevel with
      | top => exact Or.inl rfl
      | items _ hgroup ih =>
        rcases ih with rfl | ⟨entry, hmem, hentry⟩
        · exact Or.inr ⟨_, hgroup, Level.top⟩
        · exact Or.inr ⟨entry, hmem, Level.items hentry hgroup⟩
    rcases hcases with rfl | ⟨entry, hmem, hentry⟩
    · exact htop
    · exact hbelow entry hmem level hentry

/-- Nothing is below an entry that is no group. -/
theorem soundBelow_of_leaf {entry : Entry} (h : entry.children = []) :
    SoundBelow packages entry := by
  intro level hlevel
  rw [h] at hlevel
  exact levelSound_of_nil hlevel

theorem keyDefects_eq_nil_iff (seen : List String) (place : Place) (key : String) :
    keyDefects seen place key = [] ↔ Text.blank key = true ∨ key ∉ seen := by
  unfold keyDefects
  cases hblank : Text.blank key
  · simp
  · simp

/-- **Siblings are without defects** if each is, and their keys are new
and distinct. -/
theorem clean_cons_iff (seen : List String) (place : Place) (entry : Entry)
    (entries : List Entry) :
    (keyDefects seen place entry.key = [] ∧ (entry.Sound packages ∧ SoundBelow packages entry)
        ∧ (∀ e ∈ entries, e.Sound packages ∧ SoundBelow packages e)
        ∧ (entries.map Entry.key).Nodup ∧ ∀ e ∈ entries, e.key ∉ entry.key :: seen)
      ↔ (∀ e ∈ entry :: entries, e.Sound packages ∧ SoundBelow packages e)
        ∧ ((entry :: entries).map Entry.key).Nodup ∧ ∀ e ∈ entry :: entries, e.key ∉ seen := by
  rw [keyDefects_eq_nil_iff, List.map_cons, List.nodup_cons, List.forall_mem_cons,
    List.forall_mem_cons]
  constructor
  · rintro ⟨hkey, hentry, hentries, hnodup, hnew⟩
    -- a sound entry has a key, so the key is new if it has no defect
    have hkey' : entry.key ∉ seen := hkey.resolve_left (by simp [hentry.1.key_not_blank])
    refine ⟨⟨hentry, hentries⟩, ⟨?_, hnodup⟩, hkey',
      fun e he hmem => hnew e he (List.mem_cons_of_mem _ hmem)⟩
    intro hmem
    obtain ⟨e, he, heq⟩ := List.mem_map.mp hmem
    exact hnew e he (by rw [heq]; exact List.mem_cons_self)
  · rintro ⟨⟨hentry, hentries⟩, ⟨hnot, hnodup⟩, hkey, hnew⟩
    refine ⟨Or.inr hkey, hentry, hentries, hnodup, fun e he hmem => ?_⟩
    rcases List.mem_cons.mp hmem with heq | hmem
    · exact hnot (heq ▸ List.mem_map_of_mem he)
    · exact hnew e he hmem

mutual

/-- **An entry is without defects if it is sound, and everything below
it.** -/
theorem entryDefects_eq_nil_iff (place : Place) : ∀ entry : Entry,
    entryDefects packages place entry = []
      ↔ entry.Sound packages ∧ SoundBelow packages entry
  | .slug slug => by
    rw [entryDefects, slugDefects_eq_nil_iff, sound_slug_iff]
    exact (and_iff_left (soundBelow_of_leaf rfl)).symm
  | .page slug label => by
    rw [entryDefects, List.append_eq_nil_iff, slugDefects_eq_nil_iff, sound_page_iff,
      and_iff_left (soundBelow_of_leaf rfl)]
    cases label with
    | none => simp
    | some label =>
      show _ ∧ labelDefects place label = [] ↔ _
      rw [labelDefects_eq_nil_iff]
      simp
  | .link label target => by
    rw [entryDefects, List.append_eq_nil_iff, labelDefects_eq_nil_iff, targetDefects_eq_nil_iff,
      sound_link_iff]
    exact (and_iff_left (soundBelow_of_leaf rfl)).symm
  | .group label items collapsed => by
    -- the walk starts over below a group, with no key seen
    have hitems := levelDefects_eq_nil_iff (place.key "items") [] 0 items
    have hbelow : SoundBelow packages (.group label items collapsed)
        ↔ (∀ e ∈ items, e.Sound packages ∧ SoundBelow packages e)
          ∧ (items.map Entry.key).Nodup := by
      show (∀ level, Level items level → LevelSound packages level) ↔ _
      rw [soundLevels_iff]
      constructor
      · rintro ⟨htop, hbelow⟩
        exact ⟨fun e he => ⟨htop.entries e he, hbelow e he⟩, htop.keys⟩
      · rintro ⟨hall, hnodup⟩
        exact ⟨⟨hnodup, fun e he => (hall e he).1⟩, fun e he => (hall e he).2⟩
    rw [entryDefects, List.append_eq_nil_iff, List.append_eq_nil_iff, labelDefects_eq_nil_iff,
      hitems, sound_group_iff, hbelow]
    cases items <;> simp
  | .autogenerate label directory collapsed => by
    rw [entryDefects, List.append_eq_nil_iff, labelDefects_eq_nil_iff,
      directoryDefects_eq_nil_iff, sound_autogenerate_iff]
    exact (and_iff_left (soundBelow_of_leaf rfl)).symm

/-- A level is without defects if its entries are sound, and everything
below them, and its keys are distinct and new. -/
theorem levelDefects_eq_nil_iff (parent : Place) (seen : List String) (position : Nat) :
    ∀ entries : List Entry, levelDefects packages parent seen position entries = []
      ↔ (∀ e ∈ entries, e.Sound packages ∧ SoundBelow packages e)
        ∧ (entries.map Entry.key).Nodup ∧ ∀ e ∈ entries, e.key ∉ seen
  | [] => by simp [levelDefects]
  | entry :: entries => by
    rw [levelDefects, List.append_eq_nil_iff, List.append_eq_nil_iff, and_assoc,
      entryDefects_eq_nil_iff (parent.index position) entry,
      levelDefects_eq_nil_iff parent (entry.key :: seen) (position + 1) entries]
    exact clean_cons_iff seen (parent.index position) entry entries

end

/-- **A sidebar is without defects if every level of it is sound.** -/
theorem sidebarDefects_eq_nil_iff (entries : List Entry) :
    sidebarDefects packages entries = []
      ↔ ∀ level, Level entries level → LevelSound packages level := by
  unfold sidebarDefects
  rw [levelDefects_eq_nil_iff, soundLevels_iff]
  constructor
  · rintro ⟨hall, hnodup, -⟩
    exact ⟨⟨hnodup, fun e he => (hall e he).1⟩, fun e he => (hall e he).2⟩
  · rintro ⟨htop, hbelow⟩
    exact ⟨fun e he => ⟨htop.entries e he, hbelow e he⟩, htop.keys,
      fun e _ hmem => absurd hmem List.not_mem_nil⟩

/-! ## The other fields -/

theorem titleDefects_eq_nil_iff (title : String) :
    titleDefects title = [] ↔ Text.blank title = false := by
  unfold titleDefects
  cases Text.blank title <;> simp

theorem siteSchemes_contains_iff (scheme : List Char) :
    siteSchemes.contains scheme = true
      ↔ scheme = "http".toList ∨ scheme = "https".toList := by
  rw [List.contains_iff_mem]
  unfold siteSchemes
  rw [List.mem_cons, List.mem_singleton]

/-- **An address has no defect if it is the URL of a site.** That it has a
host goes without saying. -/
theorem addressDefects_eq_nil_iff (address : String) :
    addressDefects address = [] ↔ IsSiteUrl address := by
  unfold addressDefects IsSiteUrl
  cases hparse : Url.parse address.toList with
  | error e => simp
  | ok url =>
    dsimp only
    rw [List.append_eq_nil_iff]
    constructor
    · rintro ⟨hscheme, -⟩
      refine ⟨url, rfl, (siteSchemes_contains_iff _).mp ?_⟩
      by_contra hnot
      rw [if_neg hnot] at hscheme
      exact List.cons_ne_nil _ _ hscheme
    · rintro ⟨other, hother, hscheme⟩
      injection hother with hother
      rw [← hother, ← siteSchemes_contains_iff] at hscheme
      rw [if_pos hscheme, if_pos (Url.host_isSome_of_parse hparse hscheme)]
      exact ⟨rfl, rfl⟩

theorem baseDefects_eq_nil_iff (base : String) :
    baseDefects base = [] ↔ base.toList.head? = some '/' ∧ Text.hasBlank base = false := by
  unfold baseDefects
  rw [List.append_eq_nil_iff]
  refine and_congr ?_ ?_
  · by_cases hslash : base.toList.head? = some '/'
    · simp [hslash]
    · simp [hslash]
  · cases Text.hasBlank base <;> simp

theorem hrefDefects_eq_nil_iff (place : Place) (href : String) :
    hrefDefects place href = [] ↔ IsUrl href := by
  unfold hrefDefects IsUrl
  cases hparse : Url.parse href.toList with
  | error e => simp
  | ok url =>
    dsimp only
    rw [if_neg]
    · simp
    · -- what has the scheme of a site has a host
      intro hnone
      rw [Bool.and_eq_true] at hnone
      have hhost := Url.host_isSome_of_parse hparse hnone.1
      rw [Option.isNone_iff_eq_none.mp hnone.2] at hhost
      exact absurd hhost Bool.false_ne_true

/-- Social links are without defects if each has a label and a URL. -/
theorem socialDefects_eq_nil_iff (links : List SocialLink) :
    socialDefects links = []
      ↔ ∀ link ∈ links, Text.blank link.label = false ∧ IsUrl link.href := by
  unfold socialDefects
  generalize 0 = position
  induction links generalizing position with
  | nil => simp [socialDefectsFrom]
  | cons link links ih =>
    have hlink : linkDefects (socialPlace position) link = []
        ↔ Text.blank link.label = false ∧ IsUrl link.href := by
      unfold linkDefects
      rw [List.append_eq_nil_iff, hrefDefects_eq_nil_iff]
      refine and_congr ?_ Iff.rfl
      cases Text.blank link.label <;> simp
    rw [socialDefectsFrom, List.append_eq_nil_iff, hlink, ih, List.forall_mem_cons]

end Validation

/-! ## Accepted configurations -/

/-- **The check accepts a configuration exactly if it is sound.** -/
theorem SiteConfig.passes_iff (config : SiteConfig) :
    config.report.passes = true ↔ config.Sound := by
  -- a report has an error for each defect
  have hpasses : config.report.passes = true ↔ config.defects = [] := by
    show (config.defects.map Report.ofDefect).isEmpty = true ↔ _
    rw [List.isEmpty_iff, List.map_eq_nil_iff]
  rw [hpasses]
  unfold SiteConfig.defects identityDefects
  rw [List.append_eq_nil_iff, List.append_eq_nil_iff, List.append_eq_nil_iff,
    List.append_eq_nil_iff, titleDefects_eq_nil_iff, socialDefects_eq_nil_iff,
    sidebarDefects_eq_nil_iff]
  have hsite : config.site.elim [] addressDefects = []
      ↔ ∀ address, config.site = some address → IsSiteUrl address := by
    cases config.site with
    | none => simp
    | some address => simp [addressDefects_eq_nil_iff]
  have hbase : config.base.elim [] baseDefects = []
      ↔ ∀ base, config.base = some base →
        base.toList.head? = some '/' ∧ Text.hasBlank base = false := by
    cases config.base with
    | none => simp
    | some base => simp [baseDefects_eq_nil_iff]
  rw [hsite, hbase]
  constructor
  · rintro ⟨⟨⟨⟨htitle, hsite⟩, hbase⟩, hsocial⟩, hsidebar⟩
    exact ⟨htitle, hsite, hbase, hsocial, hsidebar⟩
  · rintro ⟨htitle, hsite, hbase, hsocial, hsidebar⟩
    exact ⟨⟨⟨⟨htitle, hsite⟩, hbase⟩, hsocial⟩, hsidebar⟩

/-- **Nothing but sound configurations gets through**, and everything sound
does: the check accepts them, a builder builds them, and loading returns
them. -/
theorem accepted_iff_sound :
    (∀ config : SiteConfig, config.report.passes = true ↔ config.Sound)
      ∧ (∀ title calls config, Builder.build title calls = .ok config
          ↔ config = Builder.assemble title calls ∧ config.Sound)
      ∧ ∀ (name : String) (t : Command.Transcript) (w : Files.Workspace) (config : SiteConfig),
        (Command.Session.on (Command.load name) t w).1.1 = .ok config
          ↔ ∃ path text ignored,
            ((Command.findConfig name : StateM Files.Workspace _).run w).1 = some path
              ∧ w.read path = .ok text ∧ SiteConfig.ofToml text = .ok (config, ignored)
              ∧ config.Sound := by
  refine ⟨SiteConfig.passes_iff, fun title calls config => ?_, fun name t w config => ?_⟩
  · unfold Builder.build
    dsimp only
    by_cases hpasses : (Builder.assemble title calls).report.passes = true
    · rw [if_pos hpasses]
      constructor
      · intro h
        injection h with h
        rw [← h]
        exact ⟨rfl, (SiteConfig.passes_iff _).mp hpasses⟩
      · rintro ⟨rfl, -⟩
        rfl
    · rw [if_neg hpasses]
      constructor
      · intro h
        exact absurd h (by simp)
      · rintro ⟨rfl, hsound⟩
        exact absurd ((SiteConfig.passes_iff _).mpr hsound) hpasses
  · obtain ⟨t', ht'⟩ := Command.load_on name t w
    rw [ht']
    show Command.loaded w name = .ok config ↔ _
    rw [Command.loaded_eq_ok_iff]
    simp only [SiteConfig.passes_iff]

end DocSite
