import Mathlib.Data.List.Perm.Basic
import Mathlib.Tactic.Common
import DocSite.Site.Decode.Config

/-!
# Records read field by field

A social link and the root of a configuration are read entry by entry, and
what has been read so far is kept in a record with a place for every
field. This module takes that record apart. `slot` is what the entries of
a table do to one field alone, whatever stands between them, and
`readAll_eq_ok_iff` says that a table is read as a record exactly if each
of its fields is read as its part of the record: a step of the reader is
a step in every slot (`read_eq_ok_iff`), and so is a run.

A slot that nothing has been read into is told by the entries under the
names of its field (`slot_eq_single`): there is none, or there is one and
its value can be decoded. Nothing else of the table matters to it, neither
the other entries nor the order of all of them (`slot_perm`).
-/

namespace DocSite

namespace Decoded

variable {α : Type}

theorem toOption_eq_some_iff {result : Decoded α} {value : α} :
    result.toOption = some value ↔ result = .ok value := by
  cases result <;> simp [Except.toOption]

/-! ## One field -/

section Slot

variable (decode : Data → Decoded α) (names : List String)

/-- What an entry under a name of a field makes of it: it fills the field,
if nothing has. -/
def fill : (held : Option α) → Data → Option (Option α)
  | none, value => (decode value).toOption.map some
  | some _, _ => none

/-- **What the entries of a table make of one field**, given what has been
read into it before. The field has some names, and the entries under other
keys pass it by. -/
def slot : (held : Option α) → List (String × Data) → Option (Option α)
  | held, [] => some held
  | held, (key, value) :: entries =>
    if key ∈ names then (fill decode held value).bind (slot · entries) else slot held entries

/-- What the entries under the names of a field make of it. -/
def single : List (String × Data) → Option (Option α)
  | [] => some none
  | [(_, value)] => (decode value).toOption.map some
  | _ => none

variable {decode names} {held : Option α} {key : String} {value : Data}
  {entries others : List (String × Data)}

/-- Entries are read one after the other. -/
theorem slot_cons_eq_some_iff {entry : String × Data} {filled : Option α} :
    slot decode names held (entry :: entries) = some filled
      ↔ ∃ next, slot decode names held [entry] = some next
        ∧ slot decode names next entries = some filled := by
  obtain ⟨key, value⟩ := entry
  rw [slot, slot]
  split
  · rw [Option.bind_eq_some_iff]
    simp [slot]
  · simp [slot]

/-- An entry under another key does nothing to a field. -/
theorem slot_skip (h : key ∉ names) :
    slot decode names held ((key, value) :: entries) = slot decode names held entries := by
  rw [slot, if_neg h]

/-- A filled field stays as it is, and no entry is under its names. -/
theorem slot_some (read : α) :
    slot decode names (some read) entries
      = if entries.filter (fun entry => entry.1 ∈ names) = [] then some (some read) else none := by
  induction entries with
  | nil => rfl
  | cons entry entries ih =>
    obtain ⟨key, value⟩ := entry
    by_cases h : key ∈ names
    · rw [slot, if_pos h, List.filter_cons_of_pos (by simpa using h), if_neg (List.cons_ne_nil _ _)]
      rfl
    · rw [slot_skip h, ih, List.filter_cons_of_neg (by simpa using h)]

/-- **A field is told by the entries under its names.** -/
theorem slot_eq_single :
    slot decode names none entries
      = single decode (entries.filter fun entry => entry.1 ∈ names) := by
  induction entries with
  | nil => rfl
  | cons entry entries ih =>
    obtain ⟨key, value⟩ := entry
    by_cases h : key ∈ names
    · rw [slot, if_pos h, List.filter_cons_of_pos (by simpa using h)]
      show ((decode value).toOption.map some).bind _ = _
      cases hrest : entries.filter (fun entry => entry.1 ∈ names) with
      | nil => cases hread : (decode value).toOption <;> simp [single, slot_some, hrest, hread]
      | cons other more => cases (decode value).toOption <;> simp [single, slot_some, hrest]
    · rw [slot_skip h, ih, List.filter_cons_of_neg (by simpa using h)]

theorem single_perm : ∀ {entries others : List (String × Data)}, entries.Perm others →
    single decode entries = single decode others
  | [], others, h => by rw [h.nil_eq]
  | [entry], others, h => by rw [List.singleton_perm.mp h]
  | _ :: _ :: _, [], h => absurd h.length_eq (by simp)
  | _ :: _ :: _, [_], h => absurd h.length_eq (by simp)
  | _ :: _ :: _, _ :: _ :: _, _ => rfl

/-- **The order of the entries does not matter to a field.** -/
theorem slot_perm (h : entries.Perm others) :
    slot decode names none entries = slot decode names none others := by
  rw [slot_eq_single, slot_eq_single, single_perm (h.filter _)]

/-- **An entry under a name of a field is what the field is filled
with.** -/
theorem slot_of_mem {read : Option α} (h : slot decode names none entries = some read)
    (hmem : (key, value) ∈ entries) (hkey : key ∈ names) :
    ∃ found, read = some found ∧ decode value = .ok found := by
  rw [slot_eq_single] at h
  have hfound : (key, value) ∈ entries.filter fun entry => entry.1 ∈ names :=
    List.mem_filter.mpr ⟨hmem, by simpa using hkey⟩
  generalize entries.filter (fun entry => entry.1 ∈ names) = list at h hfound
  match list, h, hfound with
  | [], _, hfound => exact nomatch hfound
  | [entry], h, hfound =>
    obtain rfl := List.mem_singleton.mp hfound
    obtain ⟨found, hdecode, rfl⟩ := Option.map_eq_some_iff.mp h
    exact ⟨found, rfl, toOption_eq_some_iff.mp hdecode⟩
  | _ :: _ :: _, h, _ => exact nomatch h

/-- **A field with two names has one value.** -/
theorem slot_of_two {first second : String} {other : Data} (hfirst : (first, value) ∈ entries)
    (hsecond : (second, other) ∈ entries) (hne : first ≠ second) (hnames : first ∈ names)
    (hnames' : second ∈ names) : slot decode names none entries = none := by
  rw [slot_eq_single]
  have hfound : (first, value) ∈ entries.filter fun entry => entry.1 ∈ names :=
    List.mem_filter.mpr ⟨hfirst, by simpa using hnames⟩
  have hfound' : (second, other) ∈ entries.filter fun entry => entry.1 ∈ names :=
    List.mem_filter.mpr ⟨hsecond, by simpa using hnames'⟩
  generalize entries.filter (fun entry => entry.1 ∈ names) = list at hfound hfound'
  match list, hfound, hfound' with
  | [entry], hfound, hfound' =>
    have hsame := (List.mem_singleton.mp hfound).trans (List.mem_singleton.mp hfound').symm
    exact absurd (Prod.mk.inj hsame).1 hne
  | _ :: _ :: _, _, _ => rfl

end Slot

/-- **A step of the reader under a name of a field** changes the record in
the place of that field. `set` is the record with something in that
place. -/
theorem keep_eq_ok_iff {β : Type} (set : Option α → β) {decode : Data → Decoded α}
    {held : Option α} {value : Data} {why : Unfit} {next : β} :
    (if held.isSome then .error why else (decode value).map fun read => set (some read))
        = Except.ok next
      ↔ ∃ filled, fill decode held value = some filled ∧ set filled = next := by
  cases held with
  | some read => simp [fill]
  | none => cases hread : decode value <;> simp [fill, hread, Except.toOption, Except.map]

theorem bind_eq_ok_iff {β : Type} {result : Decoded α} {next : α → Decoded β} {value : β} :
    result.bind next = .ok value ↔ ∃ read, result = .ok read ∧ next read = .ok value := by
  cases result <;> simp [Except.bind]

/-! ## Social links -/

namespace LinkFields

variable {format : Format} {start next fields : LinkFields} {key : String} {value : Data}
  {entries : List (String × Data)}

/-- **What a table makes of the fields of a social link**, one by one. -/
@[mk_iff]
structure Filled (format : Format) (start : LinkFields) (entries : List (String × Data))
    (fields : LinkFields) : Prop where
  /-- The icon. -/
  icon : slot (Decoded.icon format) ["icon"] start.icon? entries = some fields.icon?
  /-- The label. -/
  label : slot string ["label"] start.label? entries = some fields.label?
  /-- The target. -/
  href : slot string ["href"] start.href? entries = some fields.href?
  /-- There is no other key. -/
  known : ∀ entry ∈ entries, entry.1 ∈ socialLinkFields

/-- **One entry is read in every field.** -/
theorem read_eq_ok_iff :
    start.read format key value = .ok next ↔ Filled format start [(key, value)] next := by
  obtain ⟨icon, label, href⟩ := next
  rw [LinkFields.read, filled_iff]
  by_cases hicon : key = "icon"
  · rw [if_pos hicon]
    refine (keep_eq_ok_iff fun read => { start with icon? := read }).trans ?_
    simp [slot, hicon, socialLinkFields]
  by_cases hlabel : key = "label"
  · rw [if_neg hicon, if_pos hlabel]
    refine (keep_eq_ok_iff fun read => { start with label? := read }).trans ?_
    simp [slot, hlabel, socialLinkFields, and_left_comm]
  by_cases hhref : key = "href"
  · rw [if_neg hicon, if_neg hlabel, if_pos hhref]
    refine (keep_eq_ok_iff fun read => { start with href? := read }).trans ?_
    simp [slot, hhref, socialLinkFields, and_left_comm, and_comm, and_assoc]
  · rw [if_neg hicon, if_neg hlabel, if_neg hhref]
    simp [hicon, hlabel, hhref, socialLinkFields]

theorem filled_cons_iff {entry : String × Data} :
    Filled format start (entry :: entries) fields
      ↔ ∃ next, Filled format start [entry] next ∧ Filled format next entries fields := by
  constructor
  · intro h
    obtain ⟨icon, hicon, hicon'⟩ := slot_cons_eq_some_iff.mp h.icon
    obtain ⟨label, hlabel, hlabel'⟩ := slot_cons_eq_some_iff.mp h.label
    obtain ⟨href, hhref, hhref'⟩ := slot_cons_eq_some_iff.mp h.href
    obtain ⟨hknown, hknown'⟩ := List.forall_mem_cons.mp h.known
    exact ⟨⟨icon, label, href⟩, ⟨hicon, hlabel, hhref, List.forall_mem_singleton.mpr hknown⟩,
      ⟨hicon', hlabel', hhref', hknown'⟩⟩
  · rintro ⟨next, h, h'⟩
    exact ⟨slot_cons_eq_some_iff.mpr ⟨_, h.icon, h'.icon⟩,
      slot_cons_eq_some_iff.mpr ⟨_, h.label, h'.label⟩,
      slot_cons_eq_some_iff.mpr ⟨_, h.href, h'.href⟩,
      List.forall_mem_cons.mpr ⟨h.known entry List.mem_cons_self, h'.known⟩⟩

/-- **A table is read as the fields of a social link** exactly if each of
them is. -/
theorem readAll_eq_ok_iff :
    LinkFields.readAll format entries start = .ok fields
      ↔ Filled format start entries fields := by
  induction entries generalizing start with
  | nil =>
    obtain ⟨icon, label, href⟩ := start
    obtain ⟨icon', label', href'⟩ := fields
    simp [LinkFields.readAll, filled_iff, slot]
  | cons entry entries ih =>
    rw [filled_cons_iff]
    refine bind_eq_ok_iff.trans (exists_congr fun next => ?_)
    rw [read_eq_ok_iff, ih]

end LinkFields

/-! ## The root -/

/-- The keys of a table that are none of a configuration's, in order. -/
def unknownKeys (entries : List (String × Data)) : List String :=
  (entries.map Prod.fst).filter fun key => key ∉ rootKeys

namespace RootFields

variable {format : Format} {start next fields : RootFields} {key : String} {value : Data}
  {entries : List (String × Data)}

/-- **What a table makes of the fields of a configuration**, one by
one. -/
@[mk_iff]
structure Filled (format : Format) (start : RootFields) (entries : List (String × Data))
    (fields : RootFields) : Prop where
  /-- The title. -/
  title : slot string ["title"] start.title? entries = some fields.title?
  /-- The description. -/
  description : slot optionalString ["description"] start.description? entries
    = some fields.description?
  /-- The address. -/
  site : slot optionalString ["site"] start.site? entries = some fields.site?
  /-- The base path. -/
  base : slot optionalString baseNames start.base? entries = some fields.base?
  /-- The packages. -/
  packages : slot (list string) ["packages"] start.packages? entries = some fields.packages?
  /-- The social links. -/
  social : slot (list (socialLink format)) ["social"] start.social? entries
    = some fields.social?
  /-- The sidebar. -/
  sidebar : slot (list (entry format)) ["sidebar"] start.sidebar? entries
    = some fields.sidebar?
  /-- Skipping gets past everything else. -/
  sound : ∀ entry ∈ entries, entry.1 ∉ rootKeys → entry.2.sound = true
  /-- The keys of everything else are kept. -/
  ignored : start.ignored ++ unknownKeys entries = fields.ignored

/-- **One entry is read in every field.** -/
theorem read_eq_ok_iff :
    start.read format key value = .ok next ↔ Filled format start [(key, value)] next := by
  obtain ⟨title, description, site, base, packages, social, sidebar, ignored⟩ := next
  rw [RootFields.read, filled_iff]
  by_cases htitle : key = "title"
  · rw [if_pos htitle]
    refine (keep_eq_ok_iff fun read => { start with title? := read }).trans ?_
    simp [slot, htitle, baseNames, rootKeys, unknownKeys, and_left_comm]
  by_cases hdescription : key = "description"
  · rw [if_neg htitle, if_pos hdescription]
    refine (keep_eq_ok_iff fun read => { start with description? := read }).trans ?_
    simp [slot, hdescription, baseNames, rootKeys, unknownKeys, and_left_comm]
  by_cases hsite : key = "site"
  · rw [if_neg htitle, if_neg hdescription, if_pos hsite]
    refine (keep_eq_ok_iff fun read => { start with site? := read }).trans ?_
    simp [slot, hsite, baseNames, rootKeys, unknownKeys, and_left_comm]
  by_cases hbase : baseNames.contains key = true
  · have hnames : key = "base" ∨ key = "baseURL" ∨ key = "base_url" := by
      simpa [baseNames] using hbase
    rw [if_neg htitle, if_neg hdescription, if_neg hsite, if_pos hbase]
    refine (keep_eq_ok_iff fun read => { start with base? := read }).trans ?_
    rcases hnames with hname | hname | hname
    · simp [slot, hname, baseNames, rootKeys, unknownKeys, and_left_comm]
    · simp [slot, hname, baseNames, rootKeys, unknownKeys, and_left_comm]
    · simp [slot, hname, baseNames, rootKeys, unknownKeys, and_left_comm]
  by_cases hpackages : key = "packages"
  · rw [if_neg htitle, if_neg hdescription, if_neg hsite, if_neg hbase, if_pos hpackages]
    refine (keep_eq_ok_iff fun read => { start with packages? := read }).trans ?_
    simp [slot, hpackages, baseNames, rootKeys, unknownKeys, and_left_comm]
  by_cases hsocial : key = "social"
  · rw [if_neg htitle, if_neg hdescription, if_neg hsite, if_neg hbase, if_neg hpackages,
      if_pos hsocial]
    refine (keep_eq_ok_iff fun read => { start with social? := read }).trans ?_
    simp [slot, hsocial, baseNames, rootKeys, unknownKeys, and_left_comm]
  by_cases hsidebar : key = "sidebar"
  · rw [if_neg htitle, if_neg hdescription, if_neg hsite, if_neg hbase, if_neg hpackages,
      if_neg hsocial, if_pos hsidebar]
    refine (keep_eq_ok_iff fun read => { start with sidebar? := read }).trans ?_
    simp [slot, hsidebar, baseNames, rootKeys, unknownKeys, and_left_comm]
  · have hbase' : key ∉ baseNames := fun h => hbase (List.contains_iff_mem.mpr h)
    have hkey : key ∉ rootKeys := by
      simp [rootKeys, htitle, hdescription, hsite, hbase', hpackages, hsocial, hsidebar]
    have hunknown : unknownKeys [(key, value)] = [key] := by simp [unknownKeys, hkey]
    rw [if_neg htitle, if_neg hdescription, if_neg hsite, if_neg hbase, if_neg hpackages,
      if_neg hsocial, if_neg hsidebar, hunknown]
    cases hsound : value.sound with
    | true =>
      simp [slot, htitle, hdescription, hsite, hbase', hpackages, hsocial, hsidebar, hsound]
    | false => simp [hkey, hsound]

theorem unknownKeys_cons (entry : String × Data) (entries : List (String × Data)) :
    unknownKeys (entry :: entries) = unknownKeys [entry] ++ unknownKeys entries := by
  unfold unknownKeys
  rw [← List.filter_append]
  rfl

theorem filled_cons_iff {entry : String × Data} :
    Filled format start (entry :: entries) fields
      ↔ ∃ next, Filled format start [entry] next ∧ Filled format next entries fields := by
  constructor
  · intro h
    obtain ⟨title, htitle, htitle'⟩ := slot_cons_eq_some_iff.mp h.title
    obtain ⟨description, hdescription, hdescription'⟩ := slot_cons_eq_some_iff.mp h.description
    obtain ⟨site, hsite, hsite'⟩ := slot_cons_eq_some_iff.mp h.site
    obtain ⟨base, hbase, hbase'⟩ := slot_cons_eq_some_iff.mp h.base
    obtain ⟨packages, hpackages, hpackages'⟩ := slot_cons_eq_some_iff.mp h.packages
    obtain ⟨social, hsocial, hsocial'⟩ := slot_cons_eq_some_iff.mp h.social
    obtain ⟨sidebar, hsidebar, hsidebar'⟩ := slot_cons_eq_some_iff.mp h.sidebar
    obtain ⟨hsound, hsound'⟩ := List.forall_mem_cons.mp h.sound
    refine ⟨⟨title, description, site, base, packages, social, sidebar,
      start.ignored ++ unknownKeys [entry]⟩, ?_, ?_⟩
    · exact ⟨htitle, hdescription, hsite, hbase, hpackages, hsocial, hsidebar,
        fun other hother => List.mem_singleton.mp hother ▸ hsound, rfl⟩
    · refine ⟨htitle', hdescription', hsite', hbase', hpackages', hsocial', hsidebar', hsound', ?_⟩
      rw [List.append_assoc, ← unknownKeys_cons]
      exact h.ignored
  · rintro ⟨next, h, h'⟩
    refine ⟨slot_cons_eq_some_iff.mpr ⟨_, h.title, h'.title⟩,
      slot_cons_eq_some_iff.mpr ⟨_, h.description, h'.description⟩,
      slot_cons_eq_some_iff.mpr ⟨_, h.site, h'.site⟩,
      slot_cons_eq_some_iff.mpr ⟨_, h.base, h'.base⟩,
      slot_cons_eq_some_iff.mpr ⟨_, h.packages, h'.packages⟩,
      slot_cons_eq_some_iff.mpr ⟨_, h.social, h'.social⟩,
      slot_cons_eq_some_iff.mpr ⟨_, h.sidebar, h'.sidebar⟩,
      List.forall_mem_cons.mpr ⟨h.sound entry List.mem_cons_self, h'.sound⟩, ?_⟩
    rw [unknownKeys_cons, ← List.append_assoc, h.ignored, h'.ignored]

/-- **A table is read as the fields of a configuration** exactly if each
of them is. -/
theorem readAll_eq_ok_iff :
    RootFields.readAll format entries start = .ok fields
      ↔ Filled format start entries fields := by
  induction entries generalizing start with
  | nil =>
    obtain ⟨title, description, site, base, packages, social, sidebar, ignored⟩ := fields
    obtain ⟨title', description', site', base', packages', social', sidebar', ignored'⟩ := start
    simp [RootFields.readAll, filled_iff, slot, unknownKeys]
  | cons entry entries ih =>
    rw [filled_cons_iff]
    refine bind_eq_ok_iff.trans (exists_congr fun next => ?_)
    rw [read_eq_ok_iff, ih]

end RootFields

/-- **A table describes a configuration** exactly if its fields are read,
one by one, and there is a title among them. -/
theorem rootTable_eq_ok_iff {format : Format} {entries : List (String × Data)}
    {config : SiteConfig} {ignored : List String} :
    rootTable format entries = .ok (config, ignored)
      ↔ ∃ fields, RootFields.Filled format {} entries fields ∧ fields.config = .ok config
        ∧ fields.ignored = ignored := by
  refine bind_eq_ok_iff.trans (exists_congr fun fields => ?_)
  rw [RootFields.readAll_eq_ok_iff]
  refine and_congr_right fun _ => bind_eq_ok_iff.trans ?_
  simp

end Decoded

end DocSite
