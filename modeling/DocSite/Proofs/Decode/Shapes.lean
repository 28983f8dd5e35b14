import Mathlib.Data.List.Forall2
import Mathlib.Tactic.Common
import DocSite.Proofs.Data.Alike
import DocSite.Proofs.Data.Depth
import DocSite.Proofs.Data.Keys
import DocSite.Site.Decode.Config

/-!
# The shapes of a sidebar entry

A table of the sidebar has no tag. Which of four kinds of entry it is has
to be told from it, and the reader does so by trying: four shapes, one
after the other, each on everything that the values of the table can be
read as. This module says what the trying comes to.

`Shape` lists the tables that are entries, with the keys in one order and
the type of the value under each: seven sets of keys, no two of which are
the same. `table_entry` says that a table is read as an entry exactly if
it is one of these with its keys in any order. Each of the four tries asks
for a key that the other three refuse (`Tells`), so at most one of them
succeeds and the order in which they are made does not matter.

An array that is read as an entry has the values of one of the shapes
(`exists_shape_of_items`). Without keys the shapes overlap, so this goes
one way.
-/

namespace DocSite

namespace Entry

/-! ## What one value can be read as -/

/-- **A value that names a directory**: a table with nothing but the key
`directory`, or an array of one text. -/
inductive Source : Data → String → Prop
  /-- A table with one text. -/
  | table (directory : String) : Source (.table [("directory", .string directory)]) directory
  /-- An array of one text. -/
  | array (directory : String) : Source (.array [.string directory]) directory

/-- **A text that may be absent**, said by a null. -/
inductive OptionalText : Data → Option String → Prop
  /-- No text. -/
  | absent : OptionalText .null none
  /-- A text. -/
  | text (value : String) : OptionalText (.string value) (some value)

section Readings

variable {data : Data}

theorem text?_eq_some_iff {text : String} :
    (reading data).text? = some text ↔ data = .string text := by
  cases data <;> simp [reading, arrayReading, tableReading]

theorem flag?_eq_some_iff {flag : Bool} :
    (reading data).flag? = some flag ↔ data = .boolean flag := by
  cases data <;> simp [reading, arrayReading, tableReading]

theorem optionalText?_eq_some_iff {text : Option String} :
    (reading data).optionalText? = some text ↔ OptionalText data text := by
  constructor
  · intro h
    cases data with
    | null =>
      injection h with h
      exact h ▸ .absent
    | string value =>
      injection h with h
      exact h ▸ .text value
    | _ => exact absurd h (by simp [reading, arrayReading, tableReading, Reading.optionalText?])
  · rintro (_ | _) <;> rfl

theorem fieldReadings_eq_map (entries : List (String × Data)) :
    fieldReadings entries = entries.map fun entry => (entry.1, reading entry.2) := by
  induction entries with
  | nil => rfl
  | cons entry entries ih => exact congrArg ((entry.1, reading entry.2) :: ·) ih

theorem fieldReadings_perm {entries others : List (String × Data)} (h : entries.Perm others) :
    (fieldReadings entries).Perm (fieldReadings others) := by
  rw [fieldReadings_eq_map, fieldReadings_eq_map]
  exact h.map _

theorem mapM_node?_eq_some_iff {items : List Data} {entries : List Entry} :
    (itemReadings items).mapM Reading.node? = some entries
      ↔ List.Forall₂ (fun item entry => ofData? item = some entry) items entries := by
  induction items generalizing entries with
  | nil =>
    simp [itemReadings, eq_comm]
  | cons item items ih =>
    rw [itemReadings, List.mapM_cons, List.forall₂_cons_left_iff]
    simp only [Option.bind_eq_bind, Option.bind_eq_some_iff, ih, Option.pure_def, Option.some_inj]
    constructor
    · rintro ⟨entry, hentry, more, hmore, rfl⟩
      exact ⟨entry, more, hentry, hmore, rfl⟩
    · rintro ⟨entry, more, hentry, hmore, rfl⟩
      exact ⟨entry, hentry, more, hmore, rfl⟩

/-- **Entries are read off an array**, item by item. -/
theorem entries?_eq_some_iff {entries : List Entry} :
    (reading data).entries? = some entries ↔ ∃ items, data = .array items
      ∧ List.Forall₂ (fun item entry => ofData? item = some entry) items entries := by
  cases data with
  | array items =>
    refine mapM_node?_eq_some_iff.trans ⟨fun h => ⟨items, rfl, h⟩, ?_⟩
    rintro ⟨items', hitems, h⟩
    injection hitems with hitems
    exact hitems ▸ h
  | _ => simp [reading, tableReading]

/-- **A directory is read off its two forms.** -/
theorem directory?_eq_some_iff {directory : String} :
    (reading data).directory? = some directory ↔ Source data directory := by
  constructor
  · intro h
    cases data with
    | array items =>
      match items, h with
      | [item], h => exact text?_eq_some_iff.mp h ▸ .array directory
    | table entries =>
      match entries, h with
      | [(key, value)], h =>
        by_cases hkey : key = "directory"
        · subst hkey
          exact text?_eq_some_iff.mp h ▸ .table directory
        · exact absurd h (by
            simp [reading, tableReading, fieldReadings, Reading.directoryOfFields?, hkey])
      | _ :: _ :: _, h =>
        exact absurd h (by simp [reading, tableReading, fieldReadings, Reading.directoryOfFields?])
    | _ => exact nomatch h
  · rintro (_ | _) <;> rfl

end Readings

/-! ## The shapes of a table -/

/-- **The shapes of a table that is an entry**, with its keys in one
order. Of the items of a group, `decodes` says which entries they are. -/
inductive Shape (decodes : Data → Entry → Prop) : List (String × Data) → Entry → Prop
  /-- A group. -/
  | group (label : String) {items : List Data} {entries : List Entry}
    (h : List.Forall₂ decodes items entries) :
    Shape decodes [("label", .string label), ("items", .array items)] (.group label entries false)
  /-- A group that says whether it is collapsed. -/
  | flaggedGroup (label : String) {items : List Data} {entries : List Entry}
    (h : List.Forall₂ decodes items entries) (collapsed : Bool) :
    Shape decodes
      [("label", .string label), ("items", .array items), ("collapsed", .boolean collapsed)]
      (.group label entries collapsed)
  /-- A listed directory. -/
  | autogenerate (label : String) {source : Data} {directory : String}
    (h : Source source directory) :
    Shape decodes [("label", .string label), ("autogenerate", source)]
      (.autogenerate label directory false)
  /-- A listed directory that says whether it is collapsed. -/
  | flaggedAutogenerate (label : String) {source : Data} {directory : String}
    (h : Source source directory) (collapsed : Bool) :
    Shape decodes
      [("label", .string label), ("autogenerate", source), ("collapsed", .boolean collapsed)]
      (.autogenerate label directory collapsed)
  /-- A link. -/
  | link (label target : String) :
    Shape decodes [("label", .string label), ("link", .string target)] (.link label target)
  /-- A page. -/
  | page (slug : String) : Shape decodes [("slug", .string slug)] (.page slug none)
  /-- A page with a label, or with a null for one. -/
  | labelledPage (slug : String) {data : Data} {label : Option String}
    (h : OptionalText data label) :
    Shape decodes [("slug", .string slug), ("label", data)] (.page slug label)

namespace Fields

/-! ### The tries of the reader

Three of the four ask for a label and for one more key, which tells them
apart; a page asks for a slug alone. -/

/-- **A try that asks for a label and for the key that tells its shape.**
`read` is what the value under that key has to be, and `build` makes the
entry of the two. -/
def labelled {α : Type} (telling : String) (allowed : List String) (read : Reading → Option α)
    (build : Fields → String → α → Option Entry) (fields : Fields) : Option Entry := do
  if !fields.only (["label", telling] ++ allowed) then none else
  let label ← (← fields.lookup "label").text?
  build fields label (← read (← fields.lookup telling))

/-- A group or a listed directory with its label and its flag. -/
def flagged {α : Type} (make : String → α → Bool → Entry) (fields : Fields) (label : String)
    (part : α) : Option Entry := do
  some (make label part (← fields.collapsed?))

theorem group?_eq :
    group? = labelled "items" ["collapsed"] Reading.entries? (flagged .group) := rfl

theorem autogenerate?_eq : autogenerate?
    = labelled "autogenerate" ["collapsed"] Reading.directory? (flagged .autogenerate) := rfl

theorem link?_eq : link?
    = labelled "link" [] Reading.text? fun _ label target => some (.link label target) := rfl

theorem only_iff {allowed : List String} {fields : Fields} :
    fields.only allowed = true
      ↔ (∀ key ∈ fields.map Prod.fst, key ∈ allowed) ∧ (fields.map Prod.fst).Nodup := by
  simp [only]

section Labelled

variable {α : Type} {telling : String} {allowed : List String} {read : Reading → Option α}
  {build : Fields → String → α → Option Entry} {fields others : Fields} {entry : Entry}

/-- **What a labelled try accepts.** -/
theorem labelled_eq_some_iff :
    labelled telling allowed read build fields = some entry
      ↔ fields.only ("label" :: telling :: allowed) = true
        ∧ ∃ label part, (fields.lookup "label").bind Reading.text? = some label
          ∧ (fields.lookup telling).bind read = some part
          ∧ build fields label part = some entry := by
  show (if !fields.only ("label" :: telling :: allowed) then none
    else (fields.lookup "label").bind fun r => r.text?.bind fun label =>
      (fields.lookup telling).bind fun r => (read r).bind fun part => build fields label part)
    = some entry ↔ _
  rw [← Option.bind_assoc]
  cases honly : fields.only ("label" :: telling :: allowed) with
  | false => simp
  | true =>
    simp only [Bool.not_true, Bool.false_eq_true, if_false, true_and]
    rw [Option.bind_eq_some_iff]
    refine exists_congr fun label => ?_
    rw [← Option.bind_assoc, exists_and_left]
    exact and_congr_right fun _ => Option.bind_eq_some_iff

theorem only_perm (h : fields.Perm others) (allowed : List String) :
    fields.only allowed = others.only allowed := by
  have hkeys := h.map Prod.fst
  rw [Bool.eq_iff_iff, only_iff, only_iff, hkeys.nodup_iff]
  exact and_congr_left fun _ => forall_congr' fun key => imp_congr_left hkeys.mem_iff

theorem lookup_of_only (h : fields.Perm others) (honly : fields.only allowed = true)
    (key : String) : fields.lookup key = others.lookup key :=
  lookup_perm h (only_iff.mp honly).2 key

/-- **A labelled try does not mind the order of the keys.** -/
theorem labelled_perm (h : fields.Perm others)
    (hbuild : fields.only ("label" :: telling :: allowed) = true → ∀ label part,
      build fields label part = build others label part) :
    labelled telling allowed read build fields = labelled telling allowed read build others := by
  refine Option.ext fun entry => ?_
  rw [labelled_eq_some_iff, labelled_eq_some_iff, ← only_perm h]
  refine and_congr_right fun honly => ?_
  rw [lookup_of_only h honly, lookup_of_only h honly]
  exact exists_congr fun label => exists_congr fun part => by rw [hbuild honly]

theorem flagged_perm {make : String → α → Bool → Entry} (h : fields.Perm others)
    (honly : fields.only allowed = true) (label : String) (part : α) :
    flagged make fields label part = flagged make others label part := by
  unfold flagged collapsed?
  rw [lookup_of_only h honly]

theorem page?_perm (h : fields.Perm others) : fields.page? = others.page? := by
  unfold page?
  rw [← only_perm h]
  split
  · rfl
  · next honly => simp only [lookup_of_only h (by simpa using honly)]

/-- **The order of the keys does not matter** to the entry that a table
is. -/
theorem node?_perm (h : fields.Perm others) : fields.node? = others.node? := by
  unfold node?
  rw [page?_perm h, group?_eq, autogenerate?_eq, link?_eq, labelled_perm h (flagged_perm h),
    labelled_perm h (flagged_perm h), labelled_perm h fun _ _ _ => rfl]

end Labelled

/-! ### The order of the tries -/

/-- **A shape that can be told**: it asks for a key, and for no key beyond
those it allows. -/
def Tells (shape : Fields → Option Entry) (telling : String) (allowed : List String) : Prop :=
  ∀ fields entry, shape fields = some entry →
    telling ∈ fields.map Prod.fst ∧ ∀ key ∈ fields.map Prod.fst, key ∈ allowed

/-- **Two shapes exclude each other** if one asks for a key that the other
does not allow. -/
theorem Tells.excludes {shape other : Fields → Option Entry} {telling asked : String}
    {allowed more : List String} (h : Tells shape telling allowed) (h' : Tells other asked more)
    (hne : telling ∉ more) (fields : Fields) : shape fields = none ∨ other fields = none := by
  cases hshape : shape fields with
  | none => exact .inl rfl
  | some entry =>
    cases hother : other fields with
    | none => exact .inr rfl
    | some entry' =>
      exact absurd ((h' fields entry' hother).2 telling (h fields entry hshape).1) hne

theorem mem_keys_of_lookup {α : Type} {fields : Fields} {key : String} {read : Reading → Option α}
    {part : α} (h : (fields.lookup key).bind read = some part) : key ∈ fields.map Prod.fst := by
  obtain ⟨r, hr, _⟩ := Option.bind_eq_some_iff.mp h
  exact List.mem_map_of_mem (f := Prod.fst) (mem_of_lookup hr)

theorem tells_labelled {α : Type} {telling : String} {allowed : List String}
    {read : Reading → Option α} {build : Fields → String → α → Option Entry} :
    Tells (labelled telling allowed read build) telling ("label" :: telling :: allowed) := by
  intro fields entry h
  obtain ⟨honly, _, part, _, hpart, _⟩ := labelled_eq_some_iff.mp h
  exact ⟨mem_keys_of_lookup hpart, (only_iff.mp honly).1⟩

theorem tells_page? : Tells page? "slug" ["slug", "label"] := by
  intro fields entry h
  unfold page? at h
  split at h
  · exact nomatch h
  · next honly =>
    obtain ⟨r, hr, h⟩ := Option.bind_eq_some_iff.mp h
    obtain ⟨address, haddress, _⟩ := Option.bind_eq_some_iff.mp h
    have hslug : (fields.lookup "slug").bind Reading.text? = some address := by
      rw [hr]
      exact haddress
    exact ⟨mem_keys_of_lookup hslug, (only_iff.mp (by simpa using honly)).1⟩

/-- The shapes of a table, in the order in which they are tried. -/
def shapes : List (Fields → Option Entry) := [group?, autogenerate?, link?, page?]

/-- **At most one shape fits a table.** -/
theorem shapes_exclusive (fields : Fields) :
    shapes.Pairwise fun shape other => shape fields = none ∨ other fields = none := by
  have hgroup : Tells group? _ _ := group?_eq ▸ tells_labelled
  have hlisted : Tells autogenerate? _ _ := autogenerate?_eq ▸ tells_labelled
  have hlink : Tells link? _ _ := link?_eq ▸ tells_labelled
  unfold shapes
  simp only [List.pairwise_cons, List.forall_mem_cons, List.not_mem_nil, false_imp_iff,
    implies_true, List.Pairwise.nil, and_true]
  exact ⟨⟨hgroup.excludes hlisted (by decide) fields, hgroup.excludes hlink (by decide) fields,
      hgroup.excludes tells_page? (by decide) fields⟩,
    ⟨hlisted.excludes hlink (by decide) fields, hlisted.excludes tells_page? (by decide) fields⟩,
    hlink.excludes tells_page? (by decide) fields⟩

/-- **The first try that succeeds is any that does**, if they exclude each
other. -/
theorem findSome?_eq_some_iff {tries : List (Fields → Option Entry)} {fields : Fields}
    (h : tries.Pairwise fun shape other => shape fields = none ∨ other fields = none)
    {entry : Entry} :
    (tries.findSome? fun shape => shape fields) = some entry
      ↔ ∃ shape ∈ tries, shape fields = some entry := by
  induction tries with
  | nil => simp
  | cons shape tries ih =>
    obtain ⟨hfirst, hrest⟩ := List.pairwise_cons.mp h
    rw [List.findSome?_cons]
    cases hshape : shape fields with
    | none => simp [ih hrest, hshape]
    | some found =>
      have hothers : ¬∃ other ∈ tries, other fields = some entry := by
        rintro ⟨other, hother, hentry⟩
        rcases hfirst other hother with hnone | hnone
        · exact absurd (hshape.symm.trans hnone) (by simp)
        · exact absurd (hentry.symm.trans hnone) (by simp)
      simp [hshape, hothers]

/-- **The order of the tries does not matter.** -/
theorem findSome?_perm {tries : List (Fields → Option Entry)} (h : tries.Perm shapes)
    (fields : Fields) :
    (tries.findSome? fun shape => shape fields) = shapes.findSome? fun shape => shape fields := by
  have hexclusive := shapes_exclusive fields
  have htries := (h.pairwise_iff fun h => h.symm).mpr hexclusive
  refine Option.ext fun entry => ?_
  rw [findSome?_eq_some_iff hexclusive, findSome?_eq_some_iff htries]
  exact exists_congr fun shape => and_congr_left fun _ => h.mem_iff

theorem node?_eq_findSome? (fields : Fields) :
    fields.node? = shapes.findSome? fun shape => shape fields := by
  unfold node? shapes
  simp only [List.findSome?_cons, List.findSome?_nil]
  cases fields.group? <;> cases fields.autogenerate? <;> cases fields.link? <;>
    cases fields.page? <;> rfl

end Fields

/-! ## Tables and their shapes -/

section Tables

variable {entries others : List (String × Data)} {entry : Entry}

theorem lookup_fieldReadings (key : String) :
    (fieldReadings entries).lookup key = (entries.lookup key).map reading := by
  induction entries with
  | nil => rfl
  | cons first entries ih =>
    rw [fieldReadings, List.lookup_cons, List.lookup_cons, ih]
    cases key == first.1 <;> rfl

theorem map_fst_fieldReadings : (fieldReadings entries).map Prod.fst = entries.map Prod.fst := by
  rw [fieldReadings_eq_map, List.map_map]
  rfl

theorem read_eq_some_iff {α : Type} {read : Reading → Option α} {key : String} {part : α} :
    ((fieldReadings entries).lookup key).bind read = some part
      ↔ ∃ data, entries.lookup key = some data ∧ read (reading data) = some part := by
  rw [lookup_fieldReadings, Option.bind_eq_some_iff]
  simp

/-- A flag is absent, or it is a truth value. -/
theorem collapsed?_eq_some_iff {collapsed : Bool} :
    Fields.collapsed? (fieldReadings entries) = some collapsed
      ↔ (entries.lookup "collapsed" = none ∧ collapsed = false)
        ∨ entries.lookup "collapsed" = some (.boolean collapsed) := by
  unfold Fields.collapsed?
  rw [lookup_fieldReadings]
  cases entries.lookup "collapsed" with
  | none => simp [eq_comm]
  | some data => simp [flag?_eq_some_iff]

/-- **A table with only some keys takes their order.** -/
theorem perm_of_only {allowed : List String} (hallowed : allowed.Nodup)
    (h : Fields.only allowed (fieldReadings entries) = true) :
    entries.Perm (allowed.filterMap fun key => (entries.lookup key).map (key, ·)) := by
  obtain ⟨hsub, hkeys⟩ := Fields.only_iff.mp h
  rw [map_fst_fieldReadings] at hsub hkeys
  exact perm_of_keys hallowed hkeys hsub

/-- **What a labelled try leaves of a table**: the label, the part that
tells the shape, and what stands under the other keys. -/
theorem perm_of_labelled {α : Type} {telling : String} {allowed : List String}
    {read : Reading → Option α} {build : Fields → String → α → Option Entry}
    (hallowed : ("label" :: telling :: allowed).Nodup)
    (h : Fields.labelled telling allowed read build (fieldReadings entries) = some entry) :
    ∃ label data part, entries.Perm (("label", .string label) :: (telling, data)
        :: allowed.filterMap fun key => (entries.lookup key).map (key, ·))
      ∧ read (reading data) = some part
      ∧ build (fieldReadings entries) label part = some entry := by
  obtain ⟨honly, label, part, hlabel, hpart, hbuild⟩ := Fields.labelled_eq_some_iff.mp h
  obtain ⟨text, htext, hlabel⟩ := read_eq_some_iff.mp hlabel
  obtain ⟨data, hdata, hpart⟩ := read_eq_some_iff.mp hpart
  refine ⟨label, data, part, ?_, hpart, hbuild⟩
  have hperm := perm_of_only hallowed honly
  rwa [List.filterMap_cons, htext, List.filterMap_cons, hdata, text?_eq_some_iff.mp hlabel]
    at hperm

/-- **What a try with a flag leaves of a table**: the label, the part that
tells the shape, and the flag if there is one. -/
theorem perm_of_flagged {α : Type} {telling : String} {read : Reading → Option α}
    {make : String → α → Bool → Entry} (hallowed : ["label", telling, "collapsed"].Nodup)
    (h : Fields.labelled telling ["collapsed"] read (Fields.flagged make) (fieldReadings entries)
      = some entry) :
    ∃ label data part, read (reading data) = some part
      ∧ ((entries.Perm [("label", .string label), (telling, data)] ∧ entry = make label part false)
        ∨ ∃ collapsed, entry = make label part collapsed
          ∧ entries.Perm [("label", .string label), (telling, data),
            ("collapsed", .boolean collapsed)]) := by
  obtain ⟨label, data, part, hperm, hpart, hbuild⟩ := perm_of_labelled hallowed h
  obtain ⟨collapsed, hcollapsed, hentry⟩ := Option.bind_eq_some_iff.mp hbuild
  injection hentry with hentry
  refine ⟨label, data, part, hpart, ?_⟩
  rcases collapsed?_eq_some_iff.mp hcollapsed with ⟨hnone, rfl⟩ | hsome
  · rw [List.filterMap_cons, hnone] at hperm
    exact .inl ⟨hperm, hentry.symm⟩
  · rw [List.filterMap_cons, hsome] at hperm
    exact .inr ⟨collapsed, hentry.symm, hperm⟩

/-- What an item of a group is read as. -/
abbrev Describes (item : Data) (entry : Entry) : Prop := ofData? item = some entry

theorem node?_eq_some_iff {fields : Fields} :
    fields.node? = some entry ↔ ∃ shape ∈ Fields.shapes, shape fields = some entry := by
  rw [Fields.node?_eq_findSome?, Fields.findSome?_eq_some_iff (Fields.shapes_exclusive fields)]

/-- A table of one of the shapes is read as its entry. -/
theorem node?_of_shape (h : Shape Describes entries entry) :
    Fields.node? (fieldReadings entries) = some entry := by
  rw [node?_eq_some_iff]
  cases h with
  | group label h =>
    refine ⟨Fields.group?, by simp [Fields.shapes], ?_⟩
    rw [Fields.group?_eq]
    exact Fields.labelled_eq_some_iff.mpr
      ⟨rfl, label, _, rfl, entries?_eq_some_iff.mpr ⟨_, rfl, h⟩, rfl⟩
  | flaggedGroup label h collapsed =>
    refine ⟨Fields.group?, by simp [Fields.shapes], ?_⟩
    rw [Fields.group?_eq]
    exact Fields.labelled_eq_some_iff.mpr
      ⟨rfl, label, _, rfl, entries?_eq_some_iff.mpr ⟨_, rfl, h⟩, rfl⟩
  | autogenerate label h =>
    refine ⟨Fields.autogenerate?, by simp [Fields.shapes], ?_⟩
    rw [Fields.autogenerate?_eq]
    exact Fields.labelled_eq_some_iff.mpr
      ⟨rfl, label, _, rfl, directory?_eq_some_iff.mpr h, rfl⟩
  | flaggedAutogenerate label h collapsed =>
    refine ⟨Fields.autogenerate?, by simp [Fields.shapes], ?_⟩
    rw [Fields.autogenerate?_eq]
    exact Fields.labelled_eq_some_iff.mpr
      ⟨rfl, label, _, rfl, directory?_eq_some_iff.mpr h, rfl⟩
  | link label target =>
    exact ⟨Fields.link?, by simp [Fields.shapes], rfl⟩
  | page slug =>
    exact ⟨Fields.page?, by simp [Fields.shapes], rfl⟩
  | labelledPage slug h =>
    refine ⟨Fields.page?, by simp [Fields.shapes], ?_⟩
    show Option.map _ (Reading.optionalText? _) = _
    rw [optionalText?_eq_some_iff.mpr h]
    rfl

/-- A table that is read as an entry is of one of the shapes, with its
keys in some order. -/
theorem exists_shape (h : Fields.node? (fieldReadings entries) = some entry) :
    ∃ shaped, entries.Perm shaped ∧ Shape Describes shaped entry := by
  obtain ⟨shape, hmem, h⟩ := node?_eq_some_iff.mp h
  simp only [Fields.shapes, List.mem_cons, List.not_mem_nil, or_false] at hmem
  rcases hmem with rfl | rfl | rfl | rfl
  · rw [Fields.group?_eq] at h
    obtain ⟨label, data, part, hpart, h⟩ := perm_of_flagged (by decide) h
    obtain ⟨items, rfl, hitems⟩ := entries?_eq_some_iff.mp hpart
    rcases h with ⟨hperm, rfl⟩ | ⟨collapsed, rfl, hperm⟩
    · exact ⟨_, hperm, .group label hitems⟩
    · exact ⟨_, hperm, .flaggedGroup label hitems collapsed⟩
  · rw [Fields.autogenerate?_eq] at h
    obtain ⟨label, data, directory, hsource, h⟩ := perm_of_flagged (by decide) h
    rcases h with ⟨hperm, rfl⟩ | ⟨collapsed, rfl, hperm⟩
    · exact ⟨_, hperm, .autogenerate label (directory?_eq_some_iff.mp hsource)⟩
    · exact ⟨_, hperm, .flaggedAutogenerate label (directory?_eq_some_iff.mp hsource) collapsed⟩
  · rw [Fields.link?_eq] at h
    obtain ⟨label, data, target, hperm, htarget, hentry⟩ := perm_of_labelled (by decide) h
    injection hentry with hentry
    rw [text?_eq_some_iff.mp htarget] at hperm
    exact ⟨_, hperm, hentry ▸ .link label target⟩
  · unfold Fields.page? at h
    split at h
    · exact nomatch h
    · next honly =>
      have hperm := perm_of_only (show ["slug", "label"].Nodup by decide) (by simpa using honly)
      obtain ⟨r, hr, h⟩ := Option.bind_eq_some_iff.mp h
      obtain ⟨address, haddress, h⟩ := Option.bind_eq_some_iff.mp h
      obtain ⟨data, hdata, hslug⟩ := read_eq_some_iff.mp
        (show ((fieldReadings entries).lookup "slug").bind Reading.text? = some address by
          rw [hr]
          exact haddress)
      rw [text?_eq_some_iff.mp hslug] at hdata
      rw [lookup_fieldReadings] at h
      rw [List.filterMap_cons, hdata, List.filterMap_cons] at hperm
      cases hlabel : entries.lookup "label" with
      | none =>
        rw [hlabel] at h hperm
        injection h with h
        exact ⟨_, hperm, h ▸ .page address⟩
      | some text =>
        rw [hlabel] at h hperm
        obtain ⟨label, hlabel, rfl⟩ := Option.map_eq_some_iff.mp h
        exact ⟨_, hperm, .labelledPage address (optionalText?_eq_some_iff.mp hlabel)⟩

/-- **A table is read as an entry exactly if it is of one of the shapes**,
with its keys in any order. -/
theorem ofData?_table_iff :
    ofData? (.table entries) = some entry
      ↔ ∃ shaped, entries.Perm shaped ∧ Shape Describes shaped entry := by
  refine ⟨exists_shape, ?_⟩
  rintro ⟨shaped, hperm, hshape⟩
  show Fields.node? (fieldReadings entries) = some entry
  rw [Fields.node?_perm (fieldReadings_perm hperm), node?_of_shape hshape]

end Tables

/-! ## Arrays and their shapes -/

/-- **An array that is read as an entry** has the values of one of the
shapes, in its order. -/
theorem exists_shape_of_items {items : List Data} {entry : Entry}
    (h : ofData? (.array items) = some entry) :
    ∃ shaped, Shape Describes shaped entry ∧ shaped.map Prod.snd = items := by
  have h : ofItems? (itemReadings items) = some entry := h
  unfold ofItems? at h
  simp only [Option.orElse_eq_orElse, Option.orElse_eq_or, Option.or_eq_some_iff] at h
  rcases h with h | ⟨_, h | ⟨_, h | ⟨_, h⟩⟩⟩
  · match items, h with
    | [label, part], h =>
      obtain ⟨text, hlabel, h⟩ := Option.bind_eq_some_iff.mp h
      obtain ⟨entries, hpart, h⟩ := Option.bind_eq_some_iff.mp h
      obtain rfl := Option.some.inj h
      obtain ⟨items, rfl, hitems⟩ := entries?_eq_some_iff.mp hpart
      obtain rfl := text?_eq_some_iff.mp hlabel
      exact ⟨_, .group text hitems, rfl⟩
    | [label, part, flag], h =>
      obtain ⟨text, hlabel, h⟩ := Option.bind_eq_some_iff.mp h
      obtain ⟨entries, hpart, h⟩ := Option.bind_eq_some_iff.mp h
      obtain ⟨collapsed, hflag, h⟩ := Option.bind_eq_some_iff.mp h
      obtain rfl := Option.some.inj h
      obtain ⟨items, rfl, hitems⟩ := entries?_eq_some_iff.mp hpart
      obtain rfl := text?_eq_some_iff.mp hlabel
      obtain rfl := flag?_eq_some_iff.mp hflag
      exact ⟨_, .flaggedGroup text hitems collapsed, rfl⟩
  · match items, h with
    | [label, source], h =>
      obtain ⟨text, hlabel, h⟩ := Option.bind_eq_some_iff.mp h
      obtain ⟨directory, hsource, h⟩ := Option.bind_eq_some_iff.mp h
      obtain rfl := Option.some.inj h
      obtain rfl := text?_eq_some_iff.mp hlabel
      exact ⟨_, .autogenerate text (directory?_eq_some_iff.mp hsource), rfl⟩
    | [label, source, flag], h =>
      obtain ⟨text, hlabel, h⟩ := Option.bind_eq_some_iff.mp h
      obtain ⟨directory, hsource, h⟩ := Option.bind_eq_some_iff.mp h
      obtain ⟨collapsed, hflag, h⟩ := Option.bind_eq_some_iff.mp h
      obtain rfl := Option.some.inj h
      obtain rfl := text?_eq_some_iff.mp hlabel
      obtain rfl := flag?_eq_some_iff.mp hflag
      exact ⟨_, .flaggedAutogenerate text (directory?_eq_some_iff.mp hsource) collapsed, rfl⟩
  · match items, h with
    | [label, target], h =>
      obtain ⟨text, hlabel, h⟩ := Option.bind_eq_some_iff.mp h
      obtain ⟨address, htarget, h⟩ := Option.bind_eq_some_iff.mp h
      obtain rfl := Option.some.inj h
      obtain rfl := text?_eq_some_iff.mp hlabel
      obtain rfl := text?_eq_some_iff.mp htarget
      exact ⟨_, .link text address, rfl⟩
  · match items, h with
    | [name], h =>
      obtain ⟨address, hslug, h⟩ := Option.bind_eq_some_iff.mp h
      obtain rfl := Option.some.inj h
      obtain rfl := text?_eq_some_iff.mp hslug
      exact ⟨_, .page address, rfl⟩
    | [name, label], h =>
      obtain ⟨address, hslug, h⟩ := Option.bind_eq_some_iff.mp h
      obtain ⟨text, hlabel, h⟩ := Option.bind_eq_some_iff.mp h
      obtain rfl := Option.some.inj h
      obtain rfl := text?_eq_some_iff.mp hslug
      exact ⟨_, .labelledPage address (optionalText?_eq_some_iff.mp hlabel), rfl⟩

/-! ## Alike tables -/

theorem directoryOfFields?_perm : ∀ {fields others : Fields}, fields.Perm others →
    Reading.directoryOfFields? fields = Reading.directoryOfFields? others
  | [], others, h => by rw [h.nil_eq]
  | [field], others, h => by rw [List.singleton_perm.mp h]
  | _ :: _ :: _, [], h => absurd h.length_eq (by simp)
  | _ :: _ :: _, [_], h => absurd h.length_eq (by simp)
  | _ :: _ :: _, _ :: _ :: _, _ => by simp [Reading.directoryOfFields?]

mutual

/-- **Alike trees can be read as the same.** -/
theorem reading_alike : ∀ {data other : Data}, data.Alike other → reading data = reading other
  | _, _, .refl _ => rfl
  | _, _, .array h => congrArg arrayReading (itemReadings_alike h)
  | _, _, .table h hperm => by
    have hfields := fieldReadings_perm hperm
    rw [reading, reading, fieldReadings_alike h, tableReading, tableReading,
      Fields.node?_perm hfields, directoryOfFields?_perm hfields]

theorem itemReadings_alike : ∀ {items others : List Data}, Data.AlikeItems items others →
    itemReadings items = itemReadings others
  | _, _, .nil => rfl
  | _, _, .cons h hrest => by
    rw [itemReadings, itemReadings, reading_alike h, itemReadings_alike hrest]

theorem fieldReadings_alike : ∀ {entries others : List (String × Data)},
    Data.AlikeEntries entries others → fieldReadings entries = fieldReadings others
  | _, _, .nil => rfl
  | _, _, .cons _ h hrest => by
    rw [fieldReadings, fieldReadings, reading_alike h, fieldReadings_alike hrest]

end

theorem entry_alike {data other : Data} (h : data.Alike other) (format : Format) :
    Decoded.entry format data = Decoded.entry format other := by
  unfold Decoded.entry ofData?
  rw [h.readable_eq, reading_alike h]

/-! ## Decoding -/

/-- **An entry is decoded** if its value is read as one and, in JSON, does
not nest too deeply. -/
theorem entry_eq_ok_iff {format : Format} {data : Data} {entry : Entry} :
    Decoded.entry format data = .ok entry
      ↔ (format = .json → data.readable Decoded.entryDepth = true) ∧ Describes data entry := by
  unfold Decoded.entry Describes
  by_cases hdeep : format = .json ∧ data.readable Decoded.entryDepth = false
  · simp [hdeep]
  · have hreadable : format = .json → data.readable Decoded.entryDepth = true := by
      simpa using hdeep
    rw [if_neg (by simpa using hdeep), and_iff_right hreadable]
    cases ofData? data <;> simp

/-- A shape stays one if its items are decoded otherwise. -/
theorem Shape.imp {decodes others : Data → Entry → Prop} {shaped : List (String × Data)}
    {entry : Entry} (hshape : Shape decodes shaped entry)
    (himp : ∀ items, ("items", .array items) ∈ shaped →
      ∀ item ∈ items, ∀ entry, decodes item entry → others item entry) :
    Shape others shaped entry := by
  have hitems : ∀ {items : List Data} {entries : List Entry},
      List.Forall₂ decodes items entries → ("items", .array items) ∈ shaped →
      List.Forall₂ others items entries := fun h hmem =>
    ((List.forall₂_and_left _ _).mpr ⟨himp _ hmem, h⟩).imp fun _ entry h => h.1 entry h.2
  cases hshape with
  | group label h => exact .group label (hitems h (by simp))
  | flaggedGroup label h collapsed => exact .flaggedGroup label (hitems h (by simp)) collapsed
  | autogenerate label h => exact .autogenerate label h
  | flaggedAutogenerate label h collapsed => exact .flaggedAutogenerate label h collapsed
  | link label target => exact .link label target
  | page slug => exact .page slug
  | labelledPage slug h => exact .labelledPage slug h

/-- The items of a group nest less deeply than the group. -/
theorem readable_of_item {shaped : List (String × Data)} {items : List Data} {item : Data}
    (h : (Data.table shaped).readable Decoded.entryDepth = true)
    (hitems : ("items", .array items) ∈ shaped) (hmem : item ∈ items) :
    item.readable Decoded.entryDepth = true := by
  have harray : (Data.array items).readable 124 = true :=
    Data.readableEntries_iff.mp h _ hitems
  exact Data.readable_mono item (by decide : 123 ≤ 125) (Data.readableItems_iff.mp harray item hmem)

/-- **A table of the sidebar is told by its keys.** It is an entry exactly
if, in some order of its keys, it is of one of the shapes, and its items are
entries one by one. Both formats decode it so; in JSON all of it must nest
no deeper than the reader of the text goes. No table is of two of the four
kinds, so the kinds may be tried in any order, and alike tables are decoded
as the same. -/
theorem table_entry (entries : List (String × Data)) :
    (∀ entry, ofData? (.table entries) = some entry
      ↔ ∃ shaped, entries.Perm shaped
        ∧ Shape (fun item entry => ofData? item = some entry) shaped entry)
    ∧ (∀ format entry, Decoded.entry format (.table entries) = .ok entry
      ↔ (format = .json → (Data.table entries).readable Decoded.entryDepth = true)
        ∧ ∃ shaped, entries.Perm shaped
          ∧ Shape (fun item entry => Decoded.entry format item = .ok entry) shaped entry)
    ∧ Fields.shapes.Pairwise (fun shape other =>
      shape (fieldReadings entries) = none ∨ other (fieldReadings entries) = none)
    ∧ (∀ tries : List (Fields → Option Entry), tries.Perm Fields.shapes →
      ofData? (.table entries) = tries.findSome? fun shape => shape (fieldReadings entries))
    ∧ ∀ format other, (Data.table entries).Alike other →
      Decoded.entry format other = Decoded.entry format (.table entries) := by
  refine ⟨fun entry => ofData?_table_iff, fun format entry => ?_, Fields.shapes_exclusive _,
    fun tries htries => ?_, fun format other h => (entry_alike h format).symm⟩
  · rw [entry_eq_ok_iff]
    refine and_congr_right fun hreadable => ofData?_table_iff.trans ?_
    refine exists_congr fun shaped => and_congr_right fun hperm => ?_
    constructor
    -- the items are less deep than the table, so nothing but their own shape
    -- is left to be said of them
    · refine fun hshape => hshape.imp fun items hitems item hmem entry hentry => ?_
      refine entry_eq_ok_iff.mpr ⟨fun hjson => ?_, hentry⟩
      have hshaped := (Data.Alike.of_perm hperm).readable_eq Decoded.entryDepth ▸ hreadable hjson
      exact readable_of_item hshaped hitems hmem
    · exact fun hshape => hshape.imp fun _ _ _ _ _ hentry => (entry_eq_ok_iff.mp hentry).2
  · rw [Fields.findSome?_perm htries, ← Fields.node?_eq_findSome?]
    rfl

end Entry

end DocSite
