import Mathlib.Tactic.Common
import DocSite.Export.Format
import DocSite.Proofs.Decode.Unknown
import DocSite.Proofs.Export.SidebarEntries
import DocSite.Proofs.Toml.Document
import DocSite.Site.Decode.Config

/-!
# A configuration survives its export

`ofToml_tomlText` is the law of the export to a configuration file:
either reader of the exported text gives the configuration back, and there
is no key that is ignored, whatever the configuration holds. The only way
to lose one is to nest groups so deep that the reader gives up. That never
gives another configuration, and does not happen up to thirty groups deep.

A configuration file has its fields in one order and the text in another.
The social links, and a sidebar of nothing but tables, are written over
sections and stand behind everything else, so a sidebar that is written
on one line comes before the social links, and any other one after them.
-/

namespace DocSite

open Toml (Node node plainEntries sectionEntries table tables isRecord isRows hasSections maxParts)

/-! ## No field stands twice -/

mutual

theorem Entry.distinct_doc : ∀ entry : Entry, entry.doc.Distinct
  | .slug _ => trivial
  | .group label items collapsed => by
    have hitems := Entry.distinct_docs items
    cases collapsed
    · exact ⟨by simp, trivial, hitems, trivial⟩
    · exact ⟨by simp, trivial, hitems, trivial, trivial⟩
  | .autogenerate _ directory collapsed => by
    have hsource : (Doc.record [("directory", Doc.text directory)]).Distinct :=
      ⟨by simp, trivial, trivial⟩
    cases collapsed
    · exact ⟨by simp, trivial, hsource, trivial⟩
    · exact ⟨by simp, trivial, hsource, trivial, trivial⟩
  | .link _ _ => ⟨by simp, trivial, trivial, trivial⟩
  | .page _ none => ⟨by simp, trivial, trivial⟩
  | .page _ (some _) => ⟨by simp, trivial, trivial, trivial⟩

theorem Entry.distinct_docs : ∀ entries : List Entry, Doc.DistinctItems (Entry.docs entries)
  | [] => trivial
  | entry :: entries => ⟨Entry.distinct_doc entry, Entry.distinct_docs entries⟩

end

theorem SiteConfig.nodup_fileFields (config : SiteConfig) :
    (config.fileFields.map Prod.fst).Nodup := by
  have htext : ∀ (name : String) (text : Option String),
      ((SiteConfig.textField name text).map Prod.fst).Sublist [name] := by
    intro name text
    cases text
    · exact List.nil_sublist _
    · exact List.Sublist.refl _
  have hlist : ∀ (name : String) (items : List Doc),
      ((SiteConfig.listField name items).map Prod.fst).Sublist [name] := by
    intro name items
    unfold SiteConfig.listField
    split
    · exact List.nil_sublist _
    · exact List.Sublist.refl _
  have hnames : (config.fileFields.map Prod.fst).Sublist Decoded.rootNames := by
    unfold SiteConfig.fileFields
    rw [List.map_append, List.map_append, List.map_append, List.map_append, List.map_append,
      List.map_append]
    exact (((((List.Sublist.refl ["title"]).append (htext "description" _)).append
      (htext "site" _)).append (htext "base" _)).append (hlist "packages" _)).append
      (hlist "social" _) |>.append (hlist "sidebar" _)
  exact hnames.nodup (by decide)

theorem Doc.distinctFields_append (first second : List (String × Doc)) :
    Doc.DistinctFields (first ++ second)
      ↔ Doc.DistinctFields first ∧ Doc.DistinctFields second := by
  induction first with
  | nil => exact (and_iff_right trivial).symm
  | cons field first ih =>
    show _ ∧ Doc.DistinctFields (first ++ second) ↔ (_ ∧ _) ∧ _
    rw [ih, and_assoc]

theorem Doc.distinctItems_texts (names : List String) : Doc.DistinctItems (names.map .text) := by
  induction names with
  | nil => trivial
  | cons name names ih => exact ⟨trivial, ih⟩

theorem SocialLink.distinct_docs (links : List SocialLink) :
    Doc.DistinctItems (links.map SocialLink.doc) := by
  induction links with
  | nil => trivial
  | cons link links ih => exact ⟨⟨by simp, trivial, trivial, trivial, trivial⟩, ih⟩

theorem SiteConfig.distinct_textField (name : String) (text : Option String) :
    Doc.DistinctFields (SiteConfig.textField name text) := by
  cases text
  · trivial
  · exact ⟨trivial, trivial⟩

theorem SiteConfig.distinct_listField (name : String) {items : List Doc}
    (h : Doc.DistinctItems items) : Doc.DistinctFields (SiteConfig.listField name items) := by
  unfold SiteConfig.listField
  split
  · trivial
  · exact ⟨h, trivial⟩

/-- **A configuration file has no name twice**, at any depth. -/
theorem SiteConfig.distinct_fileFields (config : SiteConfig) :
    (Doc.record config.fileFields).Distinct := by
  refine ⟨config.nodup_fileFields, ?_⟩
  have htitle : Doc.DistinctFields [("title", .text config.title)] := ⟨trivial, trivial⟩
  have hpackages := distinct_listField "packages" (Doc.distinctItems_texts config.packages)
  have hsocial := distinct_listField "social" (SocialLink.distinct_docs config.social)
  have hsidebar := distinct_listField "sidebar" (Entry.distinct_docs config.sidebar)
  unfold SiteConfig.fileFields
  simp only [Doc.distinctFields_append]
  exact ⟨⟨⟨⟨⟨⟨htitle, distinct_textField _ _⟩, distinct_textField _ _⟩, distinct_textField _ _⟩,
    hpackages⟩, hsocial⟩, hsidebar⟩

/-! ## How deep a configuration nests -/

mutual

/-- **How deep groups nest** in an entry. -/
def Entry.nesting : Entry → Nat
  | .group _ items _ => Entry.nestings items + 1
  | _ => 0

/-- How deep groups nest in entries. -/
def Entry.nestings : List Entry → Nat
  | [] => 0
  | entry :: entries => max entry.nesting (Entry.nestings entries)

end

mutual

/-- Every group takes up two levels, itself and its items, and a listed
directory two at the end. -/
theorem Entry.readable_doc : ∀ (entry : Entry) {n : Nat}, entry.nesting ≤ n →
    entry.doc.data.readable (2 * n + 2) = true
  | .slug _, n, _ => by simp [Entry.doc, Doc.data, Data.readable]
  | .group label items collapsed, n, h => by
    obtain ⟨m, rfl⟩ : ∃ m, n = m + 1 := ⟨n - 1, by
      have hpos : 1 ≤ n := Nat.le_trans (Nat.le_add_left 1 _) h
      omega⟩
    have hitems := Entry.readable_docs items (Nat.le_of_succ_le_succ h)
    have hlist : (Doc.list (Entry.docs items)).data.readable (2 * m + 3) = true := hitems
    show Data.readableEntries (2 * m + 3) (Doc.recordData _) = true
    cases collapsed
    · show (true && ((Doc.list (Entry.docs items)).data.readable (2 * m + 3) && true)) = true
      rw [hlist]
      rfl
    · show (true && ((Doc.list (Entry.docs items)).data.readable (2 * m + 3) && (true && true)))
        = true
      rw [hlist]
      rfl
  | .autogenerate _ _ collapsed, n, _ => by
    cases collapsed <;> rfl
  | .link _ _, n, _ => rfl
  | .page _ none, n, _ => rfl
  | .page _ (some _), n, _ => rfl

/-- Entries nest no deeper than their groups let them. -/
theorem Entry.readable_docs : ∀ (entries : List Entry) {n : Nat}, Entry.nestings entries ≤ n →
    Data.readableItems (2 * n + 2) (Doc.listData (Entry.docs entries)) = true
  | [], _, _ => rfl
  | entry :: entries, n, h => by
    obtain ⟨hentry, hentries⟩ := Nat.max_le.mp h
    rw [Entry.docs, Doc.listData, Data.readableItems, Entry.readable_doc entry hentry,
      Entry.readable_docs entries hentries]
    rfl

end

theorem Doc.readable_append (d : Nat) (first second : List (String × Doc)) :
    Data.readableEntries d (Doc.recordData (first ++ second))
      = (Data.readableEntries d (Doc.recordData first)
        && Data.readableEntries d (Doc.recordData second)) := by
  induction first with
  | nil => rfl
  | cons field first ih =>
    obtain ⟨name, doc⟩ := field
    rw [List.cons_append, Doc.recordData, Doc.recordData, Data.readableEntries,
      Data.readableEntries, ih, Bool.and_assoc]

/-- Texts can be read at any depth. -/
theorem Doc.readable_texts (d : Nat) (names : List String) :
    Data.readableItems (d + 1) (Doc.listData (names.map .text)) = true := by
  induction names with
  | nil => rfl
  | cons name names ih => exact ih

theorem SocialLink.readable_docs (d : Nat) (links : List SocialLink) :
    Data.readableItems (d + 2) (Doc.listData (links.map SocialLink.doc)) = true := by
  induction links with
  | nil => rfl
  | cons link links ih => exact ih

theorem SiteConfig.readable_textField (d : Nat) (name : String) (text : Option String) :
    Data.readableEntries (d + 1) (Doc.recordData (SiteConfig.textField name text)) = true := by
  cases text <;> rfl

/-- The field of a list can be read where its items can be read further
down. -/
theorem SiteConfig.readable_listField {d : Nat} (name : String) {items : List Doc}
    (h : Data.readableItems d (Doc.listData items) = true) :
    Data.readableEntries (d + 1) (Doc.recordData (SiteConfig.listField name items)) = true := by
  unfold SiteConfig.listField
  split
  · rfl
  · show ((Doc.list items).data.readable (d + 1) && true) = true
    rw [Bool.and_true]
    exact h

/-- **A configuration file can be read to the end** if its groups do not
nest too deep. -/
theorem SiteConfig.readable_fileFields (config : SiteConfig) {n : Nat}
    (h : Entry.nestings config.sidebar ≤ n) :
    Data.readableEntries (2 * n + 3) (Doc.recordData config.fileFields) = true := by
  have htitle : Data.readableEntries (2 * n + 3) (Doc.recordData [("title", .text config.title)])
      = true := rfl
  have hpackages := readable_listField "packages" (Doc.readable_texts (2 * n + 1) config.packages)
  have hsocial := readable_listField "social" (SocialLink.readable_docs (2 * n) config.social)
  have hsidebar := readable_listField "sidebar" (Entry.readable_docs config.sidebar h)
  unfold SiteConfig.fileFields
  simp only [Doc.readable_append, htitle, readable_textField, hpackages, hsocial, hsidebar,
    Bool.and_self]

/-! ## Reading the fields -/

namespace Decoded

theorem readAll_append (format : Format) (first second : List (String × Data))
    (fields : RootFields) :
    RootFields.readAll format (first ++ second) fields
      = (RootFields.readAll format first fields).bind (RootFields.readAll format second) := by
  induction first generalizing fields with
  | nil => rfl
  | cons entry first ih =>
    obtain ⟨key, value⟩ := entry
    show (fields.read format key value).bind _ = ((fields.read format key value).bind _).bind _
    cases fields.read format key value with
    | error why => rfl
    | ok next => exact ih next

theorem list_string (texts : List String) :
    list string (Doc.list (texts.map .text)).data = .ok texts := by
  show (Doc.listData (texts.map .text)).mapM string = _
  induction texts with
  | nil => rfl
  | cons text texts ih =>
    show (Data.string text :: Doc.listData (texts.map .text)).mapM string = _
    rw [List.mapM_cons, ih]
    rfl

theorem socialLink_table (format : Format) (link : SocialLink) :
    socialLink format (.table [("icon", .string link.icon.name), ("label", .string link.label),
      ("href", .string link.href)]) = .ok link := by
  have hicon : icon format (.string link.icon.name) = .ok link.icon := by
    have hname : iconNamed link.icon.name = .ok link.icon := by
      unfold iconNamed
      rw [Icon.ofName?_name]
    cases format
    · exact hname
    · exact hname
  have hread : LinkFields.read format {} "icon" (.string link.icon.name)
      = .ok { icon? := some link.icon } := by
    show (icon format (.string link.icon.name)).map _ = _
    rw [hicon]
    rfl
  show ((LinkFields.read format {} "icon" (.string link.icon.name)).bind _).bind _ = _
  rw [hread]
  rfl

/-- **Social links are read back.** -/
theorem list_socialLink (format : Format) (links : List SocialLink) :
    list (socialLink format) (Doc.list (links.map SocialLink.doc)).data = .ok links := by
  show (Doc.listData (links.map SocialLink.doc)).mapM (socialLink format) = _
  induction links with
  | nil => rfl
  | cons link links ih =>
    show (Data.table [("icon", .string link.icon.name), ("label", .string link.label),
      ("href", .string link.href)]
        :: Doc.listData (links.map SocialLink.doc)).mapM (socialLink format) = _
    rw [List.mapM_cons, socialLink_table, ih]
    rfl

/-- The sections that social links are written over build them as they
are. -/
theorem rowsData_socialLinks (links : List SocialLink) :
    Node.rowsData (tables (links.map SocialLink.doc))
      = Doc.listData (links.map SocialLink.doc) := by
  induction links with
  | nil => rfl
  | cons link links ih => exact congrArg (link.doc.data :: ·) ih

/-- What can be read as entries is decoded as them, where it does not
nest too deep for the format. -/
theorem mapM_entry (format : Format) {items : List Data} : ∀ {entries : List Entry},
    (format = .json → Data.readableItems entryDepth items = true) →
    (Entry.itemReadings items).mapM Reading.node? = some entries →
    items.mapM (entry format) = .ok entries := by
  induction items with
  | nil =>
    intro entries _ h
    injection h with h
    rw [← h]
    rfl
  | cons item items ih =>
    intro entries hdepth h
    rw [Entry.itemReadings, List.mapM_cons] at h
    obtain ⟨first, hfirst, h⟩ := Option.bind_eq_some_iff.mp h
    obtain ⟨more, hmore, h⟩ := Option.bind_eq_some_iff.mp h
    injection h with h
    have hitem : ∀ hjson : format = .json, item.readable entryDepth = true
        ∧ Data.readableItems entryDepth items = true := by
      intro hjson
      have hall := hdepth hjson
      rwa [Data.readableItems, Bool.and_eq_true] at hall
    have hentry : entry format item = .ok first := by
      unfold entry Entry.ofData?
      rw [if_neg (fun hdeep => by simp [(hitem hdeep.1).1] at hdeep), hfirst]
    rw [List.mapM_cons, hentry, ih (fun hjson => (hitem hjson).2) hmore, ← h]
    rfl

/-- **A sidebar is read back** from what is built from its text. -/
theorem list_entry (entries : List Entry) :
    list (entry .toml) (node (.list (Entry.docs entries))).data = .ok entries := by
  have hread := Entry.entries?_node entries
  rw [node] at hread ⊢
  by_cases hrows : isRows (Entry.docs entries) = true
  · rw [if_pos hrows] at hread ⊢
    exact mapM_entry .toml (fun h => nomatch h) hread
  · rw [if_neg hrows] at hread ⊢
    exact mapM_entry .toml (fun h => nomatch h) hread

/-! ## Reading the root -/

/-- A list, if it is not empty. -/
def listed {α : Type} (items : List α) : Option (List α) :=
  if items.isEmpty then none else some items

theorem getD_listed {α : Type} (items : List α) : (listed items).getD [] = items := by
  cases items <;> rfl

theorem getD_map_some {α : Type} (value : Option α) : (value.map some).getD none = value := by
  cases value <;> rfl

variable {fields next : RootFields} {name : String}

theorem readAll_field {format : Format} {value : Data}
    (h : fields.read format name value = .ok next) :
    RootFields.readAll format [(name, value)] fields = .ok next := by
  show (fields.read format name value).bind _ = _
  rw [h]
  rfl

theorem readAll_textField {text : Option String} (hnone : text = none → fields = next)
    (hsome : ∀ s, text = some s → fields.read .toml name (.string s) = .ok next) :
    RootFields.readAll .toml (Node.entriesData (plainEntries (SiteConfig.textField name text)))
      fields = .ok next := by
  cases text with
  | none => rw [hnone rfl]; rfl
  | some s => exact readAll_field (hsome s rfl)

/-- The fields of a configuration that say what the site is. -/
def identityFields (config : SiteConfig) : List (String × Doc) :=
  [("title", .text config.title)]
    ++ SiteConfig.textField "description" config.description
    ++ SiteConfig.textField "site" config.site
    ++ SiteConfig.textField "base" config.base
    ++ SiteConfig.listField "packages" (config.packages.map .text)

/-- What has been read behind these fields. -/
def identityRead (config : SiteConfig) : RootFields where
  title? := some config.title
  description? := config.description.map some
  site? := config.site.map some
  base? := config.base.map some
  packages? := listed config.packages

/-- **The fields that say what the site is are read back.** -/
theorem readAll_identity (config : SiteConfig) :
    RootFields.readAll .toml (Node.entriesData (plainEntries (identityFields config))) {}
      = .ok (identityRead config) := by
  obtain ⟨title, description, site, base, packages, social, sidebar⟩ := config
  unfold identityFields
  rw [Toml.plainEntries_append, Toml.plainEntries_append, Toml.plainEntries_append,
    Toml.plainEntries_append, Toml.entriesData_append, Toml.entriesData_append,
    Toml.entriesData_append, Toml.entriesData_append, readAll_append, readAll_append,
    readAll_append, readAll_append]
  have htitle : RootFields.readAll .toml
      (Node.entriesData (plainEntries [("title", .text title)])) {}
      = .ok { title? := some title } := readAll_field rfl
  have hdescription : RootFields.readAll .toml
      (Node.entriesData (plainEntries (SiteConfig.textField "description" description)))
      { title? := some title }
      = .ok { title? := some title, description? := description.map some } :=
    readAll_textField (by rintro rfl; rfl) (by rintro s rfl; rfl)
  have hsite : RootFields.readAll .toml
      (Node.entriesData (plainEntries (SiteConfig.textField "site" site)))
      { title? := some title, description? := description.map some }
      = .ok { title? := some title, description? := description.map some,
              site? := site.map some } :=
    readAll_textField (by rintro rfl; rfl) (by rintro s rfl; rfl)
  have hbase : RootFields.readAll .toml
      (Node.entriesData (plainEntries (SiteConfig.textField "base" base)))
      { title? := some title, description? := description.map some, site? := site.map some }
      = .ok { title? := some title, description? := description.map some,
              site? := site.map some, base? := base.map some } :=
    readAll_textField (by rintro rfl; rfl) (by rintro s rfl; rfl)
  have hpackages : RootFields.readAll .toml
      (Node.entriesData (plainEntries (SiteConfig.listField "packages" (packages.map .text))))
      { title? := some title, description? := description.map some, site? := site.map some,
        base? := base.map some }
      = .ok { title? := some title, description? := description.map some,
              site? := site.map some, base? := base.map some, packages? := listed packages } := by
    cases packages with
    | nil => rfl
    | cons first packages =>
      refine readAll_field ?_
      show (list string (Doc.list ((first :: packages).map .text)).data).map _ = _
      rw [list_string]
      rfl
  rw [htitle, Except.bind, hdescription, Except.bind, hsite, Except.bind, hbase, Except.bind,
    hpackages]
  rfl

theorem sectionEntries_identity (config : SiteConfig) :
    sectionEntries (identityFields config) = [] := by
  have htext : ∀ (name : String) (text : Option String),
      sectionEntries (SiteConfig.textField name text) = [] := by
    intro name text
    cases text <;> rfl
  have hpackages : sectionEntries
      (SiteConfig.listField "packages" (config.packages.map .text)) = [] := by
    cases config.packages <;> rfl
  unfold identityFields
  rw [Toml.sectionEntries_append, Toml.sectionEntries_append, Toml.sectionEntries_append,
    Toml.sectionEntries_append, htext, htext, htext, hpackages]
  rfl

/-- The entry that a field with a list becomes, if there is one. -/
def listEntries (name : String) (items : List Doc) : Toml.Entries :=
  if items.isEmpty then [] else [(name, node (.list items))]

/-- A list of nothing but records stands behind the plain fields. -/
theorem listField_of_sections {items : List Doc} (h : hasSections (.list items) = true) :
    plainEntries (SiteConfig.listField name items) = []
      ∧ sectionEntries (SiteConfig.listField name items) = listEntries name items := by
  have hfield : SiteConfig.listField name items = [(name, .list items)] := by
    cases items with
    | nil => exact absurd h Bool.false_ne_true
    | cons item items => rfl
  have hentries : listEntries name items = [(name, node (.list items))] := by
    cases items with
    | nil => exact absurd h Bool.false_ne_true
    | cons item items => rfl
  rw [hfield, hentries]
  unfold plainEntries
  rw [Toml.plainData, sectionEntries, if_pos h, if_pos h]
  exact ⟨rfl, rfl⟩

/-- Any other list stands among the plain fields. -/
theorem listField_of_plain {items : List Doc} (h : hasSections (.list items) = false) :
    plainEntries (SiteConfig.listField name items) = listEntries name items
      ∧ sectionEntries (SiteConfig.listField name items) = [] := by
  unfold SiteConfig.listField listEntries
  by_cases hempty : items.isEmpty = true
  · rw [if_pos hempty, if_pos hempty]
    exact ⟨rfl, rfl⟩
  · have hrows : isRows items = false := h
    rw [if_neg hempty, if_neg hempty, node]
    unfold plainEntries
    rw [Toml.plainData, sectionEntries, h, hrows]
    exact ⟨rfl, rfl⟩

theorem hasSections_social (link : SocialLink) (links : List SocialLink) :
    hasSections (.list ((link :: links).map SocialLink.doc)) = true := by
  show (true && ((link :: links).map SocialLink.doc).all isRecord) = true
  rw [Bool.true_and, List.all_map, List.all_eq_true]
  intro other _
  rfl

/-- **The social links are read back.** -/
theorem readAll_social {links : List SocialLink} (h : fields.social? = none) :
    RootFields.readAll .toml
        (Node.entriesData (listEntries "social" (links.map SocialLink.doc))) fields
      = .ok { fields with social? := listed links } := by
  cases links with
  | nil =>
    show Except.ok fields = Except.ok { fields with social? := none }
    rw [← h]
  | cons link links =>
    have hrows : isRows ((link :: links).map SocialLink.doc) = true := hasSections_social link links
    refine readAll_field ?_
    show (if fields.social?.isSome then _
      else (list (socialLink .toml)
        (node (.list ((link :: links).map SocialLink.doc))).data).map _) = _
    rw [node, if_pos hrows, h]
    show (list (socialLink .toml)
      (.array (Node.rowsData (tables ((link :: links).map SocialLink.doc))))).map _ = _
    rw [rowsData_socialLinks]
    show (list (socialLink .toml) (Doc.list ((link :: links).map SocialLink.doc)).data).map _ = _
    rw [list_socialLink]
    rfl

/-- **The sidebar is read back.** -/
theorem readAll_sidebar {entries : List Entry} (h : fields.sidebar? = none) :
    RootFields.readAll .toml (Node.entriesData (listEntries "sidebar" (Entry.docs entries))) fields
      = .ok { fields with sidebar? := listed entries } := by
  cases entries with
  | nil =>
    show Except.ok fields = Except.ok { fields with sidebar? := none }
    rw [← h]
  | cons first entries =>
    refine readAll_field ?_
    show (if fields.sidebar?.isSome then _
      else (list (entry .toml) (node (.list (Entry.docs (first :: entries)))).data).map _) = _
    rw [list_entry, h]
    rfl

/-- What has been read when all fields are. -/
theorem config_read (config : SiteConfig) :
    RootFields.config { identityRead config with
      social? := listed config.social, sidebar? := listed config.sidebar } = .ok config := by
  obtain ⟨title, description, site, base, packages, social, sidebar⟩ := config
  show Except.ok (SiteConfig.mk title ((description.map some).getD none)
    ((site.map some).getD none) ((base.map some).getD none) ((listed packages).getD [])
    ((listed social).getD []) ((listed sidebar).getD [])) = _
  rw [getD_map_some, getD_map_some, getD_map_some, getD_listed, getD_listed, getD_listed]

/-- A root is what its fields are read as. -/
theorem rootTable_of_read {entries : List (String × Data)} {config : SiteConfig}
    (h : RootFields.readAll .toml entries {} = .ok fields) (hconfig : fields.config = .ok config) :
    rootTable .toml entries = .ok (config, fields.ignored) := by
  unfold rootTable
  rw [h]
  show (do let config ← fields.config; Except.ok (config, fields.ignored)) = _
  rw [hconfig]
  rfl

/-- **A configuration is read off what is built from its file**, and no
key is ignored. -/
theorem rootTable_fileFields (config : SiteConfig) :
    rootTable .toml (Node.entriesData
        (plainEntries config.fileFields ++ sectionEntries config.fileFields))
      = .ok (config, []) := by
  have hfields : config.fileFields = identityFields config
      ++ SiteConfig.listField "social" (config.social.map SocialLink.doc)
      ++ SiteConfig.listField "sidebar" (Entry.docs config.sidebar) := rfl
  have hsocial : plainEntries (SiteConfig.listField "social" (config.social.map SocialLink.doc)) = []
      ∧ sectionEntries (SiteConfig.listField "social" (config.social.map SocialLink.doc))
        = listEntries "social" (config.social.map SocialLink.doc) := by
    cases hlinks : config.social with
    | nil => exact ⟨rfl, rfl⟩
    | cons link links => exact listField_of_sections (hasSections_social link links)
  have hread : RootFields.readAll .toml (Node.entriesData
        (plainEntries config.fileFields ++ sectionEntries config.fileFields)) {}
      = .ok { identityRead config with
        social? := listed config.social, sidebar? := listed config.sidebar } := by
    rw [hfields, Toml.plainEntries_append, Toml.plainEntries_append, Toml.sectionEntries_append,
      Toml.sectionEntries_append, sectionEntries_identity, hsocial.1, hsocial.2, List.append_nil,
      List.nil_append]
    by_cases hsidebar : hasSections (.list (Entry.docs config.sidebar)) = true
    · -- the sidebar is over sections, and stands behind the social links
      obtain ⟨hplain, hsections⟩ := @listField_of_sections "sidebar" _ hsidebar
      rw [hplain, hsections, List.append_nil, Toml.entriesData_append, Toml.entriesData_append,
        readAll_append, readAll_identity, Except.bind, readAll_append, readAll_social rfl]
      exact readAll_sidebar rfl
    · -- the sidebar is on one line, and stands before them
      obtain ⟨hplain, hsections⟩ := @listField_of_plain "sidebar" _ (by simpa using hsidebar)
      rw [hplain, hsections, List.append_nil, Toml.entriesData_append, Toml.entriesData_append,
        readAll_append, readAll_append, readAll_identity, Except.bind, readAll_sidebar rfl]
      exact readAll_social rfl
  exact rootTable_of_read hread (config_read config)

end Decoded

/-! ## The law of the export -/

theorem SiteConfig.exists_plain (config : SiteConfig) :
    ∃ field ∈ config.fileFields, hasSections field.2 = false :=
  ⟨("title", .text config.title), by simp [SiteConfig.fileFields], rfl⟩

/-- **An exported configuration is read back** if no group nests too deep,
whatever empty lines and comments have been put in front of it. -/
theorem SiteConfig.ofToml_idle {front : List Char} {blanks : List Toml.Line}
    (hfront : Toml.Idle front blanks) {config : SiteConfig}
    (h : Entry.nestings config.sidebar ≤ 30) :
    SiteConfig.ofToml (String.ofList (front ++ Toml.write config.fileFields))
      = .ok (config, []) := by
  have hreadable := Data.readableEntries_mono (d := 2 * 30 + 3) (e := maxParts)
    _ (by decide) (config.readable_fileFields h)
  unfold SiteConfig.ofToml
  rw [Toml.parse?_idle_write hfront config.distinct_fileFields config.exists_plain,
    if_pos (Toml.fits_of_readable hreadable)]
  exact Decoded.rootTable_fileFields config

/-- **No other configuration is read** from an exported one, and no key is
ignored. -/
theorem SiteConfig.eq_of_ofToml_tomlText {config : SiteConfig} {result : SiteConfig × List String}
    (h : SiteConfig.ofToml (Export.tomlText config) = .ok result) : result = (config, []) := by
  unfold SiteConfig.ofToml Export.tomlText at h
  rw [Toml.parse?_write config.distinct_fileFields config.exists_plain] at h
  by_cases hfits : (Toml.documentLines config.fileFields).all Toml.Line.fits = true
  · rw [if_pos hfits] at h
    dsimp only at h
    rw [Decoded.rootTable_fileFields config] at h
    injection h with h
    exact h.symm
  · rw [if_neg hfits] at h
    exact absurd h (by simp)

/-- **A configuration survives its export**, for the reader that keeps a list
of unknown keys and for the one that passes over them. What is read from
the exported text is the configuration itself, with no key on the list,
whenever anything is read, and it is always read if no group nests too
deep. -/
theorem ofToml_tomlText (config : SiteConfig) :
    (∀ result, SiteConfig.ofToml (Export.tomlText config) = .ok result → result = (config, []))
      ∧ (∀ result, SiteConfig.ofTomlKnown (Export.tomlText config) = .ok result →
          result = config)
      ∧ (Entry.nestings config.sidebar ≤ 30 →
          SiteConfig.ofToml (Export.tomlText config) = .ok (config, [])
            ∧ SiteConfig.ofTomlKnown (Export.tomlText config) = .ok config) := by
  rw [← SiteConfig.ofToml_map_fst]
  refine ⟨fun result h => SiteConfig.eq_of_ofToml_tomlText h, fun result h => ?_,
    fun hnesting => ?_⟩
  · cases hread : SiteConfig.ofToml (Export.tomlText config) with
    | error why =>
      rw [hread] at h
      exact absurd h (by simp [Except.map])
    | ok read =>
      rw [hread, SiteConfig.eq_of_ofToml_tomlText hread] at h
      injection h with h
      exact h.symm
  · have hread : SiteConfig.ofToml (Export.tomlText config) = .ok (config, []) :=
      SiteConfig.ofToml_idle Toml.Idle.nil hnesting
    exact ⟨hread, by rw [hread]; rfl⟩

/-- A configuration that takes every turn of the printer: quotes of both
kinds, controls and line ends in its texts, and a sidebar whose groups
are written over sections and on one line. -/
def mixedConfig : SiteConfig where
  title := "A \"quoted\" and 'quoted' title\r\nover\ttwo lines\\"
  description := some "'''\n\"\"\"\u0000é"
  packages := ["", "a b"]
  social := [⟨.x, "=", "[x]"⟩]
  sidebar := [
    .group "#" [.page "intro" none, .autogenerate "\n" "guides" true] true,
    .group "mixed" [.slug "", .group "" [] false, .link "'" "/"] false,
    .page "x" (some "\"")]

theorem ofToml_tomlText_mixedConfig :
    Entry.nestings mixedConfig.sidebar ≤ 30
      ∧ SiteConfig.ofToml (Export.tomlText mixedConfig) = .ok (mixedConfig, [])
      ∧ SiteConfig.ofTomlKnown (Export.tomlText mixedConfig) = .ok mixedConfig
      ∧ (∃ result, SiteConfig.ofToml (Export.tomlText mixedConfig) = .ok result
        ∧ result = (mixedConfig, []))
      ∧ ∃ result, SiteConfig.ofTomlKnown (Export.tomlText mixedConfig) = .ok result
        ∧ result = mixedConfig := by
  obtain ⟨hlisted, hknown, hreads⟩ := ofToml_tomlText mixedConfig
  have hnesting : Entry.nestings mixedConfig.sidebar ≤ 30 := by decide
  obtain ⟨hread, hread'⟩ := hreads hnesting
  exact ⟨hnesting, hread, hread', ⟨_, hread, hlisted _ hread⟩, _, hread', hknown _ hread'⟩

end DocSite
