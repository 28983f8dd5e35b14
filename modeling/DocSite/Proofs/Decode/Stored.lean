import Mathlib.Tactic.Common
import DocSite.Proofs.Decode.Shapes
import DocSite.Proofs.Decode.Unknown
import DocSite.Proofs.Decode.Values
import DocSite.Proofs.Toml.Document

/-!
# What a configuration keeps of its text

Every text in a document should end up in the configuration that is read
from it, or below a key that is reported as unknown. `ofToml_stores` says
that this is so but for one place: a social link that is written as an array
may go on behind its third element, and what stands there is neither kept
nor reported (`ofToml_drops`). No other record lets go of anything, neither
the tables, which refuse the keys they do not know, nor the arrays that
stand for sidebar entries, which are matched with their full length.

The argument follows the decoders. For social links it reads off
`socialLink_table_eq_ok_iff` and `socialLink_array_eq_ok_iff` where each
part goes. A sidebar entry is read before it is known what it is, so there
the claim is made of readings (`Reading.Keeps`): whatever a value is taken
for, its texts are in it. That goes through by induction on the way down to
the text.
-/

namespace DocSite

/-! ## Texts in trees and in configurations -/

/-- **A text stands somewhere in a tree**, as a value. -/
inductive Data.Holds (text : String) : Data → Prop
  /-- The tree is the text. -/
  | here : Holds text (.string text)
  /-- An item of an array holds it. -/
  | item {items : List Data} {item : Data} (hmem : item ∈ items) (h : Holds text item) :
    Holds text (.array items)
  /-- A value of a table holds it. -/
  | value {entries : List (String × Data)} {key : String} {value : Data}
    (hmem : (key, value) ∈ entries) (h : Holds text value) : Holds text (.table entries)

/-- **A text stands somewhere in a sidebar entry.** -/
inductive Entry.Holds (text : String) : Entry → Prop
  /-- The slug of a page without a table. -/
  | slug : Holds text (.slug text)
  /-- The label of a group. -/
  | groupLabel (items : List Entry) (collapsed : Bool) : Holds text (.group text items collapsed)
  /-- An item of a group. -/
  | item {label : String} {items : List Entry} {collapsed : Bool} {entry : Entry}
    (hmem : entry ∈ items) (h : Holds text entry) : Holds text (.group label items collapsed)
  /-- The label of a listed directory. -/
  | autogenerateLabel (directory : String) (collapsed : Bool) :
    Holds text (.autogenerate text directory collapsed)
  /-- A listed directory. -/
  | directory (label : String) (collapsed : Bool) :
    Holds text (.autogenerate label text collapsed)
  /-- The label of a link. -/
  | linkLabel (target : String) : Holds text (.link text target)
  /-- The target of a link. -/
  | target (label : String) : Holds text (.link label text)
  /-- The slug of a page. -/
  | pageSlug (label : Option String) : Holds text (.page text label)
  /-- The label of a page. -/
  | pageLabel (slug : String) : Holds text (.page slug (some text))

/-- **A text stands somewhere in a social link**, or names its icon. -/
inductive SocialLink.Holds (text : String) (link : SocialLink) : Prop
  /-- The name of the icon. -/
  | icon (h : link.icon.name = text)
  /-- The label. -/
  | label (h : link.label = text)
  /-- The target. -/
  | href (h : link.href = text)

/-- **A text is stored in a configuration.** -/
inductive SiteConfig.Stores (config : SiteConfig) (text : String) : Prop
  /-- As the title. -/
  | title (h : config.title = text)
  /-- As the description. -/
  | description (h : config.description = some text)
  /-- As the address. -/
  | site (h : config.site = some text)
  /-- As the base path. -/
  | base (h : config.base = some text)
  /-- As a package. -/
  | package (h : text ∈ config.packages)
  /-- In a social link. -/
  | social {link : SocialLink} (hmem : link ∈ config.social) (h : link.Holds text)
  /-- In the sidebar. -/
  | sidebar {entry : Entry} (hmem : entry ∈ config.sidebar) (h : entry.Holds text)

/-- **A text stands behind the third element of an array** in a list of
social links. -/
inductive Data.Surplus (text : String) : Data → Prop
  /-- One of the links is such an array. -/
  | behind {links : List Data} {icon label href item : Data} {rest : List Data}
    (hlink : .array (icon :: label :: href :: rest) ∈ links) (hmem : item ∈ rest)
    (h : item.Holds text) : Surplus text (.array links)

/-! ## Sidebar entries -/

/-- **A text is in everything that a value can be read as.** -/
structure Reading.Keeps (text : String) (r : Reading) : Prop where
  /-- The value is no null. -/
  value : r.isNull = false
  /-- The value is no truth value. -/
  flag : r.flag? = none
  /-- It is the text itself. -/
  string : ∀ found, r.text? = some found → found = text
  /-- It is an entry with the text. -/
  node : ∀ entry, r.node? = some entry → entry.Holds text
  /-- It is a list of entries, one of which has the text. -/
  entries : ∀ entries, r.entries? = some entries → ∃ entry ∈ entries, entry.Holds text
  /-- It is a directory. -/
  directory : ∀ found, r.directory? = some found → found = text

theorem Reading.Keeps.optionalText {text : String} {r : Reading} (h : r.Keeps text)
    {found : Option String} (hread : r.optionalText? = some found) : found = some text := by
  unfold optionalText? at hread
  rw [h.value] at hread
  obtain ⟨read, hstring, rfl⟩ := Option.map_eq_some_iff.mp hread
  rw [h.string read hstring]

theorem exists_of_forall₂ {α β : Type} {R : α → β → Prop} {as : List α} {bs : List β}
    (h : List.Forall₂ R as bs) {a : α} (ha : a ∈ as) : ∃ b ∈ bs, R a b := by
  induction h with
  | nil => exact nomatch ha
  | @cons a' b' as bs hfirst hrest ih =>
    rcases List.mem_cons.mp ha with rfl | ha
    · exact ⟨b', List.mem_cons_self, hfirst⟩
    · obtain ⟨b, hb, hab⟩ := ih ha
      exact ⟨b, List.mem_cons_of_mem _ hb, hab⟩

namespace Entry

variable {text : String} {entry : Entry}

theorem holds_of_items {items : List Data} {entries : List Entry}
    (hitems : List.Forall₂ Describes items entries) (h : (reading (.array items)).Keeps text)
    (label : String) (collapsed : Bool) : (group label entries collapsed).Holds text := by
  obtain ⟨entry, hentry, hholds⟩ := h.entries _ (entries?_eq_some_iff.mpr ⟨items, rfl, hitems⟩)
  exact .item hentry hholds

/-- **An entry has the texts of all the values of its shape.** -/
theorem Shape.holds {shaped : List (String × Data)} {value : Data}
    (hshape : Shape Describes shaped entry) (hmem : value ∈ shaped.map Prod.snd)
    (h : (reading value).Keeps text) : entry.Holds text := by
  cases hshape with
  | group label hitems =>
    rcases List.mem_pair.mp hmem with rfl | rfl
    · exact h.string label rfl ▸ .groupLabel _ _
    · exact holds_of_items hitems h label false
  | flaggedGroup label hitems collapsed =>
    rcases (List.mem_cons.mp hmem).imp_right List.mem_pair.mp with rfl | rfl | rfl
    · exact h.string label rfl ▸ .groupLabel _ _
    · exact holds_of_items hitems h label collapsed
    · exact nomatch h.flag
  | autogenerate label hsource =>
    rcases List.mem_pair.mp hmem with rfl | rfl
    · exact h.string label rfl ▸ .autogenerateLabel _ _
    · exact h.directory _ (directory?_eq_some_iff.mpr hsource) ▸ .directory _ _
  | flaggedAutogenerate label hsource collapsed =>
    rcases (List.mem_cons.mp hmem).imp_right List.mem_pair.mp with rfl | rfl | rfl
    · exact h.string label rfl ▸ .autogenerateLabel _ _
    · exact h.directory _ (directory?_eq_some_iff.mpr hsource) ▸ .directory _ _
    · exact nomatch h.flag
  | link label target =>
    rcases List.mem_pair.mp hmem with rfl | rfl
    · exact h.string label rfl ▸ .linkLabel _
    · exact h.string target rfl ▸ .target _
  | page slug =>
    obtain rfl := List.mem_singleton.mp hmem
    exact h.string slug rfl ▸ .pageSlug _
  | labelledPage slug hlabel =>
    rcases List.mem_pair.mp hmem with rfl | rfl
    · exact h.string slug rfl ▸ .pageSlug _
    · exact h.optionalText (optionalText?_eq_some_iff.mpr hlabel) ▸ .pageLabel _

/-- **Whatever a tree is read as has its texts.** The induction goes down to
the text; at each level it is a value of the shape that was found. -/
theorem reading_keeps {data : Data} (h : data.Holds text) : (reading data).Keeps text := by
  induction h with
  | here =>
    exact {
      value := rfl
      flag := rfl
      string := fun found hread => (Option.some.inj hread).symm
      node := fun entry hread => Option.some.inj hread ▸ .slug
      entries := fun entries hread => nomatch hread
      directory := fun found hread => nomatch hread }
  | @item items item hmem _ ih =>
    refine ⟨rfl, rfl, fun _ hread => (nomatch hread), ?_, ?_, ?_⟩
    · intro entry hread
      obtain ⟨shaped, hshape, rfl⟩ := exists_shape_of_items hread
      exact hshape.holds hmem ih
    · intro entries hread
      obtain ⟨entry, hentry, hnode⟩ := exists_of_forall₂ (mapM_node?_eq_some_iff.mp hread) hmem
      exact ⟨entry, hentry, ih.node entry hnode⟩
    · intro found hread
      cases directory?_eq_some_iff.mp hread with
      | array directory =>
        obtain rfl := List.mem_singleton.mp hmem
        exact ih.string found rfl
  | @value entries key value hmem _ ih =>
    refine ⟨rfl, rfl, fun _ hread => (nomatch hread), ?_, fun _ hread => (nomatch hread), ?_⟩
    · intro entry hread
      obtain ⟨shaped, hperm, hshape⟩ := ofData?_table_iff.mp hread
      exact hshape.holds (List.mem_map_of_mem (hperm.mem_iff.mp hmem)) ih
    · intro found hread
      cases directory?_eq_some_iff.mp hread with
      | table directory =>
        obtain ⟨_, rfl⟩ := Prod.mk.inj (List.mem_singleton.mp hmem)
        exact ih.string found rfl

end Entry

/-! ## Social links -/

namespace Decoded

variable {text : String}

theorem icon_stores {data : Data} {icon : Icon} (hread : tomlIcon data = .ok icon)
    (h : data.Holds text) : icon.name = text := by
  rcases tomlIcon_eq_ok_iff.mp hread with rfl | ⟨content, rfl, rfl | rfl⟩
  · cases h
    rfl
  · cases h with
    | value hmem h =>
      obtain ⟨_, rfl⟩ := Prod.mk.inj (List.mem_singleton.mp hmem)
      cases h with
      | item hmem _ => exact nomatch hmem
  · cases h with
    | value hmem h =>
      obtain ⟨_, rfl⟩ := Prod.mk.inj (List.mem_singleton.mp hmem)
      cases h with
      | value hmem _ => exact nomatch hmem

theorem string_stores {data : Data} {found : String} (hread : string data = .ok found)
    (h : data.Holds text) : found = text := by
  obtain rfl := string_eq_ok_iff.mp hread
  cases h
  rfl

theorem optionalString_stores {names : List String} {entries : List (String × Data)}
    {read : Option (Option String)} (hread : slot optionalString names none entries = some read)
    {key : String} {value : Data} (hmem : (key, value) ∈ entries) (hkey : key ∈ names)
    (h : value.Holds text) : read.getD none = some text := by
  obtain ⟨found, rfl, hvalue⟩ := slot_of_mem hread hmem hkey
  rcases optionalString_eq_ok_iff.mp hvalue with ⟨rfl, _⟩ | ⟨_, rfl, rfl⟩
  · exact nomatch h
  · cases h
    rfl

/-- **A social link written as a table keeps everything.** -/
theorem socialLink_table_stores {entries : List (String × Data)} {link : SocialLink}
    (hread : socialLink .toml (.table entries) = .ok link) {key : String} {value : Data}
    (hmem : (key, value) ∈ entries) (h : value.Holds text) : link.Holds text := by
  have hfilled := socialLink_table_eq_ok_iff.mp hread
  have hkey := hfilled.known _ hmem
  simp only [socialLinkFields, List.mem_cons, List.not_mem_nil, or_false] at hkey
  rcases hkey with rfl | rfl | rfl
  · obtain ⟨icon, hicon, hvalue⟩ := slot_of_mem hfilled.icon hmem (by simp)
    exact .icon (Option.some.inj hicon ▸ icon_stores hvalue h)
  · obtain ⟨label, hlabel, hvalue⟩ := slot_of_mem hfilled.label hmem (by simp)
    exact .label (Option.some.inj hlabel ▸ string_stores hvalue h)
  · obtain ⟨href, hhref, hvalue⟩ := slot_of_mem hfilled.href hmem (by simp)
    exact .href (Option.some.inj hhref ▸ string_stores hvalue h)

/-- **Social links keep everything** but what stands behind the third
element of an array. -/
theorem social_stores {data : Data} {links : List SocialLink}
    (hread : list (socialLink .toml) data = .ok links) (h : data.Holds text) :
    (∃ link ∈ links, link.Holds text) ∨ data.Surplus text := by
  obtain ⟨items, rfl, hitems⟩ := list_eq_ok_iff.mp hread
  cases h with
  | item hmem h =>
    obtain ⟨link, hlink, hread⟩ := exists_of_forall₂ hitems hmem
    cases h with
    | here => exact nomatch hread
    | value hentry h => exact .inl ⟨link, hlink, socialLink_table_stores hread hentry h⟩
    | item hpart h =>
      obtain ⟨icon, label, href, rest, rfl, hicon, hlabel, hhref⟩ :=
        socialLink_array_eq_ok_iff.mp hread
      simp only [List.mem_cons] at hpart
      rcases hpart with rfl | rfl | rfl | hpart
      · exact .inl ⟨link, hlink, .icon (icon_stores hicon h)⟩
      · exact .inl ⟨link, hlink, .label (string_stores hlabel h)⟩
      · exact .inl ⟨link, hlink, .href (string_stores hhref h)⟩
      · exact .inr (.behind hmem hpart h)

theorem config_eq_ok_iff {fields : RootFields} {config : SiteConfig} :
    fields.config = .ok config ↔ ∃ title, fields.title? = some title
      ∧ config = {
        title
        description := fields.description?.getD none
        site := fields.site?.getD none
        base := fields.base?.getD none
        packages := fields.packages?.getD []
        social := fields.social?.getD []
        sidebar := fields.sidebar?.getD [] } := by
  unfold RootFields.config
  cases fields.title? with
  | none => simp [require, bind, Except.bind]
  | some title => simp [require, bind, Except.bind, eq_comm]

end Decoded

namespace SiteConfig

open Decoded

/-- **A configuration stores what its text holds.** Every text below a key
that is not reported as unknown is in the configuration, unless it stands
behind the third element of an array that is written for a social link. -/
theorem ofToml_stores {text : String} {entries : List (String × Data)} {config : SiteConfig}
    {ignored : List String} (hparse : Toml.parse? text = some entries)
    (hread : ofToml text = .ok (config, ignored)) :
    ∀ key value, (key, value) ∈ entries → key ∉ ignored → ∀ found, value.Holds found →
      config.Stores found ∨ (key = "social" ∧ value.Surplus found) := by
  intro key value hmem hkey found h
  rw [ofToml_of_parse hparse] at hread
  obtain ⟨fields, hfilled, hconfig, rfl⟩ := rootTable_eq_ok_iff.mp hread
  obtain ⟨title, htitle, rfl⟩ := config_eq_ok_iff.mp hconfig
  -- a key that is not reported names a field, and the slot of that field
  -- holds what the value is decoded to
  have hroot : key ∈ rootKeys := by
    by_contra hunknown
    refine hkey ?_
    rw [← hfilled.ignored]
    exact mem_unknownKeys.mpr ⟨List.mem_map_of_mem hmem, hunknown⟩
  simp only [rootKeys, List.mem_append, List.mem_cons, List.not_mem_nil, or_false] at hroot
  rcases hroot with ((rfl | rfl | rfl) | hbase) | rfl | rfl | rfl
  · obtain ⟨read, hfield, hvalue⟩ := slot_of_mem hfilled.title hmem (by simp)
    rw [htitle] at hfield
    exact .inl (.title (Option.some.inj hfield ▸ string_stores hvalue h))
  · exact .inl (.description (optionalString_stores hfilled.description hmem (by simp) h))
  · exact .inl (.site (optionalString_stores hfilled.site hmem (by simp) h))
  · exact .inl (.base (optionalString_stores hfilled.base hmem hbase h))
  · obtain ⟨read, hfield, hvalue⟩ := slot_of_mem hfilled.packages hmem (by simp)
    obtain ⟨items, rfl, hitems⟩ := list_eq_ok_iff.mp hvalue
    refine .inl (.package ?_)
    show found ∈ fields.packages?.getD []
    rw [hfield]
    cases h with
    | item hitem h =>
      obtain ⟨package, hpackage, hread⟩ := exists_of_forall₂ hitems hitem
      exact string_stores hread h ▸ hpackage
  · obtain ⟨read, hfield, hvalue⟩ := slot_of_mem hfilled.social hmem (by simp)
    rcases social_stores hvalue h with ⟨link, hlink, h⟩ | h
    · have hmem : link ∈ fields.social?.getD [] := by
        rw [hfield]
        exact hlink
      exact .inl (.social hmem h)
    · exact .inr ⟨rfl, h⟩
  · obtain ⟨read, hfield, hvalue⟩ := slot_of_mem hfilled.sidebar hmem (by simp)
    obtain ⟨items, rfl, hitems⟩ := list_eq_ok_iff.mp hvalue
    cases h with
    | item hitem h =>
      obtain ⟨entry, hentry, hread⟩ := exists_of_forall₂ hitems hitem
      have hnode := (Entry.entry_eq_ok_iff.mp hread).2
      have hmem : entry ∈ fields.sidebar?.getD [] := by
        rw [hfield]
        exact hentry
      exact .inl (.sidebar hmem ((Entry.reading_keeps h).node entry hnode))

/-- A text with a social link that goes on behind its target. -/
def surplusText : String :=
  "title = \"t\"\nsocial = [[\"github\", \"G\", \"https://a.b\", \"extra\"]]\n"

/-- The array of `surplusText`. -/
def surplusLink : Data :=
  .array [.string "github", .string "G", .string "https://a.b", .string "extra"]

theorem parse?_surplusText :
    Toml.parse? surplusText
      = some [("title", .string "t"), ("social", .array [surplusLink])] := by
  have hdistinct : (Doc.record [("title", .text "t"), ("social", .list [.list [.text "github",
      .text "G", .text "https://a.b", .text "extra"]])]).Distinct := by
    simp [Doc.Distinct, Doc.DistinctFields, Doc.DistinctItems]
  exact Toml.parse?_of_write (by rfl) hdistinct ⟨_, List.mem_cons_self, rfl⟩ (by rfl)

/-- The configuration of `surplusText`. -/
def surplusConfig : SiteConfig := { title := "t", social := [⟨.github, "G", "https://a.b"⟩] }

theorem ofToml_surplusText : ofToml surplusText = .ok (surplusConfig, []) := by
  rw [ofToml_of_parse parse?_surplusText]
  rfl

theorem surplusLink_holds : (Data.array [surplusLink]).Holds "extra" :=
  .item List.mem_cons_self (.item (by simp) .here)

/-- What is not kept of the text is surplus. -/
theorem ofToml_stores_surplusText :
    Toml.parse? surplusText = some [("title", .string "t"), ("social", .array [surplusLink])]
      ∧ ofToml surplusText = .ok (surplusConfig, [])
      ∧ ∀ found, (Data.array [surplusLink]).Holds found →
        surplusConfig.Stores found ∨ (Data.array [surplusLink]).Surplus found := by
  refine ⟨parse?_surplusText, ofToml_surplusText, fun found h => ?_⟩
  have hstores := ofToml_stores parse?_surplusText ofToml_surplusText "social"
    (.array [surplusLink]) (by simp) (by simp) found h
  exact hstores.imp_right And.right

/-- **A text can be dropped without a word**: nothing is reported as
unknown, and the text is not in the configuration. -/
theorem ofToml_drops :
    ∃ entries config, Toml.parse? surplusText = some entries
      ∧ ofToml surplusText = .ok (config, [])
      ∧ ∃ key value, (key, value) ∈ entries ∧ value.Holds "extra" ∧ ¬config.Stores "extra" := by
  refine ⟨_, _, parse?_surplusText, ofToml_surplusText, "social", _,
    List.mem_cons_of_mem _ List.mem_cons_self, surplusLink_holds, fun hstores => ?_⟩
  cases hstores with
  | title h => exact absurd h (by decide)
  | description h => exact nomatch h
  | site h => exact nomatch h
  | base h => exact nomatch h
  | package h => exact nomatch h
  | social hmem h =>
    obtain rfl := List.mem_singleton.mp hmem
    cases h with
    | icon h => exact absurd h (by decide)
    | label h => exact absurd h (by decide)
    | href h => exact absurd h (by decide)
  | sidebar hmem _ => exact nomatch hmem

end SiteConfig

end DocSite
