import Mathlib.Tactic.Common
import DocSite.Proofs.Decode.Shapes
import DocSite.Proofs.Decode.Unknown
import DocSite.Proofs.Decode.Values

/-!
# The layout of a configuration does not matter

The same data can be written with headers, with dotted keys or inline, and
its keys can be put in any order. Whatever the text looks like, only its
tree counts, and of the tree only what alike trees have in common:
`ofTomlKnown_layout` says so of whole texts.

`Orderless` is the property of a decoder that carries this down to the
values. It passes from items to lists (`Orderless.list`) and from a value to
the field it is decoded for (`Orderless.slot`); a record is orderless as its
fields are. Sidebar entries, which are not read field by field, have a law
of their own (`Entry.entry_alike`).

The base path has three names. They share a field, so one of them is as
good as another (`readKnown_rename`) and two of them are one too many.
-/

namespace DocSite

namespace Decoded

variable {α : Type} {decode : Data → Decoded α} {names : List String}
  {entries others : List (String × Data)}

/-! ## Decoders that do not mind the order of keys -/

/-- **A decoder that does not mind the order of keys**: it accepts alike
trees alike, and makes the same of them. -/
def Orderless (decode : Data → Decoded α) : Prop :=
  ∀ data other, data.Alike other → ∀ value, decode data = .ok value ↔ decode other = .ok value

theorem Orderless.fill (hdecode : Orderless decode) {data other : Data} (h : data.Alike other)
    (held : Option α) : fill decode held data = fill decode held other := by
  have hresult : (decode data).toOption = (decode other).toOption := by
    refine Option.ext fun value => ?_
    rw [toOption_eq_some_iff, toOption_eq_some_iff, hdecode data other h]
  cases held with
  | none => exact congrArg (Option.map some) hresult
  | some read => rfl

theorem Orderless.slot_entries (hdecode : Orderless decode) (h : Data.AlikeEntries entries others)
    (held : Option α) : slot decode names held entries = slot decode names held others := by
  induction entries generalizing others held with
  | nil =>
    cases h
    rfl
  | cons entry entries ih =>
    cases h with
    | cons key hvalue hrest =>
      rw [slot, slot, hdecode.fill hvalue]
      simp only [ih hrest]

/-- **A field is read the same from alike tables.** -/
theorem Orderless.slot (hdecode : Orderless decode)
    (h : (Data.table entries).Alike (.table others)) :
    slot decode names none entries = slot decode names none others := by
  cases h with
  | refl => rfl
  | table h hperm => rw [hdecode.slot_entries h, slot_perm hperm]

theorem orderless_string : Orderless string := by
  intro data other h text
  rw [string_eq_ok_iff, string_eq_ok_iff]
  cases h <;> simp

theorem orderless_optionalString : Orderless optionalString := by
  intro data other h text
  rw [optionalString_eq_ok_iff, optionalString_eq_ok_iff]
  cases h <;> simp

theorem forall₂_alike (hdecode : Orderless decode) {items others : List Data}
    (h : Data.AlikeItems items others) (values : List α) :
    List.Forall₂ (fun data value => decode data = .ok value) items values
      ↔ List.Forall₂ (fun data value => decode data = .ok value) others values := by
  induction items generalizing others values with
  | nil =>
    cases h
    rfl
  | cons item items ih =>
    cases h with
    | cons hitem hrest =>
      rw [List.forall₂_cons_left_iff, List.forall₂_cons_left_iff]
      simp only [hdecode _ _ hitem, ih hrest]

/-- **A list is orderless if its items are.** -/
theorem Orderless.list (hdecode : Orderless decode) : Orderless (list decode) := by
  intro data other h values
  rw [list_eq_ok_iff, list_eq_ok_iff]
  cases h with
  | refl => rfl
  | array h => simp [forall₂_alike hdecode h]
  | table => simp

/-- A tree is as empty as the trees it is alike to. -/
theorem alike_empty {data other : Data} (h : data.Alike other) :
    (data = .array [] ∨ data = .table []) ↔ (other = .array [] ∨ other = .table []) := by
  cases h with
  | refl => rfl
  | array h => cases h <;> simp
  | table h hperm =>
    cases h with
    | nil => simp [hperm.nil_eq]
    | cons key h hrest => simp [← hperm.length_eq, ← List.length_eq_zero_iff]

theorem orderless_icon : Orderless (icon .toml) := by
  intro data other h found
  show tomlIcon data = .ok found ↔ tomlIcon other = .ok found
  rw [tomlIcon_eq_ok_iff, tomlIcon_eq_ok_iff]
  cases h with
  | refl => rfl
  | array => simp
  | @table _ _ others h hperm =>
    match h with
    | .nil => simp [← hperm.nil_eq]
    -- a table with one key keeps it in its place, and what stands under it
    -- stays empty
    | .cons key hcontent .nil =>
      rw [← List.singleton_perm.mp hperm]
      have hempty := alike_empty hcontent
      simp [and_assoc, hempty]
    | .cons _ _ (.cons _ _ _) =>
      have hmany : ∀ entry, others ≠ [entry] := by
        rintro entry rfl
        exact absurd hperm.length_eq (by simp)
      simp [hmany]

theorem orderless_socialLink_array {items others : List Data} (h : Data.AlikeItems items others)
    (link : SocialLink) :
    socialLink .toml (.array items) = .ok link ↔ socialLink .toml (.array others) = .ok link := by
  rw [socialLink_array_eq_ok_iff, socialLink_array_eq_ok_iff]
  match h with
  | .nil => rfl
  | .cons _ .nil => simp
  | .cons _ (.cons _ .nil) => simp
  | .cons hicon (.cons hlabel (.cons hhref _)) =>
    have hicon := orderless_icon _ _ hicon link.icon
    have hlabel := orderless_string _ _ hlabel link.label
    have hhref := orderless_string _ _ hhref link.href
    simp only [icon] at hicon
    simp [hicon, hlabel, hhref]

/-- **A social link is orderless.** -/
theorem orderless_socialLink : Orderless (socialLink .toml) := by
  intro data other h link
  cases h with
  | refl => rfl
  | array h => exact orderless_socialLink_array h link
  | table h hperm =>
    have halike := Data.Alike.table h hperm
    rw [socialLink_table_eq_ok_iff, socialLink_table_eq_ok_iff, LinkFields.filled_iff,
      LinkFields.filled_iff, orderless_icon.slot halike, orderless_string.slot halike,
      orderless_string.slot halike, halike.forall_keys]

theorem orderless_entry (format : Format) : Orderless (entry format) := by
  intro data other h found
  rw [Entry.entry_alike h]

/-! ## Tables that are laid out differently -/

namespace RootFields

theorem Agree.symm {format : Format} (h : Agree format entries others) :
    Agree format others entries where
  title := h.title.symm
  description := h.description.symm
  site := h.site.symm
  base := h.base.symm
  packages := h.packages.symm
  social := h.social.symm
  sidebar := h.sidebar.symm

/-- **Alike tables agree on the fields of a configuration.** -/
theorem Agree.of_alike (h : (Data.table entries).Alike (.table others)) :
    Agree .toml entries others where
  title := orderless_string.slot h
  description := orderless_optionalString.slot h
  site := orderless_optionalString.slot h
  base := orderless_optionalString.slot h
  packages := orderless_string.list.slot h
  social := orderless_socialLink.list.slot h
  sidebar := (orderless_entry .toml).list.slot h

/-- An entry under another key, if it is under a certain one. -/
def rename (old new : String) (entry : String × Data) : String × Data :=
  if entry.1 = old then (new, entry.2) else entry

/-- **The names of the base path are read the same.** -/
theorem read_base {format : Format} {fields : RootFields} {key : String} {value : Data}
    (hkey : key ∈ baseNames) :
    fields.read format key value = fields.read format "base" value := by
  simp only [baseNames, List.mem_cons, List.not_mem_nil, or_false] at hkey
  rcases hkey with rfl | rfl | rfl <;> rfl

/-- **One name of the base path is as good as another.** -/
theorem readKnown_rename {format : Format} {old new : String} (hold : old ∈ baseNames)
    (hnew : new ∈ baseNames) (fields : RootFields) :
    readKnown format (entries.map (rename old new)) fields
      = readKnown format entries fields := by
  have hknown : ∀ key ∈ baseNames, rootKeys.contains key = true := by decide
  induction entries generalizing fields with
  | nil => rfl
  | cons entry entries ih =>
    obtain ⟨key, value⟩ := entry
    rw [List.map_cons, rename]
    by_cases hkey : key = old
    · subst hkey
      rw [if_pos rfl, readKnown, readKnown, if_pos (hknown new hnew), if_pos (hknown key hold),
        read_base hnew, read_base hold]
      simp only [ih]
    · rw [if_neg hkey, readKnown, readKnown]
      simp only [ih]

end RootFields

end Decoded

namespace SiteConfig

open Decoded

variable {text : String} {entries : List (String × Data)}

theorem ofTomlKnown_eq_ok_iff (hparse : Toml.parse? text = some entries) {config : SiteConfig} :
    ofTomlKnown text = .ok config ↔ ∃ ignored, rootTable .toml entries = .ok (config, ignored) := by
  rw [← ofToml_map_fst, ofToml_of_parse hparse]
  cases rootTable .toml entries <;> simp [Except.map, Prod.ext_iff]

/-- **A configuration depends on the data of its text alone.** Two texts
that describe the same tree, up to the order of keys, have the same
configuration or none at all. A name of the base path may be replaced by
another, and two of them in one text are refused. -/
theorem ofTomlKnown_layout (hparse : Toml.parse? text = some entries) :
    (∀ other others, Toml.parse? other = some others →
      (Data.table entries).Alike (.table others) →
      (ofTomlKnown text).toOption = (ofTomlKnown other).toOption)
    ∧ (∀ other old new, old ∈ baseNames → new ∈ baseNames →
      Toml.parse? other = some (entries.map (RootFields.rename old new)) →
      ofTomlKnown other = ofTomlKnown text)
    ∧ ∀ first second, first ∈ baseNames → second ∈ baseNames → first ≠ second →
      first ∈ entries.map Prod.fst → second ∈ entries.map Prod.fst →
      ∃ why, ofTomlKnown text = .error why := by
  refine ⟨fun other others hother halike => ?_, fun other old new hold hnew hother => ?_,
    fun first second hfirst hsecond hne hmem hmem' => ?_⟩
  · have hagree := RootFields.Agree.of_alike halike
    refine Option.ext fun config => ?_
    rw [toOption_eq_some_iff, toOption_eq_some_iff, ofTomlKnown_eq_ok_iff hparse,
      ofTomlKnown_eq_ok_iff hother]
    constructor
    · rintro ⟨ignored, hread⟩
      exact ⟨_, rootTable_of_agree hagree (Toml.parse?_sound hother) hread⟩
    · rintro ⟨ignored, hread⟩
      exact ⟨_, rootTable_of_agree hagree.symm (Toml.parse?_sound hparse) hread⟩
  · unfold ofTomlKnown
    rw [hparse, hother]
    dsimp only
    rw [RootFields.readKnown_rename hold hnew]
  · cases hread : ofTomlKnown text with
    | error why => exact ⟨why, rfl⟩
    | ok config =>
      obtain ⟨ignored, hread⟩ := (ofTomlKnown_eq_ok_iff hparse).mp hread
      obtain ⟨fields, hfilled, _⟩ := rootTable_eq_ok_iff.mp hread
      obtain ⟨⟨_, value⟩, hentry, rfl⟩ := List.mem_map.mp hmem
      obtain ⟨⟨_, value'⟩, hentry', rfl⟩ := List.mem_map.mp hmem'
      have hnone : slot optionalString baseNames none entries = none :=
        slot_of_two hentry hentry' hne hfirst hsecond
      exact absurd (hnone.symm.trans hfilled.base) (by simp)

/-- A text with a page. -/
def pageText : String :=
  "title = \"t\"\nbase = \"/d\"\n\n[[sidebar]]\nslug = \"a\"\nlabel = \"A\"\n"

/-- The same text with the keys moved. -/
def movedText : String :=
  "base = \"/d\"\ntitle = \"t\"\n\n[[sidebar]]\nlabel = \"A\"\nslug = \"a\"\n"

theorem parse?_pageText :
    Toml.parse? pageText = some [("title", .string "t"), ("base", .string "/d"),
      ("sidebar", .array [.table [("slug", .string "a"), ("label", .string "A")]])] := by
  have hdistinct : (Doc.record [("title", .text "t"), ("base", .text "/d"),
      ("sidebar", .list [.record [("slug", .text "a"), ("label", .text "A")]])]).Distinct := by
    simp [Doc.Distinct, Doc.DistinctFields, Doc.DistinctItems]
  exact Toml.parse?_of_write (by rfl) hdistinct ⟨_, List.mem_cons_self, rfl⟩ (by rfl)

theorem parse?_movedText :
    Toml.parse? movedText = some [("base", .string "/d"), ("title", .string "t"),
      ("sidebar", .array [.table [("label", .string "A"), ("slug", .string "a")]])] := by
  have hdistinct : (Doc.record [("base", .text "/d"), ("title", .text "t"),
      ("sidebar", .list [.record [("label", .text "A"), ("slug", .text "a")]])]).Distinct := by
    simp [Doc.Distinct, Doc.DistinctFields, Doc.DistinctItems]
  exact Toml.parse?_of_write (by rfl) hdistinct ⟨_, List.mem_cons_self, rfl⟩ (by rfl)

/-- The two texts have the same configuration. -/
theorem ofTomlKnown_layout_movedText :
    (∃ entries others, Toml.parse? pageText = some entries
      ∧ Toml.parse? movedText = some others ∧ (Data.table entries).Alike (.table others))
    ∧ (ofTomlKnown pageText).toOption = (ofTomlKnown movedText).toOption
    ∧ (ofTomlKnown movedText).toOption
      = some { title := "t", base := some "/d", sidebar := [.page "a" (some "A")] } := by
  have hpage : (Data.table [("slug", .string "a"), ("label", .string "A")]).Alike
      (.table [("label", .string "A"), ("slug", .string "a")]) := .of_perm (.swap _ _ _)
  have halike := Data.Alike.table
    (.cons "title" (.refl (.string "t"))
      (.cons "base" (.refl (.string "/d"))
        (.cons "sidebar" (.array (.cons hpage .nil)) .nil))) (.swap _ _ _)
  refine ⟨⟨_, _, parse?_pageText, parse?_movedText, halike⟩,
    (ofTomlKnown_layout parse?_pageText).1 movedText _ parse?_movedText halike, ?_⟩
  unfold ofTomlKnown
  rw [parse?_movedText]
  rfl

end SiteConfig

end DocSite
