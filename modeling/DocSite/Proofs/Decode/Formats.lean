import Mathlib.Tactic.Common
import DocSite.Proofs.Decode.Layout
import DocSite.Proofs.Json.Value

/-!
# The two formats agree

A configuration can be written in TOML and in JSON. If both texts describe
the same tree, both have the same configuration or none at all
(`ofTomlKnown_ofJson`). Which complaint is made, where there is none, is
another question: one reader has seen all of the text by then, the other
has not.

The formats differ in three places. Only TOML lets an array that stands for
a social link go on behind its three elements, the two have different
tables for an icon, and only JSON minds how deep an entry nests. Everywhere
else they share their decoders, so it is enough to compare the three:
`AgreeOn` does so tree by tree, since each pair agrees on some trees and not
on others.
-/

namespace DocSite

namespace Data

mutual

/-- **What is alike to a plain tree is plain.** -/
theorem Alike.plain : ∀ {data other : Data}, Alike data other → data.Plain → other.Plain
  | _, _, .refl _, hplain => hplain
  | _, _, .array h, .array hplain => .array (h.plain hplain)
  | _, _, .table h hperm, .table hkeys hplain =>
    .table ((hperm.map Prod.fst).nodup_iff.mp (h.map_fst ▸ hkeys))
      fun entry hentry => h.plain hplain entry (hperm.mem_iff.mpr hentry)

theorem AlikeItems.plain : ∀ {items others : List Data}, AlikeItems items others →
    (∀ item ∈ items, item.Plain) → ∀ other ∈ others, other.Plain
  | _, _, .nil, _ => fun _ hother => absurd hother List.not_mem_nil
  | _, _, .cons h hrest, hplain => by
    obtain ⟨hitem, hitems⟩ := List.forall_mem_cons.mp hplain
    exact List.forall_mem_cons.mpr ⟨h.plain hitem, hrest.plain hitems⟩

theorem AlikeEntries.plain : ∀ {entries others : List (String × Data)},
    AlikeEntries entries others → (∀ entry ∈ entries, entry.2.Plain) →
    ∀ other ∈ others, other.2.Plain
  | _, _, .nil, _ => fun _ hother => absurd hother List.not_mem_nil
  | _, _, .cons _ h hrest, hplain => by
    obtain ⟨hvalue, hentries⟩ := List.forall_mem_cons.mp hplain
    exact List.forall_mem_cons.mpr ⟨h.plain hvalue, hrest.plain hentries⟩

end

end Data

namespace Decoded

variable {α : Type} {decode other : Data → Decoded α} {names : List String} {data : Data}
  {entries : List (String × Data)}

/-! ## Decoders that agree on a tree -/

/-- **Two decoders agree on a tree**: both refuse it, or both make the same
of it. -/
def AgreeOn (decode other : Data → Decoded α) (data : Data) : Prop :=
  ∀ value, decode data = .ok value ↔ other data = .ok value

theorem AgreeOn.fill (h : AgreeOn decode other data) (held : Option α) :
    fill decode held data = fill other held data := by
  have hresult : (decode data).toOption = (other data).toOption := by
    refine Option.ext fun value => ?_
    rw [toOption_eq_some_iff, toOption_eq_some_iff, h]
  cases held with
  | none => exact congrArg (Option.map some) hresult
  | some read => rfl

/-- **A field is read the same** by decoders that agree on what stands under
its names. -/
theorem slot_of_agreeOn (h : ∀ entry ∈ entries, entry.1 ∈ names → AgreeOn decode other entry.2)
    (held : Option α) : slot decode names held entries = slot other names held entries := by
  induction entries generalizing held with
  | nil => rfl
  | cons entry entries ih =>
    obtain ⟨hentry, hentries⟩ := List.forall_mem_cons.mp h
    rw [slot, slot]
    by_cases hname : entry.1 ∈ names
    · rw [if_pos hname, if_pos hname, (hentry hname).fill]
      simp only [ih hentries]
    · rw [if_neg hname, if_neg hname, ih hentries]

theorem forall₂_agreeOn {items : List Data} (h : ∀ item ∈ items, AgreeOn decode other item)
    (values : List α) :
    List.Forall₂ (fun data value => decode data = .ok value) items values
      ↔ List.Forall₂ (fun data value => other data = .ok value) items values := by
  induction items generalizing values with
  | nil => rw [List.forall₂_nil_left_iff, List.forall₂_nil_left_iff]
  | cons item items ih =>
    obtain ⟨hitem, hitems⟩ := List.forall_mem_cons.mp h
    rw [List.forall₂_cons_left_iff, List.forall₂_cons_left_iff]
    simp only [hitem _, ih hitems]

/-- **A list is decoded the same** if its items are. -/
theorem AgreeOn.list (h : ∀ items, data = .array items → ∀ item ∈ items, AgreeOn decode other item) :
    AgreeOn (list decode) (list other) data := by
  intro values
  rw [list_eq_ok_iff, list_eq_ok_iff]
  exact exists_congr fun items => and_congr_right fun hdata => forall₂_agreeOn (h items hdata) values

/-! ## The three places -/

/-- In JSON an icon is its name, or its name over a null. -/
theorem jsonIcon_eq_ok_iff {icon : Icon} :
    jsonIcon data = .ok icon
      ↔ data = .string icon.name ∨ data = .table [(icon.name, .null)] := by
  constructor
  · intro h
    unfold jsonIcon at h
    split at h
    · exact .inl (congrArg _ (iconNamed_eq_ok_iff.mp h))
    · obtain ⟨found, hname, h⟩ := bind_eq_ok_iff.mp h
      obtain ⟨_, hcontent, h⟩ := bind_eq_ok_iff.mp h
      injection h with h
      rw [iconNamed_eq_ok_iff.mp hname, h]
      unfold jsonIconContent at hcontent
      split at hcontent
      · exact .inr rfl
      · unfold wrongKind at hcontent
        split at hcontent <;> exact nomatch hcontent
    -- whatever the first key is over, the text goes on where it should end
    · obtain ⟨_, _, h⟩ := bind_eq_ok_iff.mp h
      obtain ⟨_, _, h⟩ := bind_eq_ok_iff.mp h
      exact nomatch h
    · obtain ⟨_, _, h⟩ := bind_eq_ok_iff.mp h
      obtain ⟨_, _, h⟩ := bind_eq_ok_iff.mp h
      exact nomatch h
    · exact nomatch h
  · rintro (rfl | rfl)
    · exact iconNamed_eq_ok_iff.mpr rfl
    · exact bind_eq_ok_iff.mpr ⟨icon, iconNamed_eq_ok_iff.mpr rfl, rfl⟩

/-- **The formats agree on icons that are no tables.** -/
theorem icon_agreeOn (h : ∀ content, data ≠ .table content) :
    AgreeOn (icon .toml) (icon .json) data := by
  intro found
  show tomlIcon data = .ok found ↔ jsonIcon data = .ok found
  rw [tomlIcon_eq_ok_iff, jsonIcon_eq_ok_iff]
  simp [h]

/-- **The formats agree on social links** that are no arrays and have no
table for an icon. -/
theorem socialLink_agreeOn (hplain : data.Plain) (harray : ∀ elements, data ≠ .array elements)
    (hicon : ∀ fields, data = .table fields → ∀ content, ("icon", .table content) ∉ fields) :
    AgreeOn (socialLink .toml) (socialLink .json) data := by
  intro link
  cases hplain with
  | array h => exact absurd rfl (harray _)
  | @table fields hkeys h =>
    have hslot : slot (icon .toml) ["icon"] none fields = slot (icon .json) ["icon"] none fields := by
      refine slot_of_agreeOn (fun entry hentry hname => icon_agreeOn fun content hcontent => ?_) none
      obtain ⟨key, value⟩ := entry
      obtain rfl := List.mem_singleton.mp hname
      exact hicon fields rfl content (hcontent ▸ hentry)
    rw [socialLink_table_eq_ok_iff, socialLink_table_eq_ok_iff, LinkFields.filled_iff,
      LinkFields.filled_iff, hslot]
  | _ => rfl

/-- **The formats agree on entries** that nest no deeper than JSON lets
them. -/
theorem entry_agreeOn (h : data.readable entryDepth = true) :
    AgreeOn (entry .toml) (entry .json) data := by
  intro found
  rw [Entry.entry_eq_ok_iff, Entry.entry_eq_ok_iff]
  simp [h]

/-! ## The root -/

/-- **Social links that are written alike in both formats**: none of them is
an array, and no icon is a table. -/
def SharedLinks (entries : List (String × Data)) : Prop :=
  ∀ items, ("social", .array items) ∈ entries → ∀ item ∈ items,
    (∀ elements, item ≠ .array elements)
      ∧ ∀ fields, item = .table fields → ∀ content, ("icon", .table content) ∉ fields

/-- How deep arrays and tables may nest in a JSON text: the entries of the
sidebar are two levels down. -/
def jsonDepth : Nat := entryDepth + 2

/-- **A table is decoded the same in both formats.** -/
theorem rootTable_formats (hplain : (Data.table entries).Plain)
    (hdepth : (Data.table entries).readable jsonDepth = true) (hlinks : SharedLinks entries)
    (config : SiteConfig) (ignored : List String) :
    rootTable .toml entries = .ok (config, ignored)
      ↔ rootTable .json entries = .ok (config, ignored) := by
  obtain ⟨hkeys, hvalues⟩ : (entries.map Prod.fst).Nodup ∧ ∀ entry ∈ entries, entry.2.Plain := by
    cases hplain with
    | table hkeys hvalues => exact ⟨hkeys, hvalues⟩
  have hsocial : slot (list (socialLink .toml)) ["social"] none entries
      = slot (list (socialLink .json)) ["social"] none entries := by
    refine slot_of_agreeOn (fun entry hentry hname => .list fun items hitems item hitem => ?_) none
    obtain ⟨key, value⟩ := entry
    obtain rfl := List.mem_singleton.mp hname
    obtain rfl : value = .array items := hitems
    obtain ⟨harray, hicon⟩ := hlinks items hentry item hitem
    cases hvalues _ hentry with
    | array hplain => exact socialLink_agreeOn (hplain item hitem) harray hicon
  have hsidebar : slot (list (entry .toml)) ["sidebar"] none entries
      = slot (list (entry .json)) ["sidebar"] none entries := by
    refine slot_of_agreeOn (fun entry hentry _ => .list fun items hitems item hitem => ?_) none
    have hread : entry.2.readable (entryDepth + 1) = true :=
      Data.readableEntries_iff.mp hdepth entry hentry
    rw [hitems] at hread
    exact entry_agreeOn (Data.readableItems_iff.mp hread item hitem)
  rw [rootTable_eq_ok_iff, rootTable_eq_ok_iff]
  refine exists_congr fun fields => and_congr_left fun _ => ?_
  rw [RootFields.filled_iff, RootFields.filled_iff, hsocial, hsidebar]

end Decoded

namespace SiteConfig

open Decoded

/-- A JSON text that is a table is decoded as that table. -/
theorem ofJson_eq_ok_iff {json : String} {entries : List (String × Data)}
    (hparse : Json.parse json = (.table entries, true)) {config : SiteConfig} :
    ofJson json = .ok config ↔ ∃ ignored, rootTable .json entries = .ok (config, ignored) := by
  unfold ofJson
  rw [hparse]
  show ((rootTable .json entries).map Prod.fst).bind _ = .ok config ↔ _
  cases rootTable .json entries <;> simp [Except.map, Except.bind, Prod.ext_iff]

/-- **Both formats have the same configuration.** A TOML text and a JSON
text describe the same tree, up to the order of keys; no social link in it
is an array, no icon is a table, and it nests no deeper than JSON may. Then
the configuration of the one is that of the other, and if the one has none
neither has the other. -/
theorem ofTomlKnown_ofJson {text json : String} {entries others : List (String × Data)}
    (htext : Toml.parse? text = some entries) (hjson : Json.parse json = (.table others, true))
    (halike : (Data.table entries).Alike (.table others))
    (hdepth : (Data.table others).readable jsonDepth = true) (hlinks : SharedLinks others) :
    (ofTomlKnown text).toOption = (ofJson json).toOption := by
  have hplain : (Data.table others).Plain := halike.plain (Toml.parse?_plain htext)
  have hsound : ∀ entry ∈ others, entry.2.sound = true := by
    cases hplain with
    | table _ h => exact fun entry hentry => (h entry hentry).sound
  have hagree := RootFields.Agree.of_alike halike
  refine Option.ext fun config => ?_
  rw [toOption_eq_some_iff, toOption_eq_some_iff, ofTomlKnown_eq_ok_iff htext,
    ofJson_eq_ok_iff hjson]
  constructor
  · rintro ⟨ignored, hread⟩
    have hmoved := rootTable_of_agree hagree hsound hread
    exact ⟨_, (rootTable_formats hplain hdepth hlinks config _).mp hmoved⟩
  · rintro ⟨ignored, hread⟩
    have hmoved := (rootTable_formats hplain hdepth hlinks config ignored).mpr hread
    exact ⟨_, rootTable_of_agree hagree.symm (Toml.parse?_sound htext) hmoved⟩

/-- A text with a key that is no field, a link of the sidebar that is
written as an array, and a social link. -/
def listedText : String :=
  "title = \"t\"\nlangs = [\"en\"]\nsidebar = [[\"A\", \"/a\"], \x7b label = \"G\", items = [\"a\"] \x7d]\n"
    ++ "\n[[social]]\nicon = \"x.com\"\nlabel = \"X\"\nhref = \"https://x.com\"\n"

/-- The same in JSON, with the social link before the sidebar. -/
def listedJson : String :=
  "\x7b\n  \"title\": \"t\",\n  \"langs\": [\n    \"en\"\n  ],\n  \"social\": [\n    \x7b\n"
    ++ "      \"icon\": \"x.com\",\n      \"label\": \"X\",\n      \"href\": \"https://x.com\"\n"
    ++ "    \x7d\n  ],\n  \"sidebar\": [\n    [\n      \"A\",\n      \"/a\"\n    ],\n    \x7b\n"
    ++ "      \"label\": \"G\",\n      \"items\": [\n        \"a\"\n      ]\n    \x7d\n  ]\n\x7d"

/-- The social links of the two texts. -/
def listedSocial : Doc :=
  .list [.record [("icon", .text "x.com"), ("label", .text "X"), ("href", .text "https://x.com")]]

/-- The sidebar of the two texts. -/
def listedSidebar : Doc :=
  .list [.list [.text "A", .text "/a"],
    .record [("label", .text "G"), ("items", .list [.text "a"])]]

/-- The configuration of the two texts. -/
def listedConfig : SiteConfig where
  title := "t"
  social := [⟨.x, "X", "https://x.com"⟩]
  sidebar := [.link "A" "/a", .group "G" [.slug "a"] false]

theorem parse?_listedText :
    Toml.parse? listedText = some [("title", .string "t"), ("langs", .array [.string "en"]),
      ("sidebar", listedSidebar.data), ("social", listedSocial.data)] := by
  have hdistinct : (Doc.record [("title", .text "t"), ("langs", .list [.text "en"]),
      ("sidebar", listedSidebar), ("social", listedSocial)]).Distinct := by
    simp [Doc.Distinct, Doc.DistinctFields, Doc.DistinctItems, listedSidebar, listedSocial]
  exact Toml.parse?_of_write (by decide +kernel) hdistinct ⟨_, List.mem_cons_self, rfl⟩ (by rfl)

theorem parse_listedJson :
    Json.parse listedJson = (.table [("title", .string "t"), ("langs", .array [.string "en"]),
      ("social", listedSocial.data), ("sidebar", listedSidebar.data)], true) := by
  have htext : listedJson = String.ofList (Json.write 0 (.record [("title", .text "t"),
      ("langs", .list [.text "en"]), ("social", listedSocial), ("sidebar", listedSidebar)])) := by
    decide +kernel
  rw [htext, Json.parse_write]
  rfl

/-- The two texts have the same configuration. -/
theorem ofTomlKnown_ofJson_listedText :
    (∃ entries others, Toml.parse? listedText = some entries
      ∧ Json.parse listedJson = (.table others, true)
      ∧ (Data.table entries).Alike (.table others)
      ∧ (Data.table others).readable jsonDepth = true ∧ SharedLinks others)
    ∧ (ofTomlKnown listedText).toOption = (ofJson listedJson).toOption
    ∧ (ofTomlKnown listedText).toOption = some listedConfig := by
  have halike := Data.Alike.of_perm (((List.Perm.swap ("social", listedSocial.data)
    ("sidebar", listedSidebar.data) []).cons ("langs", Data.array [.string "en"])).cons
    ("title", Data.string "t"))
  have hlinks : SharedLinks [("title", .string "t"), ("langs", .array [.string "en"]),
      ("social", listedSocial.data), ("sidebar", listedSidebar.data)] := by
    intro items hitems item hitem
    obtain rfl : items = [.table [("icon", .string "x.com"), ("label", .string "X"),
        ("href", .string "https://x.com")]] := by
      simpa [listedSocial, Doc.data, Doc.listData, Doc.recordData] using hitems
    obtain rfl := List.mem_singleton.mp hitem
    refine ⟨fun elements => by simp, fun fields hfields content => ?_⟩
    injection hfields with hfields
    simp [← hfields]
  refine ⟨⟨_, _, parse?_listedText, parse_listedJson, halike, by rfl, hlinks⟩,
    ofTomlKnown_ofJson parse?_listedText parse_listedJson halike (by rfl) hlinks, ?_⟩
  unfold ofTomlKnown
  rw [parse?_listedText]
  rfl

end SiteConfig

end DocSite
