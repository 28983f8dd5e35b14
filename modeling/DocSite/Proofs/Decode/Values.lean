import Mathlib.Data.List.Forall2
import Mathlib.Tactic.Common
import DocSite.Proofs.Decode.Fields

/-!
# What values are decoded from

One law for each decoder of a single value: it says which trees the decoder
accepts and what it makes of them. All of the trees can be read off the
right sides, so a proof about accepted data splits over them and leaves the
decoders alone.

Icons, and social links that are arrays, are described as TOML has them.
The difference to JSON that counts is in `socialLink_array_eq_ok_iff`: an array may go on
behind the three elements of a link, with anything.
-/

namespace DocSite

namespace Decoded

variable {α : Type} {data : Data}

theorem string_eq_ok_iff {text : String} : string data = .ok text ↔ data = .string text := by
  cases data with
  | string value => simp [string]
  | fault | torn => simp only [string, wrongKind]; split <;> simp
  | _ => simp [string, wrongKind, Found.ofData?]

theorem optionalString_eq_ok_iff {text : Option String} :
    optionalString data = .ok text
      ↔ (data = .null ∧ text = none) ∨ ∃ value, data = .string value ∧ text = some value := by
  by_cases hnull : data = .null
  · subst hnull
    simp [optionalString, eq_comm]
  · have hsome : optionalString data = (string data).map some :=
      optionalString.eq_2 data fun h => hnull h
    rw [hsome]
    have hmap : (string data).map some = .ok text
        ↔ ∃ value, string data = .ok value ∧ text = some value := by
      cases string data <;> simp [Except.map, eq_comm]
    simp [hmap, string_eq_ok_iff, hnull]

theorem mapM_eq_ok_iff {item : Data → Decoded α} {items : List Data} {values : List α} :
    items.mapM item = .ok values
      ↔ List.Forall₂ (fun data value => item data = .ok value) items values := by
  induction items generalizing values with
  | nil => simp [pure, Except.pure, eq_comm]
  | cons data items ih =>
    rw [List.mapM_cons, List.forall₂_cons_left_iff]
    refine bind_eq_ok_iff.trans ?_
    constructor
    · rintro ⟨value, hvalue, h⟩
      obtain ⟨more, hmore, h⟩ := bind_eq_ok_iff.mp h
      injection h with h
      exact ⟨value, more, hvalue, ih.mp hmore, h.symm⟩
    · rintro ⟨value, more, hvalue, hmore, rfl⟩
      exact ⟨value, hvalue, bind_eq_ok_iff.mpr ⟨more, ih.mpr hmore, rfl⟩⟩

/-- **An array is decoded item by item.** -/
theorem list_eq_ok_iff {item : Data → Decoded α} {values : List α} :
    list item data = .ok values
      ↔ ∃ items, data = .array items
        ∧ List.Forall₂ (fun data value => item data = .ok value) items values := by
  constructor
  · intro h
    unfold list at h
    split at h
    · exact ⟨_, rfl, mapM_eq_ok_iff.mp h⟩
    · obtain ⟨_, _, h⟩ := bind_eq_ok_iff.mp h
      exact nomatch h
    · unfold wrongKind at h
      split at h <;> exact nomatch h
  · rintro ⟨items, rfl, h⟩
    exact mapM_eq_ok_iff.mpr h

/-! ## Icons and social links -/

theorem iconNamed_eq_ok_iff {name : String} {icon : Icon} :
    iconNamed name = .ok icon ↔ name = icon.name := by
  unfold iconNamed
  constructor
  · intro h
    split at h
    · next found hfound =>
      injection h with h
      have hname := List.find?_some
        (show Icon.all.find? (fun icon => icon.name == name) = some found from hfound)
      rw [← h, ← beq_iff_eq.mp hname]
    · exact nomatch h
  · rintro rfl
    rw [Icon.ofName?_name]

theorem tomlIconContent_eq_ok_iff :
    tomlIconContent data = .ok () ↔ data = .array [] ∨ data = .table [] := by
  cases data <;> simp [tomlIconContent]

/-- **An icon is decoded** from its name, or from its name as the one key of
a table with nothing under it. -/
theorem tomlIcon_eq_ok_iff {icon : Icon} :
    tomlIcon data = .ok icon
      ↔ data = .string icon.name ∨ ∃ content, data = .table [(icon.name, content)]
        ∧ (content = .array [] ∨ content = .table []) := by
  constructor
  · intro h
    unfold tomlIcon at h
    split at h
    · exact .inl (congrArg _ (iconNamed_eq_ok_iff.mp h))
    · exact nomatch h
    · obtain ⟨found, hname, h⟩ := bind_eq_ok_iff.mp h
      obtain ⟨_, hcontent, h⟩ := bind_eq_ok_iff.mp h
      injection h with h
      rw [iconNamed_eq_ok_iff.mp hname, h]
      exact .inr ⟨_, rfl, tomlIconContent_eq_ok_iff.mp hcontent⟩
    · exact nomatch h
    · exact nomatch h
  · rintro (rfl | ⟨content, rfl, hcontent⟩)
    · exact iconNamed_eq_ok_iff.mpr rfl
    · exact bind_eq_ok_iff.mpr ⟨icon, iconNamed_eq_ok_iff.mpr rfl,
        bind_eq_ok_iff.mpr ⟨(), tomlIconContent_eq_ok_iff.mpr hcontent, rfl⟩⟩

theorem link_eq_ok_iff {fields : LinkFields} {link : SocialLink} :
    fields.link = .ok link
      ↔ fields = ⟨some link.icon, some link.label, some link.href⟩ := by
  obtain ⟨icon, label, href⟩ := fields
  obtain ⟨icon', label', href'⟩ := link
  cases icon <;> cases label <;> cases href <;>
    simp [LinkFields.link, require, bind, Except.bind]

/-- **A social link is decoded from a table** field by field. -/
theorem socialLink_table_eq_ok_iff {format : Format} {entries : List (String × Data)}
    {link : SocialLink} :
    socialLink format (.table entries) = .ok link
      ↔ LinkFields.Filled format {} entries
        ⟨some link.icon, some link.label, some link.href⟩ := by
  refine bind_eq_ok_iff.trans ?_
  simp only [LinkFields.readAll_eq_ok_iff, link_eq_ok_iff, exists_eq_right]

/-- **A social link is decoded from an array** by its first three elements,
whatever else the array has. -/
theorem socialLink_array_eq_ok_iff {items : List Data} {link : SocialLink} :
    socialLink .toml (.array items) = .ok link
      ↔ ∃ icon label href rest, items = icon :: label :: href :: rest
        ∧ tomlIcon icon = .ok link.icon ∧ string label = .ok link.label
        ∧ string href = .ok link.href := by
  constructor
  · intro h
    match items, h with
    | icon :: label :: href :: rest, h =>
      obtain ⟨icon', hicon, h⟩ := bind_eq_ok_iff.mp h
      obtain ⟨label', hlabel, h⟩ := bind_eq_ok_iff.mp h
      obtain ⟨href', hhref, h⟩ := bind_eq_ok_iff.mp h
      injection h with h
      subst h
      exact ⟨icon, label, href, rest, rfl, hicon, hlabel, hhref⟩
    | [icon, label], h =>
      obtain ⟨_, _, h⟩ := bind_eq_ok_iff.mp h
      obtain ⟨_, _, h⟩ := bind_eq_ok_iff.mp h
      exact nomatch h
    | [icon], h =>
      obtain ⟨_, _, h⟩ := bind_eq_ok_iff.mp h
      exact nomatch h
  · rintro ⟨icon, label, href, rest, rfl, hicon, hlabel, hhref⟩
    exact bind_eq_ok_iff.mpr ⟨_, hicon, bind_eq_ok_iff.mpr ⟨_, hlabel,
      bind_eq_ok_iff.mpr ⟨_, hhref, rfl⟩⟩⟩

end Decoded

end DocSite
