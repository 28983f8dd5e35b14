import Mathlib.Tactic.Common
import DocSite.Proofs.Decode.Fields
import DocSite.Proofs.Toml.Document
import DocSite.Proofs.Toml.Plain

/-!
# Keys that a configuration does not know

The root of a configuration may have keys that are none of its own. Of the
two readers of a TOML text, one keeps a list of them and the other passes
over them; but for the list they are the same reader (`ofToml_map_fst`), as
reading a known key has nothing to do with what the list holds
(`RootFields.read_keeping`).

What is on the list is told by the keys of the root alone: it is those that
are no names of fields, in the order of the text. So a key that is added to
a text and is none of them changes nothing but the list, whatever stands
under it. A TOML text has each key once, and skipping gets past every value
that it can hold; the one thing that is left to show is that no field
notices the key. `Agree` is what two tables need for that, field by field.
-/

namespace DocSite

namespace Decoded

namespace RootFields

variable {format : Format} {fields : RootFields} {key : String} {value : Data}
  {entries others : List (String × Data)}

/-! ## Reading without the list -/

/-- **Fields with another list of unknown keys.** -/
def keeping (ignored : List String) (fields : RootFields) : RootFields :=
  { fields with ignored }

theorem keep_map {α : Type} {next : RootFields → RootFields} {held : Option α} {why : Unfit}
    {result : Decoded α} {set set' : α → RootFields} (h : ∀ read, set' read = next (set read)) :
    (if held.isSome then .error why else result.map set')
      = (if held.isSome then .error why else result.map set).map next := by
  obtain rfl : set' = fun read => next (set read) := funext h
  cases held <;> cases result <;> rfl

theorem ite_map {next : RootFields → RootFields} {c : Prop} [Decidable c]
    {first second first' second' : Decoded RootFields} (h : c → first' = first.map next)
    (h' : ¬c → second' = second.map next) :
    (if c then first' else second') = (if c then first else second).map next := by
  by_cases hc : c
  · rw [if_pos hc, if_pos hc, h hc]
  · rw [if_neg hc, if_neg hc, h' hc]

/-- **A known key is read whatever the list of unknown keys is.** -/
theorem read_keeping (hkey : key ∈ rootKeys) (ignored : List String) :
    (fields.keeping ignored).read format key value
      = (fields.read format key value).map (keeping ignored) := by
  unfold RootFields.read
  refine ite_map (fun _ => keep_map fun _ => rfl) fun htitle => ?_
  refine ite_map (fun _ => keep_map fun _ => rfl) fun hdescription => ?_
  refine ite_map (fun _ => keep_map fun _ => rfl) fun hsite => ?_
  refine ite_map (fun _ => keep_map fun _ => rfl) fun hbase => ?_
  refine ite_map (fun _ => keep_map fun _ => rfl) fun hpackages => ?_
  refine ite_map (fun _ => keep_map fun _ => rfl) fun hsocial => ?_
  refine ite_map (fun _ => keep_map fun _ => rfl) fun hsidebar => ?_
  have hbase' : key ∉ baseNames := fun h => hbase (List.contains_iff_mem.mpr h)
  exact absurd hkey (by
    simp [rootKeys, htitle, hdescription, hsite, hbase', hpackages, hsocial, hsidebar])

/-- An unknown key is put on the list, if skipping gets past its value. -/
theorem read_unknown (hkey : key ∉ rootKeys) :
    fields.read format key value = if value.sound
      then .ok { fields with ignored := fields.ignored ++ [key] } else .error .text := by
  simp only [rootKeys, List.mem_append, List.mem_cons, List.not_mem_nil, not_or, or_false] at hkey
  obtain ⟨⟨⟨htitle, hdescription, hsite⟩, hbase⟩, hpackages, hsocial, hsidebar⟩ := hkey
  have hbase' : ¬baseNames.contains key = true := fun h => hbase (List.contains_iff_mem.mp h)
  rw [RootFields.read, if_neg htitle, if_neg hdescription, if_neg hsite, if_neg hbase',
    if_neg hpackages, if_neg hsocial, if_neg hsidebar]

/-- **The reader that passes over unknown keys** is the one that keeps a
list of them, but for the list. -/
theorem readKnown_keeping (ignored : List String) :
    readKnown format entries (fields.keeping ignored)
      = (readAll format entries fields).map (keeping ignored) := by
  induction entries generalizing fields with
  | nil => rfl
  | cons entry entries ih =>
    obtain ⟨key, value⟩ := entry
    rw [readKnown, readAll]
    by_cases hkey : key ∈ rootKeys
    · rw [if_pos (List.contains_iff_mem.mpr hkey), read_keeping hkey]
      cases fields.read format key value with
      | error why => rfl
      | ok next => exact ih
    · -- the one reader lets its list grow here, which `keeping` makes good
      rw [if_neg fun h => hkey (List.contains_iff_mem.mp h), read_unknown hkey]
      cases value.sound with
      | false => rfl
      | true => exact @ih { fields with ignored := fields.ignored ++ [key] }

/-! ## Tables that agree on the fields -/

/-- **Two tables agree on the fields of a configuration**: each of them is
read the same from both. -/
structure Agree (format : Format) (entries others : List (String × Data)) : Prop where
  /-- The title. -/
  title : slot string ["title"] none entries = slot string ["title"] none others
  /-- The description. -/
  description : slot optionalString ["description"] none entries
    = slot optionalString ["description"] none others
  /-- The address. -/
  site : slot optionalString ["site"] none entries = slot optionalString ["site"] none others
  /-- The base path. -/
  base : slot optionalString baseNames none entries = slot optionalString baseNames none others
  /-- The packages. -/
  packages : slot (list string) ["packages"] none entries
    = slot (list string) ["packages"] none others
  /-- The social links. -/
  social : slot (list (socialLink format)) ["social"] none entries
    = slot (list (socialLink format)) ["social"] none others
  /-- The sidebar. -/
  sidebar : slot (list (entry format)) ["sidebar"] none entries
    = slot (list (entry format)) ["sidebar"] none others

/-- Tables agree if no field at all can tell them apart. -/
theorem Agree.of_slots (h : ∀ {α : Type} (decode : Data → Decoded α) (names : List String),
    names ⊆ rootKeys → slot decode names none entries = slot decode names none others) :
    Agree format entries others where
  title := h _ _ (by decide)
  description := h _ _ (by decide)
  site := h _ _ (by decide)
  base := h _ _ (by decide)
  packages := h _ _ (by decide)
  social := h _ _ (by decide)
  sidebar := h _ _ (by decide)

/-- **Tables that agree are read as the same fields**, but for the list of
unknown keys. -/
theorem Agree.filled (h : Agree format entries others)
    (hsound : ∀ entry ∈ others, entry.2.sound = true) (hfilled : Filled format {} entries fields) :
    Filled format {} others (fields.keeping (unknownKeys others)) where
  title := h.title ▸ hfilled.title
  description := h.description ▸ hfilled.description
  site := h.site ▸ hfilled.site
  base := h.base ▸ hfilled.base
  packages := h.packages ▸ hfilled.packages
  social := h.social ▸ hfilled.social
  sidebar := h.sidebar ▸ hfilled.sidebar
  sound := fun entry hentry _ => hsound entry hentry
  ignored := rfl

/-- **An unknown key is noticed by no field**, wherever it stands. -/
theorem Agree.add (hkey : key ∉ rootKeys) (h : others.Perm ((key, value) :: entries)) :
    Agree format entries others :=
  .of_slots fun decode names hnames => by
    rw [slot_perm h, slot_skip fun hmem => hkey (hnames hmem)]

end RootFields

theorem mem_unknownKeys {entries : List (String × Data)} {key : String} :
    key ∈ unknownKeys entries ↔ key ∈ entries.map Prod.fst ∧ key ∉ rootKeys := by
  rw [unknownKeys, List.mem_filter, decide_eq_true_eq]

/-- **Tables that agree are read as the same configuration**, each with its
own list of unknown keys. -/
theorem rootTable_of_agree {format : Format} {entries others : List (String × Data)}
    {config : SiteConfig} {ignored : List String} (h : RootFields.Agree format entries others)
    (hsound : ∀ entry ∈ others, entry.2.sound = true)
    (hread : rootTable format entries = .ok (config, ignored)) :
    rootTable format others = .ok (config, unknownKeys others) := by
  obtain ⟨fields, hfilled, hconfig, _⟩ := rootTable_eq_ok_iff.mp hread
  exact rootTable_eq_ok_iff.mpr ⟨_, h.filled hsound hfilled, hconfig, rfl⟩

end Decoded

namespace SiteConfig

open Decoded

variable {text : String} {entries : List (String × Data)} {config : SiteConfig}
  {ignored : List String}

/-- **Both readers of a TOML text read the same configuration.** -/
theorem ofToml_map_fst (text : String) : (ofToml text).map Prod.fst = ofTomlKnown text := by
  unfold ofToml ofTomlKnown
  cases Toml.parse? text with
  | none => rfl
  | some entries =>
    show (rootTable .toml entries).map Prod.fst
      = (RootFields.readKnown .toml entries ({} : RootFields)).bind RootFields.config
    rw [show ({} : RootFields) = RootFields.keeping [] {} from rfl, RootFields.readKnown_keeping]
    unfold rootTable
    cases RootFields.readAll .toml entries {} with
    | error why => rfl
    | ok fields =>
      show (fields.config.bind fun config => .ok (config, fields.ignored)).map Prod.fst
        = fields.config
      cases fields.config <;> rfl

theorem ofToml_of_parse (h : Toml.parse? text = some entries) :
    ofToml text = rootTable .toml entries := by
  unfold ofToml
  rw [h]

/-- **Unknown keys are reported exactly, and change nothing.** A text has a
configuration for the one reader exactly if it has it for the other. The
list of unknown keys is the keys of the root that are no names of fields,
each of them once. If a text gets one more such key, whatever the value
under it and wherever it stands, its configuration stays the same and the
key is what the list gains. -/
theorem ofToml_unknown (text : String) :
    (ofToml text).map Prod.fst = ofTomlKnown text
    ∧ ∀ entries config ignored, Toml.parse? text = some entries →
      ofToml text = .ok (config, ignored) →
      ignored = (entries.map Prod.fst).filter (fun key => key ∉ ["title", "description", "site",
        "base", "baseURL", "base_url", "packages", "social", "sidebar"])
      ∧ ignored.Nodup
      ∧ ∀ other others key value, Toml.parse? other = some others → key ∉ rootKeys →
        others.Perm ((key, value) :: entries) →
        ∃ more, ofToml other = .ok (config, more) ∧ more.Perm (key :: ignored) := by
  refine ⟨ofToml_map_fst text, fun entries config ignored hparse hread => ?_⟩
  rw [ofToml_of_parse hparse] at hread
  obtain ⟨fields, hfilled, _, hignored⟩ := rootTable_eq_ok_iff.mp hread
  have hlist : ignored = unknownKeys entries := hignored.symm.trans hfilled.ignored.symm
  refine ⟨hlist, ?_, fun other others key value hother hkey hperm => ?_⟩
  · cases Toml.parse?_plain hparse with
    | table hkeys _ => exact hlist ▸ hkeys.filter _
  · refine ⟨unknownKeys others, ?_, ?_⟩
    · rw [ofToml_of_parse hother]
      exact rootTable_of_agree (.add hkey hperm) (Toml.parse?_sound hother) hread
    · have hfirst : unknownKeys ((key, value) :: entries) = key :: unknownKeys entries :=
        List.filter_cons_of_pos (by simpa using hkey)
      rw [hlist, ← hfirst]
      exact (hperm.map Prod.fst).filter _

/-- A text with a key that is no field. -/
def localizedText : String := "title = \"t\"\nlang = \"en\"\n"

/-- The same text with another such key, over a table with a title. -/
def annotatedText : String := "title = \"t\"\nlang = \"en\"\n\n[notes]\ntitle = \"n\"\n"

theorem parse?_localizedText :
    Toml.parse? localizedText = some [("title", .string "t"), ("lang", .string "en")] := by
  have hdistinct : (Doc.record [("title", .text "t"), ("lang", .text "en")]).Distinct := by
    simp [Doc.Distinct, Doc.DistinctFields]
  exact Toml.parse?_of_write (by rfl) hdistinct ⟨_, List.mem_cons_self, rfl⟩ (by rfl)

theorem parse?_annotatedText :
    Toml.parse? annotatedText = some [("title", .string "t"), ("lang", .string "en"),
      ("notes", .table [("title", .string "n")])] := by
  have hdistinct : (Doc.record [("title", .text "t"), ("lang", .text "en"),
      ("notes", .record [("title", .text "n")])]).Distinct := by
    simp [Doc.Distinct, Doc.DistinctFields]
  exact Toml.parse?_of_write (by rfl) hdistinct ⟨_, List.mem_cons_self, rfl⟩ (by rfl)

/-- The new key is reported, and the title below it is not taken for the
title of the site. -/
theorem ofToml_unknown_annotatedText :
    Toml.parse? localizedText = some [("title", .string "t"), ("lang", .string "en")]
      ∧ ofToml localizedText = .ok ({ title := "t" }, ["lang"])
      ∧ "notes" ∉ rootKeys
      ∧ ∃ more, ofToml annotatedText = .ok ({ title := "t" }, more)
        ∧ more.Perm ["notes", "lang"] := by
  have hread : ofToml localizedText = .ok ({ title := "t" }, ["lang"]) := by
    rw [ofToml_of_parse parse?_localizedText]
    rfl
  obtain ⟨_, _, hadd⟩ := (ofToml_unknown localizedText).2 _ _ _ parse?_localizedText hread
  exact ⟨parse?_localizedText, hread, by decide,
    hadd annotatedText _ "notes" _ parse?_annotatedText (by decide)
      (((List.Perm.swap _ _ _).cons _).trans (List.Perm.swap _ _ _))⟩

end SiteConfig

end DocSite
