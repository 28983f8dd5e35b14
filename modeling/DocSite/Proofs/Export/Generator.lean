import Mathlib.Tactic.Common
import DocSite.Export.Format
import DocSite.Proofs.Export.RoundTrip
import DocSite.Proofs.Json.Value
import DocSite.Site.Decode.Config

/-!
# The generator is told everything

The generator of a site gets two things: where the site is served, and
the options of the theme. `jsonText_lossless` says that nothing else of
the configuration matters to it, and that nothing of that is lost on the
way. The options are read back as the configuration they were taken
from, and two configurations with one JSON export differ in no more than
their packages and in how their base is said.

A reader of JSON goes only so deep, so the options are read back as a
configuration where groups nest no deeper than it goes. What two texts
have in common does not depend on that: the same data is read without a
limit by the rules for TOML, and both formats read options alike
(`root_options`).
-/

namespace DocSite

/-- **What the options say of a configuration**: all but where the site
is served and which packages it documents. -/
def SiteConfig.themePart (config : SiteConfig) : SiteConfig :=
  { config with site := none, base := none, packages := [] }

/-! ## The data of the export -/

/-- The entry of a text, if there is one. -/
def textEntry (name : String) (text : Option String) : List (String × Data) :=
  match text with
  | some s => [(name, .string s)]
  | none => []

/-- **What the generator is told**, in order: the address, the base it is
served under, and the options. -/
def generatorEntries (site base : Option String) (options : Data) : List (String × Data) :=
  textEntry "site" site ++ textEntry "base" base ++ [("starlight", options)]

/-- **Each key leads to its own data**, and to nothing if there is
none. -/
theorem lookup_generatorEntries (site base : Option String) (options : Data) :
    (generatorEntries site base options).lookup "site" = site.map .string
      ∧ (generatorEntries site base options).lookup "base" = base.map .string
      ∧ (generatorEntries site base options).lookup "starlight" = some options := by
  cases site <;> cases base <;> exact ⟨rfl, rfl, rfl⟩

theorem Doc.recordData_append (first second : List (String × Doc)) :
    Doc.recordData (first ++ second) = Doc.recordData first ++ Doc.recordData second := by
  induction first with
  | nil => rfl
  | cons field first ih => exact congrArg ((field.1, field.2.data) :: ·) ih

theorem SiteConfig.recordData_textField (name : String) (text : Option String) :
    Doc.recordData (SiteConfig.textField name text) = textEntry name text := by
  cases text <;> rfl

/-- The data of the options. -/
theorem SiteConfig.options_data (config : SiteConfig) :
    config.options.data = .table (("title", .string config.title)
      :: textEntry "description" config.description
        ++ [("social", (Doc.list (config.social.map SocialLink.doc)).data)]
        ++ [("sidebar", (Doc.list (Entry.docs config.sidebar)).data)]) := by
  unfold SiteConfig.options
  show Data.table (Doc.recordData (_ ++ _ ++ _)) = _
  rw [Doc.recordData_append, Doc.recordData_append, SiteConfig.recordData_textField,
    List.append_assoc _ [("social", _)]]
  rfl

/-- The data of the JSON export. -/
theorem SiteConfig.generatorDoc_data (config : SiteConfig) :
    config.generatorDoc.data
      = .table (generatorEntries config.site config.servedBase? config.options.data) := by
  unfold SiteConfig.generatorDoc
  show Data.table (Doc.recordData (_ ++ _ ++ _)) = _
  rw [Doc.recordData_append, Doc.recordData_append, SiteConfig.recordData_textField,
    SiteConfig.recordData_textField]
  rfl

/-- **The JSON export is JSON**, and holds what the generator is told. -/
theorem parse_jsonText (config : SiteConfig) :
    Json.parse (Export.jsonText config)
      = (.table (generatorEntries config.site config.servedBase? config.options.data), true) := by
  unfold Export.jsonText Json.pretty
  rw [Json.parse_write, SiteConfig.generatorDoc_data]

/-- **No reader of JSON gives up on the export** if no group nests too
deep. -/
theorem SiteConfig.readable_generatorDoc (config : SiteConfig) {n : Nat}
    (h : Entry.nestings config.sidebar ≤ n) :
    config.generatorDoc.data.readable (2 * n + 5) = true := by
  have htitle : Data.readableEntries (2 * n + 3) (Doc.recordData [("title", .text config.title)])
      = true := rfl
  have hsocial : (Doc.list (config.social.map SocialLink.doc)).data.readable (2 * n + 3) = true :=
    SocialLink.readable_docs (2 * n) config.social
  have hsidebar : (Doc.list (Entry.docs config.sidebar)).data.readable (2 * n + 3) = true :=
    Entry.readable_docs config.sidebar h
  have hlists : Data.readableEntries (2 * n + 3) (Doc.recordData
      [("social", .list (config.social.map SocialLink.doc)),
        ("sidebar", .list (Entry.docs config.sidebar))]) = true := by
    show (_ && (_ && true)) = true
    rw [hsocial, hsidebar]
    rfl
  have hoptions : config.options.data.readable (2 * n + 4) = true := by
    unfold SiteConfig.options
    show Data.readableEntries (2 * n + 3) (Doc.recordData (_ ++ _ ++ _)) = true
    rw [Doc.readable_append, Doc.readable_append, htitle, readable_textField, hlists]
    rfl
  have htheme : Data.readableEntries (2 * n + 4) (Doc.recordData [("starlight", config.options)])
      = true := by
    show (config.options.data.readable (2 * n + 4) && true) = true
    rw [hoptions]
    rfl
  unfold SiteConfig.generatorDoc
  show Data.readableEntries (2 * n + 4) (Doc.recordData (_ ++ _ ++ _)) = true
  rw [Doc.readable_append, Doc.readable_append, readable_textField, readable_textField, htheme]
  rfl

/-! ## Reading the options -/

namespace Decoded

variable {format : Format} {fields : RootFields}

theorem readAll_socialLinks (links : List SocialLink) (h : fields.social? = none) :
    RootFields.readAll format [("social", (Doc.list (links.map SocialLink.doc)).data)] fields
      = .ok { fields with social? := some links } := by
  refine readAll_field ?_
  show (if fields.social?.isSome then _
    else (list (socialLink format) (Doc.list (links.map SocialLink.doc)).data).map _) = _
  rw [h, list_socialLink]
  rfl

theorem readAll_entries (entries : List Entry) (h : fields.sidebar? = none)
    (hdepth : format = .json →
      Data.readableItems entryDepth (Doc.listData (Entry.docs entries)) = true) :
    RootFields.readAll format [("sidebar", (Doc.list (Entry.docs entries)).data)] fields
      = .ok { fields with sidebar? := some entries } := by
  have hlist : list (entry format) (Doc.list (Entry.docs entries)).data = .ok entries :=
    mapM_entry format hdepth (Entry.entries?_data entries)
  refine readAll_field ?_
  show (if fields.sidebar?.isSome then _
    else (list (entry format) (Doc.list (Entry.docs entries)).data).map _) = _
  rw [h, hlist]
  rfl

/-- **The options are read as what they say of the configuration**, in
either format and, in JSON, down to its limit. -/
theorem root_options (format : Format) (config : SiteConfig)
    (hdepth : format = .json →
      Data.readableItems entryDepth (Doc.listData (Entry.docs config.sidebar)) = true) :
    root format config.options.data = .ok config.themePart := by
  have htexts : RootFields.readAll format
      (("title", .string config.title) :: textEntry "description" config.description) {}
      = .ok { title? := some config.title, description? := config.description.map some } := by
    cases config.description <;> rfl
  have hread : RootFields.readAll format (("title", .string config.title)
      :: textEntry "description" config.description
        ++ [("social", (Doc.list (config.social.map SocialLink.doc)).data)]
        ++ [("sidebar", (Doc.list (Entry.docs config.sidebar)).data)]) {}
      = .ok { title? := some config.title, description? := config.description.map some,
              social? := some config.social, sidebar? := some config.sidebar } := by
    rw [readAll_append, readAll_append, htexts, Except.bind, readAll_socialLinks _ rfl, Except.bind,
      readAll_entries _ rfl hdepth]
  rw [SiteConfig.options_data]
  show (rootTable format _).map Prod.fst = _
  unfold rootTable
  rw [hread]
  show Except.ok (SiteConfig.mk config.title ((config.description.map some).getD none) none none []
    config.social config.sidebar) = _
  rw [getD_map_some]
  rfl

end Decoded

/-- **What configurations with the same options agree on.** -/
theorem SiteConfig.eq_of_options {config other : SiteConfig}
    (h : other.options.data = config.options.data) :
    other.title = config.title ∧ other.description = config.description
      ∧ other.social = config.social ∧ other.sidebar = config.sidebar := by
  have hother := Decoded.root_options .toml other (fun hjson => nomatch hjson)
  have hconfig := Decoded.root_options .toml config (fun hjson => nomatch hjson)
  rw [h, hconfig] at hother
  obtain ⟨htitle, hdescription, -, -, -, hsocial, hsidebar⟩ :=
    SiteConfig.mk.inj (Except.ok.inj hother)
  exact ⟨htitle.symm, hdescription.symm, hsocial.symm, hsidebar.symm⟩

/-! ## The law of the export -/

/-- **Nothing the generator is told is lost.** The options are read back
as what they say of the configuration, if no group nests deeper than a
reader of JSON goes. The export has the address if there is one, the base
the site is served under if there is one, and these options, in this
order. So configurations with one export agree on all of it. -/
theorem jsonText_lossless (config : SiteConfig) :
    (Entry.nestings config.sidebar ≤ 30 →
        SiteConfig.ofJson (String.ofList (Json.pretty config.options)) = .ok config.themePart)
      ∧ (∃ options : Data,
          Json.parse (String.ofList (Json.pretty config.options)) = (options, true)
          ∧ Json.parse (Export.jsonText config)
            = (.table (generatorEntries config.site config.servedBase? options), true)
          ∧ (Entry.nestings config.sidebar ≤ 30 →
              (Data.table (generatorEntries config.site config.servedBase? options)).readable 127
                = true))
      ∧ ∀ other : SiteConfig, Export.jsonText other = Export.jsonText config →
          other.title = config.title ∧ other.description = config.description
            ∧ other.site = config.site ∧ other.servedBase? = config.servedBase?
            ∧ other.social = config.social ∧ other.sidebar = config.sidebar := by
  have hparse : Json.parse (String.ofList (Json.pretty config.options))
      = (config.options.data, true) := Json.parse_write 0 config.options
  refine ⟨fun hnesting => ?_,
    ⟨config.options.data, hparse, parse_jsonText config, fun hnesting => ?_⟩,
    fun other hother => ?_⟩
  · have hdepth := Data.readableItems_mono (d := 2 * 30 + 2) (e := Decoded.entryDepth)
      _ (by decide) (Entry.readable_docs config.sidebar hnesting)
    unfold SiteConfig.ofJson
    rw [hparse]
    dsimp only
    rw [Decoded.root_options .json config (fun _ => hdepth)]
    rfl
  · rw [← SiteConfig.generatorDoc_data]
    exact Data.readable_mono (d := 2 * 30 + 5) (e := 127) _ (by decide)
      (config.readable_generatorDoc hnesting)
  · -- the two texts are read as one table, and each key leads to the same data
    have htables := (parse_jsonText other).symm.trans
      ((congrArg Json.parse hother).trans (parse_jsonText config))
    have hentries := Data.table.inj (Prod.mk.inj htables).1
    obtain ⟨hsite, hbase, hoptions⟩ := lookup_generatorEntries other.site other.servedBase?
      other.options.data
    obtain ⟨hsite', hbase', hoptions'⟩ := lookup_generatorEntries config.site config.servedBase?
      config.options.data
    rw [hentries] at hsite hbase hoptions
    have hstring : Function.Injective Data.string := fun _ _ h => Data.string.inj h
    obtain ⟨htitle, hdescription, hsocial, hsidebar⟩ := SiteConfig.eq_of_options
      (Option.some.inj (hoptions.symm.trans hoptions'))
    exact ⟨htitle, hdescription, Option.map_injective hstring (hsite.symm.trans hsite'),
      Option.map_injective hstring (hbase.symm.trans hbase'), hsocial, hsidebar⟩

/-- A configuration with an address that has a base, texts with all kinds
of escapes, and entries of every kind. -/
def servedConfig : SiteConfig where
  title := "A \"title\"\r\n\\"
  description := some "\u2028 \u0000\t"
  site := some "https://mishankov.github.io/platforma"
  packages := ["database"]
  social := [⟨.x, "=", "[x]"⟩]
  sidebar := [
    .slug "getting-started",
    .group "Packages" [.page "packages/database" (some "\n    "), .link "" "/"] true,
    .autogenerate "Reference" "reference" false]

theorem jsonText_lossless_servedConfig :
    Entry.nestings servedConfig.sidebar ≤ 30
      ∧ SiteConfig.ofJson (String.ofList (Json.pretty servedConfig.options))
        = .ok servedConfig.themePart
      ∧ (∃ options : Data, Json.parse (String.ofList (Json.pretty servedConfig.options))
          = (options, true)
        ∧ (Data.table (generatorEntries servedConfig.site servedConfig.servedBase? options)).readable
          127 = true)
      ∧ Export.jsonText { servedConfig with packages := [] } = Export.jsonText servedConfig
      ∧ ({ servedConfig with packages := [] } : SiteConfig).sidebar = servedConfig.sidebar := by
  obtain ⟨hread, ⟨options, hparse, -, hreadable⟩, hagree⟩ := jsonText_lossless servedConfig
  have hnesting : Entry.nestings servedConfig.sidebar ≤ 30 := by decide
  -- the packages are no part of the export
  have htexts : Export.jsonText { servedConfig with packages := [] }
      = Export.jsonText servedConfig := rfl
  obtain ⟨-, -, -, -, -, hsidebar⟩ := hagree _ htexts
  exact ⟨hnesting, hread hnesting, ⟨options, hparse, hreadable hnesting⟩, htexts, hsidebar⟩

end DocSite
