import Mathlib.Data.List.Nodup
import Mathlib.Tactic.Common
import DocSite.Export.Format
import DocSite.Proofs.Export.Generator
import DocSite.Proofs.Json.Layout
import DocSite.Proofs.Json.Value
import DocSite.Proofs.Text.Segments

/-!
# The module says what the JSON export says

Two exports are for the generator, and they are written by different
means: one is JSON throughout, the other a module with JSON in it.
`moduleText_agrees` reads the module as a reader of its lines would, and
finds in it what the JSON export has: the options, indented, and a line
for the address and for the base where the other export has them.

The texts of a configuration could mislead such a reader only by ending a
line, and no written text does. So the lines of a module are known one by
one (`split_moduleText`): those in front of the call are fixed or settings,
and those behind it begin with blanks or belong to the end.
-/

namespace DocSite.Export

open Text (split join)

/-! ## Reading a module -/

/-- What the line begins with that hands the options to the theme. -/
def call : List Char := "    starlight(".toList

/-- **The text that a module hands to the theme**: from the first line
that begins with the call up to the end of the module. -/
def handed? (module : String) : Option (List Char) :=
  let lines := split (· == '\n') module.toList
  let fromCall := join '\n' (lines.dropWhile fun line => !call.isPrefixOf line)
  (Text.stripPrefix? call fromCall).bind fun rest =>
    (Text.stripPrefix? moduleEnd.toList.reverse rest.reverse).map List.reverse

/-- What the line of a setting begins with. -/
def mark (name : String) : List Char := ' ' :: ' ' :: (name.toList ++ [':', ' '])

/-! ## The lines of a module -/

/-- The lines that every module begins with. -/
def startLines : List (List Char) :=
  ["// @ts-check".toList,
    "import \x7b defineConfig \x7d from \"astro/config\";".toList,
    "import starlight from \"@astrojs/starlight\";".toList,
    [],
    "// https://astro.build/config".toList,
    "export default defineConfig(\x7b".toList]

/-- The names of the settings. -/
def settingNames : List String := ["site", "base"]

/-- **The settings of a module**, with their texts. -/
def settings (config : SiteConfig) : List (String × Option String) :=
  [("site", config.site), ("base", config.servedBase?)]

/-- The line of a setting, if there is one. -/
def settingLines (name : String) (text : Option String) : List (List Char) :=
  match text with
  | some s => [mark name ++ Json.encode s.toList ++ [',']]
  | none => []

/-- The line in front of the call. -/
def integrationsLine : List Char := "  integrations: [".toList

/-- **The lines in front of the call.** -/
def headLines (config : SiteConfig) : List (List Char) :=
  startLines ++ (settings config).flatMap (fun p => settingLines p.1 p.2) ++ [integrationsLine]

/-- The lines from the call on. -/
def tailLines (config : SiteConfig) : List (List Char) :=
  split (· == '\n') (call ++ (Json.write 2 config.options ++ moduleEnd.toList))

/-- The lines that every module ends with. -/
def endLines : List (List Char) := ["  ],".toList, "\x7d);".toList, []]

theorem toList_moduleEnd : moduleEnd.toList = [')', ','] ++ '\n' :: join '\n' endLines := rfl

theorem toList_settingLine (name : String) (text : Option String) :
    (settingLine name text).toList = (settingLines name text).flatMap (· ++ ['\n']) := by
  cases text with
  | none => rfl
  | some s => simp [settingLine, settingLines, mark]

/-- **A module is the lines in front of the call, the call with the
options, and the end.** -/
theorem toList_moduleText (config : SiteConfig) :
    (moduleText config).toList = (headLines config).flatMap (· ++ ['\n'])
      ++ (call ++ (Json.write 2 config.options ++ moduleEnd.toList)) := by
  have hstart : moduleStart.toList = startLines.flatMap (· ++ ['\n']) := by
    unfold moduleStart
    simp only [String.toList_append]
    rfl
  have hoptions : optionsStart.toList = integrationsLine ++ ['\n'] ++ call := rfl
  unfold moduleText headLines settings Json.pretty
  simp only [String.toList_append, String.toList_ofList, toList_settingLine, hstart, hoptions,
    Json.indented_write, List.flatMap_append, List.flatMap_cons, List.flatMap_nil,
    List.append_assoc, List.append_nil]

/-- A line belongs to a setting if it is the one that has its text. -/
theorem mem_settingLines {name : String} {text : Option String} {line : List Char} :
    line ∈ settingLines name text
      ↔ ∃ s, text = some s ∧ line = mark name ++ Json.encode s.toList ++ [','] := by
  cases text with
  | none => simp [settingLines]
  | some s => simp [settingLines]

/-- A line in front of the call is one of the fixed ones or a setting. -/
theorem mem_headLines {config : SiteConfig} {line : List Char} :
    line ∈ headLines config ↔ line ∈ startLines ++ [integrationsLine]
      ∨ ∃ p ∈ settings config, line ∈ settingLines p.1 p.2 := by
  unfold headLines
  simp only [List.mem_append, List.mem_flatMap]
  exact or_right_comm

theorem fst_mem_settingNames {config : SiteConfig} {p : String × Option String}
    (h : p ∈ settings config) : p.1 ∈ settingNames :=
  List.mem_map_of_mem (f := Prod.fst) h

theorem newline_notMem_headLines {config : SiteConfig} {line : List Char}
    (h : line ∈ headLines config) : '\n' ∉ line := by
  rcases mem_headLines.mp h with h | ⟨p, hp, h⟩
  · exact (by decide : ∀ line ∈ startLines ++ [integrationsLine], '\n' ∉ line) line h
  · obtain ⟨s, -, rfl⟩ := mem_settingLines.mp h
    intro hmem
    rcases List.mem_append.mp hmem with hmem | hmem
    · exact (List.mem_append.mp hmem).elim
        ((by decide : ∀ name ∈ settingNames, '\n' ∉ mark name) p.1 (fst_mem_settingNames hp))
        (Json.newline_notMem_encode _)
    · exact absurd (List.mem_singleton.mp hmem) (by decide)

/-- **The lines of a module** are those in front of the call and those
from it on. -/
theorem split_moduleText (config : SiteConfig) :
    split (· == '\n') (moduleText config).toList = headLines config ++ tailLines config := by
  rw [toList_moduleText, Text.split_flatMap fun _ => newline_notMem_headLines]
  rfl

/-- Lines further in begin with blanks or belong to the end. -/
theorem mem_split_deepen (text : List Char) : ∀ {front : List Char}, '\n' ∉ front →
    List.replicate 4 ' ' <+: front →
    ∀ line ∈ split (· == '\n') (front ++ (Json.deepen text ++ moduleEnd.toList)),
      List.replicate 4 ' ' <+: line ∨ line ∈ endLines := by
  induction text with
  | nil =>
    intro front hfront hblanks line hline
    have hclosed : '\n' ∉ front ++ [')', ','] := by
      intro hmem
      exact (List.mem_append.mp hmem).elim hfront (by decide)
    have hend : split (· == '\n') (join '\n' endLines) = endLines := by decide
    rw [toList_moduleEnd] at hline
    change line ∈ split (· == '\n') (front ++ ([')', ','] ++ '\n' :: join '\n' endLines)) at hline
    rw [← List.append_assoc, Text.split_append hclosed, hend] at hline
    rcases List.mem_cons.mp hline with rfl | hline
    · exact Or.inl (hblanks.trans (List.prefix_append _ _))
    · exact Or.inr hline
  | cons c text ih =>
    intro front hfront hblanks line hline
    by_cases hc : c = '\n'
    · -- the line ends here, and the next one begins with the blanks
      rw [hc, Json.deepen_newline_cons, List.cons_append, Text.split_append hfront] at hline
      rcases List.mem_cons.mp hline with rfl | hline
      · exact Or.inl hblanks
      · exact ih (by decide : '\n' ∉ List.replicate 4 ' ') (List.prefix_refl _) line hline
    · -- the line goes on
      rw [Json.deepen_cons hc, List.cons_append, List.append_cons] at hline
      refine ih ?_ (hblanks.trans (List.prefix_append _ _)) line hline
      intro hmem
      rcases List.mem_append.mp hmem with hmem | hmem
      · exact hfront hmem
      · exact hc (List.mem_singleton.mp hmem).symm

/-- **The lines from the call on** begin with blanks or belong to the
end. -/
theorem mem_tailLines {config : SiteConfig} {line : List Char} (h : line ∈ tailLines config) :
    List.replicate 4 ' ' <+: line ∨ line ∈ endLines := by
  unfold tailLines at h
  rw [← Json.deepen_write config.options 0] at h
  exact mem_split_deepen _ (by decide) (by decide) line h

/-! ## Settings are told by a letter

All the words that lines are looked for by differ in their third
character, and so do the lines. -/

/-- The third character of a line. -/
def third? (line : List Char) : Option Char := (line.drop 2).head?

/-- The third character of a line is that of the word it begins with. -/
theorem third_of_begins {word line : List Char} (h : word <+: line) (hword : 2 < word.length) :
    third? line = third? word := by
  obtain ⟨rest, rfl⟩ := h
  unfold third?
  rw [List.drop_append_of_le_length (by omega), List.head?_append_of_ne_nil]
  rw [ne_eq, List.drop_eq_nil_iff]
  omega

theorem length_mark (name : String) : 2 < (mark name).length := by
  simp [mark]

/-- The line of a setting begins with its mark. -/
theorem begins_of_mem_settingLines {name : String} {text : Option String} {line : List Char}
    (h : line ∈ settingLines name text) : mark name <+: line := by
  obtain ⟨s, -, rfl⟩ := mem_settingLines.mp h
  rw [List.append_assoc]
  exact List.prefix_append _ _

/-- The marks of settings differ in their third character from blanks,
from the lines that are fixed and from each other. -/
theorem third_mark : ∀ name ∈ settingNames, third? (mark name) ≠ some ' '
    ∧ (∀ line ∈ startLines ++ [integrationsLine] ++ endLines, third? line ≠ third? (mark name))
    ∧ ∀ other ∈ settingNames, third? (mark other) = third? (mark name) → other = name := by
  decide

/-- **The lines of a module that begin with the mark of a setting are the
line of that setting.** -/
theorem mem_settingLines_iff {config : SiteConfig} {name : String} {text : Option String}
    (h : (name, text) ∈ settings config) (line : List Char) :
    line ∈ settingLines name text
      ↔ line ∈ split (· == '\n') (moduleText config).toList ∧ mark name <+: line := by
  have hname : name ∈ settingNames := fst_mem_settingNames h
  obtain ⟨hblank, hfixed, hother⟩ := third_mark name hname
  rw [split_moduleText, List.mem_append, mem_headLines]
  constructor
  · exact fun hline => ⟨Or.inl (Or.inr ⟨(name, text), h, hline⟩), begins_of_mem_settingLines hline⟩
  · rintro ⟨hline, hmark⟩
    have hthird := third_of_begins hmark (length_mark name)
    rcases hline with (hline | ⟨q, hq, hline⟩) | hline
    · exact absurd hthird (hfixed line (List.mem_append_left _ hline))
    · have hthird' := third_of_begins (begins_of_mem_settingLines hline) (length_mark q.1)
      have hsame := hother q.1 (fst_mem_settingNames hq) (hthird'.symm.trans hthird)
      have hnames : ((settings config).map Prod.fst).Nodup := by
        show settingNames.Nodup
        decide
      rw [List.inj_on_of_nodup_map hnames hq h hsame] at hline
      exact hline
    · rcases mem_tailLines hline with hline | hline
      · exact absurd (hthird.symm.trans (third_of_begins hline (by decide))) hblank
      · exact absurd hthird (hfixed line (List.mem_append_right _ hline))

/-! ## The options -/

/-- No line in front of it begins with the call. -/
theorem not_call_headLines {config : SiteConfig} {line : List Char} (h : line ∈ headLines config) :
    call.isPrefixOf line = false := by
  rcases mem_headLines.mp h with h | ⟨p, hp, h⟩
  · exact (by decide : ∀ line ∈ startLines ++ [integrationsLine], call.isPrefixOf line = false)
      line h
  · rw [Bool.eq_false_iff]
    intro hcall
    have hthird := third_of_begins (List.isPrefixOf_iff_prefix.mp hcall) (by decide)
    have hthird' := third_of_begins (begins_of_mem_settingLines h) (length_mark p.1)
    exact (third_mark p.1 (fst_mem_settingNames hp)).1 (hthird'.symm.trans hthird)

/-- **What a module hands to the theme** is the options, written two
levels further in. -/
theorem handed?_moduleText (config : SiteConfig) :
    handed? (moduleText config) = some (Json.write 2 config.options) := by
  obtain ⟨piece, pieces, hpieces⟩ := Text.split_append_of_notMem (by decide : '\n' ∉ call)
    (Json.write 2 config.options ++ moduleEnd.toList)
  have hfrom : (split (· == '\n') (moduleText config).toList).dropWhile
      (fun line => !call.isPrefixOf line) = tailLines config := by
    have hcall : call.isPrefixOf (call ++ piece) = true :=
      List.isPrefixOf_iff_prefix.mpr (List.prefix_append _ _)
    rw [split_moduleText, List.dropWhile_append_of_pos
      (fun line hline => by rw [not_call_headLines hline]; rfl)]
    unfold tailLines
    rw [hpieces, List.dropWhile_cons_of_neg (by simp [hcall])]
  have hstrip : Text.stripPrefix? call (join '\n' (tailLines config))
      = some (Json.write 2 config.options ++ moduleEnd.toList) := by
    rw [Text.stripPrefix?_eq_some_iff]
    exact Text.join_split '\n' _
  have hend : Text.stripPrefix? moduleEnd.toList.reverse
      (Json.write 2 config.options ++ moduleEnd.toList).reverse
      = some (Json.write 2 config.options).reverse := by
    rw [Text.stripPrefix?_eq_some_iff, List.reverse_append]
  unfold handed?
  dsimp only
  rw [hfrom, hstrip, Option.bind_some, hend, Option.map_some, List.reverse_reverse]

/-! ## The law of the module -/

/-- **The module carries the same data as the JSON export.** The text it
hands to the theme is the options, which appear byte for byte when the
indentation is taken away, and are read as the same data with it. A line
for the address or the base is there if the JSON export has that key, and
the literal in it is read as the same text. -/
theorem moduleText_agrees (config : SiteConfig) :
    (∃ inner options, handed? (moduleText config) = some inner
        ∧ Json.unindent inner = Json.pretty config.options
        ∧ Json.parse (String.ofList inner) = (options, true)
        ∧ Json.parse (String.ofList (Json.pretty config.options)) = (options, true))
      ∧ ∃ entries, Json.parse (jsonText config) = (.table entries, true)
        ∧ ∀ name ∈ ["site", "base"],
          ((∃ line ∈ split (· == '\n') (moduleText config).toList, mark name <+: line)
            ↔ (entries.lookup name).isSome)
          ∧ ∀ line ∈ split (· == '\n') (moduleText config).toList, mark name <+: line →
              ∃ literal s, line = mark name ++ literal ++ [',']
                ∧ Json.parse (String.ofList literal) = (.string s, true)
                ∧ entries.lookup name = some (.string s) := by
  refine ⟨⟨Json.write 2 config.options, config.options.data, handed?_moduleText config, ?_,
    Json.parse_write 2 config.options, Json.parse_write 0 config.options⟩, _,
    parse_jsonText config, fun name hname => ?_⟩
  · rw [← Json.deepen_write config.options 0]
    exact Json.unindent_deepen _
  · obtain ⟨hsite, hbase, -⟩ := lookup_generatorEntries config.site config.servedBase?
      config.options.data
    -- both keys have the text of the setting of their name
    obtain ⟨text, htext, hlookup⟩ : ∃ text, (name, text) ∈ settings config
        ∧ (generatorEntries config.site config.servedBase? config.options.data).lookup name
          = text.map .string := by
      rcases List.mem_cons.mp hname with rfl | hname
      · exact ⟨config.site, List.mem_cons_self, hsite⟩
      · rw [List.mem_singleton.mp hname]
        exact ⟨config.servedBase?, List.mem_cons_of_mem _ List.mem_cons_self, hbase⟩
    have hlines := mem_settingLines_iff htext
    rw [hlookup]
    constructor
    · rw [Option.isSome_map, Option.isSome_iff_exists]
      constructor
      · rintro ⟨line, hline, hmark⟩
        obtain ⟨s, hs, -⟩ := mem_settingLines.mp ((hlines line).mpr ⟨hline, hmark⟩)
        exact ⟨s, hs⟩
      · rintro ⟨s, hs⟩
        exact ⟨_, (hlines _).mp (mem_settingLines.mpr ⟨s, hs, rfl⟩)⟩
    · intro line hline hmark
      obtain ⟨s, hs, rfl⟩ := mem_settingLines.mp ((hlines line).mpr ⟨hline, hmark⟩)
      exact ⟨Json.encode s.toList, s, rfl, Json.parse_write 0 (.text s), by rw [hs]; rfl⟩

theorem moduleText_agrees_servedConfig :
    (∃ inner, handed? (moduleText servedConfig) = some inner
        ∧ Json.unindent inner = Json.pretty servedConfig.options)
      ∧ ∃ entries, Json.parse (jsonText servedConfig) = (.table entries, true)
        ∧ "site" ∈ ["site", "base"]
        ∧ ∃ line ∈ split (· == '\n') (moduleText servedConfig).toList, mark "site" <+: line
          ∧ ∃ literal s, line = mark "site" ++ literal ++ [',']
            ∧ Json.parse (String.ofList literal) = (.string s, true)
            ∧ entries.lookup "site" = some (.string s) := by
  obtain ⟨⟨inner, -, hinner, htext, -, -⟩, entries, hentries, hsettings⟩ :=
    moduleText_agrees servedConfig
  obtain ⟨hthere, hreads⟩ := hsettings "site" (by decide)
  have hkey : (entries.lookup "site").isSome = true := by
    rw [Data.table.inj (Prod.mk.inj (hentries.symm.trans (parse_jsonText servedConfig))).1]
    rfl
  obtain ⟨line, hline, hmark⟩ := hthere.mpr hkey
  exact ⟨⟨inner, hinner, htext⟩, entries, hentries, by decide, line, hline, hmark,
    hreads line hline hmark⟩

end DocSite.Export
