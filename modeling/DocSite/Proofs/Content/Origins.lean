import Mathlib.Tactic.Common
import DocSite.Proofs.Content.Resolution

/-!
# Whose field a report names

A report of a sidebar names fields in writing, and a reader finds the entry
that is meant by nothing else. `Reported` says of which node, and of which
field of it, something is reported under a text: by a check of the
sidebar, as an error or a warning, or by the check of the content.

Positions and names are written in turn on the way to a field, and a place
can be read back (`readSteps_text`). So the positions of the node and the
names of the field are found again (`fieldText_inj`), and whatever is
reported under one text is reported of one field of one node
(`written_apart`).
-/

namespace DocSite

open Files (Workspace)
open Sidebar (Node nodes field fieldText errorAt? warningAt?)
open Validation (sidebarDefects sidebarCautions)
open Command (resolve)
open Command.Session (on)

/-! ## The way to a field -/

namespace Place

/-- The steps that positions lead down, among the items of each entry on
the way. -/
def stepsTo : List Nat → List Step
  | [] => []
  | [i] => [.index i]
  | i :: j :: rest => .index i :: .key "items" :: stepsTo (j :: rest)

/-- The steps to a node come behind those to its list. -/
theorem below_eq (parent : Place) (path : List Nat) :
    parent.below path = ⟨parent.root, parent.steps ++ stepsTo path⟩ := by
  induction path generalizing parent with
  | nil =>
    rw [stepsTo, List.append_nil]
    rfl
  | cons i rest ih =>
    cases rest with
    | nil => rfl
    | cons j rest =>
      show ((parent.index i).key "items").below (j :: rest) = _
      rw [ih]
      show Place.mk parent.root (parent.steps ++ [.index i] ++ [.key "items"] ++ _) = _
      rw [List.append_assoc, List.append_assoc]
      rfl

/-- Each step to a node can be read back. -/
theorem isPlain_of_mem_stepsTo {path : List Nat} {step : Step} (h : step ∈ stepsTo path) :
    step.IsPlain := by
  induction path with
  | nil => exact absurd h List.not_mem_nil
  | cons i rest ih =>
    cases rest with
    | nil =>
      rw [List.mem_singleton.mp h]
      trivial
    | cons j rest =>
      rcases List.mem_cons.mp h with rfl | h
      · trivial
      · rcases List.mem_cons.mp h with rfl | h
        · decide
        · exact ih h

/-- The position a step leads to, if it does not lead into a field. -/
def Step.position? : Step → Option Nat
  | .key _ => none
  | .index position => some position

/-- **Positions are found again** among the steps they lead down. -/
theorem positions_stepsTo (path : List Nat) : (stepsTo path).filterMap Step.position? = path := by
  induction path with
  | nil => rfl
  | cons i rest ih =>
    cases rest with
    | nil => rfl
    | cons j rest =>
      show i :: (stepsTo (j :: rest)).filterMap Step.position? = _
      rw [ih]

/-- There are no positions on the way through fields. -/
theorem positions_keys (names : List String) :
    (names.map Step.key).filterMap Step.position? = [] := by
  rw [List.filterMap_map]
  exact List.filterMap_eq_nil_iff.mpr fun name _ => rfl

/-- **The steps to a field of a node tell both**, the node by its positions
and the field by its names. -/
theorem stepsTo_keys_inj {path other : List Nat} {names more : List String}
    (h : stepsTo path ++ names.map Step.key = stepsTo other ++ more.map Step.key) :
    path = other ∧ names = more := by
  have hpath := congrArg (List.filterMap Step.position?) h
  rw [List.filterMap_append, List.filterMap_append, positions_stepsTo, positions_stepsTo,
    positions_keys, positions_keys, List.append_nil, List.append_nil] at hpath
  subst hpath
  refine ⟨rfl, (List.map_inj_right fun name other hname => ?_).mp (List.append_cancel_left h)⟩
  injection hname

end Place

namespace Content

/-- **The fields of entries**, by the names that lead to them. The first is
the entry itself. -/
def fields : List (List String) :=
  [[], ["slug"], ["label"], ["link"], ["items"], ["autogenerate", "directory"]]

/-- What a check is about is a field of entries. -/
theorem names_mem_fields (check : Check) (entry : Entry) : check.names entry ∈ fields := by
  cases check <;> cases entry <;> simp [Check.names, fields]

theorem referenceNames_mem_fields (entry : Entry) : referenceNames entry ∈ fields := by
  cases entry <;> simp [referenceNames, fields]

/-- A way through fields of entries can be read back. -/
theorem isPlain_of_mem_fields {names : List String} (h : names ∈ fields) :
    ∀ step ∈ names.map Place.Step.key, step.IsPlain := by
  have hplain : ∀ names ∈ fields, ∀ name ∈ names, (Place.Step.key name).IsPlain := by decide
  intro step hstep
  obtain ⟨name, hname, rfl⟩ := List.mem_map.mp hstep
  exact hplain names h name hname

/-- A field of a node in writing is the text of the way to it. -/
theorem fieldText_eq (path : List Nat) (names : List String) : fieldText path names
    = Place.text ⟨"sidebar", Place.stepsTo path ++ names.map Place.Step.key⟩ := by
  rw [← Sidebar.text_field, field, Place.below_eq, Place.keys_eq]
  rfl

/-- The way to a field of a node can be read back. -/
theorem isPlain_of_mem_way (path : List Nat) {names : List String} (h : names ∈ fields) :
    ∀ step ∈ Place.stepsTo path ++ names.map Place.Step.key, step.IsPlain := by
  intro step hstep
  exact (List.mem_append.mp hstep).elim Place.isPlain_of_mem_stepsTo
    (isPlain_of_mem_fields h step)

/-- **Fields of nodes that are written alike are the same**, and the nodes
are. -/
theorem fieldText_inj {path other : List Nat} {names more : List String}
    (hnames : names ∈ fields) (hmore : more ∈ fields)
    (h : fieldText path names = fieldText other more) : path = other ∧ names = more := by
  rw [fieldText_eq, fieldText_eq] at h
  exact Place.stepsTo_keys_inj (Place.steps_eq_of_text_eq (by decide)
    (isPlain_of_mem_way path hnames) (isPlain_of_mem_way other hmore) h)

/-! ## Reports of nodes -/

/-- **Something is reported of a field of a node**, the names of which lead
down from the node, under the field in writing. -/
inductive Reported (config : SiteConfig) (root : String) (w : Workspace) (node : Node) :
    (names : List String) → (text : String) → Prop where
  /-- A check of the sidebar fails at the node. -/
  | error (check : Check) (e : Report.Error)
      (h : e ∈ errorAt? config.packages config.sidebar node check) :
      Reported config root w node (check.names node.2) e.place.text
  /-- The slug of the node is in capitals. -/
  | warning (e : Report.Warning) (h : e ∈ warningAt? node) :
      Reported config root w node (Check.slug.names node.2) e.place.text
  /-- The reference of the node leads nowhere. -/
  | unresolved (e : Report.Error) (h : e ∈ unresolved? w root node) :
      Reported config root w node (referenceNames node.2) e.place.text

/-- **The fields in writing under which something is reported** of the
sidebar of a configuration: the errors and warnings of its check, and the
errors with which the check of the content fails. -/
def reportedFields (config : SiteConfig) (root : String) (w : Workspace) : List String :=
  let report := Report.ofFindings (sidebarDefects config.packages config.sidebar)
    (sidebarCautions config.sidebar)
  report.errors.map (fun e => e.place.text) ++ report.warnings.map (fun e => e.place.text)
    ++ match (on (resolve config root) {} w).1.1 with
      | .error (.rejected report) => report.errors.map fun e => e.place.text
      | _ => []

variable {config : SiteConfig} {root : String} {w : Workspace}

/-- What is reported under a field in writing is reported of a node. -/
theorem exists_of_mem_reportedFields {text : String} (h : text ∈ reportedFields config root w) :
    ∃ node ∈ nodes config.sidebar, ∃ names, Reported config root w node names text := by
  unfold reportedFields Report.ofFindings at h
  dsimp only at h
  rw [Sidebar.errors_eq, Sidebar.warnings_eq, resolve_on] at h
  rcases List.mem_append.mp h with h | h
  · rcases List.mem_append.mp h with h | h
    · obtain ⟨e, he, rfl⟩ := List.mem_map.mp h
      obtain ⟨node, hnode, he⟩ := List.mem_flatMap.mp he
      obtain ⟨check, -, he⟩ := List.mem_filterMap.mp he
      exact ⟨node, hnode, _, .error check e he⟩
    · obtain ⟨e, he, rfl⟩ := List.mem_map.mp h
      obtain ⟨node, hnode, he⟩ := List.mem_filterMap.mp he
      exact ⟨node, hnode, _, .warning e he⟩
  · -- the check of the content fails with a report, or without one
    dsimp only at h
    split at h
    · next report hreport =>
      split_ifs at hreport
      · injection hreport with hreport
        injection hreport with hreport
        rw [← hreport] at h
        obtain ⟨e, he, rfl⟩ := List.mem_map.mp h
        obtain ⟨node, hnode, he⟩ := List.mem_filterMap.mp he
        exact ⟨node, hnode, _, .unresolved e he⟩
      · exact absurd hreport (by simp)
    · exact absurd h List.not_mem_nil

namespace Reported

variable {node other : Node} {names more : List String} {text : String}

/-- What is reported of a field of a node is reported under that field in
writing. -/
theorem text_eq (h : Reported config root w node names text) : text = fieldText node.1 names := by
  cases h with
  | error check e h => exact Sidebar.text_of_errorAt? h
  | warning e h => exact Sidebar.text_of_warningAt? h
  | unresolved e h => exact text_of_unresolved? h

theorem names_mem (h : Reported config root w node names text) : names ∈ fields := by
  cases h with
  | error check e h => exact names_mem_fields check node.2
  | warning e h => exact names_mem_fields .slug node.2
  | unresolved e h => exact referenceNames_mem_fields node.2

/-- **Under one text something is reported of one field of one node.** -/
theorem eq (h : Reported config root w node names text)
    (h' : Reported config root w other more text) (hnode : node ∈ nodes config.sidebar)
    (hother : other ∈ nodes config.sidebar) : node = other ∧ names = more := by
  obtain ⟨hpath, hnames⟩ :=
    fieldText_inj h.names_mem h'.names_mem (h.text_eq.symm.trans h'.text_eq)
  refine ⟨Prod.ext hpath ?_, hnames⟩
  -- positions lead to one entry
  have hat := (Sidebar.mem_nodes_iff config.sidebar node.1 node.2).mp hnode
  have hat' := (Sidebar.mem_nodes_iff config.sidebar other.1 other.2).mp hother
  rw [hpath, hat'] at hat
  injection hat with hentry
  exact hentry.symm

end Reported

/-- **Places are written apart.** Two ways down from one root, which is not
empty, have different texts if no name on them has a dot or a bracket in
it. So a report tells of what it speaks: each text under which something is
reported of a sidebar is that of one field of one node. -/
theorem written_apart :
    (∀ (root : String) (steps others : List Place.Step), root ≠ "" →
        (∀ step ∈ steps, step.IsPlain) → (∀ step ∈ others, step.IsPlain) → steps ≠ others →
        (Place.mk root steps).text ≠ (Place.mk root others).text)
      ∧ ∀ (config : SiteConfig) (root : String) (w : Workspace),
        (∀ text ∈ reportedFields config root w,
          ∃ node ∈ nodes config.sidebar, ∃ names, Reported config root w node names text)
        ∧ ∀ node ∈ nodes config.sidebar, ∀ other ∈ nodes config.sidebar, ∀ names more text,
          Reported config root w node names text → Reported config root w other more text →
          node = other ∧ names = more := by
  refine ⟨fun root steps others hroot hsteps hothers hne htext => ?_, fun config root w =>
    ⟨fun text => exists_of_mem_reportedFields, fun node hnode other hother names more text h h' => ?_⟩⟩
  · exact hne (Place.steps_eq_of_text_eq hroot hsteps hothers htext)
  · exact h.eq h' hnode hother

/-- A configuration with a sidebar two references of which lead nowhere. -/
def sampleConfig : SiteConfig := { title := "t", sidebar := sampleSidebar }

theorem written_apart_sampleContent :
    (Place.mk "sidebar[1]" [.key "items", .index 1]).text
        ≠ (Place.mk "sidebar[1]" [.key "items", .index 11]).text
      ∧ reportedFields sampleConfig "docs" sampleContent
        = ["sidebar[1].items[2].slug", "sidebar[2].autogenerate.directory"]
      ∧ ([1, 2], .page "cache" none) ∈ nodes sampleSidebar
      ∧ Reported sampleConfig "docs" sampleContent ([1, 2], .page "cache" none) ["slug"]
        "sidebar[1].items[2].slug"
      ∧ ∀ node ∈ nodes sampleSidebar, ∀ names,
        Reported sampleConfig "docs" sampleContent node names "sidebar[1].items[2].slug" →
        node = ([1, 2], .page "cache" none) ∧ names = ["slug"] := by
  obtain ⟨hplaces, hreports⟩ := written_apart
  obtain ⟨-, hone⟩ := hreports sampleConfig "docs" sampleContent
  have hnode : ([1, 2], .page "cache" none) ∈ nodes sampleSidebar := by
    rw [Sidebar.mem_nodes_iff]
    rfl
  have hreported : Reported sampleConfig "docs" sampleContent ([1, 2], .page "cache" none) ["slug"]
      "sidebar[1].items[2].slug" :=
    .unresolved (Report.ofDefect ⟨⟨"sidebar", [.index 1, .key "items", .index 2, .key "slug"]⟩,
      .missingPage "cache" "docs"⟩) (by rfl)
  exact ⟨hplaces _ _ _ (by decide) (by decide) (by decide) (by decide), by rfl, hnode, hreported,
    fun node hmem names h => hone node hmem _ hnode names _ _ h hreported⟩

end Content

end DocSite
