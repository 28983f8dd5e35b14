import Mathlib.Tactic.Common
import DocSite.Proofs.Sidebar.Nodes
import DocSite.Proofs.Validation.Acceptance
import DocSite.Site.Report

/-!
# What is reported about a sidebar

Seven things are checked at an entry, and a report of a sidebar has an
error for each that fails, at the field of the entry the check is about.
`Check` names the seven in the order in which they are reported, and
`Check.Fails` says when one of them fails, looking at nothing but the
entry and the siblings before it.

The program does not go through nodes and checks, though: it walks, with
the keys of a level it has seen, and with the place it is at.
`sidebar_report` says that this comes to the same: nothing is reported
but failed checks, each of them once, at its field, and in the order of
the text.
-/

namespace DocSite

open Validation RelativePath

/-- **What is checked of an entry**, in the order in which it is
reported. -/
inductive Check where
  /-- Its key, against those of the siblings before it. -/
  | key
  /-- The slug of a page. -/
  | slug
  /-- The package whose page a slug is. -/
  | package
  /-- Its label. -/
  | label
  /-- Where a link leads. -/
  | target
  /-- What is in a group. -/
  | items
  /-- The directory that is listed. -/
  | directory

namespace Check

/-- All checks. -/
def all : List Check := [key, slug, package, label, target, items, directory]

theorem mem_all (check : Check) : check ∈ all := by
  cases check <;> simp [all]

/-- **When a check fails** at an entry, with the siblings before it. -/
def Fails (packages : List String) (before : List Entry) (entry : Entry) : Check → Prop
  | .key => Text.blank entry.key = false ∧ ∃ sibling ∈ before, sibling.key = entry.key
  | .slug => ∃ slug, entry.pageSlug? = some slug ∧ ¬IsPath slug
  | .package => ∃ name, entry.pageSlug? = some (Entry.packagesDirectory ++ name)
      ∧ IsPath (Entry.packagesDirectory ++ name) ∧ packages ≠ [] ∧ name ∉ packages
  | .label => ∃ label, entry.label? = some label ∧ Text.blank label = true
  | .target => ∃ label target, entry = .link label target
      ∧ target.toList.head? ≠ some '/' ∧ ¬IsUrl target
  | .items => ∃ label collapsed, entry = .group label [] collapsed
  | .directory => ∃ label directory collapsed, entry = .autogenerate label directory collapsed
      ∧ ¬IsPath directory

/-- **The field a check is about**, below the place of the entry. A slug
alone is no field. -/
def names (entry : Entry) : Check → List String
  | .key => []
  | .slug | .package => if entry matches .page _ _ then ["slug"] else []
  | .label => ["label"]
  | .target => ["link"]
  | .items => ["items"]
  | .directory => ["autogenerate", "directory"]

/-- The place of the field a check is about. -/
def place (entry : Entry) (check : Check) (place : Place) : Place :=
  (check.names entry).foldl Place.key place

/-- What is wrong with the target of a link. -/
def targetDefect? (target : String) : Option Defect :=
  if target.toList.head? = some '/' then none
  else match Url.parse target.toList with
    | .ok _ => none
    | .error e => some (.link target e)

/-- What is wrong with the package a slug names, the slug being a path. -/
def packageDefect? (packages : List String) (slug : String) : Option Defect :=
  if fault? slug = none then
    (unknownPackage? packages slug).map (.unknownPackage · packages)
  else none

/-- **What a check finds** at an entry, with the siblings before it. -/
def defect? (packages : List String) (before : List Entry) (entry : Entry) :
    Check → Option Defect
  | .key =>
    if !Text.blank entry.key && (before.map Entry.key).contains entry.key then
      some (.sharedKey entry.key)
    else none
  | .slug => entry.pageSlug?.bind fun slug => (fault? slug).map (.slug slug)
  | .package => entry.pageSlug?.bind (packageDefect? packages)
  | .label => (entry.label?.filter Text.blank).map fun _ => .blankLabel
  | .target =>
    match entry with
    | .link _ goal => targetDefect? goal
    | _ => none
  | .items =>
    match entry with
    | .group text [] _ => some (.emptyGroup text)
    | _ => none
  | .directory =>
    match entry with
    | .autogenerate _ path _ => (fault? path).map .directory
    | _ => none

/-- What a check finds, with its place. -/
def found? (packages : List String) (before : List Entry) (place : Place) (entry : Entry)
    (check : Check) : Option (Located Defect) :=
  (check.defect? packages before entry).map fun defect => ⟨check.place entry place, defect⟩

variable {packages : List String} {before : List Entry} {entry : Entry}

/-! ## Checks find something when they fail -/

theorem isSome_fault?_iff (text : String) : (fault? text).isSome ↔ ¬IsPath text := by
  rw [Option.isSome_iff_ne_none, ne_eq, fault?_eq_none_iff]

theorem isSome_unknownPackage?_iff (slug : String) :
    (unknownPackage? packages slug).isSome
      ↔ ∃ name, slug = Entry.packagesDirectory ++ name ∧ packages ≠ [] ∧ name ∉ packages := by
  rw [Option.isSome_iff_ne_none, ne_eq, unknownPackage?_eq_none_iff]
  constructor
  · intro h
    -- if all names were known, nothing would be unknown
    by_contra hnone
    refine h fun hne name hslug => ?_
    by_contra hname
    exact hnone ⟨name, hslug, hne, hname⟩
  · rintro ⟨name, hslug, hne, hname⟩ h
    exact hname (h hne name hslug)

theorem isSome_packageDefect?_iff (slug : String) :
    (packageDefect? packages slug).isSome ↔ ∃ name, slug = Entry.packagesDirectory ++ name
      ∧ IsPath slug ∧ packages ≠ [] ∧ name ∉ packages := by
  unfold packageDefect?
  by_cases hpath : fault? slug = none
  · rw [if_pos hpath, Option.isSome_map, isSome_unknownPackage?_iff]
    refine exists_congr fun name => and_congr_right fun _ => ?_
    exact (and_iff_right ((fault?_eq_none_iff slug).mp hpath)).symm
  · rw [if_neg hpath]
    constructor
    · exact nofun
    · rintro ⟨name, -, h, -⟩
      exact absurd ((fault?_eq_none_iff slug).mpr h) hpath

theorem isSome_targetDefect?_iff (target : String) :
    (targetDefect? target).isSome ↔ target.toList.head? ≠ some '/' ∧ ¬IsUrl target := by
  unfold targetDefect? IsUrl
  by_cases hslash : target.toList.head? = some '/'
  · simp [hslash]
  · rw [if_neg hslash]
    cases Url.parse target.toList <;> simp [hslash]

theorem isSome_target_iff (entry : Entry) :
    (defect? packages before entry .target).isSome ↔ Fails packages before entry .target := by
  cases entry with
  | link text goal =>
    show (targetDefect? goal).isSome ↔ _
    rw [isSome_targetDefect?_iff]
    constructor
    · intro h
      exact ⟨text, goal, rfl, h⟩
    · rintro ⟨_, _, hentry, h⟩
      injection hentry with _ hgoal
      rw [hgoal]
      exact h
  | slug _ => exact ⟨nofun, nofun⟩
  | group _ _ _ => exact ⟨nofun, nofun⟩
  | autogenerate _ _ _ => exact ⟨nofun, nofun⟩
  | page _ _ => exact ⟨nofun, nofun⟩

/-- What is in a group is checked; nothing is in anything else. -/
theorem isSome_items_iff (entry : Entry) :
    (defect? packages before entry .items).isSome ↔ Fails packages before entry .items := by
  cases entry with
  | group text items collapsed =>
    cases items with
    | nil => exact ⟨fun _ => ⟨text, collapsed, rfl⟩, fun _ => rfl⟩
    | cons item items => exact ⟨nofun, nofun⟩
  | slug _ => exact ⟨nofun, nofun⟩
  | autogenerate _ _ _ => exact ⟨nofun, nofun⟩
  | link _ _ => exact ⟨nofun, nofun⟩
  | page _ _ => exact ⟨nofun, nofun⟩

/-- A listed directory is checked; nothing else lists one. -/
theorem isSome_directory_iff (entry : Entry) :
    (defect? packages before entry .directory).isSome
      ↔ Fails packages before entry .directory := by
  cases entry with
  | autogenerate text path collapsed =>
    show ((fault? path).map _).isSome ↔ _
    rw [Option.isSome_map, isSome_fault?_iff]
    constructor
    · intro h
      exact ⟨text, path, collapsed, rfl, h⟩
    · rintro ⟨_, _, _, hentry, h⟩
      injection hentry with _ hpath
      rw [hpath]
      exact h
  | slug _ => exact ⟨nofun, nofun⟩
  | group _ _ _ => exact ⟨nofun, nofun⟩
  | link _ _ => exact ⟨nofun, nofun⟩
  | page _ _ => exact ⟨nofun, nofun⟩

/-- **A check finds something exactly when it fails.** -/
theorem isSome_defect?_iff (check : Check) :
    (check.defect? packages before entry).isSome ↔ check.Fails packages before entry := by
  cases check with
  | key =>
    show (if _ then some _ else none : Option Defect).isSome ↔ _ ∧ _
    rw [Option.isSome_ite, Bool.and_eq_true, Bool.not_eq_true', List.contains_iff_mem,
      List.mem_map]
  | slug =>
    show (entry.pageSlug?.bind _).isSome ↔ ∃ slug, _
    rw [Option.isSome_bind, Option.any_eq_true]
    refine exists_congr fun slug => and_congr_right fun _ => ?_
    rw [Option.isSome_map]
    exact isSome_fault?_iff slug
  | package =>
    show (entry.pageSlug?.bind _).isSome ↔ ∃ name, _
    rw [Option.isSome_bind, Option.any_eq_true]
    constructor
    · rintro ⟨slug, hslug, h⟩
      obtain ⟨name, rfl, h⟩ := (isSome_packageDefect?_iff slug).mp h
      exact ⟨name, hslug, h⟩
    · rintro ⟨name, hslug, h⟩
      exact ⟨_, hslug, (isSome_packageDefect?_iff _).mpr ⟨name, rfl, h⟩⟩
  | label =>
    show ((entry.label?.filter Text.blank).map _).isSome ↔ ∃ label, _
    rw [Option.isSome_map, Option.isSome_filter, Option.any_eq_true]
  | target => exact isSome_target_iff entry
  | items => exact isSome_items_iff entry
  | directory => exact isSome_directory_iff entry

end Check

namespace Sidebar

/-! ## The walk makes the checks -/

/-- **What is found at an entry**, by all checks. -/
def visit (packages : List String) (before : List Entry) (place : Place) (entry : Entry) :
    List (Located Defect) :=
  Check.all.filterMap (Check.found? packages before place entry)

variable (packages : List String) (before : List Entry) (place : Place)

/-- What is found at an entry, check by check. -/
theorem visit_eq (entry : Entry) :
    visit packages before place entry
      = Check.all.flatMap fun check => (check.found? packages before place entry).toList := by
  unfold visit
  rw [List.filterMap_eq_flatMap_toList]

/-- The key of an entry is checked by a list of the keys before it, in any
order. -/
theorem keyDefects_eq {seen : List String} (hseen : ∀ key, key ∈ seen ↔ key ∈ before.map Entry.key)
    (entry : Entry) :
    keyDefects seen place entry.key = (Check.key.found? packages before place entry).toList := by
  have hcontains : seen.contains entry.key = (before.map Entry.key).contains entry.key := by
    rw [Bool.eq_iff_iff, List.contains_iff_mem, List.contains_iff_mem]
    exact hseen entry.key
  unfold keyDefects
  rw [hcontains]
  show _ = ((if _ then some _ else none : Option Defect).map _).toList
  split <;> rfl

theorem slugDefects_eq (slug : String) :
    slugDefects packages place slug
      = (((fault? slug).map (Defect.slug slug)).map (Located.mk place)).toList
        ++ ((Check.packageDefect? packages slug).map (Located.mk place)).toList := by
  unfold slugDefects Check.packageDefect?
  cases fault? slug with
  | some fault => rfl
  | none =>
    rw [if_pos rfl]
    dsimp only
    cases unknownPackage? packages slug <;> rfl

theorem labelDefects_eq (label : String) :
    labelDefects place label = ((((some label).filter Text.blank).map
      fun _ => Defect.blankLabel).map (Located.mk (place.key "label"))).toList := by
  unfold labelDefects
  rw [Option.filter_some]
  split <;> rfl

theorem targetDefects_eq (target : String) :
    targetDefects place target
      = ((Check.targetDefect? target).map (Located.mk place)).toList := by
  unfold targetDefects Check.targetDefect?
  split
  · rfl
  · cases Url.parse target.toList <;> rfl

theorem directoryDefects_eq (directory : String) :
    directoryDefects place directory
      = (((fault? directory).map Defect.directory).map (Located.mk place)).toList := by
  unfold directoryDefects
  cases fault? directory <;> rfl

mutual

/-- **The walk over siblings** makes all checks at each. -/
theorem levelDefects_eq : ∀ (entries : List Entry) (parent : Place) (before : List Entry)
    (seen : List String), (∀ key, key ∈ seen ↔ key ∈ before.map Entry.key) →
    levelDefects packages parent seen before.length entries
      = visitLevel (visit packages) parent before entries
  | [], _, _, _, _ => rfl
  | entry :: entries, parent, before, seen, hseen => by
    -- the keys seen are those of the siblings before, the last one first
    have hentry := entryDefects_eq entry (parent.index before.length) before
    have hrest := levelDefects_eq entries parent (before ++ [entry]) (entry.key :: seen) (by
      intro key
      rw [List.mem_cons, hseen key, List.map_append, List.mem_append, List.map_singleton,
        List.mem_singleton]
      exact or_comm)
    rw [List.length_append, List.length_singleton] at hrest
    show keyDefects _ _ _ ++ _ ++ _ = _
    rw [hrest, keyDefects_eq packages before _ hseen entry, hentry, ← List.append_assoc, visitLevel,
      visit_eq]
    rfl

/-- The walk over an entry makes the other checks, and then those of what
is in it. -/
theorem entryDefects_eq : ∀ (entry : Entry) (place : Place) (before : List Entry),
    entryDefects packages place entry
      = Check.all.tail.flatMap (fun check => (check.found? packages before place entry).toList)
        ++ visitBelow (visit packages) place entry
  | .slug slug, place, before => by
    show slugDefects packages place slug = (_ ++ (_ ++ [])) ++ []
    rw [slugDefects_eq, List.append_nil, List.append_nil]
    rfl
  | .page slug none, place, before => by
    show slugDefects packages (place.key "slug") slug ++ [] = (_ ++ (_ ++ [])) ++ []
    rw [slugDefects_eq, List.append_nil, List.append_nil, List.append_nil]
    rfl
  | .page slug (some label), place, before => by
    show slugDefects packages (place.key "slug") slug ++ labelDefects place label
      = (_ ++ (_ ++ (_ ++ []))) ++ []
    rw [slugDefects_eq, labelDefects_eq, List.append_nil, List.append_nil, List.append_assoc]
    rfl
  | .link label target, place, before => by
    show labelDefects place label ++ targetDefects (place.key "link") target = (_ ++ (_ ++ [])) ++ []
    rw [labelDefects_eq, targetDefects_eq, List.append_nil, List.append_nil]
    rfl
  | .group label [] collapsed, place, before => by
    show labelDefects place label ++ [_] ++ [] = (_ ++ (_ ++ [])) ++ []
    rw [labelDefects_eq, List.append_nil, List.append_nil, List.append_nil]
    rfl
  | .group label (item :: items) collapsed, place, before => by
    -- no key has been seen below a group
    have hitems := levelDefects_eq (item :: items) (place.key "items") [] [] (fun _ => Iff.rfl)
    show labelDefects place label ++ [] ++ levelDefects packages (place.key "items") [] 0 _
      = (_ ++ []) ++ visitLevel _ _ [] _
    rw [labelDefects_eq, List.append_nil, List.append_nil, ← hitems]
    rfl
  | .autogenerate label directory collapsed, place, before => by
    show labelDefects place label
      ++ directoryDefects ((place.key "autogenerate").key "directory") directory
        = (_ ++ (_ ++ [])) ++ []
    rw [labelDefects_eq, directoryDefects_eq, List.append_nil, List.append_nil]
    rfl

end

/-! ## Cautions -/

/-- **A slug that is a path with capital letters**, if an entry is a page
with such a slug. -/
def capitals? (entry : Entry) : Option String :=
  entry.pageSlug?.filter fun slug =>
    (fault? slug).isNone && slug.toList.any Unicode.isUppercase

/-- The caution about an entry, at the field its slug is in. -/
def caution? (place : Place) (entry : Entry) : Option (Located Caution) :=
  (capitals? entry).map fun slug => ⟨Check.slug.place entry place, .capitals slug⟩

/-- An entry has a slug in capitals if it is a page, its slug is a path and
there is a capital letter in it. -/
theorem isSome_capitals?_iff (entry : Entry) :
    (capitals? entry).isSome ↔ ∃ slug, entry.pageSlug? = some slug ∧ IsPath slug
      ∧ ∃ c ∈ slug.toList, Unicode.isUppercase c = true := by
  unfold capitals?
  rw [Option.isSome_filter, Option.any_eq_true]
  refine exists_congr fun slug => and_congr_right fun _ => ?_
  rw [Bool.and_eq_true, Option.isNone_iff_eq_none, fault?_eq_none_iff, List.any_eq_true]

theorem slugCautions_eq (slug : String) :
    slugCautions place slug = (((some slug).filter fun slug =>
      (fault? slug).isNone && slug.toList.any Unicode.isUppercase).map
        fun slug => (⟨place, .capitals slug⟩ : Located Caution)).toList := by
  unfold slugCautions
  rw [Option.filter_some]
  split <;> rfl

/-- At an entry one caution is looked for, and then those in it. -/
theorem entryCautions_eq (entry : Entry) :
    entryCautions place entry
      = (caution? place entry).toList ++ levelCautions (place.key "items") 0 entry.children := by
  cases entry with
  | slug slug =>
    show slugCautions place slug = _ ++ []
    rw [slugCautions_eq, List.append_nil]
    rfl
  | page slug label =>
    show slugCautions (place.key "slug") slug = _ ++ []
    rw [slugCautions_eq, List.append_nil]
    rfl
  | group label items collapsed => rfl
  | autogenerate label directory collapsed => rfl
  | link label target => rfl

/-- **Cautions are collected on a walk** that looks at each entry alone. -/
theorem walk_levelCautions :
    Walk (fun place entry => (caution? place entry).toList) levelCautions where
  nil _ _ := rfl
  cons parent position entry entries := by
    rw [levelCautions, entryCautions_eq]

/-! ## The report -/

/-- The error of a check at a node of a sidebar. -/
def errorAt? (packages : List String) (sidebar : List Entry) (node : Node) (check : Check) :
    Option Report.Error :=
  (check.found? packages (Entry.earlier sidebar node.1) (field node.1) node.2).map Report.ofDefect

/-- The warning at a node of a sidebar. -/
def warningAt? (node : Node) : Option Report.Warning :=
  (caution? (field node.1) node.2).map Report.ofCaution

/-- **The field of a node in writing**, followed by names of fields in
it. -/
def fieldText (path : List Nat) (names : List String) : String :=
  names.foldl (fun text name => text ++ "." ++ name) <|
    match path with
    | [] => "sidebar"
    | i :: rest => rest.foldl (fun text j => text ++ ".items[" ++ toString j ++ "]")
        ("sidebar[" ++ toString i ++ "]")

theorem text_field (path : List Nat) (names : List String) :
    (names.foldl Place.key (field path)).text = fieldText path names := by
  unfold fieldText field
  cases path with
  | nil => exact Place.text_keys (show sidebarPlace.text ≠ "" by decide) names
  | cons i rest =>
    have hstart : (sidebarPlace.index i).text = "sidebar[" ++ toString i ++ "]" := by
      show (sidebarPlace.down (.index i)).text = _
      rw [Place.text_down]
      rfl
    rw [Place.text_keys (text_below_ne_empty sidebarPlace i rest), text_below, hstart]

/-- What the walk of a sidebar collects. -/
theorem visitLevel_sidebar {α : Type} (visit : List Entry → Place → Entry → List α)
    (sidebar : List Entry) :
    visitLevel visit sidebarPlace [] sidebar
      = (nodes sidebar).flatMap fun node =>
        visit (Entry.earlier sidebar node.1) (field node.1) node.2 :=
  visitLevel_eq visit sidebar sidebarPlace []

/-- **The defects of a sidebar**, node by node and check by check. -/
theorem sidebarDefects_eq (packages : List String) (sidebar : List Entry) :
    sidebarDefects packages sidebar
      = (nodes sidebar).flatMap fun node =>
        visit packages (Entry.earlier sidebar node.1) (field node.1) node.2 := by
  have hwalk : sidebarDefects packages sidebar = visitLevel (visit packages) sidebarPlace [] sidebar :=
    levelDefects_eq packages sidebar sidebarPlace [] [] (fun _ => Iff.rfl)
  rw [hwalk, visitLevel_sidebar]

/-- What a check finds at a node is a defect of the sidebar. -/
theorem mem_sidebarDefects {packages : List String} {sidebar : List Entry} {node : Node}
    (hnode : node ∈ nodes sidebar) {check : Check} {found : Located Defect}
    (h : check.found? packages (Entry.earlier sidebar node.1) (field node.1) node.2 = some found) :
    found ∈ sidebarDefects packages sidebar := by
  rw [sidebarDefects_eq]
  exact List.mem_flatMap.mpr ⟨node, hnode, List.mem_filterMap.mpr ⟨check, check.mem_all, h⟩⟩

/-- The errors of a sidebar, node by node and check by check. -/
theorem errors_eq (packages : List String) (sidebar : List Entry) :
    (sidebarDefects packages sidebar).map Report.ofDefect
      = (nodes sidebar).flatMap fun node =>
        Check.all.filterMap (errorAt? packages sidebar node) := by
  rw [sidebarDefects_eq, List.map_flatMap]
  refine List.flatMap_congr fun node _ => ?_
  exact List.map_filterMap

/-- The warnings of a sidebar, node by node. -/
theorem warnings_eq (sidebar : List Entry) :
    (sidebarCautions sidebar).map Report.ofCaution = (nodes sidebar).filterMap warningAt? := by
  unfold sidebarCautions
  rw [walk_levelCautions.eq_flatMap, List.map_flatMap, List.filterMap_eq_flatMap_toList]
  refine List.flatMap_congr fun node _ => ?_
  exact Option.toList_map.symm

/-- There is an error for a check that fails. -/
theorem isSome_errorAt?_iff (packages : List String) (sidebar : List Entry) (node : Node)
    (check : Check) : (errorAt? packages sidebar node check).isSome
      ↔ check.Fails packages (Entry.earlier sidebar node.1) node.2 := by
  unfold errorAt? Check.found?
  rw [Option.isSome_map, Option.isSome_map, Check.isSome_defect?_iff]

theorem place_of_errorAt? {packages : List String} {sidebar : List Entry} {node : Node}
    {check : Check} {e : Report.Error} (h : e ∈ errorAt? packages sidebar node check) :
    e.place = check.place node.2 (field node.1) := by
  obtain ⟨found, hfound, rfl⟩ := Option.map_eq_some_iff.mp h
  obtain ⟨defect, -, rfl⟩ := Option.map_eq_some_iff.mp hfound
  rfl

theorem text_of_errorAt? {packages : List String} {sidebar : List Entry} {node : Node}
    {check : Check} {e : Report.Error} (h : e ∈ errorAt? packages sidebar node check) :
    e.place.text = fieldText node.1 (check.names node.2) := by
  rw [place_of_errorAt? h]
  exact text_field node.1 (check.names node.2)

theorem place_of_warningAt? {node : Node} {w : Report.Warning} (h : w ∈ warningAt? node) :
    w.place = Check.slug.place node.2 (field node.1) := by
  obtain ⟨found, hfound, rfl⟩ := Option.map_eq_some_iff.mp h
  obtain ⟨slug, -, rfl⟩ := Option.map_eq_some_iff.mp hfound
  rfl

theorem text_of_warningAt? {node : Node} {w : Report.Warning} (h : w ∈ warningAt? node) :
    w.place.text = fieldText node.1 (Check.slug.names node.2) := by
  rw [place_of_warningAt? h]
  exact text_field node.1 (Check.slug.names node.2)

/-- **What is reported about a sidebar.** Errors are listed node by node,
and at a node check by check; there is one for each check that fails, and
it is at the field the check is about. Warnings are listed likewise, one
for each slug in capitals. The nodes are those that positions lead to, in
the order of their positions. -/
theorem sidebar_report (packages : List String) (sidebar : List Entry) :
    (Report.ofFindings (sidebarDefects packages sidebar) (sidebarCautions sidebar)).errors
        = (nodes sidebar).flatMap (fun node => Check.all.filterMap (errorAt? packages sidebar node))
      ∧ (Report.ofFindings (sidebarDefects packages sidebar) (sidebarCautions sidebar)).warnings
        = (nodes sidebar).filterMap warningAt?
      ∧ (∀ path entry, (path, entry) ∈ nodes sidebar ↔ Entry.at? sidebar path = some entry)
      ∧ ((nodes sidebar).map Prod.fst).Pairwise (List.Lex (· < ·))
      ∧ (∀ node check,
          ((errorAt? packages sidebar node check).isSome
            ↔ check.Fails packages (Entry.earlier sidebar node.1) node.2)
          ∧ ∀ e ∈ errorAt? packages sidebar node check,
            e.place.text = fieldText node.1 (check.names node.2))
      ∧ ∀ node,
          ((warningAt? node).isSome ↔ ∃ slug, node.2.pageSlug? = some slug ∧ IsPath slug
            ∧ ∃ c ∈ slug.toList, Unicode.isUppercase c = true)
          ∧ ∀ w ∈ warningAt? node, w.place.text = fieldText node.1 (Check.slug.names node.2) := by
  refine ⟨errors_eq packages sidebar, warnings_eq sidebar, mem_nodes_iff sidebar,
    nodes_sorted sidebar, fun node check => ⟨?_, fun e => text_of_errorAt?⟩,
    fun node => ⟨?_, fun w => text_of_warningAt?⟩⟩
  · exact isSome_errorAt?_iff packages sidebar node check
  · unfold warningAt? caution?
    rw [Option.isSome_map, Option.isSome_map, isSome_capitals?_iff]

/-- Four errors of two groups: a package and a slug within the first, then
a label twice, and a group without entries. -/
example : ((sidebarDefects ["database"] [.group "Packages" [.slug "packages/cache", .slug "guides/"]
    false, .group "Packages" [] false]).map fun found => found.place.text)
      = ["sidebar[0].items[0]", "sidebar[0].items[1]", "sidebar[1]", "sidebar[1].items"] := by
  rfl

end Sidebar

end DocSite
