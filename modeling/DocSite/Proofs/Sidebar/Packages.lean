import Mathlib.Data.List.Basic
import Mathlib.Tactic.Common
import DocSite.Proofs.Sidebar.Findings
import DocSite.Proofs.Site.Wording

/-!
# Known packages

A slug that names the page of a package is checked against the packages
that are known, but only if any are. So knowing more packages takes errors
away, and knowing none takes away all errors of that kind: the list
without names is the most generous one, and not the strictest.

`told_of_missing` compares two lists of names in general. If the names
that are missed with the one are among those that are missed with the
other, what is told with the one is what is told with the other without
the complaints about the rest of the names. Nothing else that is told
depends on the packages, neither what it says nor where it stands among
the others. The comparisons one wants follow from it
(`report_of_packages`).
-/

namespace DocSite

open Validation RelativePath

/-! ## The wording -/

/-- What is said about a package that is not known. -/
def unknownText (name : String) : String := "unknown package `" ++ name ++ "`"

/-- **The package a complaint is about**, if it is one about a package. -/
def unknownName? (message : String) : Option String :=
  (Text.stripPrefix? "unknown package `".toList message.toList).map fun rest =>
    String.ofList rest.dropLast

/-- A complaint about a package says its name. -/
theorem unknownName?_unknownText (name : String) :
    unknownName? (unknownText name) = some name := by
  have hrest : Text.stripPrefix? "unknown package `".toList (unknownText name).toList
      = some (name.toList ++ ['`']) := by
    rw [Text.stripPrefix?_eq_some_iff]
    unfold unknownText
    rw [String.toList_append, String.toList_append, List.append_assoc]
    rfl
  unfold unknownName?
  rw [hrest]
  show some (String.ofList (name.toList ++ ['`']).dropLast) = some name
  rw [List.dropLast_concat, String.ofList_toList]

namespace Defect

/-- The package a defect is about, if it is about one. -/
def package? : Defect → Option String
  | unknownPackage name _ => some name
  | _ => none

/-- **Only a defect about a package is worded as one.** -/
theorem unknownName?_message (defect : Defect) :
    unknownName? defect.message = defect.package? := by
  have hother : defect.letter ≠ 'u' → unknownName? defect.message = none := by
    intro hletter
    unfold unknownName?
    rw [Option.map_eq_none_iff]
    cases hstrip : Text.stripPrefix? "unknown package `".toList defect.message.toList with
    | none => rfl
    | some rest =>
      rw [Text.stripPrefix?_eq_some_iff] at hstrip
      have hhead := defect.head?_message
      rw [hstrip] at hhead
      exact absurd (Option.some.inj hhead).symm hletter
  cases defect with
  | unknownPackage name _ => exact unknownName?_unknownText name
  | blankLinkLabel icon => cases icon <;> exact hother (by decide)
  | _ => exact hother (by simp [letter])

/-- A defect about a package is worded in one way. -/
theorem message_of_package? {defect : Defect} {name : String} (h : defect.package? = some name) :
    defect.message = unknownText name := by
  cases defect with
  | unknownPackage other known =>
    obtain rfl := Option.some.inj h
    rfl
  | _ => exact absurd h (by simp [package?])

end Defect

/-! ## What is missed -/

/-- **A name is missed** if there are names that are known and it is none
of them. -/
def missing (packages : List String) (name : String) : Bool :=
  !packages.isEmpty && !packages.contains name

namespace Check

variable {packages others : List String} {before : List Entry} {entry : Entry}

/-- What is found about a slug with one list of names, by what is found
with another. -/
theorem packageDefect?_of_missing {keep : String → Bool}
    (h : ∀ name, missing others name = (missing packages name && keep name)) (slug : String) :
    (packageDefect? others slug).map Defect.message
      = ((packageDefect? packages slug).filter fun defect => defect.package?.all keep).map
        Defect.message := by
  unfold packageDefect?
  split
  · show (((Entry.packageName? slug).filter (missing others)).map _).map _
      = ((((Entry.packageName? slug).filter (missing packages)).map _).filter _).map _
    cases Entry.packageName? slug with
    | none => rfl
    | some name =>
      rw [Option.filter_some, Option.filter_some, h name]
      cases missing packages name with
      | false => rfl
      | true =>
        have hfilter : (some (Defect.unknownPackage name packages)).filter
            (fun defect => defect.package?.all keep)
              = if keep name then some (.unknownPackage name packages) else none :=
          Option.filter_some
        show _ = ((some (Defect.unknownPackage name packages)).filter _).map _
        rw [hfilter]
        cases keep name <;> rfl
  · rfl

/-- **Only the check of the package asks which packages are known**, and
only it finds defects about packages. -/
theorem defect?_of_ne_package {check : Check} (hcheck : check ≠ .package) :
    check.defect? others before entry = check.defect? packages before entry
      ∧ ∀ defect ∈ check.defect? packages before entry, defect.package? = none := by
  cases check with
  | package => exact absurd rfl hcheck
  | key =>
    refine ⟨rfl, fun defect hdefect => ?_⟩
    obtain ⟨-, hdefect⟩ := Option.ite_none_right_eq_some.mp hdefect
    exact Option.some.inj hdefect ▸ rfl
  | slug =>
    refine ⟨rfl, fun defect hdefect => ?_⟩
    obtain ⟨slug, -, hdefect⟩ := Option.bind_eq_some_iff.mp hdefect
    obtain ⟨fault, -, rfl⟩ := Option.map_eq_some_iff.mp hdefect
    rfl
  | label =>
    refine ⟨rfl, fun defect hdefect => ?_⟩
    obtain ⟨label, -, rfl⟩ := Option.map_eq_some_iff.mp hdefect
    rfl
  | target =>
    refine ⟨rfl, fun defect hdefect => ?_⟩
    cases entry with
    | link label goal =>
      change targetDefect? goal = some defect at hdefect
      unfold targetDefect? at hdefect
      split at hdefect
      · exact absurd hdefect (by simp)
      · cases hparse : Url.parse goal.toList with
        | ok url =>
          rw [hparse] at hdefect
          exact absurd hdefect (by simp)
        | error e =>
          rw [hparse] at hdefect
          exact Option.some.inj hdefect ▸ rfl
    | _ => exact absurd hdefect (by simp [defect?])
  | items =>
    refine ⟨rfl, fun defect hdefect => ?_⟩
    cases entry with
    | group label items collapsed =>
      cases items with
      | nil => exact Option.some.inj hdefect ▸ rfl
      | cons item items => exact absurd hdefect (by simp [defect?])
    | _ => exact absurd hdefect (by simp [defect?])
  | directory =>
    refine ⟨rfl, fun defect hdefect => ?_⟩
    cases entry with
    | autogenerate label path collapsed =>
      obtain ⟨fault, -, rfl⟩ := Option.map_eq_some_iff.mp hdefect
      rfl
    | _ => exact absurd hdefect (by simp [defect?])

/-- What a check finds with one list of names, by what it finds with
another. -/
theorem defect?_of_missing {keep : String → Bool}
    (h : ∀ name, missing others name = (missing packages name && keep name)) (check : Check) :
    (check.defect? others before entry).map Defect.message
      = ((check.defect? packages before entry).filter fun defect => defect.package?.all keep).map
        Defect.message := by
  by_cases hcheck : check = .package
  · rw [hcheck]
    show (entry.pageSlug?.bind _).map _ = ((entry.pageSlug?.bind _).filter _).map _
    cases entry.pageSlug? with
    | none => rfl
    | some slug => exact packageDefect?_of_missing h slug
  · obtain ⟨hsame, hother⟩ := defect?_of_ne_package hcheck
    rw [hsame]
    cases hdefect : check.defect? packages before entry with
    | none => rfl
    | some defect =>
      rw [Option.filter_some, hother defect hdefect]
      rfl

end Check

/-! ## What is told -/

/-- **What an error tells**: a field, and what is wrong there. -/
def Report.Error.told (e : Report.Error) : String × String := (e.place.text, e.message)

namespace Sidebar

/-- **The report on a sidebar.** -/
def report (packages : List String) (sidebar : List Entry) : Report :=
  .ofFindings (sidebarDefects packages sidebar) (sidebarCautions sidebar)

/-- **What is told about a sidebar**, error by error. -/
def told (packages : List String) (sidebar : List Entry) : List (String × String) :=
  (report packages sidebar).errors.map Report.Error.told

/-- What the checks at the nodes of a sidebar tell. -/
theorem told_eq (packages : List String) (sidebar : List Entry) :
    told packages sidebar = (nodes sidebar).flatMap fun node => Check.all.filterMap fun check =>
      ((check.defect? packages (Entry.earlier sidebar node.1) node.2).map Defect.message).map
        fun message => ((check.place node.2 (field node.1)).text, message) := by
  show ((sidebarDefects packages sidebar).map Report.ofDefect).map Report.Error.told = _
  rw [errors_eq, List.map_flatMap]
  refine List.flatMap_congr fun node _ => ?_
  rw [List.map_filterMap]
  congr 1
  funext check
  unfold errorAt? Check.found?
  rw [Option.map_map, Option.map_map, Option.map_map]
  rfl

variable {packages others : List String}

/-- **What is told with one list of names**, by what is told with another:
the complaints about packages that need not be kept are left out. -/
theorem told_of_missing {keep : String → Bool}
    (h : ∀ name, missing others name = (missing packages name && keep name))
    (sidebar : List Entry) :
    told others sidebar
      = (told packages sidebar).filter fun said => (unknownName? said.2).all keep := by
  rw [told_eq, told_eq, List.filter_flatMap]
  refine List.flatMap_congr fun node _ => ?_
  rw [List.filter_filterMap]
  congr 1
  funext check
  rw [Check.defect?_of_missing h check]
  -- at a check the wording shows what the defect is
  cases check.defect? packages (Entry.earlier sidebar node.1) node.2 with
  | none => rfl
  | some defect =>
    show _ = Option.filter _ (some _)
    rw [Option.filter_some, Option.filter_some]
    show _ = if (unknownName? defect.message).all keep = true then _ else _
    rw [defect.unknownName?_message]
    cases defect.package?.all keep <;> rfl

/-- With more names less is missed, if any were known before. -/
theorem missing_of_subset {more : List String} (hne : packages ≠ []) (h : packages ⊆ more)
    (name : String) :
    missing more name = (missing packages name && !more.contains name) := by
  have hmore : more ≠ [] := fun hnil => hne (List.eq_nil_of_subset_nil (hnil ▸ h))
  unfold missing
  rw [List.isEmpty_eq_false_iff.mpr hne, List.isEmpty_eq_false_iff.mpr hmore]
  cases hname : packages.contains name with
  | false => rfl
  | true =>
    have hmem := h (List.contains_iff_mem.mp hname)
    rw [List.contains_iff_mem.mpr hmem]
    rfl

/-- What is missed depends on which names there are, and on nothing else. -/
theorem missing_of_mem_iff (h : ∀ name, name ∈ packages ↔ name ∈ others) (name : String) :
    missing others name = missing packages name := by
  have hempty : others.isEmpty = packages.isEmpty := by
    rw [Bool.eq_iff_iff, List.isEmpty_iff, List.isEmpty_iff, List.eq_nil_iff_forall_not_mem,
      List.eq_nil_iff_forall_not_mem]
    exact forall_congr' fun name => not_congr (h name).symm
  have hcontains : others.contains name = packages.contains name := by
    rw [Bool.eq_iff_iff, List.contains_iff_mem, List.contains_iff_mem]
    exact (h name).symm
  unfold missing
  rw [hempty, hcontains]

/-- Of what is told only a complaint about a package reads like one. -/
theorem unknownName?_of_mem_told {sidebar : List Entry} {said : String × String}
    (h : said ∈ told packages sidebar) (name : String) :
    unknownName? said.2 = some name ↔ said.2 = unknownText name := by
  obtain ⟨e, he, rfl⟩ := List.mem_map.mp h
  obtain ⟨found, -, rfl⟩ := List.mem_map.mp he
  constructor
  · intro hname
    exact Defect.message_of_package? (found.what.unknownName?_message.symm.trans hname)
  · intro hmessage
    rw [hmessage]
    exact unknownName?_unknownText name

/-- **How the report on a sidebar depends on the known packages.** Where
names are known and more become known, what is told loses the complaints
about the packages that are known now and keeps all else, in its order. It
depends on which names there are, and neither on their order nor on how
often each stands. Where none is known, it is what is told otherwise but
for all complaints about packages, which are told from the rest by their
wording. The warnings do not depend on the packages at all. -/
theorem report_of_packages (sidebar : List Entry) :
    (∀ packages more, packages ≠ [] → packages ⊆ more →
        told more sidebar = (told packages sidebar).filter (fun said =>
          (unknownName? said.2).all fun name => !more.contains name)
        ∧ (told more sidebar).Sublist (told packages sidebar))
      ∧ (∀ packages others, (∀ name, name ∈ packages ↔ name ∈ others) →
        told others sidebar = told packages sidebar)
      ∧ (∀ packages,
        told [] sidebar = (told packages sidebar).filter (fun said => (unknownName? said.2).isNone)
        ∧ (told [] sidebar).Sublist (told packages sidebar))
      ∧ (∀ packages, ∀ said ∈ told packages sidebar, ∀ name,
        unknownName? said.2 = some name ↔ said.2 = unknownText name)
      ∧ ∀ packages others, (report others sidebar).warnings = (report packages sidebar).warnings := by
  refine ⟨fun packages more hne hsubset => ?_, fun packages others hsame => ?_,
    fun packages => ?_, fun packages said hsaid => unknownName?_of_mem_told hsaid,
    fun packages others => rfl⟩
  · have htold := told_of_missing (missing_of_subset hne hsubset) sidebar
    exact ⟨htold, htold ▸ List.filter_sublist⟩
  · have hkeep : ∀ name, missing others name = (missing packages name && true) := fun name => by
      rw [Bool.and_true]
      exact missing_of_mem_iff hsame name
    have htold := told_of_missing hkeep sidebar
    rw [htold]
    refine List.filter_eq_self.mpr fun said _ => ?_
    cases unknownName? said.2 <;> rfl
  · have hkeep : ∀ name, missing [] name = (missing packages name && false) := fun name =>
      (Bool.and_false _).symm
    have htold := told_of_missing hkeep sidebar
    have hnone : (fun said : String × String => (unknownName? said.2).all fun _ => false)
        = fun said => (unknownName? said.2).isNone := by
      funext said
      cases unknownName? said.2 <;> rfl
    rw [hnone] at htold
    exact ⟨htold, htold ▸ List.filter_sublist⟩

/-- Two pages of packages, the second in a group and twice. -/
def packagePages : List Entry :=
  [.slug "packages/cache", .group "More" [.slug "packages/queue", .slug "packages/queue"] false]

theorem report_of_packages_packagePages :
    ["database"] ≠ [] ∧ ["database"] ⊆ ["cache", "database"]
      ∧ told ["database"] packagePages
        = [("sidebar[0]", "unknown package `cache`"),
          ("sidebar[1].items[0]", "unknown package `queue`"),
          ("sidebar[1].items[1]", "duplicate sibling label `packages/queue`"),
          ("sidebar[1].items[1]", "unknown package `queue`")]
      ∧ told ["cache", "database"] packagePages
        = [("sidebar[1].items[0]", "unknown package `queue`"),
          ("sidebar[1].items[1]", "duplicate sibling label `packages/queue`"),
          ("sidebar[1].items[1]", "unknown package `queue`")]
      ∧ told [] packagePages
        = [("sidebar[1].items[1]", "duplicate sibling label `packages/queue`")] := by
  have hne : ["database"] ≠ [] := by decide
  have hsubset : ["database"] ⊆ ["cache", "database"] := by decide
  have hfew : told ["database"] packagePages
      = [("sidebar[0]", "unknown package `cache`"),
        ("sidebar[1].items[0]", "unknown package `queue`"),
        ("sidebar[1].items[1]", "duplicate sibling label `packages/queue`"),
        ("sidebar[1].items[1]", "unknown package `queue`")] := by decide +kernel
  obtain ⟨hmore, -, hnone, -⟩ := report_of_packages packagePages
  refine ⟨hne, hsubset, hfew, ?_, ?_⟩
  · rw [(hmore _ _ hne hsubset).1, hfew]
    decide +kernel
  · rw [(hnone ["database"]).1, hfew]
    decide +kernel

end Sidebar

end DocSite
