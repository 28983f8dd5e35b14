import Mathlib.Tactic.Common
import DocSite.Proofs.Content.Containment
import DocSite.Proofs.Sidebar.Counts
import DocSite.Proofs.Steps

/-!
# Three walks over one sidebar

A sidebar is counted, checked and resolved on three walks that know
nothing of each other. Where the content is an empty directory they can
be compared. Every reference leads nowhere then, so what resolving
reports is what it has visited: one missing page for each page that is
counted, and one missing directory for each that is listed
(`resolve_on_of_isEmpty`). And each of them is reported at the field at
which the check of the sidebar reports the same slug or directory
(`isReferenceField_of_dangling?`).

That the references are relative paths is what makes them lead nowhere.
With a slug like `../intro` a page outside of the content could be found.
-/

namespace DocSite

open Files (Workspace Below join)
open RelativePath (IsPath fault?)
open Sidebar (Node nodes field errorAt? warningAt?)
open Command (Transcript resolve)
open Command.Session (on)

namespace Files

/-- **A path leads to a directory without anything in it.** -/
structure Workspace.IsEmptyDirectory (w : Workspace) (root : String) : Prop where
  /-- It is a directory. -/
  directory : w.kind? root = some .directory
  /-- Nothing is below where it leads. -/
  empty : ∀ top more, w.leads? root = .ok top → more ≠ [] → w.tree.get? (top ++ more) = none

theorem Workspace.get?_of_find {w : Workspace} {path : String} {item : Item}
    (h : w.find path = .ok item) :
    ∃ names, w.leads? path = .ok names ∧ w.tree.get? names = some item := by
  unfold find at h
  cases hrefused : refused? path with
  | some fault =>
    rw [hrefused] at h
    exact absurd h (by simp)
  | none =>
    rw [hrefused] at h
    obtain ⟨names, hleads, h⟩ := exists_of_bind h
    refine ⟨names, hleads, ?_⟩
    cases hitem : w.tree.get? names with
    | none =>
      rw [hitem] at h
      exact absurd h (by simp)
    | some other =>
      rw [hitem] at h
      injection h with h
      rw [h]

/-- **Nothing is found below an empty directory.** -/
theorem Workspace.IsEmptyDirectory.kind?_of_below {w : Workspace} {root path : String}
    (h : w.IsEmptyDirectory root) (hbelow : Below root path) : w.kind? path = none := by
  unfold kind?
  cases hitem : w.find path with
  | error fault => rfl
  | ok item =>
    obtain ⟨names, hleads, hget⟩ := Workspace.get?_of_find hitem
    obtain ⟨top, more, htop, hmore, rfl⟩ := Workspace.leads?_of_below hbelow hleads
    rw [h.empty top more htop hmore] at hget
    exact absurd hget (by simp)

end Files

/-- **The references of an entry are relative paths**, as far as it has
any. -/
structure Entry.IsReferable (entry : Entry) : Prop where
  /-- The slug of a page. -/
  slug : ∀ slug, entry.pageSlug? = some slug → fault? slug = none
  /-- The directory that is listed. -/
  directory : ∀ label directory collapsed, entry = .autogenerate label directory collapsed →
    fault? directory = none

/-- An entry that lists a directory. -/
def Entry.isListed : Entry → Bool
  | .autogenerate _ _ _ => true
  | _ => false

/-- The entry with another text for its slug or its directory. -/
def Entry.referTo (text : String) : Entry → Entry
  | .slug _ => .slug text
  | .page _ label => .page text label
  | .autogenerate label _ collapsed => .autogenerate label text collapsed
  | entry => entry

/-- A missing page. -/
def Defect.isMissingPage : Defect → Bool
  | .missingPage _ _ => true
  | _ => false

/-- A missing directory. -/
def Defect.isMissingDirectory : Defect → Bool
  | .missingDirectory _ => true
  | _ => false

namespace Content

variable {w : Workspace} {root : String} {sidebar : List Entry}

/-! ## What is missing in an empty directory -/

/-- **What is wrong at a node whose reference leads nowhere**, if it has
one. -/
def dangling? (root : String) (node : Node) : Option (Located Defect) :=
  (requirement? root (field node.1) node.2).map fun r => ⟨r.place, r.defect⟩

/-- **What is missing where nothing is there**, node by node. -/
def missing (root : String) (sidebar : List Entry) : List (Located Defect) :=
  (nodes sidebar).filterMap (dangling? root)

/-- Nothing that a reference asks for is met in an empty directory. -/
theorem met_eq_false_of_isEmpty (hempty : w.IsEmptyDirectory root) {place : Place} {entry : Entry}
    (hentry : entry.IsReferable) {r : Requirement} (hr : requirement? root place entry = some r) :
    met w r = false := by
  refine List.any_eq_false.mpr fun path hpath => ?_
  have hbelow : Below root path := by
    refine below_of_mem_candidates root (fun slug hslug => ?_)
      (fun label directory collapsed h => ?_) hr hpath
    · exact (RelativePath.fault?_eq_none_iff slug).mp (hentry.slug slug hslug)
    · exact (RelativePath.fault?_eq_none_iff directory).mp
        (hentry.directory label directory collapsed h)
  rw [hempty.kind?_of_below hbelow]
  exact of_decide_eq_false rfl

/-- **Every reference dangles** in an empty directory. -/
theorem unresolved?_of_isEmpty (hempty : w.IsEmptyDirectory root) {node : Node}
    (hnode : node.2.IsReferable) :
    unresolved? w root node = (dangling? root node).map Report.ofDefect := by
  unfold unresolved? dangling?
  cases hr : requirement? root (field node.1) node.2 with
  | none => rfl
  | some r =>
    rw [Option.filter_some, met_eq_false_of_isEmpty hempty hnode hr]
    rfl

/-- **Resolving a sidebar in an empty directory** reports all references,
and nothing else. -/
theorem resolve_on_of_isEmpty (config : SiteConfig) (hempty : w.IsEmptyDirectory root)
    (hsidebar : ∀ path entry, Entry.at? config.sidebar path = some entry → entry.IsReferable)
    (t : Transcript) :
    on (resolve config root) t w
      = (((if missing root config.sidebar = [] then .ok ()
          else .error (.rejected ⟨(missing root config.sidebar).map Report.ofDefect, []⟩)), t),
          w) := by
  have herrors : (nodes config.sidebar).filterMap (unresolved? w root)
      = (missing root config.sidebar).map Report.ofDefect := by
    unfold missing
    rw [List.map_filterMap]
    refine List.filterMap_congr fun node hnode => unresolved?_of_isEmpty hempty ?_
    exact hsidebar node.1 node.2 ((Sidebar.mem_nodes_iff config.sidebar node.1 node.2).mp hnode)
  rw [resolve_on, if_pos hempty.directory, herrors]
  cases missing root config.sidebar <;> rfl

theorem dangling?_of_pageSlug? (root : String) (path : List Nat) {entry : Entry} {slug : String}
    (h : entry.pageSlug? = some slug) :
    ∃ place, dangling? root (path, entry) = some ⟨place, .missingPage slug root⟩ := by
  cases entry <;> cases h <;> exact ⟨_, rfl⟩

theorem dangling?_of_autogenerate (root : String) (path : List Nat) (label directory : String)
    (collapsed : Bool) : ∃ place, dangling? root (path, .autogenerate label directory collapsed)
      = some ⟨place, .missingDirectory (join root directory)⟩ :=
  ⟨_, rfl⟩

/-! ## How much is missing -/

theorem countP_missing {p : Defect → Bool} {q : Entry → Bool}
    (h : ∀ node, ((dangling? root node).map fun found => p found.what).getD false = q node.2) :
    (missing root sidebar).countP (fun found => p found.what)
      = (nodes sidebar).countP fun node => q node.2 := by
  unfold missing
  rw [List.countP_filterMap]
  exact List.countP_congr fun node _ => by rw [h node]

/-- **As many pages are missing as there are.** -/
theorem countP_missingPage (root : String) (sidebar : List Entry) :
    (missing root sidebar).countP (fun found => found.what.isMissingPage)
      = (Stats.ofEntries sidebar).pages := by
  rw [(Stats.ofNodes_ofEntries sidebar).pages]
  refine countP_missing (q := fun entry => entry.pageSlug?.isSome) fun node => ?_
  unfold dangling?
  cases node.2 <;> rfl

/-- As many directories are missing as are listed. -/
theorem countP_missingDirectory (root : String) (sidebar : List Entry) :
    (missing root sidebar).countP (fun found => found.what.isMissingDirectory)
      = (nodes sidebar).countP fun node => node.2.isListed := by
  refine countP_missing fun node => ?_
  unfold dangling?
  cases node.2 <;> rfl

/-- **What is missing are pages and listed directories**, one for each. -/
theorem length_missing (root : String) (sidebar : List Entry) :
    (missing root sidebar).length
      = (Stats.ofEntries sidebar).pages + (nodes sidebar).countP fun node => node.2.isListed := by
  have hsplit : ∀ found ∈ missing root sidebar,
      found.what.isMissingDirectory = !found.what.isMissingPage := by
    intro found hfound
    obtain ⟨node, -, h⟩ := List.mem_filterMap.mp hfound
    unfold dangling? at h
    cases hentry : node.2 <;> rw [hentry] at h <;> cases h <;> rfl
  have hdirectories : (missing root sidebar).countP (fun found => found.what.isMissingDirectory)
      = (missing root sidebar).countP fun found => !found.what.isMissingPage :=
    List.countP_congr fun found hfound => by rw [hsplit found hfound]
  rw [← countP_missingPage root sidebar, ← countP_missingDirectory root sidebar, hdirectories]
  have hlength := List.length_eq_countP_add_countP (l := missing root sidebar)
    fun found => found.what.isMissingPage
  simpa only [Bool.not_eq_true, Bool.decide_eq_false] using hlength

/-! ## Where it is missing -/

/-- **The field of the reference of a node**, as the check of a sidebar
has it. -/
structure IsReferenceField (packages : List String) (node : Node) (place : Place) : Prop where
  /-- Whatever is found wrong with the slug, its package or the directory
  of the node is found there. -/
  errors : ∀ sidebar, ∀ check ∈ [Check.slug, .package, .directory],
    ∀ e ∈ errorAt? packages sidebar node check, e.place = place
  /-- What is odd about the slug is found there. -/
  warnings : ∀ e ∈ warningAt? node, e.place = place
  /-- Were the reference no relative path, that would be reported there. -/
  faults : ∀ sidebar text fault, Entry.at? sidebar node.1 = some (node.2.referTo text) →
    fault? text = some fault → ∃ what, (what = .slug text fault ∨ what = .directory fault)
      ∧ ⟨place, what⟩ ∈ Validation.sidebarDefects packages sidebar

/-- **A reference that is no relative path is reported** at the field at
which it would be reported to lead nowhere. -/
theorem found?_referTo (packages : List String) (before : List Entry) {place : Place}
    {entry : Entry} {r : Requirement} (hr : requirement? root place entry = some r) {text : String}
    {fault : RelativePath.Fault} (hfault : fault? text = some fault) :
    ∃ check what, (what = .slug text fault ∨ what = .directory fault)
      ∧ Check.found? packages before place (entry.referTo text) check = some ⟨r.place, what⟩ := by
  cases entry with
  | slug slug =>
    cases hr
    refine ⟨.slug, .slug text fault, Or.inl rfl, ?_⟩
    show ((fault? text).map _).map _ = _
    rw [hfault]
    rfl
  | page slug label =>
    cases hr
    refine ⟨.slug, .slug text fault, Or.inl rfl, ?_⟩
    show ((fault? text).map _).map _ = _
    rw [hfault]
    rfl
  | autogenerate label directory collapsed =>
    cases hr
    refine ⟨.directory, .directory fault, Or.inr rfl, ?_⟩
    show ((fault? text).map _).map _ = _
    rw [hfault]
    rfl
  | group label items collapsed => cases hr
  | link label target => cases hr

/-- The slug of a page is its reference. -/
theorem names_of_pageSlug? {entry : Entry} {slug : String} (h : entry.pageSlug? = some slug) :
    Check.slug.names entry = referenceNames entry := by
  cases entry <;> cases h <;> rfl

/-- **A check of a slug, its package or a directory** that fails is about
the reference of the entry. -/
theorem names_of_fails {packages : List String} {before : List Entry} {entry : Entry}
    {check : Check} (hcheck : check ∈ [Check.slug, .package, .directory])
    (h : check.Fails packages before entry) : check.names entry = referenceNames entry := by
  simp only [List.mem_cons, List.not_mem_nil, or_false] at hcheck
  rcases hcheck with rfl | rfl | rfl
  · obtain ⟨slug, hslug, -⟩ := h
    exact names_of_pageSlug? hslug
  · obtain ⟨name, hslug, -⟩ := h
    exact names_of_pageSlug? hslug
  · obtain ⟨label, directory, collapsed, rfl, -⟩ := h
    rfl

/-- **A reference that leads nowhere is reported at the field at which the
check of the sidebar reports it.** -/
theorem isReferenceField_of_dangling? (packages : List String) {node : Node}
    {found : Located Defect} (h : dangling? root node = some found) :
    IsReferenceField packages node found.place := by
  obtain ⟨r, hr, rfl⟩ := Option.map_eq_some_iff.mp h
  have hplace := place_of_requirement? hr
  refine ⟨fun sidebar check hcheck e he => ?_, fun e he => ?_, fun sidebar text fault hat hfault => ?_⟩
  · have hfails := (Sidebar.isSome_errorAt?_iff packages sidebar node check).mp
      (Option.isSome_of_mem he)
    rw [Sidebar.place_of_errorAt? he, Check.place, names_of_fails hcheck hfails]
    exact hplace.symm
  · obtain ⟨found, hfound, -⟩ := Option.map_eq_some_iff.mp he
    obtain ⟨slug, hslug, -⟩ := Option.map_eq_some_iff.mp hfound
    rw [Sidebar.place_of_warningAt? he, Check.place,
      names_of_pageSlug? (Option.filter_eq_some_iff.mp hslug).1]
    exact hplace.symm
  · obtain ⟨check, what, hwhat, hfound⟩ :=
      found?_referTo packages (Entry.earlier sidebar node.1) hr hfault
    have hnode := (Sidebar.mem_nodes_iff sidebar node.1 _).mpr hat
    exact ⟨what, hwhat, Sidebar.mem_sidebarDefects hnode hfound⟩

/-! ## The three walks -/

/-- In a sidebar without defects all references are relative paths. -/
theorem isReferable_of_sidebarDefects {packages : List String}
    (h : Validation.sidebarDefects packages sidebar = []) {path : List Nat} {entry : Entry}
    (hat : Entry.at? sidebar path = some entry) : entry.IsReferable where
  slug slug hslug := (RelativePath.fault?_eq_none_iff slug).mpr (isPath_of_pageSlug? h hat hslug)
  directory label directory collapsed hentry := by
    subst hentry
    exact (RelativePath.fault?_eq_none_iff directory).mpr (isPath_of_autogenerate h hat)

/-- **The walks over a sidebar visit the same nodes, each of them once.**
The nodes are those that positions lead to, in the order of their
positions. The counts of a sidebar are numbers of nodes; they add up over
a concatenation, and a group counts once, and what is in it. If all
references are relative paths, resolving the sidebar in an empty directory
reports one missing page for each page that is counted and one missing
directory for each that is listed, and nothing else, each at the field at
which the check of the sidebar reports what is wrong with the same slug or
directory. -/
theorem traversals_agree (config : SiteConfig) :
    (∀ path entry,
        (path, entry) ∈ nodes config.sidebar ↔ Entry.at? config.sidebar path = some entry)
      ∧ ((nodes config.sidebar).map Prod.fst).Pairwise (List.Lex (· < ·))
      ∧ Stats.OfNodes config.sidebar (Stats.ofEntries config.sidebar)
      ∧ (∀ entry : Entry, entry.isPackage = true
          ↔ ∃ name, entry.pageSlug? = some (Entry.packagesDirectory ++ name))
      ∧ (Stats.ofEntries config.sidebar).packages ≤ (Stats.ofEntries config.sidebar).pages
      ∧ (∀ more, Stats.ofEntries (config.sidebar ++ more)
          = Stats.ofEntries config.sidebar + Stats.ofEntries more)
      ∧ (∀ label collapsed, Stats.ofEntries [.group label config.sidebar collapsed]
          = { groups := 1 } + Stats.ofEntries config.sidebar)
      ∧ ∀ (w : Workspace) (root : String) (t : Transcript), w.IsEmptyDirectory root →
        (∀ path entry, Entry.at? config.sidebar path = some entry → entry.IsReferable) →
        on (resolve config root) t w
            = (((if missing root config.sidebar = [] then .ok ()
              else .error (.rejected ⟨(missing root config.sidebar).map Report.ofDefect, []⟩)), t),
              w)
          ∧ (missing root config.sidebar).countP (fun found => found.what.isMissingPage)
            = (Stats.ofEntries config.sidebar).pages
          ∧ (missing root config.sidebar).length = (Stats.ofEntries config.sidebar).pages
            + (nodes config.sidebar).countP (fun node => node.2.isListed)
          ∧ (∀ path entry slug, Entry.at? config.sidebar path = some entry →
            entry.pageSlug? = some slug →
            ∃ place, dangling? root (path, entry) = some ⟨place, .missingPage slug root⟩)
          ∧ (∀ path label directory collapsed,
            Entry.at? config.sidebar path = some (.autogenerate label directory collapsed) →
            ∃ place, dangling? root (path, .autogenerate label directory collapsed)
              = some ⟨place, .missingDirectory (join root directory)⟩)
          ∧ ∀ node ∈ nodes config.sidebar, ∀ found, dangling? root node = some found →
            ∀ packages, IsReferenceField packages node found.place := by
  have hcounts := Stats.ofNodes_ofEntries config.sidebar
  refine ⟨Sidebar.mem_nodes_iff config.sidebar, Sidebar.nodes_sorted config.sidebar, hcounts,
    Entry.isPackage_iff, hcounts.packages_le_pages, Stats.ofEntries_append config.sidebar,
    fun label collapsed => Stats.add_zero _, fun w root t hempty hsidebar => ?_⟩
  refine ⟨resolve_on_of_isEmpty config hempty hsidebar t, countP_missingPage root config.sidebar,
    length_missing root config.sidebar, fun path entry slug _ => dangling?_of_pageSlug? root path,
    fun path label directory collapsed _ => dangling?_of_autogenerate root path _ _ _, ?_⟩
  intro node _ found hfound packages
  exact isReferenceField_of_dangling? packages hfound

/-- A tree with nothing in the directory of the content. -/
def emptyContent : Workspace where
  tree := ⟨[(["docs"], .directory)]⟩

theorem isEmptyDirectory_emptyContent : emptyContent.IsEmptyDirectory "docs" where
  directory := by rfl
  empty top more htop hmore := by
    have hdocs : emptyContent.leads? "docs" = .ok ["docs"] := by rfl
    rw [hdocs] at htop
    injection htop with htop
    subst htop
    unfold emptyContent Files.Tree.get?
    cases more with
    | nil => exact absurd rfl hmore
    | cons name more => simp

theorem traversals_agree_emptyContent :
    emptyContent.IsEmptyDirectory "docs"
      ∧ (∀ path entry, Entry.at? sampleSidebar path = some entry → entry.IsReferable)
      ∧ on (resolve { title := "t", sidebar := sampleSidebar } "docs") {} emptyContent
        = (((.error (.rejected ⟨(missing "docs" sampleSidebar).map Report.ofDefect, []⟩)), {}),
          emptyContent)
      ∧ (missing "docs" sampleSidebar).length = (Stats.ofEntries sampleSidebar).pages + 1
      ∧ (missing "docs" sampleSidebar).map (fun found => found.place.text)
        = ["sidebar[0]", "sidebar[1].items[0].slug", "sidebar[1].items[2].slug",
          "sidebar[2].autogenerate.directory"] := by
  have hclean : Validation.sidebarDefects [] sampleSidebar = [] := by rfl
  have hsidebar : ∀ path entry, Entry.at? sampleSidebar path = some entry → entry.IsReferable :=
    fun path entry => isReferable_of_sidebarDefects hclean
  obtain ⟨-, -, -, -, -, -, -, h⟩ := traversals_agree { title := "t", sidebar := sampleSidebar }
  obtain ⟨hresolve, -, hlength, -⟩ :=
    h emptyContent "docs" {} isEmptyDirectory_emptyContent hsidebar
  exact ⟨isEmptyDirectory_emptyContent, hsidebar, hresolve, hlength, by rfl⟩

end Content

end DocSite
