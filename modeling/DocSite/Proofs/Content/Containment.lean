import Mathlib.Tactic.Common
import DocSite.Proofs.Content.Resolution
import DocSite.Proofs.Files.Below

/-!
# A check of the content stays below its root

The check of a sidebar and the check of the content are two walks that
know nothing of each other. What the first establishes of slugs and of
listed directories is what keeps the second below its root: a slug without
defects is a relative path, and so is the slug with any of the endings of
a page behind it.

`Watched` is a disk that remembers what it is asked. `resolve_asks_below`
says that a check of the content asks it about the root first, and from
there on only about paths below it.
-/

namespace DocSite

open Files (Workspace Kind Below join)
open RelativePath (IsPath)
open Command (Disk Session Transcript resolve firstOfKind unmet)

/-! ## A disk that remembers -/

/-- **A tree of files and the paths it has been asked about**, in order. -/
structure Watched where
  /-- The files. -/
  files : Workspace
  /-- The paths. -/
  asked : List String := []

namespace Watched

variable {α : Type}

/-- Does something with the files. -/
def within (action : StateM Workspace α) : StateM Watched α :=
  fun s => ((action.run s.files).1, { s with files := (action.run s.files).2 })

/-- Does something with the file of a path, and remembers the path. -/
def noting (path : String) (action : StateM Workspace α) : StateM Watched α := do
  modify fun s => { s with asked := s.asked ++ [path] }
  within action

/-- A tree that remembers is a disk as it is without. -/
instance : Disk (StateM Watched) where
  here := within Disk.here
  kind? path := noting path (Disk.kind? path)
  read path := noting path (Disk.read path)
  write path text := noting path (Disk.write path text)

/-- **Asking only about some paths**: the files are left as they are, and
every path that is remembered afterwards is one of them. -/
def AsksOnly (p : String → Prop) (action : StateM Watched α) : Prop :=
  ∀ s, ∃ more, (action.run s).2 = { s with asked := s.asked ++ more } ∧ ∀ path ∈ more, p path

theorem AsksOnly.pure (p : String → Prop) (a : α) : AsksOnly p (pure a) := fun s =>
  ⟨[], by rw [List.append_nil]; rfl, fun _ h => absurd h List.not_mem_nil⟩

theorem AsksOnly.kind? {p : String → Prop} {path : String} (h : p path) :
    AsksOnly p (Disk.kind? path : StateM Watched _) :=
  fun _ => ⟨[path], rfl, fun _ hother => List.mem_singleton.mp hother ▸ h⟩

/-- **Asking one thing after the other.** -/
theorem AsksOnly.bind {β : Type} {p : String → Prop} {action : StateM Watched α}
    {next : α → StateM Watched β} (h : AsksOnly p action) (h' : ∀ a, AsksOnly p (next a)) :
    AsksOnly p (action >>= next) := by
  intro s
  obtain ⟨first, hstate, hfirst⟩ := h s
  obtain ⟨second, hstate', hsecond⟩ := h' (action.run s).1 (action.run s).2
  refine ⟨first ++ second, ?_, fun path hpath => ?_⟩
  · show ((next (action.run s).1).run (action.run s).2).2 = _
    rw [hstate', hstate, List.append_assoc]
  · exact (List.mem_append.mp hpath).elim (hfirst path) (hsecond path)

theorem asksOnly_firstOfKind {p : String → Prop} (kind : Kind) {paths : List String}
    (h : ∀ path ∈ paths, p path) : AsksOnly p (firstOfKind kind paths) := by
  induction paths with
  | nil => exact AsksOnly.pure p none
  | cons path paths ih =>
    refine (AsksOnly.kind? (h path List.mem_cons_self)).bind fun found => ?_
    split
    · exact AsksOnly.pure p (some path)
    · exact ih fun other hother => h other (List.mem_cons_of_mem _ hother)

/-- **Looking for what is not met** asks about none but the paths of the
requirements. -/
theorem asksOnly_unmet {p : String → Prop} {requirements : List Requirement}
    (h : ∀ r ∈ requirements, ∀ path ∈ r.candidates, p path) : AsksOnly p (unmet requirements) := by
  induction requirements with
  | nil => exact AsksOnly.pure p []
  | cons r requirements ih =>
    refine (asksOnly_firstOfKind r.kind (h r List.mem_cons_self)).bind fun found => ?_
    refine (ih fun other hother => h other (List.mem_cons_of_mem _ hother)).bind fun others => ?_
    exact AsksOnly.pure p _

/-- **What a session asks about** on a tree of files. -/
def questions (session : Session (StateM Watched) α) (t : Transcript) (w : Workspace) :
    List String :=
  (StateT.run (session.run.run t) ⟨w, []⟩).2.asked

/-- **A check of the content asks about its root**, and then about what the
sidebar asks for. -/
theorem questions_resolve {p : String → Prop} (config : SiteConfig) (root : String)
    (h : ∀ r ∈ Content.requirements root config.sidebar, ∀ path ∈ r.candidates, p path)
    (t : Transcript) (w : Workspace) :
    ∃ more, questions (resolve config root) t w = root :: more ∧ ∀ path ∈ more, p path := by
  obtain ⟨more, hstate, hmore⟩ := asksOnly_unmet h ⟨w, [root]⟩
  have hask : ∀ {β : Type} (question : StateM Watched β) (next : β → Session (StateM Watched) Unit)
      (s : Watched), StateT.run ((Session.ask question >>= next).run.run t) s
        = StateT.run ((next (question.run s).1).run.run t) (question.run s).2 := fun _ _ _ => rfl
  have hkind : StateT.run (Disk.kind? root : StateM Watched _) ⟨w, []⟩
      = (w.kind? root, ⟨w, [root]⟩) := rfl
  unfold questions resolve
  rw [hask, hkind]
  dsimp only
  by_cases hroot : w.kind? root = some .directory
  · refine ⟨more, ?_, hmore⟩
    rw [if_pos hroot, hask, hstate]
    dsimp only
    split <;> rfl
  · refine ⟨[], ?_, fun path hpath => absurd hpath List.not_mem_nil⟩
    rw [if_neg hroot]
    rfl

end Watched

/-! ## Sidebars without defects -/

namespace Content

variable {packages : List String} {sidebar : List Entry}

/-- In a sidebar without defects no check fails at a node. -/
theorem not_fails_of_sidebarDefects (h : Validation.sidebarDefects packages sidebar = [])
    {path : List Nat} {entry : Entry} (hat : Entry.at? sidebar path = some entry) (check : Check) :
    ¬check.Fails packages (Entry.earlier sidebar path) entry := by
  have hnode := (Sidebar.mem_nodes_iff sidebar path entry).mpr hat
  have herrors := Sidebar.errors_eq packages sidebar
  rw [h, List.map_nil, eq_comm, List.flatMap_eq_nil_iff] at herrors
  have hcheck := List.filterMap_eq_nil_iff.mp (herrors _ hnode) check check.mem_all
  rw [← Sidebar.isSome_errorAt?_iff packages sidebar (path, entry) check, hcheck]
  exact Bool.false_ne_true

/-- **Every slug of a sidebar without defects is a relative path**,
whichever kind of page it belongs to. -/
theorem isPath_of_pageSlug? (h : Validation.sidebarDefects packages sidebar = [])
    {path : List Nat} {entry : Entry} (hat : Entry.at? sidebar path = some entry) {slug : String}
    (hslug : entry.pageSlug? = some slug) : IsPath slug := by
  by_contra hpath
  exact not_fails_of_sidebarDefects h hat .slug ⟨slug, hslug, hpath⟩

/-- **Every listed directory of a sidebar without defects is a relative
path.** -/
theorem isPath_of_autogenerate (h : Validation.sidebarDefects packages sidebar = [])
    {path : List Nat} {label directory : String} {collapsed : Bool}
    (hat : Entry.at? sidebar path = some (.autogenerate label directory collapsed)) :
    IsPath directory := by
  by_contra hpath
  exact not_fails_of_sidebarDefects h hat .directory ⟨label, directory, collapsed, rfl, hpath⟩

/-- **The four paths of a page are below the root** if its slug is a
relative path. -/
theorem below_of_mem_pagePaths (root : String) {slug : String} (h : IsPath slug) {path : String}
    (hmem : path ∈ pagePaths root slug) : Below root path := by
  have hflat : ∀ ending ∈ [".md", ".mdx"], IsPath (slug ++ ending) := by
    intro ending hending
    refine h.ended ?_ ?_
    · revert ending; decide
    · revert ending; simp [Text.isBlank, Text.blankRanges]
  have hindex : ∀ name ∈ ["index.md", "index.mdx"], IsPath name := by
    intro name hname
    rw [← RelativePath.fault?_eq_none_iff]
    revert name; decide
  unfold pagePaths at hmem
  rw [Files.join_join root h (hindex "index.md" (by simp)),
    Files.join_join root h (hindex "index.mdx" (by simp))] at hmem
  simp only [List.mem_cons, List.not_mem_nil, or_false] at hmem
  rcases hmem with rfl | rfl | rfl | rfl
  · exact Files.below_join root (hflat ".md" (by simp))
  · exact Files.below_join root (hflat ".mdx" (by simp))
  · exact Files.below_join root (h.down (hindex "index.md" (by simp)))
  · exact Files.below_join root (h.down (hindex "index.mdx" (by simp)))

/-- **What an entry asks for is below the root**, if its slug or the
directory it lists is a relative path. -/
theorem below_of_mem_candidates (root : String) {place : Place} {entry : Entry}
    (hslug : ∀ slug, entry.pageSlug? = some slug → IsPath slug)
    (hdirectory : ∀ label directory collapsed, entry = .autogenerate label directory collapsed →
      IsPath directory)
    {r : Requirement} (hr : requirement? root place entry = some r) {path : String}
    (hmem : path ∈ r.candidates) : Below root path := by
  cases entry with
  | slug slug =>
    cases hr
    exact below_of_mem_pagePaths root (hslug slug rfl) (pageCandidates_eq root slug ▸ hmem)
  | page slug label =>
    cases hr
    exact below_of_mem_pagePaths root (hslug slug rfl) (pageCandidates_eq root slug ▸ hmem)
  | autogenerate label directory collapsed =>
    cases hr
    rw [List.mem_singleton.mp hmem]
    exact Files.below_join root (hdirectory label directory collapsed rfl)
  | group label items collapsed => cases hr
  | link label target => cases hr

/-- **What a sidebar without defects asks for is below the root.** -/
theorem below_of_mem_requirements (h : Validation.sidebarDefects packages sidebar = [])
    (root : String) {r : Requirement} (hr : r ∈ requirements root sidebar) {path : String}
    (hmem : path ∈ r.candidates) : Below root path := by
  rw [requirements_eq] at hr
  obtain ⟨⟨position, entry⟩, hnode, hr⟩ := List.mem_filterMap.mp hr
  have hat := (Sidebar.mem_nodes_iff sidebar position entry).mp hnode
  refine below_of_mem_candidates root (fun slug => isPath_of_pageSlug? h hat) ?_ hr hmem
  rintro label directory collapsed rfl
  exact isPath_of_autogenerate h hat

/-- **A check of the content stays below its root**, if the sidebar has no
defects. The paths of every page and of every listed directory, at any
depth, are the root with a relative path behind it. A check asks about the
root, and then about such paths only, whatever is on the disk; and where
one of them leads, if anywhere, is below where the root leads. -/
theorem resolve_asks_below (packages : List String) (config : SiteConfig) (root : String)
    (h : Validation.sidebarDefects packages config.sidebar = []) :
    (∀ path entry, Entry.at? config.sidebar path = some entry →
        (∀ slug, entry.pageSlug? = some slug → ∀ p ∈ pagePaths root slug, Below root p)
          ∧ ∀ label directory collapsed, entry = .autogenerate label directory collapsed →
            Below root (join root directory))
      ∧ (∀ (t : Transcript) (w : Workspace), ∃ more,
          Watched.questions (resolve config root) t w = root :: more ∧ ∀ p ∈ more, Below root p)
      ∧ ∀ (w : Workspace) (p : String) (there : List String), Below root p →
          w.leads? p = .ok there →
          ∃ top more, w.leads? root = .ok top ∧ more ≠ [] ∧ there = top ++ more := by
  refine ⟨fun path entry hat => ⟨fun slug hslug p hp => ?_, ?_⟩, fun t w => ?_,
    fun w p there hbelow => Files.Workspace.leads?_of_below hbelow⟩
  · exact below_of_mem_pagePaths root (isPath_of_pageSlug? h hat hslug) hp
  · rintro label directory collapsed rfl
    exact Files.below_join root (isPath_of_autogenerate h hat)
  · exact Watched.questions_resolve config root
      (fun r hr path hmem => below_of_mem_requirements h root hr hmem) t w

theorem resolve_asks_below_sampleContent :
    Validation.sidebarDefects [] sampleSidebar = []
      ∧ Below "docs" "docs/queue/index.md"
      ∧ (∃ more, Watched.questions (resolve { title := "t", sidebar := sampleSidebar } "docs") {}
            sampleContent = "docs" :: more
          ∧ more.length = 10 ∧ ∀ p ∈ more, Below "docs" p)
      ∧ ∃ top more, sampleContent.leads? "docs" = .ok top ∧ more ≠ []
          ∧ ["docs", "queue", "index.md"] = top ++ more := by
  have hclean : Validation.sidebarDefects [] sampleSidebar = [] := by rfl
  obtain ⟨hpaths, hasks, hleads⟩ :=
    resolve_asks_below [] { title := "t", sidebar := sampleSidebar } "docs" hclean
  obtain ⟨more, hmore, hbelow⟩ := hasks {} sampleContent
  have hpage : Below "docs" "docs/queue/index.md" :=
    (hpaths [1, 0] (.page "queue" none) rfl).1 "queue" rfl _ (by decide)
  refine ⟨hclean, hpage, ⟨more, hmore, ?_, hbelow⟩, hleads sampleContent _ _ hpage (by rfl)⟩
  have hlength : (Watched.questions (resolve { title := "t", sidebar := sampleSidebar } "docs") {}
      sampleContent).length = 11 := by rfl
  rw [hmore] at hlength
  exact Nat.succ.inj hlength

end Content

end DocSite
