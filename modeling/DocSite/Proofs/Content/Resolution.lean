import Mathlib.Tactic.Common
import DocSite.Command.Check
import DocSite.Proofs.Command.Session
import DocSite.Proofs.Sidebar.Findings

/-!
# What a check of the content finds

A sidebar refers to pages and directories below a root, and a check asks
the disk for them. `Resolves` says what it is for the reference of one
entry to lead somewhere: the page of a slug is a file under one of four
paths, and a listed directory is a directory.

The program collects what is asked for on a walk and drops what it finds.
`checkSite_verdict` says what this comes to. A check succeeds exactly if
the root is a directory and every reference leads somewhere, at any depth.
Otherwise it says nothing and fails, with one error for each node whose
reference leads nowhere, at the field of the reference, in the order of
the text.
-/

namespace DocSite

open Files (Workspace Kind join)
open Sidebar (Node Walk nodes field fieldText)
open Command (Transcript checkSite resolve pageFile firstOfKind unmet)
open Command.Session (on)

namespace Content

/-! ## References -/

/-- **Where the page of a slug is looked for**, in this order. -/
def pagePaths (root slug : String) : List String :=
  [join root (slug ++ ".md"), join root (slug ++ ".mdx"),
    join (join root slug) "index.md", join (join root slug) "index.mdx"]

/-- **The reference of an entry leads somewhere.** Groups and links refer
to nothing below the root. -/
structure Resolves (w : Workspace) (root : String) (entry : Entry) : Prop where
  /-- The page of a slug is a file, under one of four paths. -/
  page : ∀ slug, entry.pageSlug? = some slug →
    ∃ path ∈ pagePaths root slug, w.kind? path = some .file
  /-- A listed directory is a directory. -/
  directory : ∀ label directory collapsed, entry = .autogenerate label directory collapsed →
    w.kind? (join root directory) = some .directory

/-- **The field of a reference**, below the place of the entry. A slug
alone is no field. -/
def referenceNames : Entry → List String
  | .page _ _ => ["slug"]
  | .autogenerate _ _ _ => ["autogenerate", "directory"]
  | _ => []

/-- What an entry asks for, by itself. -/
def requirement? (root : String) (place : Place) : Entry → Option Requirement
  | .slug slug => some (pageRequirement root place slug)
  | .page slug _ => some (pageRequirement root (place.key "slug") slug)
  | .autogenerate _ directory _ =>
    some (directoryRequirement root ((place.key "autogenerate").key "directory") directory)
  | .group _ _ _ => none
  | .link _ _ => none

/-- A requirement is met if one of its paths leads to what it is for. -/
def met (w : Workspace) (r : Requirement) : Bool :=
  r.candidates.any fun path => w.kind? path = some r.kind

/-- **The error at a node**, if its reference leads nowhere. -/
def unresolved? (w : Workspace) (root : String) (node : Node) : Option Report.Error :=
  ((requirement? root (field node.1) node.2).filter fun r => !met w r).map fun r =>
    Report.ofDefect ⟨r.place, r.defect⟩

variable {w : Workspace} {root : String}

theorem pageCandidates_eq (root slug : String) : pageCandidates root slug = pagePaths root slug := by
  have hflat : ∀ ending, slug ++ "." ++ ending = slug ++ ("." ++ ending) :=
    fun ending => String.append_assoc
  show [join root (slug ++ "." ++ "md"), join root (slug ++ "." ++ "mdx"), _, _] = _
  rw [hflat, hflat]
  rfl

/-- What a page asks for is met if a file is under one of its paths. -/
theorem met_pageRequirement_iff (place : Place) (slug : String) :
    met w (pageRequirement root place slug) = true
      ↔ ∃ path ∈ pagePaths root slug, w.kind? path = some .file := by
  show (pageCandidates root slug).any _ = true ↔ _
  rw [pageCandidates_eq, List.any_eq_true]
  exact exists_congr fun path => and_congr_right fun _ => decide_eq_true_iff

/-- What a listed directory asks for is met if it is one. -/
theorem met_directoryRequirement_iff (place : Place) (directory : String) :
    met w (directoryRequirement root place directory) = true
      ↔ w.kind? (join root directory) = some .directory := by
  show [join root directory].any _ = true ↔ _
  rw [List.any_cons, List.any_nil, Bool.or_false]
  exact decide_eq_true_iff

/-- **A reference leads somewhere if what it asks for is met.** -/
theorem resolves_iff (place : Place) (entry : Entry) :
    Resolves w root entry ↔ ∀ r, requirement? root place entry = some r → met w r = true := by
  cases entry with
  | slug slug =>
    constructor
    · rintro h _ ⟨⟩
      exact (met_pageRequirement_iff place slug).mpr (h.page slug rfl)
    · intro h
      refine ⟨?_, nofun⟩
      rintro _ ⟨⟩
      exact (met_pageRequirement_iff place slug).mp (h _ rfl)
  | page slug label =>
    constructor
    · rintro h _ ⟨⟩
      exact (met_pageRequirement_iff (place.key "slug") slug).mpr (h.page slug rfl)
    · intro h
      refine ⟨?_, nofun⟩
      rintro _ ⟨⟩
      exact (met_pageRequirement_iff (place.key "slug") slug).mp (h _ rfl)
  | autogenerate label directory collapsed =>
    constructor
    · rintro h _ ⟨⟩
      exact (met_directoryRequirement_iff _ directory).mpr (h.directory label directory collapsed rfl)
    · intro h
      refine ⟨nofun, ?_⟩
      rintro _ _ _ ⟨⟩
      exact (met_directoryRequirement_iff _ directory).mp (h _ rfl)
  | group label items collapsed => exact ⟨nofun, fun _ => ⟨nofun, nofun⟩⟩
  | link label target => exact ⟨nofun, fun _ => ⟨nofun, nofun⟩⟩

/-- There is an error at a node if its reference leads nowhere. -/
theorem isSome_unresolved?_iff (node : Node) :
    (unresolved? w root node).isSome ↔ ¬Resolves w root node.2 := by
  rw [resolves_iff (field node.1)]
  unfold unresolved?
  rw [Option.isSome_map, Option.isSome_filter, Option.any_eq_true, not_forall]
  refine exists_congr fun r => ?_
  rw [Classical.not_imp, Bool.not_eq_true, Bool.not_eq_true']

theorem place_of_requirement? {place : Place} {entry : Entry} {r : Requirement}
    (h : requirement? root place entry = some r) :
    r.place = (referenceNames entry).foldl Place.key place := by
  cases entry <;> cases h <;> rfl

theorem text_of_unresolved? {node : Node} {e : Report.Error} (h : e ∈ unresolved? w root node) :
    e.place.text = fieldText node.1 (referenceNames node.2) := by
  obtain ⟨r, hr, rfl⟩ := Option.map_eq_some_iff.mp h
  have hplace := place_of_requirement? (Option.filter_eq_some_iff.mp hr).1
  show r.place.text = _
  rw [hplace]
  exact Sidebar.text_field node.1 (referenceNames node.2)

/-! ## The walk -/

/-- An entry asks for something of its own, and then for what is asked for
in it. -/
theorem entryRequirements_eq (root : String) (place : Place) (entry : Entry) :
    entryRequirements root place entry
      = (requirement? root place entry).toList
        ++ levelRequirements root (place.key "items") 0 entry.children := by
  cases entry <;> rfl

/-- **Requirements are collected on a walk** that looks at each entry
alone. -/
theorem walk_levelRequirements (root : String) :
    Walk (fun place entry => (requirement? root place entry).toList) (levelRequirements root) where
  nil _ _ := rfl
  cons parent position entry entries := by
    rw [levelRequirements, entryRequirements_eq]

/-- What a sidebar asks for, node by node. -/
theorem requirements_eq (root : String) (sidebar : List Entry) :
    requirements root sidebar
      = (nodes sidebar).filterMap fun node => requirement? root (field node.1) node.2 := by
  unfold requirements
  rw [(walk_levelRequirements root).eq_flatMap, List.filterMap_eq_flatMap_toList]

/-- The errors about what is not met, node by node. -/
theorem errors_eq (w : Workspace) (root : String) (sidebar : List Entry) :
    (Report.ofFindings (((requirements root sidebar).filter fun r => !met w r).map
        fun r => ⟨r.place, r.defect⟩) []).errors
      = (nodes sidebar).filterMap (unresolved? w root) := by
  show List.map Report.ofDefect _ = _
  rw [requirements_eq, List.map_map, List.filter_filterMap, List.map_filterMap]
  rfl

/-! ## Asking the disk -/

/-- **Of several paths the first that leads to something of a kind is
found.** -/
theorem firstOfKind_run (kind : Kind) (paths : List String) (w : Workspace) :
    (firstOfKind kind paths : StateM Workspace _).run w
      = (paths.find? fun path => w.kind? path = some kind, w) := by
  induction paths with
  | nil => rfl
  | cons path paths ih =>
    show StateT.run (if w.kind? path = some kind then pure (some path) else firstOfKind kind paths) w
      = _
    rw [List.find?_cons]
    by_cases h : w.kind? path = some kind
    · rw [if_pos h, decide_eq_true h]
      rfl
    · rw [if_neg h, decide_eq_false h]
      exact ih

/-- **What is left over is what is not met.** -/
theorem unmet_run (requirements : List Requirement) (w : Workspace) :
    (unmet requirements : StateM Workspace _).run w
      = (requirements.filter fun r => !met w r, w) := by
  induction requirements with
  | nil => rfl
  | cons r requirements ih =>
    have hstep : (unmet (r :: requirements) : StateM Workspace _).run w
        = (if ((firstOfKind r.kind r.candidates : StateM Workspace _).run w).1.isSome then
            ((unmet requirements : StateM Workspace _).run
              ((firstOfKind r.kind r.candidates : StateM Workspace _).run w).2).1
          else r :: ((unmet requirements : StateM Workspace _).run
            ((firstOfKind r.kind r.candidates : StateM Workspace _).run w).2).1,
          ((unmet requirements : StateM Workspace _).run
            ((firstOfKind r.kind r.candidates : StateM Workspace _).run w).2).2) := rfl
    have hfound : (r.candidates.find? fun path => w.kind? path = some r.kind).isSome = met w r :=
      List.isSome_find?
    rw [hstep, firstOfKind_run, ih, hfound, List.filter_cons]
    cases met w r <;> rfl

/-- **Checking references comes to** the errors at the nodes of the
sidebar, and nothing is said on the way. -/
theorem resolve_on (config : SiteConfig) (root : String) (t : Transcript) (w : Workspace) :
    on (resolve config root) t w
      = (((if w.kind? root = some .directory then
          if (nodes config.sidebar).filterMap (unresolved? w root) = [] then .ok ()
          else .error (.rejected ⟨(nodes config.sidebar).filterMap (unresolved? w root), []⟩)
        else .error (.noContent root)), t), w) := by
  unfold resolve
  rw [Command.Session.on_bind, Command.Session.on_ask]
  show on (if w.kind? root = some .directory then _ else _) t w = _
  by_cases hroot : w.kind? root = some .directory
  · rw [if_pos hroot, if_pos hroot, Command.Session.on_bind, Command.Session.on_ask, unmet_run]
    have hreport : Report.ofFindings (((requirements root config.sidebar).filter
        fun r => !met w r).map fun r => ⟨r.place, r.defect⟩) []
        = ⟨(nodes config.sidebar).filterMap (unresolved? w root), []⟩ := by
      rw [← errors_eq]
      rfl
    dsimp only
    rw [hreport]
    show on (if List.isEmpty _ = true then _ else _) t w = _
    cases (nodes config.sidebar).filterMap (unresolved? w root) <;> rfl
  · rw [if_neg hroot, if_neg hroot]
    rfl

/-- Where references lead somewhere, nothing is left that could fail. -/
theorem checkSite_of_resolve_ok {config : SiteConfig} {t : Transcript}
    (h : on (resolve config root) t w = ((.ok (), t), w)) :
    ∃ t', on (checkSite config (some root)) t w = ((.ok (), t'), w) := by
  unfold checkSite
  dsimp only
  rw [Command.Session.on_bind, h]
  cases config.servedBase? with
  | none => exact ⟨_, rfl⟩
  | some base => exact ⟨_, rfl⟩

/-- Where one does not, nothing else is done. -/
theorem checkSite_of_resolve_error {config : SiteConfig} {t : Transcript}
    {failure : Command.Failure} (h : on (resolve config root) t w = ((.error failure, t), w)) :
    on (checkSite config (some root)) t w = ((.error failure, t), w) := by
  unfold checkSite
  dsimp only
  rw [Command.Session.on_bind, h]

theorem errors_eq_nil_iff (w : Workspace) (root : String) (sidebar : List Entry) :
    (nodes sidebar).filterMap (unresolved? w root) = []
      ↔ ∀ path entry, Entry.at? sidebar path = some entry → Resolves w root entry := by
  rw [List.filterMap_eq_nil_iff]
  have hnode : ∀ node, unresolved? w root node = none ↔ Resolves w root node.2 := by
    intro node
    rw [← Option.not_isSome_iff_eq_none, isSome_unresolved?_iff, not_not]
  constructor
  · intro h path entry hat
    exact (hnode _).mp (h _ ((Sidebar.mem_nodes_iff sidebar path entry).mpr hat))
  · intro h node hmem
    exact (hnode node).mpr (h node.1 node.2 ((Sidebar.mem_nodes_iff sidebar node.1 node.2).mp hmem))

/-- **The verdict of a check of the content.** It succeeds exactly if the
root is a directory and the reference of every node leads somewhere. If
the root is a directory and it fails all the same, it has said nothing and
fails with the errors at the nodes whose references lead nowhere, and no
others. The nodes are those that positions lead to, in the order of their
positions; each of them has at most one error, and that is at the field of
its reference. The page of a slug is the first of its paths under which a
file is. -/
theorem checkSite_verdict (config : SiteConfig) (root : String) (t : Transcript) (w : Workspace) :
    ((∃ t', on (checkSite config (some root)) t w = ((.ok (), t'), w))
        ↔ w.kind? root = some .directory
          ∧ ∀ path entry, Entry.at? config.sidebar path = some entry → Resolves w root entry)
      ∧ (w.kind? root = some .directory → ∀ failure t' w',
          on (checkSite config (some root)) t w = ((.error failure, t'), w') →
          failure = .rejected ⟨(nodes config.sidebar).filterMap (unresolved? w root), []⟩
            ∧ t' = t ∧ w' = w)
      ∧ (w.kind? root ≠ some .directory →
          on (checkSite config (some root)) t w = ((.error (.noContent root), t), w))
      ∧ (∀ path entry,
          (path, entry) ∈ nodes config.sidebar ↔ Entry.at? config.sidebar path = some entry)
      ∧ ((nodes config.sidebar).map Prod.fst).Pairwise (List.Lex (· < ·))
      ∧ (∀ node, ((unresolved? w root node).isSome ↔ ¬Resolves w root node.2)
          ∧ ∀ e ∈ unresolved? w root node, e.place.text = fieldText node.1 (referenceNames node.2))
      ∧ ∀ slug, (pageFile root slug : StateM Workspace _).run w
          = ((pagePaths root slug).find? fun path => w.kind? path = some .file, w) := by
  have hresolve := resolve_on config root t w
  have hnil := errors_eq_nil_iff w root config.sidebar
  refine ⟨?_, ?_, ?_, Sidebar.mem_nodes_iff config.sidebar, Sidebar.nodes_sorted config.sidebar,
    fun node => ⟨isSome_unresolved?_iff node, fun e => text_of_unresolved?⟩, fun slug => ?_⟩
  · rw [← hnil]
    by_cases hroot : w.kind? root = some .directory
    · rw [if_pos hroot] at hresolve
      by_cases herrors : (nodes config.sidebar).filterMap (unresolved? w root) = []
      · rw [if_pos herrors] at hresolve
        exact iff_of_true (checkSite_of_resolve_ok hresolve) ⟨hroot, herrors⟩
      · rw [if_neg herrors] at hresolve
        rw [checkSite_of_resolve_error hresolve]
        exact iff_of_false nofun fun h => herrors h.2
    · rw [if_neg hroot] at hresolve
      rw [checkSite_of_resolve_error hresolve]
      exact iff_of_false nofun fun h => hroot h.1
  · intro hroot failure t' w' hfails
    rw [if_pos hroot] at hresolve
    by_cases herrors : (nodes config.sidebar).filterMap (unresolved? w root) = []
    · rw [if_pos herrors] at hresolve
      obtain ⟨t'', hok⟩ := checkSite_of_resolve_ok hresolve
      rw [hok] at hfails
      exact absurd hfails (by simp)
    · rw [if_neg herrors] at hresolve
      rw [checkSite_of_resolve_error hresolve] at hfails
      injection hfails with hfails hw
      injection hfails with hfailure ht
      injection hfailure with hfailure
      exact ⟨hfailure.symm, ht.symm, hw.symm⟩
  · intro hroot
    rw [if_neg hroot] at hresolve
    exact checkSite_of_resolve_error hresolve
  · unfold pageFile
    rw [firstOfKind_run, pageCandidates_eq]

/-- A tree with a page under its second path, as a directory is under the
first, and a page in a directory of its own. -/
def sampleContent : Workspace where
  tree := ⟨[(["docs"], .directory), (["docs", "intro.md"], .directory),
    (["docs", "intro.mdx"], .file ⟨#[]⟩), (["docs", "queue"], .directory),
    (["docs", "queue", "index.md"], .file ⟨#[]⟩)]⟩

/-- A sidebar with two pages that are there, and a page and a directory
that are not. -/
def sampleSidebar : List Entry :=
  [.slug "intro", .group "Packages" [.page "queue" none, .link "Home" "/", .page "cache" none] false,
    .autogenerate "Reference" "reference" false]

theorem checkSite_verdict_sampleContent :
    sampleContent.kind? "docs" = some .directory
      ∧ on (checkSite { title := "t", sidebar := sampleSidebar } (some "docs")) {} sampleContent
        = ((.error (.rejected
            ⟨(nodes sampleSidebar).filterMap (unresolved? sampleContent "docs"), []⟩), {}),
          sampleContent)
      ∧ ((nodes sampleSidebar).filterMap (unresolved? sampleContent "docs")).map
          (fun e => e.place.text)
        = ["sidebar[1].items[2].slug", "sidebar[2].autogenerate.directory"] := by
  have hroot : sampleContent.kind? "docs" = some .directory := by rfl
  obtain ⟨-, hfails, -⟩ := checkSite_verdict { title := "t", sidebar := sampleSidebar } "docs" {}
    sampleContent
  obtain ⟨hfailure, -, -⟩ := hfails hroot _ _ _ rfl
  exact ⟨hroot, by rw [← hfailure]; rfl, by rfl⟩

end Content

end DocSite
