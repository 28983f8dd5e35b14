import Mathlib.Tactic.Common
import DocSite.Proofs.Sidebar.Nodes
import DocSite.Proofs.Validation.Acceptance
import DocSite.Site.Stats

/-!
# The counts of a sidebar

A sidebar is counted on a walk of its own: the count of an entry and of
what is in it, added kind by kind. `Stats.ofNodes_ofEntries` says that
what is counted are its nodes. Each of the numbers adds up over a
concatenation and is one or nothing at an entry by itself, and a number
like that is the number of the nodes, at all depths, that count for it
(`Stats.Counts.ofEntries`).

Pages, links and groups exclude each other and leave nothing out. A page
of a package counts as a page too.
-/

namespace DocSite

open Sidebar (nodes nodesFrom nodesBelow)

namespace Entry

theorem isPackage_iff (entry : Entry) :
    entry.isPackage = true ↔ ∃ name, entry.pageSlug? = some (packagesDirectory ++ name) := by
  unfold isPackage
  cases entry.pageSlug? with
  | none => exact ⟨nofun, nofun⟩
  | some slug =>
    show (packageName? slug).isSome = true ↔ _
    rw [Option.isSome_iff_exists]
    refine exists_congr fun name => ?_
    rw [packageName?_eq_some_iff, Option.some.injEq]

/-- A link to another address. -/
def isLink : Entry → Bool
  | .link _ _ => true
  | _ => false

/-- A group, whether its entries are written out or listed. -/
def isGroup : Entry → Bool
  | .group _ _ _ => true
  | .autogenerate _ _ _ => true
  | _ => false

end Entry

namespace Stats

theorem zero_add (a : Stats) : {} + a = a := by
  show Stats.mk (0 + _) (0 + _) (0 + _) (0 + _) = a
  simp only [Nat.zero_add]

theorem add_zero (a : Stats) : a + {} = a := rfl

theorem add_assoc (a b c : Stats) : a + b + c = a + (b + c) := by
  show Stats.mk _ _ _ _ = Stats.mk _ _ _ _
  congr 1 <;> exact Nat.add_assoc _ _ _

/-- **Counts add up over a concatenation.** -/
theorem ofEntries_append (first second : List Entry) :
    ofEntries (first ++ second) = ofEntries first + ofEntries second := by
  induction first with
  | nil => exact (zero_add _).symm
  | cons entry first ih =>
    show ofEntry entry + ofEntries (first ++ second) = ofEntry entry + ofEntries first + _
    rw [ih, add_assoc]

/-- The count of an entry by itself. -/
def own : Entry → Stats
  | .slug slug => ofPage slug
  | .page slug _ => ofPage slug
  | .link _ _ => { links := 1 }
  | .autogenerate _ _ _ => { groups := 1 }
  | .group _ _ _ => { groups := 1 }

/-- An entry counts by itself, and then what is in it. -/
theorem ofEntry_eq (entry : Entry) : ofEntry entry = own entry + ofEntries entry.children := by
  cases entry <;> rfl

/-- **A number that counts some entries**: it adds up, and an entry by
itself counts once if it is one of them. -/
structure Counts (number : Stats → Nat) (p : Entry → Bool) : Prop where
  /-- Nothing counts in no entries. -/
  zero : number {} = 0
  /-- It adds up. -/
  add : ∀ a b, number (a + b) = number a + number b
  /-- An entry counts once or not at all. -/
  own : ∀ entry, number (own entry) = if p entry then 1 else 0

variable {number : Stats → Nat} {p : Entry → Bool}

mutual

/-- **Such a number is a number of nodes.** -/
theorem Counts.ofEntries (h : Counts number p) : ∀ (entries : List Entry) (position : Nat),
    number (ofEntries entries) = (nodesFrom position entries).countP fun node => p node.2
  | [], _ => h.zero
  | entry :: entries, position => by
    have hentry := h.ofEntry entry position
    have hrest := h.ofEntries entries (position + 1)
    rw [nodesFrom, List.countP_append, ← hentry, ← hrest]
    exact h.add _ _

/-- What is counted at an entry are the entry and the nodes in it. -/
theorem Counts.ofEntry (h : Counts number p) : ∀ (entry : Entry) (position : Nat),
    number (ofEntry entry) = (([position], entry) :: (nodesBelow entry).map
      fun node => (position :: node.1, node.2)).countP fun node => p node.2
  | entry, position => by
    have hbelow : number (Stats.ofEntries entry.children)
        = (nodesBelow entry).countP fun node => p node.2 := by
      cases entry with
      | group label items collapsed => exact h.ofEntries items 0
      | slug slug => exact h.zero
      | autogenerate label directory collapsed => exact h.zero
      | link label target => exact h.zero
      | page slug label => exact h.zero
    rw [ofEntry_eq, h.add, h.own, hbelow, List.countP_cons, List.countP_map, Nat.add_comm]
    rfl

end

/-- Every node is of one of the three kinds that exclude each other. -/
theorem counts_all : Counts (fun a => a.pages + a.links + a.groups) fun _ => true where
  zero := rfl
  add a b := by
    show a.pages + b.pages + (a.links + b.links) + (a.groups + b.groups) = _
    omega
  own entry := by cases entry <;> rfl

theorem counts_pages : Counts pages fun entry => entry.pageSlug?.isSome :=
  ⟨rfl, fun _ _ => rfl, fun entry => by cases entry <;> rfl⟩

theorem counts_packages : Counts packages Entry.isPackage :=
  ⟨rfl, fun _ _ => rfl, fun entry => by cases entry <;> rfl⟩

theorem counts_links : Counts links Entry.isLink :=
  ⟨rfl, fun _ _ => rfl, fun entry => by cases entry <;> rfl⟩

theorem counts_groups : Counts groups Entry.isGroup :=
  ⟨rfl, fun _ _ => rfl, fun entry => by cases entry <;> rfl⟩

/-- **The counts of a sidebar are numbers of its nodes.** -/
structure OfNodes (sidebar : List Entry) (stats : Stats) : Prop where
  /-- Every node is a page, a link or a group. -/
  all : stats.pages + stats.links + stats.groups = (nodes sidebar).length
  /-- The nodes that are pages. -/
  pages : stats.pages = (nodes sidebar).countP fun node => node.2.pageSlug?.isSome
  /-- The nodes that are pages of packages. -/
  packages : stats.packages = (nodes sidebar).countP fun node => node.2.isPackage
  /-- The nodes that are links. -/
  links : stats.links = (nodes sidebar).countP fun node => node.2.isLink
  /-- The nodes that are groups. -/
  groups : stats.groups = (nodes sidebar).countP fun node => node.2.isGroup

/-- **What is counted are nodes**, at all depths. -/
theorem ofNodes_ofEntries (sidebar : List Entry) : OfNodes sidebar (ofEntries sidebar) where
  all := by
    rw [← List.countP_true]
    exact counts_all.ofEntries sidebar 0
  pages := counts_pages.ofEntries sidebar 0
  packages := counts_packages.ofEntries sidebar 0
  links := counts_links.ofEntries sidebar 0
  groups := counts_groups.ofEntries sidebar 0

/-- The pages of packages are among the pages. -/
theorem OfNodes.packages_le_pages {sidebar : List Entry} {stats : Stats}
    (h : OfNodes sidebar stats) : stats.packages ≤ stats.pages := by
  rw [h.packages, h.pages]
  refine List.countP_mono_left fun node _ hpackage => ?_
  obtain ⟨name, hslug⟩ := node.2.isPackage_iff.mp hpackage
  rw [hslug]
  rfl

end Stats

end DocSite
