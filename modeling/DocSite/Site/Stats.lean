import DocSite.Site.Entry

/-!
# Counting the entries of a sidebar

How many pages, packages, links and groups a sidebar has, at all depths.
A page of a package counts as a page too, and a listed directory counts
as a group.
-/

namespace DocSite

/-- **The entries of a sidebar, counted by kind.** -/
structure Stats where
  /-- References to pages. -/
  pages : Nat := 0
  /-- References to pages of packages, which are among the pages. -/
  packages : Nat := 0
  /-- Links to other addresses. -/
  links : Nat := 0
  /-- Groups and listed directories. -/
  groups : Nat := 0
deriving DecidableEq

namespace Stats

/-- Counts added kind by kind. -/
def add (a b : Stats) : Stats :=
  ⟨a.pages + b.pages, a.packages + b.packages, a.links + b.links, a.groups + b.groups⟩

instance : Add Stats := ⟨add⟩

/-- The count of a reference to a page. -/
def ofPage (slug : String) : Stats :=
  { pages := 1, packages := if (Entry.packageName? slug).isSome then 1 else 0 }

mutual

/-- The entries of one node, itself included. -/
def ofEntry : Entry → Stats
  | .slug slug => ofPage slug
  | .page slug _ => ofPage slug
  | .link _ _ => { links := 1 }
  | .autogenerate _ _ _ => { groups := 1 }
  | .group _ items _ => { groups := 1 } + ofEntries items

/-- **The entries of a sidebar.** -/
def ofEntries : List Entry → Stats
  | [] => {}
  | entry :: entries => ofEntry entry + ofEntries entries

end

end Stats

end DocSite
