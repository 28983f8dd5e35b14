import DocSite.Files.Tree
import DocSite.Site.Defect
import DocSite.Site.Entry
import DocSite.Site.Validation.Sidebar

/-!
# What a sidebar asks of the content

A sidebar refers to pages and directories below the root of the content.
`Requirement` says what one reference asks for: that one of some paths
leads to a file, or that a path leads to a directory. The requirements of
a sidebar are listed in the order of its entries; which of them a disk
meets is another question.
-/

namespace DocSite

open Files (Kind join)

/-- **What a reference asks for.** -/
structure Requirement where
  /-- Where the reference is. -/
  place : Place
  /-- What it refers to. -/
  kind : Kind
  /-- The paths, one of which has to lead there. -/
  candidates : List String
  /-- What is wrong if none does. -/
  defect : Defect
deriving DecidableEq

namespace Content

/-- The endings of pages. -/
def pageEndings : List String := ["md", "mdx"]

/-- **The files that may hold the page of a slug**, in the order in which
they are looked for. -/
def pageCandidates (root slug : String) : List String :=
  pageEndings.map (fun ending => join root (slug ++ "." ++ ending))
    ++ pageEndings.map (fun ending => join (join root slug) ("index." ++ ending))

/-- What a slug asks for. -/
def pageRequirement (root : String) (place : Place) (slug : String) : Requirement :=
  ⟨place, .file, pageCandidates root slug, .missingPage slug root⟩

/-- What a listed directory asks for. -/
def directoryRequirement (root : String) (place : Place) (directory : String) : Requirement :=
  ⟨place, .directory, [join root directory], .missingDirectory (join root directory)⟩

mutual

/-- **What an entry asks for**, and what is in it. -/
def entryRequirements (root : String) (place : Place) : Entry → List Requirement
  | .slug slug => [pageRequirement root place slug]
  | .page slug _ => [pageRequirement root (place.key "slug") slug]
  | .link _ _ => []
  | .group _ items _ => levelRequirements root (place.key "items") 0 items
  | .autogenerate _ directory _ =>
    [directoryRequirement root ((place.key "autogenerate").key "directory") directory]

/-- What siblings ask for that start at a position. -/
def levelRequirements (root : String) (parent : Place) :
    (position : Nat) → List Entry → List Requirement
  | _, [] => []
  | position, entry :: entries =>
    entryRequirements root (parent.index position) entry
      ++ levelRequirements root parent (position + 1) entries

end

/-- **What a sidebar asks for.** -/
def requirements (root : String) (entries : List Entry) : List Requirement :=
  levelRequirements root Validation.sidebarPlace 0 entries

end Content

end DocSite
