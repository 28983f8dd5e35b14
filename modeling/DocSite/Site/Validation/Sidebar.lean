import DocSite.Site.Defect
import DocSite.Site.Entry
import DocSite.Text.Blank
import DocSite.Unicode.Uppercase
import DocSite.Url.Basic

/-!
# The sidebar

The sidebar is checked from the top down: an entry first against the
siblings before it, then by itself, then the entries in it. So defects
come in the order in which a reader of the configuration meets them.

Cautions depend on slugs alone, and are collected by a walk of their
own.
-/

namespace DocSite.Validation

/-- The place of the sidebar. -/
def sidebarPlace : Place := ⟨"sidebar", []⟩

/-- The defects of a label. -/
def labelDefects (place : Place) (label : String) : List (Located Defect) :=
  if Text.blank label then [⟨place.key "label", .blankLabel⟩] else []

/-- Whether a slug that is a relative path names a page of a package that
is not known. Where no packages are known, none is missed. -/
def unknownPackage? (packages : List String) (slug : String) : Option String :=
  (Entry.packageName? slug).filter fun name => !packages.isEmpty && !packages.contains name

/-- **The defect of a slug**, if it has one. -/
def slugDefects (packages : List String) (place : Place) (slug : String) :
    List (Located Defect) :=
  match RelativePath.fault? slug with
  | some fault => [⟨place, .slug slug fault⟩]
  | none =>
    match unknownPackage? packages slug with
    | some name => [⟨place, .unknownPackage name packages⟩]
    | none => []

/-- The defect of the target of a link: it is an absolute path or a URL. -/
def targetDefects (place : Place) (target : String) : List (Located Defect) :=
  if target.toList.head? = some '/' then []
  else match Url.parse target.toList with
    | .ok _ => []
    | .error e => [⟨place, .link target e⟩]

/-- The defect of a listed directory. -/
def directoryDefects (place : Place) (directory : String) : List (Located Defect) :=
  match RelativePath.fault? directory with
  | some fault => [⟨place, .directory fault⟩]
  | none => []

/-- The defect of a key that a sibling has, `seen` being the keys of the
siblings before. A blank key is no key: it is a defect of its own. -/
def keyDefects (seen : List String) (place : Place) (key : String) : List (Located Defect) :=
  if !Text.blank key && seen.contains key then [⟨place, .sharedKey key⟩] else []

mutual

/-- **The defects of an entry** and of what is in it. -/
def entryDefects (packages : List String) (place : Place) : Entry → List (Located Defect)
  | .slug slug => slugDefects packages place slug
  | .page slug label =>
    slugDefects packages (place.key "slug") slug ++ label.elim [] (labelDefects place)
  | .link label target => labelDefects place label ++ targetDefects (place.key "link") target
  | .group label items _ =>
    labelDefects place label
      ++ (if items.isEmpty then [⟨place.key "items", .emptyGroup label⟩] else [])
      ++ levelDefects packages (place.key "items") [] 0 items
  | .autogenerate label directory _ =>
    labelDefects place label
      ++ directoryDefects ((place.key "autogenerate").key "directory") directory

/-- The defects of siblings that start at a position, `seen` being the
keys of those before it. -/
def levelDefects (packages : List String) (parent : Place) :
    (seen : List String) → (position : Nat) → List Entry → List (Located Defect)
  | _, _, [] => []
  | seen, position, entry :: entries =>
    keyDefects seen (parent.index position) entry.key
      ++ entryDefects packages (parent.index position) entry
      ++ levelDefects packages parent (entry.key :: seen) (position + 1) entries

end

/-- **The defects of a sidebar.** -/
def sidebarDefects (packages : List String) (entries : List Entry) : List (Located Defect) :=
  levelDefects packages sidebarPlace [] 0 entries

/-! ## Cautions -/

/-- The caution about a slug that is a relative path. -/
def slugCautions (place : Place) (slug : String) : List (Located Caution) :=
  if (RelativePath.fault? slug).isNone && slug.toList.any Unicode.isUppercase then
    [⟨place, .capitals slug⟩]
  else []

mutual

/-- The cautions about an entry and what is in it. -/
def entryCautions (place : Place) : Entry → List (Located Caution)
  | .slug slug => slugCautions place slug
  | .page slug _ => slugCautions (place.key "slug") slug
  | .link _ _ => []
  | .group _ items _ => levelCautions (place.key "items") 0 items
  | .autogenerate _ _ _ => []

/-- The cautions about siblings that start at a position. -/
def levelCautions (parent : Place) : (position : Nat) → List Entry → List (Located Caution)
  | _, [] => []
  | position, entry :: entries =>
    entryCautions (parent.index position) entry ++ levelCautions parent (position + 1) entries

end

/-- **The cautions about a sidebar.** -/
def sidebarCautions (entries : List Entry) : List (Located Caution) :=
  levelCautions sidebarPlace 0 entries

end DocSite.Validation
