import DocSite.Text.Segments

/-!
# Entries of the sidebar

The sidebar is a tree. Its leaves refer to pages by slug, to other
addresses by link, or to a directory whose pages are listed; its inner
nodes are groups with a label.

Siblings are told apart by their `key`: the label, or the slug where
there is no label.
-/

namespace DocSite

/-- **A node of the sidebar.** -/
inductive Entry where
  /-- A page, by its slug alone. -/
  | slug (slug : String)
  /-- A group of entries. -/
  | group (label : String) (items : List Entry) (collapsed : Bool)
  /-- A group that lists the pages of a directory. -/
  | autogenerate (label directory : String) (collapsed : Bool)
  /-- A link to another address. -/
  | link (label target : String)
  /-- A page with a label of its own, if any. -/
  | page (slug : String) (label : Option String)

namespace Entry

mutual

/-- Equality of entries is decidable. -/
def decEq : (a b : Entry) → Decidable (a = b)
  | .slug a, .slug b => decidable_of_iff (a = b) (by simp)
  | .group a as ac, .group b bs bc =>
    match decEqList as bs with
    | .isTrue h => decidable_of_iff (a = b ∧ ac = bc) (by simp [h])
    | .isFalse h => .isFalse (by simp [h])
  | .autogenerate a ad ac, .autogenerate b bd bc =>
    decidable_of_iff (a = b ∧ ad = bd ∧ ac = bc) (by simp)
  | .link a s, .link b t => decidable_of_iff (a = b ∧ s = t) (by simp)
  | .page a al, .page b bl => decidable_of_iff (a = b ∧ al = bl) (by simp)
  | .slug _, .group _ _ _ => .isFalse (by simp)
  | .slug _, .autogenerate _ _ _ => .isFalse (by simp)
  | .slug _, .link _ _ => .isFalse (by simp)
  | .slug _, .page _ _ => .isFalse (by simp)
  | .group _ _ _, .slug _ => .isFalse (by simp)
  | .group _ _ _, .autogenerate _ _ _ => .isFalse (by simp)
  | .group _ _ _, .link _ _ => .isFalse (by simp)
  | .group _ _ _, .page _ _ => .isFalse (by simp)
  | .autogenerate _ _ _, .slug _ => .isFalse (by simp)
  | .autogenerate _ _ _, .group _ _ _ => .isFalse (by simp)
  | .autogenerate _ _ _, .link _ _ => .isFalse (by simp)
  | .autogenerate _ _ _, .page _ _ => .isFalse (by simp)
  | .link _ _, .slug _ => .isFalse (by simp)
  | .link _ _, .group _ _ _ => .isFalse (by simp)
  | .link _ _, .autogenerate _ _ _ => .isFalse (by simp)
  | .link _ _, .page _ _ => .isFalse (by simp)
  | .page _ _, .slug _ => .isFalse (by simp)
  | .page _ _, .group _ _ _ => .isFalse (by simp)
  | .page _ _, .autogenerate _ _ _ => .isFalse (by simp)
  | .page _ _, .link _ _ => .isFalse (by simp)

/-- Equality of lists of entries is decidable. -/
def decEqList : (as bs : List Entry) → Decidable (as = bs)
  | [], [] => .isTrue rfl
  | [], _ :: _ => .isFalse (by simp)
  | _ :: _, [] => .isFalse (by simp)
  | a :: as, b :: bs =>
    match decEq a b, decEqList as bs with
    | .isTrue h, .isTrue hs => .isTrue (by simp [h, hs])
    | .isFalse h, _ => .isFalse (by simp [h])
    | _, .isFalse hs => .isFalse (by simp [hs])

end

instance : DecidableEq Entry := decEq

/-- The directory under which the pages of packages live. -/
def packagesDirectory : String := "packages/"

/-- The page of a package. -/
def package (name : String) : Entry :=
  .slug (packagesDirectory ++ name)

/-- The slug of the page an entry refers to, if it refers to one. -/
def pageSlug? : Entry → Option String
  | .slug s => some s
  | .page s _ => some s
  | _ => none

/-- **What tells an entry from its siblings**: the label, or the slug of
a page without one. -/
def key : Entry → String
  | .slug s => s
  | .page s label => label.getD s
  | .link label _ => label
  | .group label _ _ => label
  | .autogenerate label _ _ => label

/-- The entries of a group; nothing else has any. -/
def children : Entry → List Entry
  | .group _ items _ => items
  | _ => []

/-- The name of the package whose page a slug is. -/
def packageName? (s : String) : Option String :=
  (Text.stripPrefix? packagesDirectory.toList s.toList).map String.ofList

/-- Whether an entry refers to the page of a package. -/
def isPackage (entry : Entry) : Bool :=
  match entry.pageSlug? with
  | some s => (packageName? s).isSome
  | none => false

end Entry

end DocSite
