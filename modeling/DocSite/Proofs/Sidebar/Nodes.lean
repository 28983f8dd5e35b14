import Mathlib.Data.List.Basic
import Mathlib.Tactic.Common
import DocSite.Proofs.Site.Place
import DocSite.Site.Entry
import DocSite.Site.Validation.Sidebar

/-!
# The nodes of a sidebar

Everything the program does with a sidebar it does on a walk: at each
entry first what concerns the entry, then what is in it, then the
siblings behind it. A node of a sidebar can also be named without a walk,
by the positions that lead to it. Here the two are brought together.

`nodes` lists the nodes of a sidebar with their positions. It has every
node once (`mem_nodes_iff`), and in the order of the text, which is the
lexicographic order of positions, a group before what is in it
(`nodes_sorted`). `visitLevel` is the walk, and `visitLevel_eq` says that
what it collects is collected node by node from that list, each node
being looked at with its place and the siblings before it.
-/

namespace DocSite

/-- **The node that positions lead to**, each a position among the entries
of the node before. -/
def Entry.at? (level : List Entry) : List Nat → Option Entry
  | [] => none
  | [i] => level[i]?
  | i :: j :: rest => level[i]?.bind fun entry => Entry.at? entry.children (j :: rest)

/-- **The siblings before a node.** -/
def Entry.earlier (level : List Entry) : List Nat → List Entry
  | [] => []
  | [i] => level.take i
  | i :: j :: rest => level[i]?.elim [] fun entry => Entry.earlier entry.children (j :: rest)

/-- The place of a node whose positions begin in a list at some place. -/
def Place.below (parent : Place) : List Nat → Place
  | [] => parent
  | [i] => parent.index i
  | i :: j :: rest => ((parent.index i).key "items").below (j :: rest)

namespace Sidebar

/-- A node: its positions, and the entry there. -/
abbrev Node := List Nat × Entry

mutual

/-- The nodes of siblings that start at a position. -/
def nodesFrom : (position : Nat) → List Entry → List Node
  | _, [] => []
  | position, entry :: entries =>
    ([position], entry) :: (nodesBelow entry).map (fun node => (position :: node.1, node.2))
      ++ nodesFrom (position + 1) entries

/-- The nodes in an entry. -/
def nodesBelow : Entry → List Node
  | .group _ items _ => nodesFrom 0 items
  | _ => []

end

/-- **The nodes of a sidebar**, in the order of the text. -/
def nodes (sidebar : List Entry) : List Node := nodesFrom 0 sidebar

/-- The nodes in an entry are those of its items. -/
theorem nodesBelow_eq (entry : Entry) : nodesBelow entry = nodesFrom 0 entry.children := by
  cases entry <;> rfl

/-! ## Every node, once and in order -/

/-- A node behind a position has one for its first. -/
theorem head_of_mem_nodesFrom {position : Nat} {entries : List Entry} {node : Node}
    (h : node ∈ nodesFrom position entries) : ∃ i rest, node.1 = i :: rest ∧ position ≤ i := by
  induction entries generalizing position with
  | nil => exact absurd h List.not_mem_nil
  | cons entry entries ih =>
    rw [nodesFrom] at h
    rcases List.mem_append.mp h with h | h
    · rcases List.mem_cons.mp h with rfl | h
      · exact ⟨position, [], rfl, Nat.le_refl _⟩
      · obtain ⟨inner, -, rfl⟩ := List.mem_map.mp h
        exact ⟨position, inner.1, rfl, Nat.le_refl _⟩
    · obtain ⟨i, rest, hi, hle⟩ := ih h
      exact ⟨i, rest, hi, Nat.le_of_succ_le hle⟩

mutual

/-- **Nodes come in the order of their positions**, a group before what is
in it. -/
theorem nodesFrom_sorted : ∀ (position : Nat) (entries : List Entry),
    ((nodesFrom position entries).map Prod.fst).Pairwise (List.Lex (· < ·))
  | _, [] => List.Pairwise.nil
  | position, entry :: entries => by
    have hbelow := nodesBelow_sorted entry
    have hrest := nodesFrom_sorted (position + 1) entries
    have hinner : (((nodesBelow entry).map (fun node => (position :: node.1, node.2))).map
        Prod.fst) = ((nodesBelow entry).map Prod.fst).map (position :: ·) := by
      rw [List.map_map, List.map_map]
      rfl
    rw [nodesFrom, List.map_append, List.map_cons, hinner, List.pairwise_append,
      List.pairwise_cons, List.pairwise_map]
    refine ⟨⟨fun path hpath => ?_, hbelow.imp List.Lex.cons⟩, hrest, fun path hpath other hother => ?_⟩
    · -- the entry comes before what is in it
      obtain ⟨inner, hinner, rfl⟩ := List.mem_map.mp hpath
      obtain ⟨node, hnode, rfl⟩ := List.mem_map.mp hinner
      rw [nodesBelow_eq] at hnode
      obtain ⟨i, rest, hi, -⟩ := head_of_mem_nodesFrom hnode
      rw [hi]
      exact List.Lex.cons List.Lex.nil
    · -- both come before the siblings behind the entry
      obtain ⟨node, hnode, rfl⟩ := List.mem_map.mp hother
      obtain ⟨i, rest, hi, hle⟩ := head_of_mem_nodesFrom hnode
      rw [hi]
      rcases List.mem_cons.mp hpath with rfl | hpath
      · exact List.Lex.rel hle
      · obtain ⟨inner, -, rfl⟩ := List.mem_map.mp hpath
        exact List.Lex.rel hle

/-- The nodes in an entry come in the order of their positions. -/
theorem nodesBelow_sorted : ∀ entry : Entry,
    ((nodesBelow entry).map Prod.fst).Pairwise (List.Lex (· < ·))
  | .group _ items _ => nodesFrom_sorted 0 items
  | .slug _ => List.Pairwise.nil
  | .autogenerate _ _ _ => List.Pairwise.nil
  | .link _ _ => List.Pairwise.nil
  | .page _ _ => List.Pairwise.nil

end

theorem at?_of_nil (path : List Nat) : Entry.at? [] path = none := by
  match path with
  | [] => rfl
  | [_] => rfl
  | _ :: _ :: _ => rfl

theorem mem_nil_iff (node : Node) : node ∈ ([] : List Node)
    ↔ ∃ j rest, node.1 = j :: rest ∧ Entry.at? [] (j :: rest) = some node.2 := by
  constructor
  · intro h
    exact absurd h List.not_mem_nil
  · rintro ⟨j, rest, -, h⟩
    rw [at?_of_nil] at h
    exact absurd h (by simp)

mutual

/-- **The nodes behind a position are those that positions lead to.** -/
theorem mem_nodesFrom_iff : ∀ (position : Nat) (entries : List Entry) (node : Node),
    node ∈ nodesFrom position entries
      ↔ ∃ i rest, node.1 = (position + i) :: rest ∧ Entry.at? entries (i :: rest) = some node.2
  | position, [], node => by
    rw [nodesFrom]
    constructor
    · intro h
      exact absurd h List.not_mem_nil
    · rintro ⟨i, rest, -, h⟩
      rw [at?_of_nil] at h
      exact absurd h (by simp)
  | position, entry :: entries, (path, found) => by
    have hbelow := mem_nodesBelow_iff entry
    have hrest := mem_nodesFrom_iff (position + 1) entries (path, found)
    rw [nodesFrom, List.mem_append, List.mem_cons, hrest]
    constructor
    · rintro ((h | h) | ⟨i, rest, hpath, hat⟩)
      · injection h with hpath hfound
        exact ⟨0, [], hpath, by rw [hfound]; rfl⟩
      · obtain ⟨inner, hinner, h⟩ := List.mem_map.mp h
        injection h with hpath hfound
        obtain ⟨j, rest, hj, hat⟩ := (hbelow inner).mp hinner
        rw [hj] at hpath
        refine ⟨0, j :: rest, hpath.symm, ?_⟩
        rw [← hfound]
        exact hat
      · refine ⟨i + 1, rest, by rw [hpath]; congr 1; omega, ?_⟩
        cases rest <;> exact hat
    · rintro ⟨i, rest, hpath, hat⟩
      cases i with
      | zero =>
        cases rest with
        | nil =>
          injection hat with hfound
          exact Or.inl (Or.inl (by rw [hfound]; exact congrArg (·, found) hpath))
        | cons j rest =>
          refine Or.inl (Or.inr (List.mem_map.mpr ⟨(j :: rest, found), ?_, ?_⟩))
          · exact (hbelow _).mpr ⟨j, rest, rfl, hat⟩
          · exact congrArg (·, found) hpath.symm
      | succ i =>
        refine Or.inr ⟨i, rest, hpath.trans (by congr 1; omega), ?_⟩
        cases rest <;> exact hat

/-- The nodes in an entry are those that positions lead to from its
items. -/
theorem mem_nodesBelow_iff : ∀ (entry : Entry) (node : Node), node ∈ nodesBelow entry
    ↔ ∃ j rest, node.1 = j :: rest ∧ Entry.at? entry.children (j :: rest) = some node.2
  | .group label items collapsed, node => by
    show node ∈ nodesFrom 0 items ↔ _
    rw [mem_nodesFrom_iff 0 items node]
    simp only [Nat.zero_add]
    exact Iff.rfl
  | .slug _, node => mem_nil_iff node
  | .autogenerate _ _ _, node => mem_nil_iff node
  | .link _ _, node => mem_nil_iff node
  | .page _ _, node => mem_nil_iff node

end

/-- **The nodes of a sidebar are those that positions lead to.** -/
theorem mem_nodes_iff (sidebar : List Entry) (path : List Nat) (entry : Entry) :
    (path, entry) ∈ nodes sidebar ↔ Entry.at? sidebar path = some entry := by
  unfold nodes
  rw [mem_nodesFrom_iff]
  constructor
  · rintro ⟨i, rest, hpath, hat⟩
    rw [show path = i :: rest from hpath.trans (by rw [Nat.zero_add])]
    exact hat
  · intro h
    cases path with
    | nil => exact absurd h (by simp [Entry.at?])
    | cons i rest => exact ⟨i, rest, by rw [Nat.zero_add], h⟩

/-- **The nodes of a sidebar are in the order of their positions.** -/
theorem nodes_sorted (sidebar : List Entry) :
    ((nodes sidebar).map Prod.fst).Pairwise (List.Lex (· < ·)) :=
  nodesFrom_sorted 0 sidebar

/-! ## Walks -/

variable {α : Type}

mutual

/-- **A walk over siblings**, looking at each entry with the siblings
before it and its place, then at what is in it. -/
def visitLevel (visit : List Entry → Place → Entry → List α) (parent : Place) :
    (before : List Entry) → List Entry → List α
  | _, [] => []
  | before, entry :: entries =>
    visit before (parent.index before.length) entry
      ++ visitBelow visit (parent.index before.length) entry
      ++ visitLevel visit parent (before ++ [entry]) entries

/-- A walk over what is in an entry. -/
def visitBelow (visit : List Entry → Place → Entry → List α) (place : Place) : Entry → List α
  | .group _ items _ => visitLevel visit (place.key "items") [] items
  | _ => []

end

/-- What is collected at a node of a list. -/
def collect (visit : List Entry → Place → Entry → List α) (parent : Place) (level : List Entry)
    (node : Node) : List α :=
  visit (Entry.earlier level node.1) (parent.below node.1) node.2

/-- What is collected at a node in an entry does not depend on what is
around the entry. -/
theorem collect_below (visit : List Entry → Place → Entry → List α) (parent : Place)
    {level : List Entry} {position : Nat} {entry : Entry} (h : level[position]? = some entry)
    {node : Node} (hnode : node ∈ nodesBelow entry) :
    collect visit parent level (position :: node.1, node.2)
      = collect visit ((parent.index position).key "items") entry.children node := by
  rw [nodesBelow_eq] at hnode
  obtain ⟨i, rest, hi, -⟩ := head_of_mem_nodesFrom hnode
  unfold collect
  rw [hi]
  show visit (level[position]?.elim [] fun entry => Entry.earlier entry.children (i :: rest)) _ _ = _
  rw [h]
  rfl

mutual

/-- **A walk collects node by node.** -/
theorem visitLevel_eq (visit : List Entry → Place → Entry → List α) :
    ∀ (entries : List Entry) (parent : Place) (before : List Entry),
    visitLevel visit parent before entries
      = (nodesFrom before.length entries).flatMap (collect visit parent (before ++ entries))
  | [], _, _ => rfl
  | entry :: entries, parent, before => by
    have hat : (before ++ entry :: entries)[before.length]? = some entry := by simp
    have hbelow := visitBelow_eq visit entry (parent.index before.length)
    have hrest := visitLevel_eq visit entries parent (before ++ [entry])
    have hentry : collect visit parent (before ++ entry :: entries) ([before.length], entry)
        = visit before (parent.index before.length) entry := by
      unfold collect
      show visit ((before ++ entry :: entries).take before.length) _ _ = _
      rw [List.take_left]
      rfl
    -- what is in the entry is collected below its items, whatever is around it
    have hinner : ((nodesBelow entry).map
          (fun node => (before.length :: node.1, node.2))).flatMap
          (collect visit parent (before ++ entry :: entries))
        = (nodesBelow entry).flatMap
          (collect visit ((parent.index before.length).key "items") entry.children) := by
      rw [List.flatMap_map]
      exact List.flatMap_congr fun node hnode => collect_below visit parent hat hnode
    rw [List.append_assoc, List.length_append, List.length_singleton,
      List.singleton_append] at hrest
    rw [visitLevel, hbelow, hrest, nodesFrom, List.flatMap_append, List.flatMap_cons, hentry,
      hinner]

/-- A walk over what is in an entry collects node by node. -/
theorem visitBelow_eq (visit : List Entry → Place → Entry → List α) :
    ∀ (entry : Entry) (place : Place), visitBelow visit place entry
      = (nodesBelow entry).flatMap (collect visit (place.key "items") entry.children)
  | .group _ items _, place => visitLevel_eq visit items (place.key "items") []
  | .slug _, _ => rfl
  | .autogenerate _ _ _, _ => rfl
  | .link _ _, _ => rfl
  | .page _ _, _ => rfl

end

/-- **A walk that looks at each entry alone**, by its equations: what is
collected at an entry, then what is in it, then the siblings behind it. -/
structure Walk (visit : Place → Entry → List α)
    (level : Place → Nat → List Entry → List α) : Prop where
  /-- Nothing is collected from no entries. -/
  nil : ∀ parent position, level parent position [] = []
  /-- An entry comes before what is in it, and that before its siblings. -/
  cons : ∀ parent position entry entries, level parent position (entry :: entries)
    = visit (parent.index position) entry
      ++ level ((parent.index position).key "items") 0 entry.children
      ++ level parent (position + 1) entries

namespace Walk

variable {visit : Place → Entry → List α} {level : Place → Nat → List Entry → List α}

mutual

/-- Such a walk over siblings, started in their midst. -/
theorem eq_visitLevel (h : Walk visit level) : ∀ (entries : List Entry) (parent : Place)
    (before : List Entry),
    level parent before.length entries = visitLevel (fun _ => visit) parent before entries
  | [], parent, before => h.nil parent before.length
  | entry :: entries, parent, before => by
    have hbelow := h.eq_visitBelow entry (parent.index before.length)
    have hrest := h.eq_visitLevel entries parent (before ++ [entry])
    rw [List.length_append, List.length_singleton] at hrest
    rw [h.cons, hbelow, hrest, visitLevel]

/-- Such a walk over what is in an entry. -/
theorem eq_visitBelow (h : Walk visit level) : ∀ (entry : Entry) (place : Place),
    level (place.key "items") 0 entry.children = visitBelow (fun _ => visit) place entry
  | .group _ items _, place => h.eq_visitLevel items (place.key "items") []
  | .slug _, _ => h.nil _ _
  | .autogenerate _ _ _, _ => h.nil _ _
  | .link _ _, _ => h.nil _ _
  | .page _ _, _ => h.nil _ _

end

end Walk

/-! ## Places -/

/-- The place of a node of the sidebar. -/
def field (path : List Nat) : Place := Validation.sidebarPlace.below path

/-- **A walk over a sidebar** collects node by node. -/
theorem Walk.eq_flatMap {visit : Place → Entry → List α}
    {level : Place → Nat → List Entry → List α} (h : Walk visit level) (sidebar : List Entry) :
    level Validation.sidebarPlace 0 sidebar
      = (nodes sidebar).flatMap fun node => visit (field node.1) node.2 :=
  (h.eq_visitLevel sidebar Validation.sidebarPlace []).trans
    (visitLevel_eq (fun _ => visit) sidebar Validation.sidebarPlace [])

theorem text_below_ne_empty (parent : Place) (i : Nat) (rest : List Nat) :
    (parent.below (i :: rest)).text ≠ "" := by
  induction rest generalizing parent i with
  | nil => exact Place.text_index_ne_empty parent i
  | cons j rest ih => exact ih ((parent.index i).key "items") j

/-- **The place of a node in writing**, from that of its first position
on. -/
theorem text_below (parent : Place) (i : Nat) (rest : List Nat) :
    (parent.below (i :: rest)).text
      = rest.foldl (fun text j => text ++ ".items[" ++ toString j ++ "]")
        (parent.index i).text := by
  induction rest generalizing parent i with
  | nil => rfl
  | cons j rest ih =>
    have hjoin : (parent.index i).text ++ "." ++ "items" ++ "["
        = (parent.index i).text ++ ".items[" := by
      rw [String.append_assoc, String.append_assoc]
      rfl
    show (((parent.index i).key "items").below (j :: rest)).text = _
    rw [ih, List.foldl_cons]
    congr 1
    show (((parent.index i).key "items").down (.index j)).text = _
    rw [Place.text_down, Place.text_key (Place.text_index_ne_empty parent i)]
    show (parent.index i).text ++ "." ++ "items" ++ "[" ++ toString j ++ "]" = _
    rw [hjoin]

end Sidebar

end DocSite
