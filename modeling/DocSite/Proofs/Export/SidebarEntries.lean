import Mathlib.Tactic.Common
import DocSite.Export.Options
import DocSite.Proofs.Toml.Outline
import DocSite.Site.Decode.Entry

/-!
# Sidebar entries survive an export

An entry is exported as a document without a tag, and a reader has to
tell from the keys which kind of entry it was. `node?_data` and
`node?_node` say that it always can: for the document as it is, which is
what a value on one line keeps, and for the tables that the sections of a
file build, where the fields with sections have moved behind the others.

The two are proved for entries and for lists of entries together. A list
is where the two ways of writing meet: a group is written over sections
only down to the first list with something other than a record in it, and
on one line from there.
-/

namespace DocSite

open Toml (Node node plainEntries sectionEntries tables table isRecord isRows hasSections)

namespace Entry

/-! ## The fields of each kind of entry -/

/-- What a text can be read as. -/
abbrev textReading (s : String) : Reading := reading (.string s)

/-- The field of a flag that is written only where it is set. -/
def flagField (b : Bool) : Fields :=
  if b then [("collapsed", reading (.boolean true))] else []

/-- **A group** is told by its items, wherever the flag stands. -/
theorem node?_group {r : Reading} {items : List Entry} (h : r.entries? = some items)
    (label : String) (collapsed : Bool) :
    Fields.node? ([("label", textReading label), ("items", r)] ++ flagField collapsed)
        = some (.group label items collapsed)
      ∧ Fields.node? ([("label", textReading label)] ++ flagField collapsed ++ [("items", r)])
        = some (.group label items collapsed) := by
  -- the label and the flag are read off as they stand, the items by `h`
  have hread : (r.entries?.bind fun items => some (Entry.group label items collapsed))
      = some (.group label items collapsed) := by
    rw [h, Option.bind_some]
  constructor
  · have hgroup : Fields.group? ([("label", textReading label), ("items", r)]
        ++ flagField collapsed) = some (.group label items collapsed) := by
      cases collapsed <;> exact hread
    unfold Fields.node?
    rw [hgroup]
    rfl
  · have hgroup : Fields.group? ([("label", textReading label)] ++ flagField collapsed
        ++ [("items", r)]) = some (.group label items collapsed) := by
      cases collapsed <;> exact hread
    unfold Fields.node?
    rw [hgroup]
    rfl

/-- **A listed directory** is told by its source, wherever the flag
stands. -/
theorem node?_autogenerate {r : Reading} {directory : String} (h : r.directory? = some directory)
    (label : String) (collapsed : Bool) :
    Fields.node? ([("label", textReading label), ("autogenerate", r)] ++ flagField collapsed)
        = some (.autogenerate label directory collapsed)
      ∧ Fields.node? ([("label", textReading label)] ++ flagField collapsed
          ++ [("autogenerate", r)])
        = some (.autogenerate label directory collapsed) := by
  have hread : (r.directory?.bind fun d => some (Entry.autogenerate label d collapsed))
      = some (.autogenerate label directory collapsed) := by
    rw [h, Option.bind_some]
  constructor
  · have hlisted : Fields.autogenerate? ([("label", textReading label), ("autogenerate", r)]
        ++ flagField collapsed) = some (.autogenerate label directory collapsed) := by
      cases collapsed <;> exact hread
    have hgroup : Fields.group? ([("label", textReading label), ("autogenerate", r)]
        ++ flagField collapsed) = none := by
      cases collapsed <;> rfl
    unfold Fields.node?
    rw [hgroup, hlisted]
    rfl
  · have hlisted : Fields.autogenerate? ([("label", textReading label)] ++ flagField collapsed
        ++ [("autogenerate", r)]) = some (.autogenerate label directory collapsed) := by
      cases collapsed <;> exact hread
    have hgroup : Fields.group? ([("label", textReading label)] ++ flagField collapsed
        ++ [("autogenerate", r)]) = none := by
      cases collapsed <;> rfl
    unfold Fields.node?
    rw [hgroup, hlisted]
    rfl

/-- An array of entries is read entry by entry. -/
theorem entries?_cons {data : Data} {entry : Entry} (h : (reading data).node? = some entry)
    {more : List Data} {entries : List Entry}
    (hmore : (reading (.array more)).entries? = some entries) :
    (reading (.array (data :: more))).entries? = some (entry :: entries) := by
  have hlist : (itemReadings more).mapM Reading.node? = some entries := hmore
  show (reading data :: itemReadings more).mapM Reading.node? = _
  rw [List.mapM_cons, h, hlist]
  rfl

/-! ## Entries on one line -/

mutual

/-- **An entry is read off the data of its document.** -/
theorem node?_data : ∀ entry : Entry, (reading entry.doc.data).node? = some entry
  | .slug _ => rfl
  | .group label items collapsed => by
    have hitems := entries?_data items
    cases collapsed
    · exact (node?_group hitems label false).1
    · exact (node?_group hitems label true).1
  | .autogenerate label directory collapsed => by
    have hsource : (reading (Doc.record [("directory", .text directory)]).data).directory?
        = some directory := rfl
    cases collapsed
    · exact (node?_autogenerate hsource label false).1
    · exact (node?_autogenerate hsource label true).1
  | .link _ _ => rfl
  | .page _ none => rfl
  | .page _ (some _) => rfl

/-- Entries are read off the data of their documents. -/
theorem entries?_data : ∀ entries : List Entry,
    (reading (Doc.list (Entry.docs entries)).data).entries? = some entries
  | [] => rfl
  | entry :: entries => entries?_cons (node?_data entry) (entries?_data entries)

end

/-! ## Entries over sections -/

/-- A labelled record with a field over sections, which moves behind the
flag. -/
theorem data_node_labelled (label name : String) {doc : Doc} (h : hasSections doc = true)
    (collapsed : Bool) :
    (node (.record ([("label", .text label), (name, doc)]
        ++ if collapsed then [("collapsed", .flag true)] else []))).data
      = .table ([("label", .string label)]
        ++ (if collapsed then [("collapsed", .boolean true)] else [])
        ++ [(name, (node doc).data)]) := by
  cases collapsed
  · rw [node]
    unfold plainEntries
    simp only [Bool.false_eq_true, if_false, List.append_nil, Toml.plainData, sectionEntries, h]
    rfl
  · rw [node]
    unfold plainEntries
    simp only [if_true, List.cons_append, List.nil_append, Toml.plainData, sectionEntries, h]
    rfl

/-- No field of a labelled record is over sections if the one that could
be is not. -/
theorem plain_labelled (label name : String) {doc : Doc} (h : hasSections doc = false)
    (collapsed : Bool) :
    ∀ field ∈ [("label", Doc.text label), (name, doc)]
      ++ (if collapsed then [("collapsed", .flag true)] else []),
      hasSections field.2 = false := by
  have hlabel : hasSections (.text label) = false := rfl
  have hflag : hasSections (.flag true) = false := rfl
  cases collapsed
  · simp [hlabel, h]
  · simp [hlabel, hflag, h]

mutual

/-- **An entry is read off the tables that are built from its text.** -/
theorem node?_node : ∀ entry : Entry, (reading (node entry.doc).data).node? = some entry
  | .slug _ => rfl
  | .group label items collapsed => by
    -- items that are all tables are written over sections, other ones on a line
    by_cases hrows : isRows (Entry.docs items) = true
    · have hsections : hasSections (.list (Entry.docs items)) = true := hrows
      have hall : (Entry.docs items).all isRecord = true := (Bool.and_eq_true _ _ ▸ hrows).2
      have hitems := entries?_tables items hall
      rw [Entry.doc, data_node_labelled label "items" hsections, node, if_pos hrows]
      have hgroup := (node?_group hitems label collapsed).2
      cases collapsed
      · exact hgroup
      · exact hgroup
    · have hplain : hasSections (.list (Entry.docs items)) = false := by
        rw [Bool.not_eq_true] at hrows
        exact hrows
      rw [Entry.doc, Toml.data_node_of_plain (plain_labelled label "items" hplain collapsed)]
      exact node?_data (.group label items collapsed)
  | .autogenerate label directory collapsed => by
    have hsource : (reading (node (.record [("directory", .text directory)])).data).directory?
        = some directory := rfl
    rw [Entry.doc, data_node_labelled label "autogenerate" rfl]
    have hlisted := (node?_autogenerate hsource label collapsed).2
    cases collapsed
    · exact hlisted
    · exact hlisted
  | .link _ _ => rfl
  | .page _ none => rfl
  | .page _ (some _) => rfl

/-- Entries that are all written as tables are read off the tables that
are built from their text. -/
theorem entries?_tables : ∀ entries : List Entry, (Entry.docs entries).all isRecord = true →
    (reading (.array (Node.rowsData (tables (Entry.docs entries))))).entries? = some entries
  | [], _ => rfl
  | entry :: entries, h => by
    rw [Entry.docs, List.all_cons, Bool.and_eq_true] at h
    have hentry := node?_node entry
    rw [← Toml.data_table h.1] at hentry
    exact entries?_cons hentry (entries?_tables entries h.2)

end

/-- **The entries of a sidebar are read off what is built from their
text.** -/
theorem entries?_node (entries : List Entry) :
    (reading (node (.list (Entry.docs entries))).data).entries? = some entries := by
  rw [node]
  by_cases hrows : isRows (Entry.docs entries) = true
  · rw [if_pos hrows]
    exact entries?_tables entries (Bool.and_eq_true _ _ ▸ hrows).2
  · rw [if_neg hrows]
    exact entries?_data entries

end Entry

end DocSite
