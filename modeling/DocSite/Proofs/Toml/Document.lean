import Mathlib.Tactic.Common
import DocSite.Proofs.Data.Depth
import DocSite.Proofs.Toml.Outline
import DocSite.Toml.Document

/-!
# A written document is read back

The text of a document is read line by line, and each line has its own
limits: a header may have only so many keys, and the value of a statement
may nest only so deep. `Spells` says that a text is read as certain lines
whatever follows it, and is refused if one of them is beyond its limit.
Texts that spell lines can be put one behind the other, so all that is
left to do is to spell the lines of each part of the printer.

`parse?_idle_write` is the outcome. A document whose lines are all within
the limits is read back as the tables of its outline, and any other is
refused. `fits_of_readable` is a bound on the document itself under which
the limits are kept.
-/

namespace DocSite.Toml

open Entries (keys)

/-! ## Lines and their limits -/

/-- **A line within the limits of the reader.** -/
def Line.fits : Line → Bool
  | .blank => true
  | .pair keys value => decide (keys.length ≤ maxParts) && value.readable maxParts
  | .header _ keys => decide (keys.length ≤ maxParts)

/-- Lines in front of what is read behind them, if they are within the
limits. -/
def gather (lines : List Line) (read : Option (List Line)) : Option (List Line) :=
  if lines.all Line.fits then read.map (lines ++ ·) else none

theorem gather_nil (read : Option (List Line)) : gather [] read = read := by
  show read.map ([] ++ ·) = read
  cases read <;> rfl

theorem gather_append (lines more : List Line) (read : Option (List Line)) :
    gather (lines ++ more) read = gather lines (gather more read) := by
  unfold gather
  rw [List.all_append]
  cases lines.all Line.fits with
  | false => rfl
  | true =>
    cases more.all Line.fits with
    | false => rfl
    | true =>
      rw [Bool.and_self, if_pos rfl, if_pos rfl, if_pos rfl, Option.map_map]
      congr 1
      funext rest
      exact List.append_assoc lines more rest

/-- The lines that are read off a text, however much fuel is left. -/
def Reads (text : List Char) (read : Option (List Line)) : Prop :=
  ∀ fuel, text.length ≤ fuel → lines? fuel text = read

theorem Reads.nil : Reads [] (some []) := fun fuel _ => by cases fuel <;> rfl

/-- **A text is read as lines**, whatever follows it. -/
def Spells (text : List Char) (lines : List Line) : Prop :=
  ∀ rest read, Reads rest read → Reads (text ++ rest) (gather lines read)

theorem Spells.nil : Spells [] [] := by
  intro rest read h
  rw [List.nil_append, gather_nil]
  exact h

/-- **Texts in a row are read as their lines in a row.** -/
theorem Spells.append {text more : List Char} {lines others : List Line} (h : Spells text lines)
    (h' : Spells more others) : Spells (text ++ more) (lines ++ others) := by
  intro rest read hrest
  rw [List.append_assoc, gather_append]
  exact h _ _ (h' _ _ hrest)

/-- A text is read as a line if one step of the reader takes it off. -/
theorem Spells.line {text : List Char} {line : Line} (hne : text ≠ [])
    (h : ∀ rest, line? (text ++ rest) = if line.fits = true then some (line, rest) else none) :
    Spells text [line] := by
  intro rest read hrest fuel hfuel
  obtain ⟨c, t, rfl⟩ := List.exists_cons_of_ne_nil hne
  cases fuel with
  | zero => exact absurd hfuel (by simp)
  | succ fuel =>
    have hle : rest.length ≤ fuel := by
      rw [List.length_append, List.length_cons] at hfuel
      omega
    show ((line? (c :: t ++ rest)).bind fun p => (lines? fuel p.2).map (p.1 :: ·)) = _
    rw [h rest]
    unfold gather
    rw [List.all_cons, List.all_nil, Bool.and_true]
    by_cases hfits : line.fits = true
    · rw [if_pos hfits, if_pos hfits, Option.bind_some, hrest fuel hle]
      rfl
    · rw [if_neg hfits, if_neg hfits]
      rfl

/-! ## The lines of the printer -/

theorem spells_blank : Spells ['\n'] [.blank] :=
  Spells.line (List.cons_ne_nil _ _) fun _ => rfl

theorem spells_comment {text : List Char} (h : text.all isText = true) :
    Spells ('#' :: text ++ ['\n']) [.blank] := by
  refine Spells.line (List.cons_ne_nil _ _) fun rest => ?_
  have hcomment : skipComment (skipBlanks ('#' :: (text ++ '\n' :: rest))) = '\n' :: rest := by
    show (text ++ '\n' :: rest).dropWhile isText = _
    rw [List.dropWhile_append_of_pos (List.all_eq_true.mp h)]
    rfl
  rw [List.cons_append, List.cons_append, List.append_assoc]
  show (endOfLine? ('#' :: (text ++ '\n' :: rest))).map _ = _
  unfold endOfLine?
  rw [hcomment]
  rfl

/-- A line that begins with a key is a statement. -/
theorem line?_writeKey (key : String) (t : List Char) :
    line? (writeKey key ++ t)
      = (pair? (value? maxParts) (writeKey key ++ t)).bind fun p =>
        (endOfLine? p.2).map fun rest => (.pair p.1.1 p.1.2, rest) := by
  obtain ⟨c, u, hcu, hc⟩ := writeKey_eq_cons key
  have hskip := skipBlanks_writeKey key t
  have hword : ¬(c = '\n' || c = '\r' || c = '#') = true ∧ c ≠ '[' := by
    rcases hc with hc | rfl
    · constructor
      · intro h
        rw [Bool.or_eq_true, Bool.or_eq_true, decide_eq_true_eq, decide_eq_true_eq,
          decide_eq_true_eq] at h
        rcases h with (rfl | rfl) | rfl <;> exact absurd hc (by decide)
      · rintro rfl
        exact absurd hc (by decide)
    · decide
  unfold line?
  rw [hskip, hcu, List.cons_append]
  dsimp only
  rw [if_neg hword.1, if_neg hword.2]
  rfl

/-- **A statement is read back.** -/
theorem spells_pair (key : String) {doc : Doc} (h : doc.Distinct) :
    Spells (writeKey key ++ [' ', '=', ' '] ++ inlineValue doc ++ ['\n'])
      [.pair [key] doc.data] := by
  refine Spells.line (by simp) fun rest => ?_
  obtain ⟨c, t, hct, hc⟩ := inlineValue_eq_cons doc
  have hread := value?_inlineValue doc h maxParts ('\n' :: rest) (closed_cons (by decide) _)
  have hpair := @pair?_writeKey (value? maxParts) key _ (isMark_of_beginsValue hc).2.1
    (t ++ '\n' :: rest)
  rw [← List.cons_append, ← hct, hread] at hpair
  have htext : writeKey key ++ [' ', '=', ' '] ++ inlineValue doc ++ ['\n'] ++ rest
      = writeKey key ++ ' ' :: '=' :: ' ' :: (inlineValue doc ++ '\n' :: rest) := by simp
  rw [htext, line?_writeKey, hpair]
  show _ = if (true && doc.data.readable maxParts) = true then _ else _
  rw [Bool.true_and]
  split <;> rfl

theorem key?_writePath (way : List String) (key : String) (rest : List Char) :
    key? (writePath (way ++ [key]) ++ ']' :: rest)
      = if (Line.header true (way ++ [key])).fits = true
        then some (way ++ [key], ']' :: rest) else none := by
  obtain ⟨first, more, hway⟩ : ∃ first more, way ++ [key] = first :: more :=
    List.exists_cons_of_ne_nil (by simp)
  unfold key?
  rw [hway, keys?_writePath]
  simp only [Line.fits, decide_eq_true_eq]

theorem writePath_head? (way : List String) (key : String) (rest : List Char) :
    (writePath (way ++ [key]) ++ rest).head? ≠ some '[' := by
  have hpath : ∃ first t, writePath (way ++ [key]) ++ rest = writeKey first ++ t := by
    cases way with
    | nil => exact ⟨key, rest, by simp [writePath]⟩
    | cons first way =>
      obtain ⟨next, more, hway⟩ : ∃ next more, way ++ [key] = next :: more :=
        List.exists_cons_of_ne_nil (by simp)
      rw [List.cons_append, hway, writePath_cons, List.append_assoc]
      exact ⟨first, _, rfl⟩
  obtain ⟨first, t, ht⟩ := hpath
  obtain ⟨c, u, hcu, hc⟩ := writeKey_eq_cons first
  rw [ht, hcu, List.cons_append, List.head?_cons, ne_eq, Option.some_inj]
  rintro rfl
  exact absurd hc (by decide)

/-- **A header is read back**, behind its empty line. -/
theorem spells_header (row : Bool) (way : List String) (key : String) :
    Spells (writeHeader row (way ++ [key])) [.blank, .header row (way ++ [key])] := by
  cases row with
  | true =>
    have hheader : Spells ('[' :: '[' :: (writePath (way ++ [key]) ++ [']', ']', '\n']))
        [.header true (way ++ [key])] := by
      refine Spells.line (List.cons_ne_nil _ _) fun rest => ?_
      show ((key? (writePath (way ++ [key]) ++ [']', ']', '\n'] ++ rest)).bind _).bind _ = _
      rw [List.append_assoc]
      show ((key? (writePath (way ++ [key]) ++ ']' :: ']' :: '\n' :: rest)).bind _).bind _ = _
      rw [key?_writePath]
      split <;> rfl
    exact spells_blank.append hheader
  | false =>
    have hheader : Spells ('[' :: (writePath (way ++ [key]) ++ [']', '\n']))
        [.header false (way ++ [key])] := by
      refine Spells.line (List.cons_ne_nil _ _) fun rest => ?_
      have hhead := writePath_head? way key (']' :: '\n' :: rest)
      have hread := key?_writePath way key ('\n' :: rest)
      show (header? ('[' :: (writePath (way ++ [key]) ++ [']', '\n'] ++ rest))).bind _ = _
      rw [List.append_assoc, List.cons_append, List.cons_append, List.nil_append, header?.eq_2]
      · show ((key? (writePath (way ++ [key]) ++ ']' :: '\n' :: rest)).bind _).bind _ = _
        rw [hread]
        show _ = if (Line.header true (way ++ [key])).fits = true then _ else _
        split <;> rfl
      · intro t ht
        rw [ht] at hhead
        exact hhead rfl
    exact spells_blank.append hheader

/-! ## The lines of an outline -/

/-- The line of a statement. -/
def pairLine (pair : List String × Data) : Line := .pair pair.1 pair.2

/-- The lines of a section. -/
def Section.lines (s : Section) : List Line :=
  [.blank, .header s.row (s.parents ++ [s.key])] ++ s.pairs.map pairLine

/-- The lines of sections whose tables are reached by a way. -/
def linesBelow (way : List String) (sections : List Section) : List Line :=
  sections.flatMap fun s => Section.lines { s with parents := way ++ s.parents }

theorem linesBelow_append (way : List String) (first second : List Section) :
    linesBelow way (first ++ second) = linesBelow way first ++ linesBelow way second :=
  List.flatMap_append

theorem linesBelow_cons (way : List String) (s : Section) (sections : List Section) :
    linesBelow way (s :: sections) = linesBelow way [s] ++ linesBelow way sections :=
  linesBelow_append way [s] sections

/-- A key in front of the parents is a key behind the way. -/
theorem linesBelow_under (way : List String) (name : String) (sections : List Section) :
    linesBelow way (sections.map (Section.under name)) = linesBelow (way ++ [name]) sections := by
  unfold linesBelow
  rw [List.flatMap_map]
  congr 1
  funext s
  unfold Section.under
  rw [List.append_assoc, List.singleton_append]

/-- The plain fields of a record are written as its statements. -/
theorem spells_valueLines : ∀ fields : List (String × Doc), Doc.DistinctFields fields →
    Spells (valueLines fields) ((statements fields).map pairLine)
  | [], _ => Spells.nil
  | (name, doc) :: fields, h => by
    have hfields := spells_valueLines fields h.2
    unfold statements
    rw [valueLines, plainData]
    by_cases hs : hasSections doc = true
    · rw [if_pos hs, if_pos hs]
      exact hfields
    · rw [if_neg hs, if_neg hs]
      exact (spells_pair name h.1).append hfields

/-- **A section is written as its lines.** -/
theorem spells_section (row : Bool) (way : List String) (name : String)
    {fields : List (String × Doc)} (h : Doc.DistinctFields fields) :
    Spells (writeHeader row (way ++ [name]) ++ valueLines fields)
      (linesBelow way [⟨row, [], name, statements fields⟩]) := by
  have hlines : linesBelow way [⟨row, [], name, statements fields⟩]
      = [.blank, .header row (way ++ [name])] ++ (statements fields).map pairLine := by
    show Section.lines _ ++ [] = _
    rw [List.append_nil, Section.lines, List.append_nil]
  rw [hlines]
  exact (spells_header row way name).append (spells_valueLines fields h)

mutual

/-- **A field is written as its outline.** -/
theorem spells_fieldSections (way : List String) (name : String) : ∀ doc : Doc, doc.Distinct →
    Spells (fieldSections (way ++ [name]) doc) (linesBelow way (outline name doc))
  | .text _, _ => Spells.nil
  | .flag _, _ => Spells.nil
  | .list items, h => by
    rw [fieldSections, outline]
    show Spells (if isRows items = true then _ else _) _
    by_cases hrows : isRows items = true
    · rw [if_pos hrows, if_pos hrows]
      exact spells_rows way name items h
    · rw [if_neg hrows, if_neg hrows]
      exact Spells.nil
  | .record fields, h => by
    rw [fieldSections, outline, linesBelow_append, linesBelow_under]
    refine Spells.append ?_ (spells_sections (way ++ [name]) fields h.2)
    by_cases hh : needsHeader fields = true
    · rw [if_pos hh, if_pos hh]
      exact spells_section false way name h.2
    · rw [if_neg hh, if_neg hh]
      exact Spells.nil

/-- Fields are written as their outline. -/
theorem spells_sections (way : List String) : ∀ fields : List (String × Doc),
    Doc.DistinctFields fields → Spells (sections way fields) (linesBelow way (outlineFields fields))
  | [], _ => Spells.nil
  | (name, doc) :: fields, h => by
    rw [sections, outlineFields, linesBelow_append]
    exact (spells_fieldSections way name doc h.1).append (spells_sections way fields h.2)

/-- A list of records is written as its outline. -/
theorem spells_rows (way : List String) (name : String) : ∀ items : List Doc,
    Doc.DistinctItems items →
    Spells (rows (way ++ [name]) items) (linesBelow way (outlineRows name items))
  | [], _ => Spells.nil
  | item :: items, h => by
    rw [rows, outlineRows, linesBelow_append]
    exact (spells_rowSections way name item h.1).append (spells_rows way name items h.2)

/-- A record of a list is written as its outline. -/
theorem spells_rowSections (way : List String) (name : String) : ∀ item : Doc, item.Distinct →
    Spells (rowSections (way ++ [name]) item) (linesBelow way (outlineRow name item))
  | .text _, _ => Spells.nil
  | .flag _, _ => Spells.nil
  | .list _, _ => Spells.nil
  | .record fields, h => by
    rw [rowSections, outlineRow, linesBelow_cons, linesBelow_under]
    exact (spells_section true way name h.2).append (spells_sections (way ++ [name]) fields h.2)

end

/-! ## The law of documents -/

/-- The lines of a document: its statements, then its sections. -/
def documentLines (fields : List (String × Doc)) : List Line :=
  (statements fields).map pairLine ++ linesBelow [] (outlineFields fields)

/-- Statements stand above the sections that follow. -/
theorem group_statements (pairs : List (List String × Data)) {lines : List Line}
    {sections : List Section} (h : group lines = ([], sections)) :
    group (pairs.map pairLine ++ lines) = (pairs, sections) := by
  induction pairs with
  | nil => exact h
  | cons pair pairs ih =>
    show ((pair.1, pair.2) :: (group (pairs.map pairLine ++ lines)).1,
      (group (pairs.map pairLine ++ lines)).2) = _
    rw [ih]

/-- **The lines of sections are grouped as the sections.** -/
theorem group_linesBelow (sections : List Section) :
    group (linesBelow [] sections) = ([], sections) := by
  induction sections with
  | nil => rfl
  | cons s sections ih =>
    show group (.header s.row (s.parents ++ [s.key])
      :: (s.pairs.map pairLine ++ linesBelow [] sections)) = _
    rw [group, group_statements s.pairs ih, List.dropLast_concat, List.getLast?_concat]
    rfl

/-- A document with a plain field begins with a key. -/
theorem valueLines_eq_writeKey {fields : List (String × Doc)}
    (h : ∃ field ∈ fields, hasSections field.2 = false) :
    ∃ name t, valueLines fields = writeKey name ++ t := by
  induction fields with
  | nil =>
    obtain ⟨field, hmem, -⟩ := h
    exact absurd hmem List.not_mem_nil
  | cons field fields ih =>
    obtain ⟨name, doc⟩ := field
    rw [valueLines]
    by_cases hs : hasSections doc = true
    · rw [if_pos hs, List.nil_append]
      obtain ⟨field, hmem, hfield⟩ := h
      rcases List.mem_cons.mp hmem with rfl | hmem
      · exact absurd hs (by simp [hfield])
      · exact ih ⟨field, hmem, hfield⟩
    · rw [if_neg hs]
      exact ⟨name, _, by rw [List.append_assoc, List.append_assoc, List.append_assoc]⟩

/-- **A document with a plain field** is its statements and its sections,
and begins with a key. -/
theorem write_eq {fields : List (String × Doc)}
    (h : ∃ field ∈ fields, hasSections field.2 = false) :
    write fields = valueLines fields ++ sections [] fields
      ∧ ∃ c t, write fields = c :: t ∧ (isBare c = true ∨ c = '"') := by
  obtain ⟨name, t, ht⟩ := valueLines_eq_writeKey h
  obtain ⟨c, u, hcu, hc⟩ := writeKey_eq_cons name
  have hwrite : write fields = valueLines fields ++ sections [] fields := by
    unfold write
    dsimp only
    rw [if_neg (by rw [ht, hcu]; simp)]
  exact ⟨hwrite, c, u ++ t ++ sections [] fields, by rw [hwrite, ht, hcu]; rfl, hc⟩

/-- **A text of empty lines and comments**: it is read as blank lines, and
does not begin with a byte order mark. -/
structure Idle (text : List Char) (lines : List Line) : Prop where
  /-- It is read as its lines. -/
  spells : Spells text lines
  /-- All of them are blank. -/
  blank : ∀ line ∈ lines, line = .blank
  /-- No byte order mark comes first. -/
  mark : text.head? ≠ some '\uFEFF'

theorem Idle.nil : Idle [] [] := ⟨Spells.nil, fun _ h => absurd h List.not_mem_nil, by simp⟩

/-- Blank lines do not count. -/
theorem group_blank {blanks : List Line} (h : ∀ line ∈ blanks, line = .blank)
    (lines : List Line) : group (blanks ++ lines) = group lines := by
  induction blanks with
  | nil => rfl
  | cons line blanks ih =>
    rw [h line List.mem_cons_self]
    exact ih fun other hother => h other (List.mem_cons_of_mem _ hother)

/-- **A written document is read back** as the tables of its outline, if
all of its lines are within the limits of the reader, and is refused
otherwise; empty lines and comments in front of it make no difference. -/
theorem parse?_idle_write {front : List Char} {blanks : List Line} (hfront : Idle front blanks)
    {fields : List (String × Doc)} (h : (Doc.record fields).Distinct)
    (hplain : ∃ field ∈ fields, hasSections field.2 = false) :
    parse? (String.ofList (front ++ write fields))
      = if (documentLines fields).all Line.fits = true
        then some (Node.entriesData (plainEntries fields ++ sectionEntries fields)) else none := by
  obtain ⟨hwrite, c, t, hct, hc⟩ := write_eq hplain
  -- a document begins with a key, and a key with no byte order mark
  have hmark : dropMark (front ++ write fields) = front ++ write fields := by
    refine dropMark.eq_2 _ fun rest hrest => ?_
    cases hempty : front with
    | nil =>
      rw [hempty, List.nil_append, hct, List.cons.injEq] at hrest
      rw [hrest.1] at hc
      exact absurd hc (by decide)
    | cons first front' =>
      rw [hempty, List.cons_append, List.cons.injEq] at hrest
      refine hfront.mark ?_
      rw [hempty, hrest.1]
      rfl
  -- no line takes up less than a character, so the length of the text is fuel
  -- enough
  have hread : lines? ((front ++ write fields).length + 1) (front ++ write fields)
      = gather (blanks ++ documentLines fields) (some []) := by
    have hspells := hfront.spells.append
      ((spells_valueLines fields h.2).append (spells_sections [] fields h.2))
    have hall := hspells [] (some []) Reads.nil
    rw [← hwrite, List.append_nil] at hall
    exact hall _ (Nat.le_succ _)
  have hblanks : (blanks ++ documentLines fields).all Line.fits
      = (documentLines fields).all Line.fits := by
    have hfits : blanks.all Line.fits = true :=
      List.all_eq_true.mpr fun line hline => hfront.blank line hline ▸ rfl
    rw [List.all_append, hfits, Bool.true_and]
  unfold parse?
  rw [String.toList_ofList, hmark]
  show (lines? ((front ++ write fields).length + 1) (front ++ write fields)).bind _ = _
  rw [hread]
  unfold gather
  rw [hblanks]
  -- the lines are those of the outline, which builds the tree of the document
  by_cases hfits : (documentLines fields).all Line.fits = true
  · rw [if_pos hfits, if_pos hfits, Option.map_some, Option.bind_some, List.append_nil,
      group_blank hfront.blank]
    unfold documentLines
    rw [group_statements _ (group_linesBelow _)]
    show ((Entries.insertAll? (statements fields) []).bind
      (addAll? (outlineFields fields))).map Node.entriesData = _
    rw [insertAll?_statements h.1, Option.bind_some,
      addAll?_outlineFields fields h.2 _ (nodup_keys h.1)]
    rfl
  · rw [if_neg hfits, if_neg hfits]
    rfl

theorem parse?_write {fields : List (String × Doc)} (h : (Doc.record fields).Distinct)
    (hplain : ∃ field ∈ fields, hasSections field.2 = false) :
    parse? (String.ofList (write fields))
      = if (documentLines fields).all Line.fits = true
        then some (Node.entriesData (plainEntries fields ++ sectionEntries fields)) else none :=
  parse?_idle_write Idle.nil h hplain

/-- A text that the printer could have written, within the limits. -/
theorem parse?_of_write {text : String} {fields : List (String × Doc)}
    (htext : text = String.ofList (write fields)) (h : (Doc.record fields).Distinct)
    (hplain : ∃ field ∈ fields, hasSections field.2 = false)
    (hfits : (documentLines fields).all Line.fits = true) :
    parse? text = some (Node.entriesData (plainEntries fields ++ sectionEntries fields)) := by
  rw [htext, parse?_write h hplain, if_pos hfits]

/-! ## A bound that keeps the limits -/

/-- Statements are within the limits if the record can be read. -/
theorem fits_statements {d : Nat} (hd : d ≤ maxParts) : ∀ fields : List (String × Doc),
    Data.readableEntries d (Doc.recordData fields) = true →
    ((statements fields).map pairLine).all Line.fits = true
  | [], _ => rfl
  | (name, doc) :: fields, h => by
    rw [Doc.recordData, Data.readableEntries, Bool.and_eq_true] at h
    have hfields := fits_statements hd fields h.2
    unfold statements at hfields ⊢
    rw [plainData]
    by_cases hs : hasSections doc = true
    · rw [if_pos hs]
      exact hfields
    · rw [if_neg hs, List.map_cons, List.map_cons, List.all_cons, hfields, Bool.and_true]
      show (true && doc.data.readable maxParts) = true
      rw [Bool.true_and]
      exact Data.readable_mono doc.data hd h.1

/-- A section is within the limits if its record can be read and its key
is not one too many. -/
theorem fits_section {row : Bool} {way : List String} {name : String} {d : Nat}
    (hway : way.length + d + 1 ≤ maxParts) {fields : List (String × Doc)}
    (h : Data.readableEntries d (Doc.recordData fields) = true) :
    (linesBelow way [⟨row, [], name, statements fields⟩]).all Line.fits = true := by
  have hstatements := fits_statements (by omega) fields h
  have hheader : (Line.header row (way ++ [] ++ [name])).fits = true := by
    simp only [Line.fits, decide_eq_true_eq, List.append_nil, List.length_append,
      List.length_singleton]
    omega
  show (Section.lines _ ++ []).all Line.fits = true
  rw [List.append_nil, Section.lines, List.all_append, hstatements, Bool.and_true]
  show (true && (Line.fits _ && true)) = true
  rw [Bool.and_true, Bool.true_and]
  exact hheader

mutual

/-- **The outline of a field is within the limits** if the reader goes as
deep as the field, counted from the end of the way. -/
theorem fits_outline (name : String) : ∀ (doc : Doc) (way : List String) {d : Nat},
    way.length + d ≤ maxParts → doc.data.readable d = true →
    (linesBelow way (outline name doc)).all Line.fits = true
  | .text _, _, _, _, _ => rfl
  | .flag _, _, _, _, _ => rfl
  | .list items, way, d, hway, h => by
    rw [outline]
    by_cases hrows : isRows items = true
    · rw [if_pos hrows]
      cases d with
      | zero => exact absurd h (by simp [Doc.data, Data.readable])
      | succ d => exact fits_outlineRows name items way (by omega) h
    · rw [if_neg hrows]
      rfl
  | .record fields, way, d, hway, h => by
    cases d with
    | zero => exact absurd h (by simp [Doc.data, Data.readable])
    | succ d =>
      rw [outline, linesBelow_append, linesBelow_under, List.all_append, Bool.and_eq_true]
      refine ⟨?_, fits_outlineFields fields (way ++ [name]) (by simp; omega) h⟩
      by_cases hh : needsHeader fields = true
      · rw [if_pos hh]
        exact fits_section (by omega) h
      · rw [if_neg hh]
        rfl

/-- The outline of fields is within the limits. -/
theorem fits_outlineFields : ∀ (fields : List (String × Doc)) (way : List String) {d : Nat},
    way.length + d ≤ maxParts → Data.readableEntries d (Doc.recordData fields) = true →
    (linesBelow way (outlineFields fields)).all Line.fits = true
  | [], _, _, _, _ => rfl
  | (name, doc) :: fields, way, d, hway, h => by
    rw [Doc.recordData, Data.readableEntries, Bool.and_eq_true] at h
    rw [outlineFields, linesBelow_append, List.all_append, Bool.and_eq_true]
    exact ⟨fits_outline name doc way hway h.1, fits_outlineFields fields way hway h.2⟩

/-- The outline of a list of records is within the limits. -/
theorem fits_outlineRows (name : String) : ∀ (items : List Doc) (way : List String) {d : Nat},
    way.length + d + 1 ≤ maxParts → Data.readableItems d (Doc.listData items) = true →
    (linesBelow way (outlineRows name items)).all Line.fits = true
  | [], _, _, _, _ => rfl
  | item :: items, way, d, hway, h => by
    rw [Doc.listData, Data.readableItems, Bool.and_eq_true] at h
    rw [outlineRows, linesBelow_append, List.all_append, Bool.and_eq_true]
    exact ⟨fits_outlineRow name item way hway h.1, fits_outlineRows name items way hway h.2⟩

/-- The outline of a record of a list is within the limits. -/
theorem fits_outlineRow (name : String) : ∀ (item : Doc) (way : List String) {d : Nat},
    way.length + d + 1 ≤ maxParts → item.data.readable d = true →
    (linesBelow way (outlineRow name item)).all Line.fits = true
  | .text _, _, _, _, _ => rfl
  | .flag _, _, _, _, _ => rfl
  | .list _, _, _, _, _ => rfl
  | .record fields, way, d, hway, h => by
    cases d with
    | zero => exact absurd h (by simp [Doc.data, Data.readable])
    | succ d =>
      rw [outlineRow, linesBelow_cons, linesBelow_under, List.all_append, Bool.and_eq_true]
      exact ⟨fits_section (by omega) h,
        fits_outlineFields fields (way ++ [name]) (by simp; omega) h⟩

end

/-- **A document that nests no deeper than the reader goes keeps the
limits.** -/
theorem fits_of_readable {fields : List (String × Doc)}
    (h : Data.readableEntries maxParts (Doc.recordData fields) = true) :
    (documentLines fields).all Line.fits = true := by
  unfold documentLines
  rw [List.all_append, fits_statements (Nat.le_refl _) fields h,
    fits_outlineFields fields [] (by simp) h]
  rfl

end DocSite.Toml
