import Mathlib.Tactic.Common
import DocSite.Proofs.Files.Write

/-!
# What has been written is read back

A text that has been written is found under the path it was written to
(`find_of_write`), and under the same path read from the root
(`find_join`): one works in a directory that is reached from the root by
its own names. That needs a tree as disks have them, where everything is
in a directory and under a name, and writing keeps a tree so
(`Tree.Sound`, `sound_of_write`).

The path from the root is longer than the path itself, and the length of
a path has a limit. So it is not enough that the one can be followed.
-/

namespace DocSite.Files

/-! ## Sound trees -/

/-- **A tree as disks have them.** -/
structure Tree.Sound (tree : Tree) : Prop where
  /-- Everything is in a directory. -/
  parent : ∀ names name, (tree.get? (names ++ [name])).isSome = true →
    tree.get? names = some .directory
  /-- Everything has a name. -/
  named : ∀ names name, (tree.get? (names ++ [name])).isSome = true → IsName name

namespace Tree

theorem Sound.empty : Sound {} where
  parent names name h := by
    unfold get? at h
    rw [if_neg (by simp)] at h
    exact absurd h Bool.false_ne_true
  named names name h := by
    unfold get? at h
    rw [if_neg (by simp)] at h
    exact absurd h Bool.false_ne_true

/-- What is in a directory of a directory is in both. -/
theorem Sound.above {tree : Tree} (h : tree.Sound) (front back : List String)
    (hthere : (tree.get? (front ++ back)).isSome = true) :
    (back ≠ [] → tree.get? front = some .directory) ∧ ∀ name ∈ back, IsName name := by
  induction back using List.reverseRecOn with
  | nil => exact ⟨fun hne => absurd rfl hne, fun _ hname => absurd hname List.not_mem_nil⟩
  | append_singleton back last ih =>
    rw [← List.append_assoc] at hthere
    have hparent := h.parent (front ++ back) last hthere
    obtain ⟨hfront, hnames⟩ := ih (by rw [hparent]; rfl)
    refine ⟨fun _ => ?_, fun name hname => ?_⟩
    · by_cases hback : back = []
      · rw [hback, List.append_nil] at hparent
        exact hparent
      · exact hfront hback
    · rcases List.mem_append.mp hname with hname | hname
      · exact hnames name hname
      · rw [List.mem_singleton.mp hname]
        exact h.named _ _ hthere

/-- **A directory is reached by its names**, from any directory it is
in. -/
theorem Sound.walk_append {tree : Tree} (h : tree.Sound) (back : List String) :
    ∀ front, tree.get? (front ++ back) = some .directory → ∀ rest,
      tree.walk front (back ++ rest) = tree.walk (front ++ back) rest := by
  induction back with
  | nil =>
    intro front _ rest
    rw [List.append_nil]
    rfl
  | cons name back ih =>
    intro front hthere rest
    obtain ⟨hfront, hnames⟩ := h.above front (name :: back) (by rw [hthere]; rfl)
    have hname := hnames name List.mem_cons_self
    have hassoc : front ++ name :: back = front ++ [name] ++ back := by
      rw [List.append_assoc]
      rfl
    rw [List.cons_append, walk_down (hfront (List.cons_ne_nil _ _)) hname.ne_empty hname.ne_dots
      hname.short, hassoc]
    exact ih _ (hassoc ▸ hthere) rest

theorem isDirectory_iff (tree : Tree) (names : List String) :
    tree.isDirectory names = true ↔ tree.get? names = some .directory := by
  unfold isDirectory
  cases tree.get? names with
  | none => simp
  | some item => cases item <;> simp

/-- Directories stay where they are, if nothing has come in the place of
one. -/
theorem directory_put {tree : Tree} {place : List String} (hne : place ≠ [])
    (hfree : tree.isDirectory place = false) (item : Item) {names : List String}
    (h : tree.get? names = some .directory) :
    (tree.put place item).get? names = some .directory := by
  rw [get?_put _ hne, if_neg, h]
  rintro rfl
  rw [(isDirectory_iff tree names).mpr h] at hfree
  exact absurd hfree Bool.false_ne_true.symm

/-- **Putting something into a directory keeps a tree sound**, if no
directory is in its place. -/
theorem Sound.put {tree : Tree} (h : tree.Sound) {names : List String} {name : String}
    (hparent : tree.get? names = some .directory) (hname : IsName name)
    (hfree : tree.isDirectory (names ++ [name]) = false) (item : Item) :
    (tree.put (names ++ [name]) item).Sound := by
  have hne : names ++ [name] ≠ [] := List.append_ne_nil_of_right_ne_nil _ (List.cons_ne_nil _ _)
  refine ⟨fun others other hother => directory_put hne hfree item ?_, fun others other hother => ?_⟩
  · rw [get?_put _ hne] at hother
    split_ifs at hother with heq
    · rw [(List.append_inj' heq rfl).1]
      exact hparent
    · exact h.parent _ _ hother
  · rw [get?_put _ hne] at hother
    split_ifs at hother with heq
    · rw [List.singleton_inj.mp (List.append_inj' heq rfl).2]
      exact hname
    · exact h.named _ _ hother

/-- Names lead where they have led, if nothing has come in the place of a
directory. -/
theorem walk_put {tree : Tree} {place : List String} (hne : place ≠ [])
    (hfree : tree.isDirectory place = false) (item : Item) (names : List String) :
    ∀ {here there : List String}, tree.walk here names = .ok there →
      (tree.put place item).walk here names = .ok there := by
  induction names with
  | nil =>
    intro here there h
    exact h
  | cons name names ih =>
    intro here there h
    rw [walk] at h ⊢
    cases hitem : tree.get? here with
    | none =>
      rw [hitem] at h
      exact absurd h (by simp)
    | some found =>
      rw [hitem] at h
      cases found with
      | file content => exact absurd h (by simp)
      | directory =>
        rw [directory_put hne hfree item hitem]
        dsimp only at h ⊢
        split_ifs at h ⊢
        · exact ih h
        · exact ih h
        · exact ih h

end Tree

/-! ## Paths from the root -/

/-- Names with a slash before each, and one behind them all. -/
theorem flatMap_slash (names : List (List Char)) (rest : List Char) :
    names.flatMap ('/' :: ·) ++ '/' :: rest = '/' :: (names.flatMap (· ++ ['/']) ++ rest) := by
  induction names with
  | nil => rfl
  | cons name names ih =>
    rw [List.flatMap_cons, List.flatMap_cons, List.append_assoc, ih]
    simp

/-- **The path from the root**: its names, each with a slash behind it, and
the path. -/
theorem toList_join_absolute {names : List String} (hnames : ∀ name ∈ names, IsName name)
    {path : String} (h : isAbsolute path = false) :
    (join (absolute names) path).toList
      = '/' :: ((names.map String.toList).flatMap (· ++ ['/']) ++ path.toList) := by
  unfold join
  rw [if_neg (by rw [h]; exact Bool.false_ne_true)]
  by_cases hroot : names = []
  · rw [hroot, if_neg (by decide), if_pos (by decide), String.toList_append]
    rfl
  · have htext : (absolute names).toList = (names.map String.toList).flatMap ('/' :: ·) := by
      unfold absolute
      rw [if_neg (by simpa using hroot), String.toList_join, List.flatMap_map, List.flatMap_map]
      congr 1
      funext name
      rw [String.toList_append]
      rfl
    -- the last name ends in no slash, so one has to go behind it
    have hlast : (absolute names).toList.getLast? ≠ some '/' := by
      obtain ⟨front, last, rfl⟩ : ∃ front last, names = front ++ [last] :=
        ⟨_, _, (List.dropLast_concat_getLast hroot).symm⟩
      have hname := hnames last (List.mem_append_right _ List.mem_cons_self)
      obtain ⟨inner, c, hc⟩ : ∃ inner c, last.toList = inner ++ [c] := by
        refine ⟨_, _, (List.dropLast_concat_getLast fun hnil => hname.ne_empty ?_).symm⟩
        rw [← String.toList_inj, hnil]
        rfl
      rw [htext, List.map_append, List.flatMap_append]
      show (_ ++ (('/' :: last.toList) ++ [])).getLast? ≠ _
      rw [List.append_nil, hc, ← List.cons_append, ← List.append_assoc, List.getLast?_concat]
      rintro hslash
      refine hname.slash ?_
      rw [hc, ← Option.some.inj hslash]
      exact List.mem_append_right _ List.mem_cons_self
    have hne : absolute names ≠ "" := by
      intro hempty
      obtain ⟨first, rest, rfl⟩ := List.exists_cons_of_ne_nil hroot
      rw [hempty] at htext
      exact absurd htext (by simp)
    rw [if_neg hne, if_neg hlast, String.toList_append, String.toList_append, htext,
      List.append_assoc]
    exact flatMap_slash _ _

namespace Workspace

theorem parts_join_absolute {names : List String} (hnames : ∀ name ∈ names, IsName name)
    {path : String} (h : isAbsolute path = false) :
    parts (join (absolute names) path) = "" :: (names ++ parts path) := by
  have hslash : ∀ line ∈ names.map String.toList, '/' ∉ line := by
    intro line hline
    obtain ⟨name, hname, rfl⟩ := List.mem_map.mp hline
    exact (hnames name hname).slash
  have hback : (names.map String.toList).map String.ofList = names := by
    rw [List.map_map]
    exact (List.map_congr_left fun name _ => String.ofList_toList).trans (List.map_id names)
  unfold parts
  rw [toList_join_absolute hnames h]
  show (Text.split (· == '/') ([] ++ '/' :: _)).map String.ofList = _
  rw [Text.split_append_cons, Text.split_flatMap hslash, List.map_append, List.map_append, hback]
  rfl

theorem refused?_eq_none_iff (path : String) :
    refused? path = none ↔ path ≠ "" ∧ '\x00' ∉ path.toList
      ∧ path.utf8ByteSize ≤ Tree.lengthLimits.2 := by
  unfold refused?
  split_ifs with hempty hnul hlong
  · exact ⟨fun h => absurd h (by simp), fun h => absurd hempty h.1⟩
  · exact ⟨fun h => absurd h (by simp), fun h => absurd (List.contains_iff_mem.mp hnul) h.2.1⟩
  · exact ⟨fun h => absurd h (by simp), fun h => absurd h.2.2 (Nat.not_le.mpr hlong)⟩
  · exact ⟨fun _ => ⟨hempty, fun h => hnul (List.contains_iff_mem.mpr h), Nat.not_lt.mp hlong⟩,
      fun _ => rfl⟩

/-- **A path that is not too long from the root** either. -/
def FromRoot (w : Workspace) (path : String) : Prop :=
  isAbsolute path = true
    ∨ (join (absolute w.here) path).utf8ByteSize ≤ Tree.lengthLimits.2

/-- **A path leads where the same path leads from the root**, if that is
not too long. -/
theorem find_join {w : Workspace} (hsound : w.tree.Sound)
    (hhere : w.tree.get? w.here = some .directory) {path : String}
    (hrelative : isAbsolute path = false) (haccepted : refused? path = none)
    (hroot : w.FromRoot path) : w.find (join (absolute w.here) path) = w.find path := by
  have hlong := hroot.resolve_left (by rw [hrelative]; exact Bool.false_ne_true)
  obtain ⟨-, hnames⟩ := hsound.above [] w.here (by rw [List.nil_append, hhere]; rfl)
  have htext := toList_join_absolute hnames hrelative
  have hnul : '\x00' ∉ (join (absolute w.here) path).toList := by
    rw [htext]
    intro hmem
    rcases List.mem_cons.mp hmem with h | hmem
    · exact absurd h (by decide)
    · rcases List.mem_append.mp hmem with hmem | hmem
      · obtain ⟨line, hline, hmem⟩ := List.mem_flatMap.mp hmem
        obtain ⟨name, hname, rfl⟩ := List.mem_map.mp hline
        rcases List.mem_append.mp hmem with hmem | hmem
        · exact (hnames name hname).nul hmem
        · exact absurd (List.mem_singleton.mp hmem) (by decide)
      · exact ((refused?_eq_none_iff path).mp haccepted).2.1 hmem
  have hfollowed : refused? (join (absolute w.here) path) = none := by
    refine (refused?_eq_none_iff _).mpr ⟨?_, hnul, hlong⟩
    intro hempty
    rw [hempty] at htext
    exact absurd htext (by simp)
  have habsolute : isAbsolute (join (absolute w.here) path) = true := by
    unfold isAbsolute
    rw [htext]
    rfl
  have hwalk : w.tree.walk (w.start (join (absolute w.here) path))
        (parts (join (absolute w.here) path))
      = w.tree.walk (w.start path) (parts path) := by
    unfold start
    rw [habsolute, hrelative, if_pos rfl, if_neg Bool.false_ne_true,
      parts_join_absolute hnames hrelative]
    show w.tree.walk [] (w.here ++ parts path) = _
    exact hsound.walk_append w.here [] hhere (parts path)
  unfold find
  rw [hfollowed, haccepted, hwalk]

/-! ## Writing -/

theorem fromUTF8?_toUTF8 (text : String) : String.fromUTF8? text.toUTF8 = some text := by
  unfold String.fromUTF8?
  rw [String.toUTF8_eq_toByteArray, dif_pos text.isValidUTF8]
  rfl

variable {w w' : Workspace} {path text : String}

/-- What writing does, where it succeeds. -/
theorem exists_of_write (h : w.write path text = .ok w') :
    ∃ directory name, w.IsTarget path directory name
      ∧ w' = { w with tree := w.tree.put (directory ++ [name]) (.file text.toUTF8) } := by
  obtain ⟨names, htarget, h⟩ := exists_of_bind h
  injection h with h
  obtain ⟨directory, name, rfl, hplace⟩ := exists_of_target htarget
  exact ⟨directory, name, hplace, h.symm⟩

/-- **Writing keeps a tree sound.** -/
theorem sound_of_write (hsound : w.tree.Sound) (h : w.write path text = .ok w') :
    w'.tree.Sound := by
  obtain ⟨directory, name, hplace, rfl⟩ := exists_of_write h
  exact hsound.put hplace.parent hplace.named hplace.free _

theorem isDirectory_of_write (h : w.write path text = .ok w') {names : List String}
    (hdirectory : w.tree.isDirectory names = true) : w'.tree.isDirectory names = true := by
  obtain ⟨directory, name, hplace, rfl⟩ := exists_of_write h
  rw [Tree.isDirectory_iff] at hdirectory ⊢
  exact Tree.directory_put (List.append_ne_nil_of_right_ne_nil _ (List.cons_ne_nil _ _)) hplace.free
    _ hdirectory

/-- **What has been written is found** where it has been written. -/
theorem find_of_write (h : w.write path text = .ok w') :
    w'.find path = .ok (.file text.toUTF8) := by
  obtain ⟨directory, name, hplace, rfl⟩ := exists_of_write h
  have hne : directory ++ [name] ≠ [] :=
    List.append_ne_nil_of_right_ne_nil _ (List.cons_ne_nil _ _)
  have hwalk := Tree.walk_put hne hplace.free (.file text.toUTF8) _ hplace.leads
  unfold find
  rw [hplace.accepted]
  show ((w.tree.put (directory ++ [name]) (.file text.toUTF8)).walk (w.start path)
    (parts path)).bind _ = _
  rw [hwalk]
  dsimp only [Except.bind]
  rw [Tree.get?_put _ hne, if_pos rfl]

theorem read_of_find (h : w.find path = .ok (.file text.toUTF8)) : w.read path = .ok text := by
  unfold read
  rw [h]
  dsimp only [bind, Except.bind]
  rw [fromUTF8?_toUTF8]

/-! ## Paths that are too long from the root -/

/-- A relative path as long as a path may be leads nowhere from the root:
there it is longer. -/
theorem kind?_join_of_long (w : Workspace) {path : String} (hrelative : isAbsolute path = false)
    (hlong : Tree.lengthLimits.2 ≤ path.utf8ByteSize) (directory : List String) :
    w.kind? (join (absolute directory) path) = none := by
  have hpos : 0 < (absolute directory).utf8ByteSize := by
    unfold absolute
    cases directory with
    | nil => decide
    | cons name names =>
      rw [if_neg (by simp), List.map_cons, String.join_cons, String.utf8ByteSize_append,
        String.utf8ByteSize_append]
      have hslash : "/".utf8ByteSize = 1 := by decide
      omega
  have hne : absolute directory ≠ "" := by
    intro hempty
    rw [hempty] at hpos
    exact absurd hpos (by decide)
  have hsize : Tree.lengthLimits.2 < (join (absolute directory) path).utf8ByteSize := by
    unfold join
    rw [hrelative, if_neg Bool.false_ne_true, if_neg hne]
    split_ifs
    · rw [String.utf8ByteSize_append]
      omega
    · rw [String.utf8ByteSize_append, String.utf8ByteSize_append]
      omega
  unfold kind? find
  cases hrefused : refused? (join (absolute directory) path) with
  | some fault => rfl
  | none =>
    have hfits := ((refused?_eq_none_iff _).mp hrefused).2.2
    exact absurd hsize (Nat.not_lt.mpr hfits)

/-- A name behind so many steps that stay. -/
def behindDots : Nat → String → String
  | 0, name => name
  | n + 1, name => "./" ++ behindDots n name

variable {name : String}

theorem toList_behindDots (n : Nat) (name : String) :
    (behindDots (n + 1) name).toList = '.' :: '/' :: (behindDots n name).toList := by
  rw [behindDots, String.toList_append]
  rfl

theorem utf8ByteSize_behindDots (n : Nat) (name : String) :
    (behindDots n name).utf8ByteSize = 2 * n + name.utf8ByteSize := by
  induction n with
  | zero => simp [behindDots]
  | succ n ih =>
    have hdots : "./".utf8ByteSize = 2 := by decide
    rw [behindDots, String.utf8ByteSize_append, ih]
    omega

theorem parts_behindDots (h : '/' ∉ name.toList) (n : Nat) :
    parts (behindDots n name) = List.replicate n "." ++ [name] := by
  induction n with
  | zero =>
    unfold parts
    rw [behindDots, Text.split_of_notMem h, List.map_singleton, String.ofList_toList]
    rfl
  | succ n ih =>
    unfold parts at ih ⊢
    rw [toList_behindDots]
    show (Text.split (· == '/') (['.'] ++ '/' :: (behindDots n name).toList)).map _ = _
    rw [Text.split_append_cons, List.map_append, ih]
    rfl

theorem walk_dots {tree : Tree} {here : List String}
    (hhere : tree.get? here = some .directory) (n : Nat) (rest : List String) :
    tree.walk here (List.replicate n "." ++ rest) = tree.walk here rest := by
  induction n with
  | zero => rfl
  | succ n ih =>
    rw [List.replicate_succ, List.cons_append, Tree.walk, hhere]
    dsimp only
    rw [if_pos (Or.inr rfl), ih]

theorem isAbsolute_behindDots (h : '/' ∉ name.toList) (n : Nat) :
    isAbsolute (behindDots n name) = false := by
  unfold isAbsolute
  rw [decide_eq_false_iff_not]
  cases n with
  | zero => exact fun hhead => h (List.mem_of_mem_head? hhead)
  | succ n =>
    rw [toList_behindDots, List.head?_cons]
    decide

/-- A name behind steps that stay can be followed if the path is not too
long. -/
theorem refused?_behindDots (h : IsName name) {n : Nat}
    (hlong : 2 * n + name.utf8ByteSize ≤ Tree.lengthLimits.2) :
    refused? (behindDots n name) = none := by
  have hnul : '\x00' ∉ (behindDots n name).toList := by
    clear hlong
    induction n with
    | zero => exact h.nul
    | succ n ih =>
      rw [toList_behindDots]
      simp [ih]
  refine (refused?_eq_none_iff _).mpr ⟨?_, hnul, ?_⟩
  · cases n with
    | zero => exact h.ne_empty
    | succ n =>
      intro hempty
      have htext := toList_behindDots n name
      rw [hempty] at htext
      exact absurd htext (by simp)
  · rw [utf8ByteSize_behindDots]
    exact hlong

/-- **Writing behind steps that stay** is writing into the directory one
works in, as long as the path is not too long. -/
theorem target_behindDots {w : Workspace} (hhere : w.tree.get? w.here = some .directory)
    (h : IsName name) {n : Nat}
    (hlong : 2 * n + name.utf8ByteSize ≤ Tree.lengthLimits.2)
    (hfree : w.tree.isDirectory (w.here ++ [name]) = false) :
    w.target (behindDots n name) = .ok (w.here ++ [name]) := by
  have hstart : w.start (behindDots n name) = w.here := by
    unfold start
    rw [isAbsolute_behindDots h.slash, if_neg Bool.false_ne_true]
  have hstem : stem (behindDots n name) = List.replicate n "." ++ [name] := by
    unfold stem
    rw [parts_behindDots h.slash, List.reverse_append, List.reverse_singleton,
      List.singleton_append, List.dropWhile_cons_of_neg (by simpa using h.ne_empty),
      List.reverse_cons, List.reverse_reverse]
  have hwalk : w.tree.walk w.here (List.replicate n "." ++ [""]) = .ok w.here := by
    rw [walk_dots hhere, Tree.walk, hhere]
    dsimp only
    rw [if_pos (Or.inl rfl)]
    rfl
  unfold target
  rw [refused?_behindDots h hlong]
  dsimp only
  rw [hstart, hstem, List.dropLast_concat, hwalk, List.getLast?_concat, parts_behindDots h.slash]
  dsimp only [bind, Except.bind]
  rw [if_neg h.ne_dots, if_neg h.short, if_neg (Nat.lt_irrefl _), hfree,
    if_neg Bool.false_ne_true]

end Workspace

end DocSite.Files
