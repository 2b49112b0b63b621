import Mathlib.Data.List.Basic
import FirstCall.DumpDir

/-!
# Files of a directory

A name without slashes, put behind the path of a directory, leads to an entry of that directory.
Writing such a file changes one entry, and every path that led somewhere still leads there.
-/

namespace FirstCall

namespace Path

theorem segments_cons (c : Char) (rest : List Char) :
    segments (c :: rest) =
      if c = '/' then [] :: segments rest
      else
        match segments rest with
        | [] => [[c]]
        | first :: others => (c :: first) :: others := rfl

theorem segments_ne_nil (path : List Char) : segments path ≠ [] := by
  cases path with
  | nil => simp [segments]
  | cons c rest =>
    rw [segments_cons]
    split
    · simp
    · split <;> simp

theorem segments_append (before after : List Char) :
    segments (before ++ '/' :: after) = segments before ++ segments after := by
  induction before with
  | nil => simp [segments]
  | cons c rest ih =>
    rw [List.cons_append, segments_cons, segments_cons, ih]
    by_cases slash : c = '/'
    · rw [if_pos slash, if_pos slash, List.cons_append]
    · rw [if_neg slash, if_neg slash]
      cases names : segments rest with
      | nil => exact absurd names (segments_ne_nil rest)
      | cons first others => rfl

theorem segments_of_slashless {name : List Char} (slashless : '/' ∉ name) :
    segments name = [name] := by
  induction name with
  | nil => rfl
  | cons c rest ih =>
    have here : c ≠ '/' := fun same => slashless (same ▸ List.mem_cons_self)
    have later : '/' ∉ rest := fun found => slashless (List.mem_cons_of_mem _ found)
    rw [segments_cons, if_neg here, ih later]

/-- A name that stands for an entry of a directory, not for a way through it. -/
structure Plain (name : String) : Prop where
  slashless : '/' ∉ name.toList
  nonempty : name ≠ ""
  notHere : name ≠ "."
  notUp : name ≠ ".."

/-- Behind the path of a directory, a name is its last segment. The names before it are those of
the directory, up to an empty one after a last slash. -/
theorem segments_join {dir name : String} (named : dir ≠ "") (plain : Plain name) :
    (join dir name).toList.head? = dir.toList.head? ∧
      ∃ names, segments (join dir name).toList = names ++ [name.toList] ∧
        (segments dir.toList = names ∨ segments dir.toList = names ++ [[]]) := by
  have some : dir.toList ≠ [] := fun none => named (String.toList_eq_nil_iff.mp none)
  have last := segments_of_slashless plain.slashless
  unfold join
  rw [if_neg named]
  split
  · next slash =>
    have whole : dir.toList = dir.toList.dropLast ++ ['/'] :=
      (List.dropLast_append_getLast? '/' (by rw [slash]; rfl)).symm
    refine ⟨by simp [List.head?_append_of_ne_nil _ some], segments dir.toList.dropLast, ?_, .inr ?_⟩
    · rw [String.toList_append, ← last]
      conv_lhs => rw [whole, List.append_assoc, List.singleton_append]
      exact segments_append _ _
    · conv_lhs => rw [whole]
      exact segments_append _ _
  · refine ⟨?_, segments dir.toList, ?_, .inl rfl⟩
    · simp [List.head?_append_of_ne_nil _ some]
    · have whole : (dir ++ "/" ++ name).toList = dir.toList ++ '/' :: name.toList := by simp
      rw [whole, segments_append, last]

end Path

namespace FileTree

variable {tree : FileTree} {place other : Place} {entry : FileEntry} {dir name path : String}

theorem entry?_put (below : place ≠ []) :
    entry? (tree.put place entry) other = if other = place then some entry else tree.entry? other := by
  unfold entry? put
  by_cases root : other = []
  · rw [if_pos root, if_pos root, if_neg fun same => below (same.symm.trans root)]
  · rw [if_neg root, if_neg root, List.lookup_cons]
    by_cases same : other = place
    · simp [same]
    · have kept : ∀ entries : List (Place × FileEntry),
          (entries.filter (·.1 ≠ place)).lookup other = entries.lookup other := by
        intro entries
        induction entries with
        | nil => rfl
        | cons first rest ih => grind
      simp only [beq_eq_false_iff_ne.mpr same, if_neg same]
      exact kept tree.entries

theorem follow_eq_ok_iff {name : String} :
    tree.follow place name = .ok other ↔
      tree.entry? place = some .directory ∧
        other = if name = "" ∨ name = "." then place
          else if name = ".." then place.dropLast else place ++ [name] := by
  unfold follow
  cases found : tree.entry? place with
  | none => simp
  | some entry =>
    cases entry with
    | file contents => simp
    | directory =>
      dsimp only
      split
      · simp [eq_comm]
      · split <;> simp [eq_comm]

theorem follow_plain (plain : Path.Plain name) (directory : tree.entry? place = some .directory) :
    tree.follow place name = .ok (place ++ [name]) := by
  rw [follow_eq_ok_iff]
  simp [directory, plain.nonempty, plain.notHere, plain.notUp]

def origin (tree : FileTree) (path : String) : Place :=
  if path.toList.head? = some '/' then [] else tree.workDir

theorem resolve_of_ne (named : path ≠ "") :
    tree.resolve path =
      ((Path.segments path.toList).map String.ofList).foldlM tree.follow (tree.origin path) :=
  if_neg named

theorem resolve_join (plain : Path.Plain name) (leads : tree.resolve dir = .ok place)
    (directory : tree.entry? place = some .directory) :
    tree.resolve (Path.join dir name) = .ok (place ++ [name]) := by
  have named : dir ≠ "" := by
    rintro rfl
    cases leads
  obtain ⟨sameHead, names, segments, before⟩ := Path.segments_join named plain
  have joined : Path.join dir name ≠ "" := by
    intro empty
    rw [empty] at segments
    have last := congrArg List.getLast? segments
    rw [List.getLast?_concat] at last
    have none : [] = name.toList := Option.some.inj last
    exact plain.nonempty (String.toList_eq_nil_iff.mp none.symm)
  have sameOrigin : tree.origin (Path.join dir name) = tree.origin dir := by
    unfold origin
    rw [sameHead]
  have reached : (names.map String.ofList).foldlM tree.follow (tree.origin dir) = .ok place := by
    rw [resolve_of_ne named] at leads
    rcases before with same | slash
    · rw [same] at leads
      exact leads
    · rw [slash, List.map_append, List.foldlM_append] at leads
      cases way : (names.map String.ofList).foldlM tree.follow (tree.origin dir) with
      | error fault =>
        rw [way] at leads
        cases leads
      | ok middle =>
        rw [way] at leads
        have step : tree.follow middle "" = .ok place := by
          change [""].foldlM tree.follow middle = .ok place at leads
          rw [List.foldlM_cons] at leads
          exact (bind_pure _).symm.trans leads
        obtain ⟨_, same⟩ := follow_eq_ok_iff.mp step
        rw [same, if_pos (.inl rfl)]
  rw [resolve_of_ne joined, segments, List.map_append, List.foldlM_append, sameOrigin, reached]
  change [String.ofList name.toList].foldlM tree.follow place = _
  rw [String.ofList_toList, List.foldlM_cons, follow_plain plain directory]
  rfl

/-- Putting a file where no directory is blocks no way. -/
theorem resolve_put {contents : Bytes} {target : Place} (below : place ≠ [])
    (free : tree.entry? place ≠ some .directory) (leads : tree.resolve path = .ok target) :
    (tree.put place (.file contents)).resolve path = .ok target := by
  have named : path ≠ "" := by
    rintro rfl
    cases leads
  have step : ∀ {here next : Place} {name : String}, tree.follow here name = .ok next →
      (tree.put place (.file contents)).follow here name = .ok next := by
    intro here next name followed
    obtain ⟨directory, same⟩ := follow_eq_ok_iff.mp followed
    have apart : here ≠ place := fun same => free (same ▸ directory)
    rw [follow_eq_ok_iff, entry?_put below, if_neg apart]
    exact ⟨directory, same⟩
  rw [resolve_of_ne named] at leads ⊢
  change List.foldlM _ (tree.origin path) _ = _
  generalize tree.origin path = start at leads ⊢
  generalize (Path.segments path.toList).map String.ofList = names at leads ⊢
  induction names generalizing start with
  | nil => exact leads
  | cons name rest ih =>
    rw [List.foldlM_cons] at leads ⊢
    cases followed : tree.follow start name with
    | error fault =>
      rw [followed] at leads
      cases leads
    | ok middle =>
      rw [followed] at leads
      rw [step followed]
      exact ih middle leads

theorem write_join {contents : Bytes} (plain : Path.Plain name)
    (leads : tree.resolve dir = .ok place) (directory : tree.entry? place = some .directory)
    (free : tree.entry? (place ++ [name]) ≠ some .directory) :
    tree.write (Path.join dir name) contents =
      .ok (tree.put (place ++ [name]) (.file contents)) := by
  unfold write
  rw [resolve_join plain leads directory]
  dsimp only [bind, Except.bind]
  rw [if_neg free]
  rfl

end FileTree

structure DumpDir.At (dump : DumpDir) (files : FileTree) (place : Place) : Prop where
  leads : files.resolve dump.dir = .ok place
  directory : files.entry? place = some .directory

namespace DumpDir

theorem plain_skeletonFile : Path.Plain skeletonFile := by
  constructor <;> decide

theorem toList_unitFile (i : FuncId) :
    (unitFile i).toList = Nat.toDigits 10 i.slot ++ ".wasm".toList := by
  simp [unitFile, FuncId.decimal]

theorem plain_unitFile (i : FuncId) : Path.Plain (unitFile i) := by
  have long : (unitFile i).toList.length = (Nat.toDigits 10 i.slot).length + 5 := by
    rw [toList_unitFile, List.length_append]
    rfl
  refine ⟨?_, ?_, ?_, ?_⟩
  · rw [toList_unitFile, List.mem_append]
    rintro (digit | suffix)
    · exact absurd (Nat.isDigit_of_mem_toDigits (by decide) (by decide) digit) (by decide)
    · exact absurd suffix (by decide)
  all_goals
    intro same
    rw [same] at long
    simp at long

theorem unitFile_injective {i j : FuncId} (same : unitFile i = unitFile j) : i = j := by
  have digits : Nat.toDigits 10 i.slot = Nat.toDigits 10 j.slot := by
    have texts := congrArg String.toList same
    rw [toList_unitFile, toList_unitFile] at texts
    exact List.append_cancel_right texts
  apply FuncId.slot_injective
  rw [← Nat.ofDigitChars_ten_toDigits (n := i.slot), digits, Nat.ofDigitChars_ten_toDigits]

theorem unitFile_ne_skeletonFile (i : FuncId) : unitFile i ≠ skeletonFile := by
  intro same
  have texts := congrArg String.toList same
  rw [toList_unitFile] at texts
  cases digits : Nat.toDigits 10 i.slot with
  | nil => exact Nat.toDigits_ne_nil digits
  | cons c rest =>
    rw [digits, List.cons_append] at texts
    obtain rfl : c = 's' := (List.cons.inj texts).1
    have digit : ('s' : Char) ∈ Nat.toDigits 10 i.slot := digits ▸ List.mem_cons_self
    exact absurd (Nat.isDigit_of_mem_toDigits (by decide) (by decide) digit) (by decide)

theorem pathOfUnit_injective {dump : DumpDir} {i j : FuncId}
    (same : dump.pathOfUnit i = dump.pathOfUnit j) : i = j := by
  unfold pathOfUnit Path.join at same
  apply unitFile_injective
  split at same
  · exact same
  · split at same
    · exact (String.append_right_inj _).mp same
    · exact (String.append_right_inj _).mp same

end DumpDir

end FirstCall
