import Mathlib.Data.List.Forall2
import TypeTokenWrappers.Proofs.Files.FileName
import TypeTokenWrappers.Proofs.Files.World
import TypeTokenWrappers.Proofs.Text.ByteOrder

/-! # The files below a directory

A tree is gone through directory by directory, each in the order of the names in it. So the
files come in the order of their places, which are compared name by name; and the first
directory that cannot be listed is the first one in that order. -/

namespace TypeTokenWrappers

section Traversals

variable {step : α → Except ε β} {items front behind : List α} {item : α} {values : List β}
  {error : ε}

theorem mapM_eq_ok (each : List.Forall₂ (fun item value => step item = .ok value) items values) :
    items.mapM step = .ok values := by
  induction each with
  | nil => rfl
  | cons first _ induction =>
      rw [List.mapM_cons, first, induction]
      rfl

theorem mapM_eq_error (ahead : ∀ earlier ∈ front, ∃ value, step earlier = .ok value)
    (fails : step item = .error error) : (front ++ item :: behind).mapM step = .error error := by
  induction front with
  | nil =>
      rw [List.nil_append, List.mapM_cons, fails]
      rfl
  | cons first front induction =>
      rw [List.forall_mem_cons] at ahead
      rcases ahead with ⟨⟨value, first⟩, ahead⟩
      rw [List.cons_append, List.mapM_cons, first, induction ahead]
      rfl

/-- There is a value for every item, or a first item without one. -/
theorem all_ok_or_first_error (step : α → Except ε β) (items : List α) :
    (∃ values, List.Forall₂ (fun item value => step item = .ok value) items values) ∨
      ∃ front item behind error, items = front ++ item :: behind ∧
        (∀ earlier ∈ front, ∃ value, step earlier = .ok value) ∧ step item = .error error := by
  induction items with
  | nil => exact .inl ⟨[], .nil⟩
  | cons item items induction =>
      cases first : step item with
      | error error => exact .inr ⟨[], item, items, error, rfl, nofun, first⟩
      | ok value =>
          rcases induction with ⟨values, each⟩ | ⟨front, last, behind, error, rfl, ahead, fails⟩
          · exact .inl ⟨value :: values, .cons first each⟩
          · refine .inr ⟨item :: front, last, behind, error, rfl, ?_, fails⟩
            exact List.forall_mem_cons.mpr ⟨⟨value, first⟩, ahead⟩

end Traversals

namespace FileTree

variable {tree : FileTree α} {entries : List (String × FileTree α)} {name path : String}
  {place other : List String}

/-- A tree that can be held by a system: its entries have names, in each directory different
ones. -/
inductive Sound : FileTree α → Prop
  | file (content : α) : Sound (.file content)
  | directory {entries : List (String × FileTree α)}
      (names : ∀ entry ∈ entries, Path.IsName entry.1)
      (distinct : (entries.map Prod.fst).Nodup)
      (inside : ∀ entry ∈ entries, Sound entry.2) : Sound (.directory entries)

def HasFile (tree : FileTree α) (place : List String) : Prop :=
  ∃ content, tree.find? place = some (.file content)

def HasDirectory (tree : FileTree α) (place : List String) : Prop :=
  ∃ entries, tree.find? place = some (.directory entries)

/-- The order of places: name by name, and of the names byte by byte. -/
def Before (place other : List String) : Prop :=
  place.map Utf8.encodeString < other.map Utf8.encodeString

theorem before_nil_cons (name : String) (place : List String) : Before [] (name :: place) :=
  List.nil_lt_cons _ _

theorem before_cons_of_lt {first second : String} (less : first < second)
    (place other : List String) : Before (first :: place) (second :: other) :=
  List.cons_lt_cons_iff.mpr (.inl (Utf8.encodeString_lt_encodeString less))

theorem Before.cons (before : Before place other) (name : String) :
    Before (name :: place) (name :: other) :=
  List.cons_lt_cons_iff.mpr (.inr ⟨rfl, before⟩)

theorem Before.asymm (before : Before place other) : ¬ Before other place :=
  List.lt_asymm before

instance : Std.Irrefl Before := ⟨fun _ before => before.asymm before⟩

/-! ## Entries -/

section Entries

variable {β γ : Type} {found : List (String × β)}

/-- Under different names, what is found for a name is the entry of that name. -/
theorem lookup_eq_some_iff_mem (distinct : (found.map Prod.fst).Nodup) {item : β} :
    found.lookup name = some item ↔ (name, item) ∈ found := by
  induction found with
  | nil => simp
  | cons entry found induction =>
      rcases entry with ⟨first, value⟩
      rw [List.map_cons, List.nodup_cons] at distinct
      rw [List.lookup_cons, List.mem_cons, Prod.mk.injEq]
      by_cases same : name = first
      · subst same
        have absent : (name, item) ∉ found := fun member =>
          distinct.1 (List.mem_map.mpr ⟨_, member, rfl⟩)
        simp [absent, eq_comm]
      · simp [same, beq_false_of_ne same, induction distinct.2]

theorem perm_byName (found : List (String × β)) : (byName found).Perm found :=
  List.mergeSort_perm ..

theorem pairwise_byName (distinct : (found.map Prod.fst).Nodup) :
    (byName found).Pairwise fun first second => first.1 < second.1 := by
  have sorted : (byName found).Pairwise fun first second => first.1 ≤ second.1 := by
    have pairwise : (byName found).Pairwise fun first second =>
        decide (first.1 ≤ second.1) = true := by
      apply List.pairwise_mergeSort
      · intro first second third early late
        exact decide_eq_true (le_trans (of_decide_eq_true early) (of_decide_eq_true late))
      · intro first second
        simpa using le_total first.1 second.1
    exact pairwise.imp of_decide_eq_true
  have different : (byName found).Pairwise fun first second => first.1 ≠ second.1 := by
    rw [← List.pairwise_map (R := (· ≠ ·)) (f := Prod.fst)]
    exact ((perm_byName found).map Prod.fst).nodup_iff.mpr distinct
  exact sorted.imp₂ (fun _ _ => lt_of_le_of_ne) different

theorem byName_of_pairwise (sorted : found.Pairwise fun first second => first.1 < second.1) :
    byName found = found :=
  List.mergeSort_of_pairwise (sorted.imp fun less => decide_eq_true (le_of_lt less))

theorem byName_map (change : String × β → γ) (found : List (String × β)) :
    byName (found.map fun entry => (entry.1, change entry)) =
      (byName found).map fun entry => (entry.1, change entry) := by
  apply Eq.symm
  apply List.map_mergeSort
  exact fun _ _ _ _ => rfl

end Entries

theorem find?_directory_eq_some_iff (distinct : (entries.map Prod.fst).Nodup)
    {item : FileTree α} :
    (directory entries).find? (name :: place) = some item ↔
      ∃ child, (name, child) ∈ entries ∧ child.find? place = some item := by
  rw [find?, child?, Option.bind_eq_some_iff]
  simp only [lookup_eq_some_iff_mem distinct]

theorem hasFile_directory_iff (distinct : (entries.map Prod.fst).Nodup) :
    (directory entries).HasFile place ↔
      ∃ entry ∈ entries, ∃ rest, place = entry.1 :: rest ∧ entry.2.HasFile rest := by
  cases place with
  | nil => simp [HasFile, find?]
  | cons name place =>
      simp only [HasFile, find?_directory_eq_some_iff distinct]
      constructor
      · rintro ⟨content, child, member, found⟩
        exact ⟨_, member, place, rfl, content, found⟩
      · rintro ⟨⟨_, child⟩, member, rest, same, content, found⟩
        cases same
        exact ⟨content, child, member, found⟩

theorem hasDirectory_directory_iff (distinct : (entries.map Prod.fst).Nodup) :
    (directory entries).HasDirectory place ↔
      place = [] ∨
        ∃ entry ∈ entries, ∃ rest, place = entry.1 :: rest ∧ entry.2.HasDirectory rest := by
  cases place with
  | nil => simp [HasDirectory, find?]
  | cons name place =>
      simp only [HasDirectory, find?_directory_eq_some_iff distinct, reduceCtorEq, false_or]
      constructor
      · rintro ⟨inside, child, member, found⟩
        exact ⟨_, member, place, rfl, inside, found⟩
      · rintro ⟨⟨_, child⟩, member, rest, same, inside, found⟩
        cases same
        exact ⟨inside, child, member, found⟩

/-! ## The files of a tree -/

theorem entryPaths_eq (path : String) (entries : List (String × FileTree α)) :
    entryPaths path entries =
      entries.map fun entry => (entry.1, entry.2.filePaths (Path.join path entry.1)) := by
  induction entries with
  | nil => rfl
  | cons entry entries induction => rw [entryPaths, induction, List.map_cons]

theorem filePaths_directory (path : String) (entries : List (String × FileTree α)) :
    (directory entries).filePaths path =
      (byName entries).flatMap fun entry => entry.2.filePaths (Path.join path entry.1) := by
  rw [filePaths, inNameOrder, entryPaths_eq, byName_map, List.flatMap_map]

/-- The places of the files of a tree, in their order. -/
structure Lists (tree : FileTree α) (places : List (List String)) : Prop where
  ordered : places.Pairwise Before
  mem_iff : ∀ place, place ∈ places ↔ tree.HasFile place
  filePaths_eq : ∀ path, tree.filePaths path = places.map (Path.below path)

/-- One entry after the other in the order of the names: all files of an entry come before
those of the next one. -/
theorem exists_lists_entries {sorted : List (String × FileTree α)}
    (pairwise : sorted.Pairwise fun first second => first.1 < second.1)
    (inside : ∀ entry ∈ sorted, ∃ places, entry.2.Lists places) :
    ∃ places : List (List String), places.Pairwise Before ∧
      (∀ place, place ∈ places ↔
        ∃ entry ∈ sorted, ∃ rest, place = entry.1 :: rest ∧ entry.2.HasFile rest) ∧
      ∀ path, (sorted.flatMap fun entry => entry.2.filePaths (Path.join path entry.1)) =
        places.map (Path.below path) := by
  induction sorted with
  | nil => exact ⟨[], .nil, by simp, fun _ => rfl⟩
  | cons entry sorted induction =>
      rcases entry with ⟨name, child⟩
      rw [List.pairwise_cons] at pairwise
      rw [List.forall_mem_cons] at inside
      rcases inside with ⟨⟨own, lists⟩, inside⟩
      rcases induction pairwise.2 inside with ⟨others, ordered, mem_iff, paths⟩
      refine ⟨own.map (name :: ·) ++ others, ?_, ?_, ?_⟩
      · rw [List.pairwise_append, List.pairwise_map]
        refine ⟨lists.ordered.imp fun before => before.cons name, ordered, ?_⟩
        intro place member other later
        rcases List.mem_map.mp member with ⟨rest, _, rfl⟩
        rcases (mem_iff other).mp later with ⟨entry, among, rest', rfl, _⟩
        exact before_cons_of_lt (pairwise.1 entry among) rest rest'
      · intro place
        simp only [List.mem_append, List.mem_map, mem_iff, lists.mem_iff, List.mem_cons,
          exists_eq_or_imp]
        refine or_congr_left ?_
        exact exists_congr fun rest => by rw [and_comm, eq_comm]
      · intro path
        rw [List.flatMap_cons, paths, lists.filePaths_eq, List.map_append, List.map_map]
        rfl

theorem Sound.exists_lists (sound : tree.Sound) : ∃ places, tree.Lists places := by
  induction sound with
  | file content =>
      refine ⟨[[]], List.pairwise_singleton _ _, ?_, fun _ => rfl⟩
      intro place
      cases place <;> simp [HasFile, find?, child?]
  | @directory entries names distinct _ induction =>
      have perm := perm_byName entries
      rcases exists_lists_entries (pairwise_byName distinct)
        (fun entry member => induction entry (perm.mem_iff.mp member)) with
        ⟨places, ordered, mem_iff, paths⟩
      refine ⟨places, ordered, ?_, ?_⟩
      · intro place
        simp only [hasFile_directory_iff distinct, mem_iff, perm.mem_iff]
      · intro path
        rw [filePaths_directory, paths]

/-! ## The directories of a tree -/

/-- A directory whose path, as seen from where the tree is gone through, is too long. -/
def Unlisted (path : String) (tree : FileTree α) (place : List String) : Prop :=
  tree.HasDirectory place ∧ World.pathLimit ≤ Utf8.byteLength (Path.below path place).toList

structure FirstUnlisted (path : String) (tree : FileTree α) (place : List String) : Prop where
  unlisted : tree.Unlisted path place
  first : ∀ other, tree.Unlisted path other → other = place ∨ Before place other

/-- What going through a tree gives: the same files, or the first directory without a list. -/
inductive Outlines (path : String) (tree : FileTree α) : Except IoError (FileTree Unit) → Prop
  | ok {outlined : FileTree Unit} (listed : ∀ place, ¬ tree.Unlisted path place)
      (same : ∀ other, outlined.filePaths other = tree.filePaths other) :
      Outlines path tree (.ok outlined)
  | error {place : List String} (first : tree.FirstUnlisted path place) :
      Outlines path tree (.error (.onTheWay (Path.below path place) .nameTooLong))

theorem outlineEntries_eq (path : String) (entries : List (String × FileTree α)) :
    World.outlineEntries path entries =
      entries.map fun entry => (entry.1, World.outline (Path.join path entry.1) entry.2) := by
  induction entries with
  | nil => rfl
  | cons entry entries induction => rw [World.outlineEntries, induction, List.map_cons]

/-- Goes through an entry, by its path. -/
def outlineBelow (path : String) (entry : String × FileTree α) :
    Except IoError (String × FileTree Unit) :=
  (World.outline (Path.join path entry.1) entry.2).map fun outlined => (entry.1, outlined)

theorem outline_directory (path : String) (entries : List (String × FileTree α)) :
    World.outline path (directory entries) =
      if World.pathLimit ≤ Utf8.byteLength path.toList then .error (.onTheWay path .nameTooLong)
      else ((byName entries).mapM (outlineBelow path)).map directory := by
  rw [World.outline, outlineEntries_eq, byName_map, List.mapM_map]
  split
  · rfl
  · rfl

theorem unlisted_directory_iff (distinct : (entries.map Prod.fst).Nodup) :
    (directory entries).Unlisted path place ↔
      place = [] ∧ World.pathLimit ≤ Utf8.byteLength path.toList ∨
        ∃ entry ∈ entries, ∃ rest, place = entry.1 :: rest ∧
          entry.2.Unlisted (Path.join path entry.1) rest := by
  rw [Unlisted, hasDirectory_directory_iff distinct, or_and_right]
  refine or_congr ?_ ?_
  · constructor
    · rintro ⟨rfl, long⟩
      exact ⟨rfl, long⟩
    · rintro ⟨rfl, long⟩
      exact ⟨rfl, long⟩
  · constructor
    · rintro ⟨⟨entry, member, rest, rfl, inside⟩, long⟩
      exact ⟨entry, member, rest, rfl, inside, long⟩
    · rintro ⟨entry, member, rest, rfl, inside, long⟩
      exact ⟨⟨entry, member, rest, rfl, inside⟩, long⟩

/-- An entry whose files are found again below its outline. -/
structure Outlined (path : String) (entry : String × FileTree α)
    (outlined : String × FileTree Unit) : Prop where
  name : outlined.1 = entry.1
  listed : ∀ place, ¬ entry.2.Unlisted (Path.join path entry.1) place
  same : ∀ other, outlined.2.filePaths other = entry.2.filePaths other

theorem outlined_of_outlineBelow {entry : String × FileTree α} {outlined : String × FileTree Unit}
    (outlines : entry.2.Outlines (Path.join path entry.1)
      (World.outline (Path.join path entry.1) entry.2))
    (goes : outlineBelow path entry = .ok outlined) : Outlined path entry outlined := by
  rw [outlineBelow] at goes
  cases answer : World.outline (Path.join path entry.1) entry.2 with
  | error error =>
      rw [answer] at goes
      cases goes
  | ok tree =>
      rw [answer] at goes outlines
      cases goes
      cases outlines with
      | ok listed same => exact ⟨rfl, listed, same⟩

theorem firstUnlisted_of_outlineBelow {entry : String × FileTree α} {error : IoError}
    (outlines : entry.2.Outlines (Path.join path entry.1)
      (World.outline (Path.join path entry.1) entry.2))
    (fails : outlineBelow path entry = .error error) :
    ∃ place, entry.2.FirstUnlisted (Path.join path entry.1) place ∧
      error = .onTheWay (Path.below path (entry.1 :: place)) .nameTooLong := by
  rw [outlineBelow] at fails
  cases answer : World.outline (Path.join path entry.1) entry.2 with
  | ok tree =>
      rw [answer] at fails
      cases fails
  | error cause =>
      rw [answer] at fails outlines
      cases fails
      cases outlines with
      | error first => exact ⟨_, first, rfl⟩

theorem map_fst_of_outlined {sorted : List (String × FileTree α)}
    {outlined : List (String × FileTree Unit)}
    (each : List.Forall₂ (Outlined path) sorted outlined) :
    outlined.map Prod.fst = sorted.map Prod.fst := by
  induction each with
  | nil => rfl
  | cons first _ induction => rw [List.map_cons, List.map_cons, first.name, induction]

theorem flatMap_filePaths_of_outlined {sorted : List (String × FileTree α)}
    {outlined : List (String × FileTree Unit)}
    (each : List.Forall₂ (Outlined path) sorted outlined) (other : String) :
    (outlined.flatMap fun entry => entry.2.filePaths (Path.join other entry.1)) =
      sorted.flatMap fun entry => entry.2.filePaths (Path.join other entry.1) := by
  induction each with
  | nil => rfl
  | cons first _ induction =>
      rw [List.flatMap_cons, List.flatMap_cons, first.name, first.same, induction]

theorem outlines_of_outlined (distinct : (entries.map Prod.fst).Nodup)
    (short : Utf8.byteLength path.toList < World.pathLimit)
    {outlined : List (String × FileTree Unit)}
    (each : List.Forall₂ (Outlined path) (byName entries) outlined) :
    (directory entries).Outlines path (.ok (directory outlined)) := by
  have listed := ((List.forall₂_and_left _ _).mp
    (each.imp fun _ _ outlined => ⟨outlined.listed, outlined⟩)).1
  have sorted : outlined.Pairwise fun first second => first.1 < second.1 := by
    rw [← List.pairwise_map (R := (· < ·)) (f := Prod.fst), map_fst_of_outlined each,
      List.pairwise_map]
    exact pairwise_byName distinct
  constructor
  · intro place unlisted
    rcases (unlisted_directory_iff distinct).mp unlisted with
      ⟨_, long⟩ | ⟨entry, member, rest, rfl, below⟩
    · exact absurd short (Nat.not_lt.mpr long)
    · exact listed entry ((perm_byName entries).mem_iff.mpr member) rest below
  · intro other
    rw [filePaths_directory, filePaths_directory, byName_of_pairwise sorted,
      flatMap_filePaths_of_outlined each]

/-- One entry after the other in the order of the names: the first place of the first entry
that has one comes before all others. -/
theorem firstUnlisted_directory (distinct : (entries.map Prod.fst).Nodup)
    (short : Utf8.byteLength path.toList < World.pathLimit)
    {front behind : List (String × FileTree α)} {entry : String × FileTree α}
    (split : byName entries = front ++ entry :: behind)
    (ahead : ∀ earlier ∈ front, ∀ place, ¬ earlier.2.Unlisted (Path.join path earlier.1) place)
    (first : entry.2.FirstUnlisted (Path.join path entry.1) place) :
    (directory entries).FirstUnlisted path (entry.1 :: place) := by
  have mem_iff (other : String × FileTree α) :
      other ∈ entries ↔ other ∈ front ∨ other = entry ∨ other ∈ behind := by
    rw [← (perm_byName entries).mem_iff, split, List.mem_append, List.mem_cons]
  have pairwise := pairwise_byName distinct
  rw [split, List.pairwise_append, List.pairwise_cons] at pairwise
  constructor
  · refine (unlisted_directory_iff distinct).mpr (.inr ⟨entry, ?_, place, rfl, first.unlisted⟩)
    exact (mem_iff entry).mpr (.inr (.inl rfl))
  · intro other unlisted
    rcases (unlisted_directory_iff distinct).mp unlisted with
      ⟨_, long⟩ | ⟨found, member, rest, rfl, below⟩
    · exact absurd short (Nat.not_lt.mpr long)
    · rcases (mem_iff found).mp member with early | rfl | late
      · exact absurd below (ahead found early rest)
      · rcases first.first rest below with rfl | before
        · exact .inl rfl
        · exact .inr (before.cons found.1)
      · exact .inr (before_cons_of_lt (pairwise.2.1.1 found late) place rest)

theorem Sound.outlines (sound : tree.Sound) (path : String) :
    tree.Outlines path (World.outline path tree) := by
  induction sound generalizing path with
  | file content =>
      refine .ok ?_ fun _ => rfl
      rintro place ⟨⟨entries, found⟩, _⟩
      cases place <;> cases found
  | @directory entries names distinct _ induction =>
      have inside : ∀ entry ∈ byName entries, entry.2.Outlines (Path.join path entry.1)
          (World.outline (Path.join path entry.1) entry.2) :=
        fun entry member => induction entry ((perm_byName entries).mem_iff.mp member) _
      rw [outline_directory]
      split
      case isTrue long =>
        have first : (FileTree.directory entries).FirstUnlisted path [] := by
          refine ⟨(unlisted_directory_iff distinct).mpr (.inl ⟨rfl, long⟩), fun other _ => ?_⟩
          cases other with
          | nil => exact .inl rfl
          | cons name rest => exact .inr (before_nil_cons name rest)
        have outlines := Outlines.error first
        exact outlines
      case isFalse long =>
        have short := Nat.lt_of_not_le long
        rcases all_ok_or_first_error (outlineBelow path) (byName entries) with
          ⟨outlined, each⟩ | ⟨front, entry, behind, error, split, ahead, fails⟩
        · rw [mapM_eq_ok each]
          apply outlines_of_outlined distinct short
          exact ((List.forall₂_and_left _ _).mpr ⟨inside, each⟩).imp fun _ _ both =>
            outlined_of_outlineBelow both.1 both.2
        · have early (earlier : String × FileTree α) (member : earlier ∈ front)
              (place : List String) : ¬ earlier.2.Unlisted (Path.join path earlier.1) place := by
            rcases ahead earlier member with ⟨outlined, goes⟩
            have outlines := inside earlier (split ▸ List.mem_append_left _ member)
            exact (outlined_of_outlineBelow outlines goes).listed place
          have here : entry ∈ byName entries :=
            split ▸ List.mem_append_right _ List.mem_cons_self
          rcases firstUnlisted_of_outlineBelow (inside entry here) fails with ⟨place, first, rfl⟩
          rw [split, mapM_eq_error ahead fails]
          exact .error (firstUnlisted_directory distinct short split early first)

end FileTree

end TypeTokenWrappers
