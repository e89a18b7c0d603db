import Mathlib.Data.List.Nodup
import TypeTokenWrappers.Proofs.Files.Listing

/-! # Directories that are listed in another order

The order in which a directory lists its entries can be seen neither by following a path nor
by going through a tree. -/

namespace TypeTokenWrappers

namespace FileTree

variable {tree other : FileTree α} {place : List String}

/-- Trees that differ only in the order in which their directories list the entries. -/
inductive Relisted : FileTree α → FileTree α → Prop
  | file (content : α) : Relisted (.file content) (.file content)
  | directory {entries entries' : List (String × FileTree α)}
      (names : (entries.map Prod.fst).Perm (entries'.map Prod.fst))
      (inside : ∀ name child child', (name, child) ∈ entries → (name, child') ∈ entries' →
        Relisted child child') :
      Relisted (.directory entries) (.directory entries')

/-! ## Entries -/

section Entries

variable {β γ : Type} {found found' : List (String × β)} {name : String} {item : β}

theorem mem_of_lookup (looked : found.lookup name = some item) : (name, item) ∈ found := by
  rcases List.lookup_eq_some_iff.mp looked with ⟨front, behind, rfl, _⟩
  exact List.mem_append_right _ List.mem_cons_self

theorem lookup_eq_none_iff_notMem : found.lookup name = none ↔ name ∉ found.map Prod.fst := by
  rw [List.lookup_eq_none_iff, List.mem_map]
  constructor
  · rintro none ⟨entry, member, rfl⟩
    exact absurd (none entry member) (by simp)
  · intro absent entry member
    rw [bne_iff_ne]
    rintro rfl
    exact absent ⟨entry, member, rfl⟩

theorem byName_congr (distinct : (found.map Prod.fst).Nodup) (perm : found.Perm found') :
    byName found = byName found' := by
  have distinct' : (found'.map Prod.fst).Nodup := (perm.map Prod.fst).nodup_iff.mp distinct
  have whole := (perm_byName found).trans (perm.trans (perm_byName found').symm)
  apply List.Perm.eq_of_pairwise _ (pairwise_byName distinct) (pairwise_byName distinct') whole
  exact fun _ _ _ _ less greater => absurd less (lt_asymm greater)

/-- Entries of the same names, for which the same is found, are the same but for their order. -/
theorem perm_map_of_names (change : String × β → γ) (distinct : (found.map Prod.fst).Nodup)
    (names : (found.map Prod.fst).Perm (found'.map Prod.fst))
    (same : ∀ name item item', (name, item) ∈ found → (name, item') ∈ found' →
      change (name, item) = change (name, item')) :
    (found.map fun entry => (entry.1, change entry)).Perm
      (found'.map fun entry => (entry.1, change entry)) := by
  have keys (found : List (String × β)) :
      (found.map fun entry => (entry.1, change entry)).map Prod.fst = found.map Prod.fst := by
    rw [List.map_map]
    rfl
  have nodup : (found.map fun entry => (entry.1, change entry)).Nodup :=
    List.Nodup.of_map Prod.fst (keys found ▸ distinct)
  have nodup' : (found'.map fun entry => (entry.1, change entry)).Nodup :=
    List.Nodup.of_map Prod.fst (keys found' ▸ names.nodup_iff.mp distinct)
  rw [List.perm_ext_iff_of_nodup nodup nodup']
  rintro ⟨name, value⟩
  simp only [List.mem_map, Prod.mk.injEq, Prod.exists]
  constructor
  · rintro ⟨_, item, member, rfl, rfl⟩
    rcases List.mem_map.mp (names.mem_iff.mp (List.mem_map.mpr ⟨_, member, rfl⟩)) with
      ⟨⟨first, item'⟩, member', rfl⟩
    exact ⟨first, item', member', rfl, (same first item item' member member').symm⟩
  · rintro ⟨_, item', member', rfl, rfl⟩
    rcases List.mem_map.mp (names.mem_iff.mpr (List.mem_map.mpr ⟨_, member', rfl⟩)) with
      ⟨⟨first, item⟩, member, rfl⟩
    exact ⟨first, item, member, rfl, same first item item' member member'⟩

end Entries

/-! ## Trees -/

/-- At each place stands nothing, or trees that again differ only in the order. -/
theorem Relisted.find?_cases (relisted : Relisted tree other) (place : List String) :
    (tree.find? place = none ∧ other.find? place = none) ∨
      ∃ item item', tree.find? place = some item ∧ other.find? place = some item' ∧
        Relisted item item' := by
  induction place generalizing tree other with
  | nil => exact .inr ⟨tree, other, rfl, rfl, relisted⟩
  | cons name place induction =>
      cases relisted with
      | file content => exact .inl ⟨rfl, rfl⟩
      | @directory entries entries' names inside =>
          rw [find?, find?, child?, child?]
          cases seen : entries.lookup name with
          | none =>
              rw [lookup_eq_none_iff_notMem, names.mem_iff, ← lookup_eq_none_iff_notMem] at seen
              rw [seen]
              exact .inl ⟨rfl, rfl⟩
          | some child =>
              cases seen' : entries'.lookup name with
              | none =>
                  rw [lookup_eq_none_iff_notMem, ← names.mem_iff,
                    ← lookup_eq_none_iff_notMem, seen] at seen'
                  cases seen'
              | some child' =>
                  exact induction (inside _ _ _ (mem_of_lookup seen) (mem_of_lookup seen'))

theorem eq_of_mem_of_mem {entries : List (String × FileTree α)} {name : String}
    {child child' : FileTree α} (distinct : (entries.map Prod.fst).Nodup)
    (member : (name, child) ∈ entries) (member' : (name, child') ∈ entries) : child = child' := by
  rw [← lookup_eq_some_iff_mem distinct] at member member'
  exact Option.some_inj.mp (member.symm.trans member')

theorem Sound.relisted_self (sound : tree.Sound) : Relisted tree tree := by
  induction sound with
  | file content => exact .file content
  | directory names distinct inside induction =>
      refine .directory (.refl _) fun name child child' member member' => ?_
      rw [← eq_of_mem_of_mem distinct member member']
      exact induction _ member

theorem relisted_of_perm {entries entries' : List (String × FileTree α)}
    (sound : (directory entries).Sound) (perm : entries.Perm entries') :
    Relisted (directory entries) (directory entries') := by
  rcases sound with _ | ⟨_, distinct, inside⟩
  refine .directory (perm.map Prod.fst) fun name child child' member member' => ?_
  rw [← eq_of_mem_of_mem distinct member (perm.mem_iff.mpr member')]
  exact (inside _ member).relisted_self

theorem Sound.of_find? (sound : tree.Sound) (found : tree.find? place = some other) :
    other.Sound := by
  induction place generalizing tree with
  | nil =>
      cases found
      exact sound
  | cons name place induction =>
      cases sound with
      | file content => cases found
      | directory names distinct inside =>
          rcases (find?_directory_eq_some_iff distinct).mp found with ⟨child, member, found⟩
          exact induction (inside _ member) found

theorem Relisted.outline_eq (relisted : Relisted tree other) (sound : tree.Sound)
    (path : String) : World.outline path tree = World.outline path other := by
  induction relisted generalizing path with
  | file content => rfl
  | @directory entries entries' names _ induction =>
      rcases sound with _ | ⟨_, distinct, within⟩
      have perm := perm_map_of_names
        (fun entry => World.outline (Path.join path entry.1) entry.2) distinct names
        fun name child child' member member' =>
          induction name child child' member member' (within _ member) _
      rw [← outlineEntries_eq, ← outlineEntries_eq] at perm
      rw [World.outline, World.outline, byName_congr _ perm]
      rw [outlineEntries_eq, List.map_map]
      exact distinct

end FileTree

/-! ## Hosts -/

namespace World

variable {world : World} {root : FileTree (List UInt8)}

/-- What a path gives that leads to this. -/
def given : Option (FileTree (List UInt8)) → Except IoError (FileTree (List UInt8))
  | some item => .ok item
  | none => .error (.os .notFound)

theorem find_eq (world : World) (path : String) :
    world.find path = world.locate path >>= fun place => given (world.root.find? place) := by
  rw [find, locate]
  cases checkPath path with
  | error cause => rfl
  | ok text =>
      dsimp only [bind, Except.bind]
      cases (walk world.root (world.start path) (Pieces.cut '/' text)).mapError IoError.os with
      | error cause => rfl
      | ok place =>
          dsimp only
          cases world.root.find? place <;> rfl

theorem sound_of_find (sound : world.root.Sound) {path : String}
    {item : FileTree (List UInt8)} (found : world.find path = .ok item) : item.Sound := by
  rw [find_eq, bind_ok_iff] at found
  rcases found with ⟨place, _, found⟩
  cases stands : world.root.find? place with
  | none =>
      rw [stands] at found
      cases found
  | some item =>
      rw [stands] at found
      cases found
      exact sound.of_find? stands

theorem isFileAt?_relisted (relisted : world.root.Relisted root) (place : List String) :
    isFileAt? root place = isFileAt? world.root place := by
  rw [isFileAt?, isFileAt?, FileTree.surface?, FileTree.surface?]
  rcases relisted.find?_cases place with ⟨none, none'⟩ | ⟨item, item', seen, seen', alike⟩
  · rw [none, none']
  · rw [seen, seen']
    cases alike <;> rfl

/-- A path leads nowhere, or to trees that differ only in the order. -/
theorem find_relisted (relisted : world.root.Relisted root) (path : String) :
    (∃ cause, world.find path = .error cause ∧ { world with root }.find path = .error cause) ∨
      ∃ item item', world.find path = .ok item ∧ { world with root }.find path = .ok item' ∧
        item.Relisted item' := by
  have locates : { world with root }.locate path = world.locate path := by
    apply locate_congr
    · rfl
    · exact isFileAt?_relisted relisted
  rw [find_eq, find_eq, locates]
  cases world.locate path with
  | error cause => exact .inl ⟨cause, rfl, rfl⟩
  | ok place =>
      change (∃ cause, given (world.root.find? place) = _ ∧ given (root.find? place) = _) ∨
        ∃ item item', given (world.root.find? place) = _ ∧ given (root.find? place) = _ ∧ _
      rcases relisted.find?_cases place with ⟨none, none'⟩ | ⟨item, item', seen, seen', alike⟩
      · rw [none, none']
        exact .inl ⟨_, rfl, rfl⟩
      · rw [seen, seen']
        exact .inr ⟨item, item', rfl, rfl, alike⟩

theorem kind?_relisted (relisted : world.root.Relisted root) (path : String) :
    { world with root }.kind? path = world.kind? path := by
  rw [kind?, kind?]
  rcases find_relisted relisted path with ⟨cause, same, same'⟩ | ⟨item, item', same, same', alike⟩
  · rw [same, same']
  · rw [same, same']
    cases alike <;> rfl

theorem readTree_relisted (sound : world.root.Sound) (relisted : world.root.Relisted root)
    (path : String) : { world with root }.readTree path = world.readTree path := by
  rw [readTree, readTree]
  rcases find_relisted relisted path with ⟨cause, same, same'⟩ | ⟨item, item', same, same', alike⟩
  · rw [same, same']
  · rw [same, same']
    exact (alike.outline_eq (sound_of_find sound same) path).symm

end World

end TypeTokenWrappers
