import TypeTokenWrappers.Files.Tree

/-! # Changes of a file tree

What stands at a place is a file with its content or a directory. A change at one
place of a tree is seen at that place and at no other. -/

namespace TypeTokenWrappers.FileTree

variable {tree item : FileTree α} {name : String} {place other : List String}

/-- The content of a file; a directory has none. -/
def content? : FileTree α → Option α
  | .file content => some content
  | .directory _ => none

/-- What can be seen at a place: nothing, a directory, or a file with its content. -/
def surface? (tree : FileTree α) (place : List String) : Option (Option α) :=
  (tree.find? place).map content?

/-- Whether nothing stands below. -/
def Leaf (tree : FileTree α) : Prop := ∀ name, tree.child? name = none

theorem leaf_file (content : α) : Leaf (.file content) := fun _ => rfl

theorem leaf_empty : Leaf (empty : FileTree α) := fun _ => rfl

theorem Leaf.find?_cons (leaf : tree.Leaf) (name : String) (place : List String) :
    tree.find? (name :: place) = none := by
  rw [find?, leaf name]
  rfl

theorem lookup_alterEntries_of_ne {change : Option (FileTree α) → Option (FileTree α)}
    {other : String} (different : other ≠ name) (entries : List (String × FileTree α)) :
    (alterEntries name change entries).lookup other = entries.lookup other := by
  have unequal : (other == name) = false := beq_false_of_ne different
  induction entries with
  | nil =>
      rw [alterEntries]
      cases change none <;> simp [List.lookup_cons, unequal]
  | cons entry entries induction =>
      rcases entry with ⟨first, tree⟩
      rw [alterEntries]
      split
      case isTrue same =>
        subst same
        cases change (some tree) <;> simp [List.lookup_cons, unequal]
      case isFalse => rw [List.lookup_cons, List.lookup_cons, induction]

theorem lookup_alterEntries_self {change : Option (FileTree α) → Option (FileTree α)}
    (keeps : ∀ tree, (change (some tree)).isSome) (entries : List (String × FileTree α)) :
    (alterEntries name change entries).lookup name = change (entries.lookup name) := by
  induction entries with
  | nil =>
      rw [alterEntries]
      cases found : change none <;> simp [found]
  | cons entry entries induction =>
      rcases entry with ⟨first, tree⟩
      rw [alterEntries]
      split
      case isTrue same =>
        subst same
        rcases Option.isSome_iff_exists.mp (keeps tree) with ⟨changed, found⟩
        simp [found]
      case isFalse different =>
        have unequal : (name == first) = false := beq_false_of_ne (Ne.symm different)
        rw [List.lookup_cons, List.lookup_cons, unequal, induction]

/-- A tree that changes only below one name. -/
theorem find?_alterEntries_of_ne {change : Option (FileTree α) → Option (FileTree α)}
    {other : String} (different : other ≠ name) (entries : List (String × FileTree α))
    (place : List String) :
    (directory (alterEntries name change entries)).find? (other :: place) =
      (directory entries).find? (other :: place) := by
  rw [find?, find?, child?, child?, lookup_alterEntries_of_ne different]

theorem put_cons_append (entries : List (String × FileTree α)) (first : String)
    (front : List String) :
    (directory entries).put (first :: (front ++ [name])) item =
      directory (alterEntries first (Option.map fun child => child.put (front ++ [name]) item)
        entries) := by
  cases front <;> rfl

theorem exists_directory_of_surface?_nil (seen : tree.surface? [] = some none) :
    ∃ entries, tree = .directory entries := by
  cases tree with
  | file content => cases seen
  | directory entries => exact ⟨entries, rfl⟩

theorem exists_child_of_surface?_cons {seen : Option α}
    (visible : tree.surface? (name :: place) = some seen) :
    ∃ entries child, tree = .directory entries ∧ entries.lookup name = some child := by
  cases tree with
  | file content => cases visible
  | directory entries =>
      rw [surface?, find?, child?] at visible
      cases found : entries.lookup name with
      | none =>
          rw [found] at visible
          cases visible
      | some child => exact ⟨entries, child, rfl, found⟩

theorem find?_directory_cons {entries : List (String × FileTree α)} {child : FileTree α}
    (found : entries.lookup name = some child) :
    (directory entries).find? (name :: place) = child.find? place := by
  rw [find?, child?, found]
  rfl

/-- Putting a leaf into a directory changes what is seen at its place only, if nothing
stood below that place. -/
theorem surface?_put {front : List String} (leaf : item.Leaf)
    (parent : tree.surface? front = some none)
    (old : ∀ earlier, tree.find? (front ++ [name]) = some earlier → earlier.Leaf)
    (other : List String) :
    (tree.put (front ++ [name]) item).surface? other =
      if other = front ++ [name] then some item.content? else tree.surface? other := by
  induction front generalizing tree other with
  | nil =>
      rcases exists_directory_of_surface?_nil parent with ⟨entries, rfl⟩
      change (directory (alterEntries name (fun _ => some item) entries)).surface? other = _
      cases other with
      | nil => rfl
      | cons first rest =>
          by_cases same : first = name
          · subst same
            have found : (directory (alterEntries first (fun _ => some item) entries)).find?
                (first :: rest) = item.find? rest := by
              rw [find?, child?, lookup_alterEntries_self fun _ => rfl]
              rfl
            rw [surface?, found]
            cases rest with
            | nil => simp [find?]
            | cons second rest =>
                have below : (directory entries).find? (first :: second :: rest) = none := by
                  rw [List.nil_append, find?] at old
                  rw [find?]
                  cases child : (directory entries).child? first with
                  | none => rfl
                  | some earlier =>
                      exact (old earlier (by rw [child]; rfl)).find?_cons second rest
                rw [leaf.find?_cons, surface?, below]
                simp
          · rw [surface?, find?_alterEntries_of_ne same, surface?, if_neg (by simp [same])]
  | cons first front induction =>
      rcases exists_child_of_surface?_cons parent with ⟨entries, child, rfl, found⟩
      rw [surface?, find?_directory_cons found] at parent
      rw [List.cons_append, find?_directory_cons found] at old
      rw [List.cons_append, put_cons_append]
      cases other with
      | nil => rfl
      | cons second rest =>
          by_cases same : second = first
          · subst same
            have changed : (alterEntries second (Option.map fun child =>
                child.put (front ++ [name]) item) entries).lookup second =
                  some (child.put (front ++ [name]) item) := by
              rw [lookup_alterEntries_self fun _ => rfl, found]
              rfl
            rw [surface?, find?_directory_cons changed]
            change (child.put (front ++ [name]) item).surface? rest = _
            rw [induction parent old]
            simp [surface?, find?_directory_cons found]
          · rw [surface?, find?_alterEntries_of_ne same, surface?, if_neg (by simp [same])]

end TypeTokenWrappers.FileTree
