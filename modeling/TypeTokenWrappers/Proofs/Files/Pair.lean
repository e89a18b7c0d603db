import TypeTokenWrappers.Proofs.Files.Way

/-! # Two hosts side by side

Two hosts that differ in a few files. One of these may be missing on one of the hosts, which is
a gap: a way that passes it can end there with one error or another. What leads through no gap
and to none of the files is the same on both hosts, and stays the same. -/

namespace TypeTokenWrappers

namespace World

/-- What two hosts have in common, and in which files they differ. A file that only one of them
has is a `gap`. -/
structure Common where
  directory : List String
  environment : List (String × String)
  files : List (List String)
  gap : List String → Prop

variable {common : Common} {place : List String} {world after one other one' other' : World}
  {path : String}

/-- A host on which something else stands at a place: a file, or a directory. -/
structure Alters (world after : World) (place : List String) (new : Option (List UInt8)) :
    Prop where
  directory : after.directory = world.directory
  environment : after.environment = world.environment
  seen : ∀ other, after.root.surface? other =
    if other = place then some new else world.root.surface? other

theorem Writes.alters {content : List UInt8} (writes : Writes world after place content) :
    Alters world after place (some content) :=
  ⟨writes.directory, writes.environment, writes.seen⟩

/-- Two hosts with this in common. They have the same directories, and the same files elsewhere. -/
structure Paired (common : Common) (one other : World) : Prop where
  here : one.directory = common.directory
  there : other.directory = common.directory
  environment : one.environment = common.environment
  environment' : other.environment = common.environment
  seen : ∀ place, place ∉ common.files → other.root.surface? place = one.root.surface? place
  kind : ∀ place, ¬ common.gap place → isFileAt? other.root place = isFileAt? one.root place
  directories : ∀ place,
    isFileAt? other.root place = some false ↔ isFileAt? one.root place = some false

theorem Alters.isFileAt?_eq {new : Option (List UInt8)} (alters : Alters world after place new)
    (another : List String) : isFileAt? after.root another =
      if another = place then some new.isSome else isFileAt? world.root another := by
  rw [isFileAt?, alters.seen]
  split <;> rfl

theorem Paired.alters (paired : Paired common one other)
    {new : Option (List UInt8)} (first : Alters one one' place new)
    (second : Alters other other' place new) : Paired common one' other' where
  here := first.directory.trans paired.here
  there := second.directory.trans paired.there
  environment := first.environment.trans paired.environment
  environment' := second.environment.trans paired.environment'
  seen another apart := by rw [second.seen, first.seen, paired.seen another apart]
  kind another open' := by rw [second.isFileAt?_eq, first.isFileAt?_eq, paired.kind another open']
  directories another := by
    rw [second.isFileAt?_eq, first.isFileAt?_eq]
    split
    · rfl
    · exact paired.directories another

/-! ## Questions -/

/-- Whether the way of a path passes no gap. -/
def Passable (common : Common) (path : String) : Prop :=
  ∀ place ∈ way common.directory path, ¬ common.gap place

theorem Passable.above {above : String} (passable : Passable common path)
    (member : above ∈ Path.ancestors path) : Passable common above :=
  fun place passed => passable place (way_above member passed)

theorem Paired.locate (paired : Paired common one other)
    (passable : Passable common path) : other.locate path = one.locate path := by
  rw [World.locate, World.locate]
  cases checked : checkPath path with
  | error cause => rfl
  | ok text =>
    have whole := eq_of_checkPath checked
    have same : walk other.root (other.start path) (Pieces.cut '/' text) =
        walk one.root (one.start path) (Pieces.cut '/' text) := by
      rw [start_eq (paired.there.trans paired.here.symm)]
      apply walk_congr_way
      intro place passed
      apply paired.kind place (passable place _)
      rwa [way, startIn, ← paired.here, ← whole]
    change (walk _ _ _).mapError _ = (walk _ _ _).mapError _
    rw [same]

/-- What stands somewhere, by whether it is a file. -/
def kindOf (isFile : Bool) : FileKind :=
  if isFile then .file else .directory

theorem kind?_eq (world : World) (path : String) :
    world.kind? path =
      (world.locate path).toOption.bind fun place => (isFileAt? world.root place).map kindOf := by
  rw [World.kind?, World.find, World.locate]
  cases checkPath path with
  | error cause => rfl
  | ok text =>
    dsimp only [bind, Except.bind]
    cases (walk world.root (world.start path) (Pieces.cut '/' text)).mapError IoError.os with
    | error cause => rfl
    | ok place =>
      dsimp only [Except.toOption, Option.bind]
      rw [isFileAt?, FileTree.surface?]
      rcases world.root.find? place with _ | _ | _ <;> rfl

theorem Paired.kind? (paired : Paired common one other)
    (passable : Passable common path) : other.kind? path = one.kind? path := by
  rw [kind?_eq, kind?_eq, paired.locate passable]
  cases leads : one.locate path with
  | error cause => rfl
  | ok place =>
    have reached : place ∈ way common.directory path := by
      rw [eq_goal_of_locate leads, paired.here]
      exact goal_mem_way common.directory path
    change (isFileAt? other.root place).map _ = (isFileAt? one.root place).map _
    rw [paired.kind place (passable place reached)]

/-- Whether a path passes no gap and does not lead to one of the files. -/
structure Clear (common : Common) (path : String) : Prop where
  passable : Passable common path
  apart : goal common.directory path ∉ common.files

theorem Paired.fileContent (paired : Paired common one other)
    (clear : Clear common path) : other.fileContent path = one.fileContent path := by
  rw [fileContent_eq, fileContent_eq, paired.locate clear.passable]
  cases leads : one.locate path with
  | error cause => rfl
  | ok place =>
    have apart : place ∉ common.files := by
      rw [eq_goal_of_locate leads, paired.here]
      exact clear.apart
    change contentOf _ = contentOf _
    rw [paired.seen place apart]

/-! A path that may pass gaps leads somewhere on both hosts or on none, for only directories are
passed. -/

theorem Paired.locate_eq_ok_iff (paired : Paired common one other) :
    other.locate path = .ok place ↔ one.locate path = .ok place := by
  rw [World.locate_eq_ok_iff, World.locate_eq_ok_iff,
    start_eq (paired.there.trans paired.here.symm)]
  refine exists_congr fun text => and_congr_right fun _ => ⟨?_, ?_⟩
  · exact walk_of_directories fun place => (paired.directories place).mp
  · exact walk_of_directories fun place => (paired.directories place).mpr

theorem Paired.locate_toOption (paired : Paired common one other) (path : String) :
    (other.locate path).toOption = (one.locate path).toOption := by
  cases leads : one.locate path with
  | ok place => rw [paired.locate_eq_ok_iff.mpr leads]
  | error cause =>
    cases leads' : other.locate path with
    | ok place =>
      rw [paired.locate_eq_ok_iff.mp leads'] at leads
      cases leads
    | error cause' => rfl

theorem Paired.kind?_of_apart (paired : Paired common one other)
    (apart : goal common.directory path ∉ common.files) : other.kind? path = one.kind? path := by
  rw [kind?_eq, kind?_eq, paired.locate_toOption]
  cases leads : one.locate path with
  | error cause => rfl
  | ok place =>
    rw [eq_goal_of_locate leads, paired.here]
    change (isFileAt? other.root _).map _ = (isFileAt? one.root _).map _
    rw [isFileAt?, isFileAt?, paired.seen _ apart]

/-- What is read is the same, though it may fail for another reason. -/
theorem Paired.fileContent_of_apart (paired : Paired common one other)
    (apart : goal common.directory path ∉ common.files) :
    (other.fileContent path).toOption = (one.fileContent path).toOption := by
  rw [fileContent_eq, fileContent_eq]
  have same := paired.locate_toOption path
  rcases leads : one.locate path with cause | place <;>
    rcases leads' : other.locate path with cause' | place' <;>
    rw [leads, leads'] at same
  · rfl
  · cases same
  · cases same
  · cases same
    rw [eq_goal_of_locate leads, paired.here]
    change (contentOf _).toOption = (contentOf _).toOption
    rw [paired.seen _ apart]

/-! ## Changes -/

theorem Paired.target (paired : Paired common one other)
    (passable : Passable common path) : other.target path = one.target path := by
  rw [World.target, World.target]
  cases checked : checkPath path with
  | error cause => rfl
  | ok text =>
    have whole := eq_of_checkPath checked
    dsimp only [bind, Except.bind]
    cases reversed : (Pieces.cut '/' text).reverse.dropWhile (· = []) with
    | nil => rfl
    | cons last front =>
      have kinds : ∀ passed ∈ wayFrom (one.start path) front.reverse,
          isFileAt? other.root passed = isFileAt? one.root passed := by
        intro place passed
        obtain ⟨-, empty, split, -⟩ := split_at_last reversed
        apply paired.kind place (passable place _)
        rw [way, startIn, ← paired.here, ← whole, split]
        exact wayFrom_subset_append _ _ _ passed
      have same : walk other.root (other.start path) front.reverse =
          walk one.root (one.start path) front.reverse := by
        rw [start_eq (paired.there.trans paired.here.symm)]
        exact walk_congr_way kinds
      dsimp only
      rw [same]
      cases reached : walk one.root (one.start path) front.reverse with
      | error cause => rfl
      | ok place =>
        have last := eq_foldl_moved_of_walk reached
        have stands := kinds place (last ▸ foldl_moved_mem_wayFrom _ _)
        change ((step other.root place []).mapError _ >>= _) =
          ((step one.root place []).mapError _ >>= _)
        rw [step_congr stands]

/-- What a change of two hosts answers and leaves, if both are in such a relation then. -/
def BothLead (relation : World → World → Prop) : Except IoError World → Except IoError World → Prop
  | .ok one, .ok other => relation one other
  | .error cause, .error cause' => cause' = cause
  | _, _ => False

/-- A directory that is made where nothing stands. -/
theorem alters_put_empty {name : String} (stands : isFileAt? world.root place = some false)
    (nothing : world.root.find? (place ++ [name]) = none) :
    Alters world { world with root := world.root.put (place ++ [name]) .empty }
      (place ++ [name]) none :=
  ⟨rfl, rfl, FileTree.surface?_put FileTree.leaf_empty (surface?_of_isFileAt? stands)
    (by simp [nothing])⟩

theorem Paired.changeFile (paired : Paired common one other)
    (clear : Clear common path) (change : List UInt8 → List UInt8) :
    BothLead (Paired common) (one.changeFile path change)
      (other.changeFile path change) := by
  have sameTarget := paired.target clear.passable
  rw [World.changeFile, World.changeFile, sameTarget]
  rcases aimed : one.target path with cause | (⟨place, name, slash⟩ | _)
  · rfl
  · cases slash with
    | true => rfl
    | false =>
      have seen := paired.seen (place ++ [name]) (by
        rw [← goal_of_target aimed, paired.here]
        exact clear.apart)
      have stands := stands_of_target aimed
      have stands' := stands_of_target (sameTarget.trans aimed)
      change BothLead _ (one.lookUp place name >>= _) (other.lookUp place name >>= _)
      rw [lookUp, lookUp]
      split
      · rfl
      · rcases found : one.root.find? (place ++ [name]) with _ | old | entries <;>
          rcases found' : other.root.find? (place ++ [name]) with _ | old' | entries' <;>
          simp only [FileTree.surface?, found, found', Option.map_some, Option.map_none,
            FileTree.content?, Option.some.injEq, reduceCtorEq] at seen
        · exact paired.alters (writes_put stands (by simp [FileTree.surface?, found]) _).alters
            (writes_put stands' (by simp [FileTree.surface?, found']) _).alters
        · subst seen
          exact paired.alters
            (writes_put stands (by simp [FileTree.surface?, found, FileTree.content?]) _).alters
            (writes_put stands' (by simp [FileTree.surface?, found', FileTree.content?]) _).alters
        · rfl
  · rfl

theorem Paired.makeDirectory (paired : Paired common one other)
    (passable : Passable common path) :
    BothLead (Paired common) (one.makeDirectory path) (other.makeDirectory path) := by
  have sameTarget := paired.target passable
  rw [World.makeDirectory, World.makeDirectory, sameTarget]
  rcases aimed : one.target path with cause | (⟨place, name, slash⟩ | _)
  · rfl
  · have kind := paired.kind (place ++ [name]) (passable _ (by
      rw [← goal_of_target aimed, paired.here]
      exact goal_mem_way common.directory path))
    have stands := stands_of_target aimed
    have stands' := stands_of_target (sameTarget.trans aimed)
    change BothLead _ (one.lookUp place name >>= _) (other.lookUp place name >>= _)
    rw [lookUp, lookUp]
    split
    · rfl
    · rcases found : one.root.find? (place ++ [name]) with _ | item <;>
        rcases found' : other.root.find? (place ++ [name]) with _ | item' <;>
        simp only [isFileAt?, FileTree.surface?, found, found', Option.map_some, Option.map_none,
          reduceCtorEq] at kind
      · exact paired.alters (alters_put_empty stands found) (alters_put_empty stands' found')
      · rfl
  · rfl

end World

end TypeTokenWrappers
