import TypeTokenWrappers.Files.World
import TypeTokenWrappers.Proofs.Files.Tree
import TypeTokenWrappers.Proofs.Text.Taken

/-! # What a change of a modelled host can be seen by

A path leads to a place, for which only the kinds of what stands on the way matter. So
a path that leads somewhere goes on to do so when directories and files are added, and
a change of the content of one file is seen by the paths that lead to it and by no
others. -/

namespace TypeTokenWrappers.World

variable {root later : FileTree (List UInt8)} {world after : World} {path : String}
  {place other : List String} {content : List UInt8}

/-! ## Ways -/

/-- What stands at a place, if anything does: whether it is a file. -/
def isFileAt? (root : FileTree (List UInt8)) (place : List String) : Option Bool :=
  (root.surface? place).map Option.isSome

/-- Whether all that stands somewhere still does so, as a file or as a directory. -/
def KindsKept (root later : FileTree (List UInt8)) : Prop :=
  ∀ place isFile, isFileAt? root place = some isFile → isFileAt? later place = some isFile

/-- Where a piece leads from a directory. -/
def stepWithin (place : List String) (piece : List Char) : Except OsError (List String) :=
  if !Path.significant piece then .ok place
  else if piece = ['.', '.'] then .ok place.dropLast
  else if Utf8.byteLength piece > maximalNameLength then .error .nameTooLong
  else .ok (place ++ [String.ofList piece])

theorem step_eq (root : FileTree (List UInt8)) (place : List String) (piece : List Char) :
    step root place piece =
      match isFileAt? root place with
      | none => .error .notFound
      | some true => .error .notDirectory
      | some false => stepWithin place piece := by
  rw [step, isFileAt?, FileTree.surface?]
  rcases root.find? place with _ | _ | _ <;> rfl

theorem step_congr (same : isFileAt? root place = isFileAt? later place) (piece : List Char) :
    step root place piece = step later place piece := by
  rw [step_eq, step_eq, same]

theorem isFileAt?_of_step {next : List String} {piece : List Char}
    (goes : step root place piece = .ok next) : isFileAt? root place = some false := by
  rw [step_eq] at goes
  split at goes
  case h_1 => cases goes
  case h_2 => cases goes
  case h_3 directory => exact directory

/-- Only directories are passed on the way to a place. -/
theorem walk_of_directories {pieces : List (List Char)} {last : List String}
    (same : ∀ place, isFileAt? root place = some false → isFileAt? later place = some false)
    (goes : walk root place pieces = .ok last) : walk later place pieces = .ok last := by
  induction pieces generalizing place with
  | nil => exact goes
  | cons piece pieces induction =>
      rw [walk, List.foldlM_cons] at goes ⊢
      cases first : step root place piece with
      | error error =>
          rw [first] at goes
          cases goes
      | ok next =>
          have directory := isFileAt?_of_step first
          rw [← step_congr (directory.trans (same place directory).symm), first]
          rw [first] at goes
          exact induction goes

theorem KindsKept.walk (kept : KindsKept root later) {last : List String}
    {pieces : List (List Char)} (goes : walk root place pieces = .ok last) :
    World.walk later place pieces = .ok last :=
  walk_of_directories (fun place => kept place false) goes

theorem walk_congr (same : ∀ place, isFileAt? root place = isFileAt? later place)
    (place : List String) (pieces : List (List Char)) :
    walk root place pieces = walk later place pieces := by
  induction pieces generalizing place with
  | nil => rfl
  | cons piece pieces induction =>
      rw [walk, walk, List.foldlM_cons, List.foldlM_cons, step_congr (same place)]
      exact bind_congr induction

/-- The place that a path leads to; nothing needs to stand there. -/
def locate (world : World) (path : String) : Except IoError (List String) := do
  let text ← checkPath path
  (walk world.root (world.start path) (Pieces.cut '/' text)).mapError .os

/-- Whether two paths lead to the same place. -/
def SameFile (world : World) (path other : String) : Prop :=
  ∃ place, world.locate path = .ok place ∧ world.locate other = .ok place

theorem not_sameFile {first second : String} (leads : world.locate first = .ok place)
    (leads' : world.locate second = .ok other) (different : place ≠ other) :
    ¬ world.SameFile first second := by
  rintro ⟨both, same, same'⟩
  exact different (Except.ok.inj (leads.symm.trans (same.trans (same'.symm.trans leads'))))

/-- What reading at a place gives. -/
def contentOf : Option (Option (List UInt8)) → Except IoError (List UInt8)
  | none => .error (.os .notFound)
  | some none => .error (.os .isDirectory)
  | some (some content) => .ok content

theorem fileContent_eq (world : World) (path : String) :
    world.fileContent path =
      world.locate path >>= fun place => contentOf (world.root.surface? place) := by
  rw [World.fileContent, World.find, locate]
  cases checkPath path with
  | error cause => rfl
  | ok text =>
      dsimp only [bind, Except.bind]
      cases (walk world.root (world.start path) (Pieces.cut '/' text)).mapError IoError.os with
      | error cause => rfl
      | ok place =>
          dsimp only
          rw [FileTree.surface?]
          rcases world.root.find? place with _ | _ | _ <;> rfl

theorem fileContent_eq_ok_iff :
    world.fileContent path = .ok content ↔
      ∃ place, world.locate path = .ok place ∧
        world.root.surface? place = some (some content) := by
  rw [fileContent_eq]
  cases world.locate path with
  | error cause => simp [bind, Except.bind]
  | ok place =>
      change contentOf (world.root.surface? place) = _ ↔ _
      rcases seen : world.root.surface? place with _ | _ | found <;> simp [contentOf, seen]

theorem fileSize_of_fileContent (read : world.fileContent path = .ok content) :
    world.fileSize path = .ok content.length := by
  rw [fileSize, read]
  rfl

/-! ## Directories and files that are added -/

/-- A host on which all that could be seen is still to be seen. -/
structure Grows (world after : World) : Prop where
  directory : after.directory = world.directory
  environment : after.environment = world.environment
  kept : ∀ place seen, world.root.surface? place = some seen →
    after.root.surface? place = some seen

/-- A host on which a file has another content, or is new; all else is as it was. -/
structure Writes (world after : World) (place : List String) (content : List UInt8) : Prop where
  directory : after.directory = world.directory
  environment : after.environment = world.environment
  seen : ∀ other, after.root.surface? other =
    if other = place then some (some content) else world.root.surface? other

theorem Grows.refl (world : World) : Grows world world :=
  ⟨rfl, rfl, fun _ _ seen => seen⟩

theorem Grows.trans {middle : World} (first : Grows world middle) (second : Grows middle after) :
    Grows world after :=
  ⟨second.directory.trans first.directory, second.environment.trans first.environment,
    fun place seen visible => second.kept place seen (first.kept place seen visible)⟩

theorem Grows.kindsKept (grows : Grows world after) : KindsKept world.root after.root := by
  intro place isFile stands
  rw [isFileAt?, Option.map_eq_some_iff] at stands ⊢
  rcases stands with ⟨seen, visible, kind⟩
  exact ⟨seen, grows.kept place seen visible, kind⟩

theorem Writes.trans {middle : World} {new : List UInt8} (first : Writes world middle place content)
    (second : Writes middle after place new) : Writes world after place new := by
  refine ⟨second.directory.trans first.directory, second.environment.trans first.environment, ?_⟩
  intro other
  rw [second.seen, first.seen]
  split <;> rfl

theorem writes_self (seen : world.root.surface? place = some (some content)) :
    Writes world world place content := by
  refine ⟨rfl, rfl, fun other => ?_⟩
  split
  case isTrue same => rw [same, seen]
  case isFalse => rfl

theorem Writes.seen_self (writes : Writes world after place content) :
    after.root.surface? place = some (some content) := by
  rw [writes.seen, if_pos rfl]

/-- If a file stood there before, its content is all that has changed. -/
theorem Writes.isFileAt?_eq {old : List UInt8} (writes : Writes world after place content)
    (stood : world.root.surface? place = some (some old)) (other : List String) :
    isFileAt? after.root other = isFileAt? world.root other := by
  rw [isFileAt?, isFileAt?, writes.seen]
  split
  case isTrue same =>
    rw [same, stood]
    rfl
  case isFalse => rfl

/-- A new file does not bar a way, if no directory stood there. -/
theorem Writes.kindsKept (writes : Writes world after place content)
    (stood : world.root.surface? place ≠ some none) : KindsKept world.root after.root := by
  intro other isFile stands
  rw [isFileAt?, writes.seen]
  split
  case isTrue same =>
    subst same
    rw [isFileAt?, Option.map_eq_some_iff] at stands
    rcases stands with ⟨seen, visible, rfl⟩
    cases seen with
    | none => exact absurd visible stood
    | some old => rfl
  case isFalse => exact stands

theorem start_eq (directory : after.directory = world.directory) (path : String) :
    after.start path = world.start path := by
  rw [start, start, directory]

theorem locate_eq_ok_iff : world.locate path = .ok place ↔
    ∃ text, checkPath path = .ok text ∧
      walk world.root (world.start path) (Pieces.cut '/' text) = .ok place := by
  rw [locate, bind_ok_iff]
  simp only [mapError_eq_ok_iff]

theorem locate_of_kindsKept (directory : after.directory = world.directory)
    (kept : KindsKept world.root after.root) (leads : world.locate path = .ok place) :
    after.locate path = .ok place := by
  rw [locate_eq_ok_iff] at leads ⊢
  rcases leads with ⟨text, checked, goes⟩
  rw [start_eq directory]
  exact ⟨text, checked, kept.walk goes⟩

theorem locate_congr (directory : after.directory = world.directory)
    (same : ∀ place, isFileAt? after.root place = isFileAt? world.root place) (path : String) :
    after.locate path = world.locate path := by
  rw [locate, locate]
  simp only [start_eq directory, walk_congr same]

/-! ## Files that are written -/

/-- A path whose last piece names something in a directory. -/
structure Names (world : World) (path : String) (directory : List String) (last : List Char) :
    Prop where
  pieces : ∃ text front, checkPath path = .ok text ∧ Pieces.cut '/' text = front ++ [last] ∧
    walk world.root (world.start path) front = .ok directory
  stands : isFileAt? world.root directory = some false
  significant : Path.significant last = true
  noParent : last ≠ ['.', '.']
  short : Utf8.byteLength last ≤ maximalNameLength

theorem Names.locate {directory : List String} {last : List Char}
    (names : world.Names path directory last) :
    world.locate path = .ok (directory ++ [String.ofList last]) := by
  rcases names.pieces with ⟨text, front, checked, split, goes⟩
  have step : step world.root directory last = .ok (directory ++ [String.ofList last]) := by
    rw [step_eq, names.stands]
    change stepWithin directory last = _
    rw [stepWithin, names.significant, if_neg (by simp), if_neg names.noParent,
      if_neg (Nat.not_lt.mpr names.short)]
  refine locate_eq_ok_iff.mpr ⟨text, checked, ?_⟩
  rw [split, walk, List.foldlM_append]
  exact bind_ok_iff.mpr ⟨directory, goes, bind_ok_iff.mpr ⟨_, step, rfl⟩⟩

theorem Names.of_kindsKept {directory : List String} {last : List Char}
    (names : world.Names path directory last) (same : after.directory = world.directory)
    (kept : KindsKept world.root after.root) : after.Names path directory last := by
  rcases names with ⟨⟨text, front, checked, split, goes⟩, stands, significant, noParent, short⟩
  refine ⟨⟨text, front, checked, split, ?_⟩, kept _ _ stands, significant, noParent, short⟩
  rw [start_eq same]
  exact kept.walk goes

/-- Directories can be looked into. -/
theorem step_nil_eq_ok_iff {next : List String} :
    step root place [] = .ok next ↔ isFileAt? root place = some false ∧ next = place := by
  rw [step_eq]
  rcases isFileAt? root place with _ | _ | _ <;> simp [stepWithin, Path.significant, eq_comm]

theorem target_eq_ok_iff {found : Target} : world.target path = .ok found ↔
    ∃ text, checkPath path = .ok text ∧
      match (Pieces.cut '/' text).reverse.dropWhile (· = []) with
      | [] => found = .existing
      | last :: front => ∃ directory,
          walk world.root (world.start path) front.reverse = .ok directory ∧
            isFileAt? world.root directory = some false ∧
            found = if last = ['.'] ∨ last = ['.', '.'] then .existing
              else .name directory (String.ofList last)
                ((Pieces.cut '/' text).reverse.head? == some []) := by
  rw [target, bind_ok_iff]
  refine exists_congr fun text => and_congr_right fun _ => ?_
  dsimp only
  cases (Pieces.cut '/' text).reverse.dropWhile (· = []) with
  | nil =>
      change Except.ok Target.existing = .ok found ↔ found = .existing
      simp [eq_comm]
  | cons last front =>
      dsimp only
      rw [bind_ok_iff]
      refine exists_congr fun directory => ?_
      rw [mapError_eq_ok_iff, bind_ok_iff]
      simp only [mapError_eq_ok_iff, step_nil_eq_ok_iff, Bool.or_eq_true, decide_eq_true_eq,
        ← apply_ite (pure : Target → Except IoError Target)]
      refine and_congr_right fun _ => ?_
      constructor
      · rintro ⟨_, ⟨stands, rfl⟩, built⟩
        exact ⟨stands, (Except.ok.inj built).symm⟩
      · rintro ⟨stands, rfl⟩
        exact ⟨directory, ⟨stands, rfl⟩, rfl⟩

theorem Names.target {directory : List String} {last : List Char}
    (names : world.Names path directory last) :
    world.target path = .ok (.name directory (String.ofList last) false) := by
  rcases names with ⟨⟨text, front, checked, split, goes⟩, stands, significant, noParent, _⟩
  rw [Path.significant, Bool.and_eq_true, bne_iff_ne, bne_iff_ne] at significant
  have reversed : (Pieces.cut '/' text).reverse = last :: front.reverse := by
    rw [split, List.reverse_append]
    rfl
  refine target_eq_ok_iff.mpr ⟨text, checked, ?_⟩
  rw [reversed, List.dropWhile_cons_of_neg (by simpa using significant.1)]
  refine ⟨directory, by rwa [List.reverse_reverse], stands, ?_⟩
  rw [if_neg (by simp [significant.2, noParent]), List.head?_cons]
  simp [significant.1]

theorem stands_of_target {directory : List String} {name : String} {slash : Bool}
    (target : world.target path = .ok (.name directory name slash)) :
    isFileAt? world.root directory = some false := by
  rcases target_eq_ok_iff.mp target with ⟨text, checked, found⟩
  split at found
  case h_1 => cases found
  case h_2 last front reversed =>
    rcases found with ⟨_, goes, stands, found⟩
    split at found
    · cases found
    · cases found
      exact stands

/-- Without an empty piece at the beginning there is nothing to drop there. -/
theorem dropWhile_of_head? {pieces : List (List Char)} (filled : (pieces.head? == some []) = false) :
    pieces.dropWhile (· = []) = pieces := by
  cases pieces with
  | nil => rfl
  | cons piece pieces =>
      rw [List.head?_cons] at filled
      exact List.dropWhile_cons_of_neg (by simpa using filled)

theorem names_of_target {directory : List String} {name : String}
    (target : world.target path = .ok (.name directory name false))
    (short : Utf8.byteLength name.toList ≤ maximalNameLength) :
    ∃ last, name = String.ofList last ∧ world.Names path directory last := by
  rcases target_eq_ok_iff.mp target with ⟨text, checked, found⟩
  split at found
  case h_1 => cases found
  case h_2 last front reversed =>
    rcases found with ⟨_, goes, stands, found⟩
    by_cases dots : last = ['.'] ∨ last = ['.', '.']
    · rw [if_pos dots] at found
      cases found
    · rw [if_neg dots] at found
      injection found with directories names noSlash
      subst directories names
      rw [not_or] at dots
      have whole := dropWhile_of_head? noSlash.symm
      rw [reversed] at whole
      have split : Pieces.cut '/' text = front.reverse ++ [last] := by
        rw [← List.reverse_cons, whole, List.reverse_reverse]
      have filled : last ≠ [] := by
        have head := List.head?_dropWhile_not (· = []) (Pieces.cut '/' text).reverse
        rw [reversed] at head
        simpa using head
      rw [String.toList_ofList] at short
      refine ⟨last, rfl, ⟨text, front.reverse, checked, split, goes⟩, stands, ?_, dots.2, short⟩
      simp [Path.significant, filled, dots.1]

theorem surface?_of_isFileAt? (stands : isFileAt? root place = some false) :
    root.surface? place = some none := by
  rw [isFileAt?, Option.map_eq_some_iff] at stands
  rcases stands with ⟨seen, visible, kind⟩
  cases seen with
  | none => exact visible
  | some content => cases kind

/-- A file that is put into a directory, over another file or over nothing. -/
theorem writes_put {name : String} (stands : isFileAt? world.root place = some false)
    (stood : world.root.surface? (place ++ [name]) ≠ some none) (content : List UInt8) :
    Writes world { world with root := world.root.put (place ++ [name]) (.file content) }
      (place ++ [name]) content := by
  refine ⟨rfl, rfl, ?_⟩
  apply FileTree.surface?_put (FileTree.leaf_file content) (surface?_of_isFileAt? stands)
  intro earlier found
  cases earlier with
  | file old => exact FileTree.leaf_file old
  | directory entries =>
      rw [FileTree.surface?, found] at stood
      exact absurd rfl stood

theorem lookUp_eq_ok_iff {name : String} {found : Option (FileTree (List UInt8))} :
    world.lookUp place name = .ok found ↔ Utf8.byteLength name.toList ≤ maximalNameLength ∧
      world.root.find? (place ++ [name]) = found := by
  rw [lookUp]
  split
  case isTrue long =>
    refine iff_of_false (fun impossible => nomatch impossible) ?_
    rintro ⟨short, _⟩
    exact Nat.not_le.mpr long short
  case isFalse short => simp [Nat.not_lt.mp short]

theorem changeFile_of_names {directory : List String} {last : List Char}
    {change : List UInt8 → List UInt8} {old : List UInt8} (names : world.Names path directory last)
    (stood : world.root.surface? (directory ++ [String.ofList last]) = some (some old)) :
    ∃ after, world.changeFile path change = .ok after ∧
      Writes world after (directory ++ [String.ofList last]) (change old) := by
  refine ⟨_, ?_, writes_put names.stands (by simp [stood]) _⟩
  have found : world.root.find? (directory ++ [String.ofList last]) = some (.file old) := by
    rw [FileTree.surface?, Option.map_eq_some_iff] at stood
    rcases stood with ⟨tree, found, content⟩
    cases tree with
    | file content =>
        cases content
        exact found
    | directory entries => cases content
  have lookUp : world.lookUp directory (String.ofList last) = .ok (some (.file old)) :=
    lookUp_eq_ok_iff.mpr ⟨by rw [String.toList_ofList]; exact names.short, found⟩
  rw [changeFile, names.target]
  change (world.lookUp directory (String.ofList last) >>= _) = _
  rw [lookUp]
  rfl

theorem names_of_changeFile {change : List UInt8 → List UInt8}
    (changed : world.changeFile path change = .ok after) :
    ∃ directory last old, world.Names path directory last ∧
      world.root.surface? (directory ++ [String.ofList last]) ≠ some none ∧
      Writes world after (directory ++ [String.ofList last]) (change old) := by
  rcases bind_ok_iff.mp changed with ⟨target, aimed, changed⟩
  cases target with
  | existing => cases changed
  | name directory name slash =>
      cases slash with
      | true => cases changed
      | false =>
          rcases bind_ok_iff.mp changed with ⟨found, lookUp, changed⟩
          rcases lookUp_eq_ok_iff.mp lookUp with ⟨short, stood⟩
          rcases names_of_target aimed short with ⟨last, rfl, names⟩
          have new (old : List UInt8) (seen : world.root.surface?
              (directory ++ [String.ofList last]) ≠ some none) :=
            writes_put names.stands seen (change old)
          match found with
          | none =>
              cases changed
              have seen : world.root.surface? (directory ++ [String.ofList last]) ≠ some none := by
                simp [FileTree.surface?, stood]
              exact ⟨directory, last, [], names, seen, new [] seen⟩
          | some (.file old) =>
              cases changed
              have seen : world.root.surface? (directory ++ [String.ofList last]) ≠ some none := by
                simp [FileTree.surface?, stood, FileTree.content?]
              exact ⟨directory, last, old, names, seen, new old seen⟩
          | some (.directory entries) => cases changed

theorem grows_of_makeDirectory (made : world.makeDirectory path = .ok after) :
    Grows world after := by
  rcases bind_ok_iff.mp made with ⟨target, aimed, made⟩
  cases target with
  | existing => cases made
  | name directory name slash =>
      rcases bind_ok_iff.mp made with ⟨found, lookUp, made⟩
      rcases lookUp_eq_ok_iff.mp lookUp with ⟨_, stood⟩
      cases found with
      | some item => cases made
      | none =>
          cases made
          refine ⟨rfl, rfl, fun other seen visible => ?_⟩
          rw [FileTree.surface?_put FileTree.leaf_empty
            (surface?_of_isFileAt? (stands_of_target aimed)) (by simp [stood])]
          split
          case isTrue same =>
            rw [same, FileTree.surface?, stood] at visible
            cases visible
          case isFalse => exact visible

/-- A path that names a file which is there. -/
structure Writable (world : World) (path : String) (place : List String) : Prop where
  names : ∃ directory last, world.Names path directory last ∧
    place = directory ++ [String.ofList last]
  stands : ∃ old, world.root.surface? place = some (some old)

theorem Writable.locate (writable : world.Writable path place) :
    world.locate path = .ok place := by
  rcases writable.names with ⟨directory, last, names, rfl⟩
  exact names.locate

/-- A file that was made can be written from then on. -/
theorem Writes.writable {directory : List String} {last : List Char}
    (writes : Writes world after (directory ++ [String.ofList last]) content)
    (names : world.Names path directory last)
    (stood : world.root.surface? (directory ++ [String.ofList last]) ≠ some none) :
    after.Writable path (directory ++ [String.ofList last]) :=
  ⟨⟨directory, last, names.of_kindsKept writes.directory (writes.kindsKept stood), rfl⟩,
    ⟨content, writes.seen_self⟩⟩

theorem Writable.locate_of_writes (writable : world.Writable path place)
    (writes : Writes world after place content) : after.locate path = .ok place := by
  rcases writable.stands with ⟨old, stands⟩
  rw [locate_congr writes.directory (writes.isFileAt?_eq stands), writable.locate]

theorem Writable.changeFile (writable : world.Writable path place)
    (writes : Writes world after place content) (change : List UInt8 → List UInt8) :
    ∃ last, after.changeFile path change = .ok last ∧ Writes world last place (change content) := by
  rcases writable with ⟨⟨directory, last, names, rfl⟩, ⟨old, stands⟩⟩
  have later := names.of_kindsKept writes.directory (writes.kindsKept (by simp [stands]))
  rcases changeFile_of_names later writes.seen_self with ⟨last, changed, written⟩
  exact ⟨last, changed, writes.trans written⟩

/-! ## What reading gives later -/

theorem Grows.fileContent (grows : Grows world after)
    (read : world.fileContent path = .ok content) : after.fileContent path = .ok content := by
  rcases fileContent_eq_ok_iff.mp read with ⟨place, leads, seen⟩
  have goes := locate_of_kindsKept grows.directory grows.kindsKept leads
  exact fileContent_eq_ok_iff.mpr ⟨place, goes, grows.kept place _ seen⟩

theorem Writes.fileContent_of_locate (writes : Writes world after place content)
    (leads : after.locate path = .ok place) : after.fileContent path = .ok content :=
  fileContent_eq_ok_iff.mpr ⟨place, leads, writes.seen_self⟩

/-- Another file is still read when a file was made, ... -/
theorem Writes.fileContent_of_ok {found : List UInt8} (writes : Writes world after place content)
    (stood : world.root.surface? place ≠ some none)
    (read : world.fileContent path = .ok found) (apart : after.locate path ≠ .ok place) :
    after.fileContent path = .ok found := by
  rcases fileContent_eq_ok_iff.mp read with ⟨other, leads, seen⟩
  have goes := locate_of_kindsKept writes.directory (writes.kindsKept stood) leads
  have different : other ≠ place := fun same => apart (same ▸ goes)
  refine fileContent_eq_ok_iff.mpr ⟨other, goes, ?_⟩
  rw [writes.seen, if_neg different, seen]

/-- ... and where a file stood before, nothing else that is read is different. -/
theorem Writes.fileContent_eq {old : List UInt8} (writes : Writes world after place content)
    (stood : world.root.surface? place = some (some old)) (apart : world.locate path ≠ .ok place) :
    after.fileContent path = world.fileContent path := by
  rw [World.fileContent_eq, World.fileContent_eq,
    locate_congr writes.directory (writes.isFileAt?_eq stood)]
  cases leads : world.locate path with
  | error cause => rfl
  | ok other =>
      have different : other ≠ place := fun same => apart (same ▸ leads)
      change contentOf _ = contentOf _
      rw [writes.seen, if_neg different]

end TypeTokenWrappers.World
