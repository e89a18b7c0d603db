import TypeTokenWrappers.Config.Load
import TypeTokenWrappers.Proofs.Files.Program
import TypeTokenWrappers.Proofs.Files.Relisting

/-! # The archives of a configuration

The archives that are named come first, then those below each directory in the order of their
places. The first directory that is missing, or below which some directory cannot be listed,
decides instead. -/

namespace TypeTokenWrappers

namespace FileTree

variable {tree : FileTree α} {place : List String} {directory : String}

/-- Whether a file of this name is an archive. -/
def IsArchive (name : String) : Prop :=
  ∃ stem, stem ≠ "" ∧ name = stem ++ ".jar"

theorem Sound.isName_of_find? {item : FileTree α} (sound : tree.Sound)
    (found : tree.find? place = some item) : ∀ name ∈ place, Path.IsName name := by
  induction place generalizing tree with
  | nil => exact nofun
  | cons name place induction =>
      cases sound with
      | file content => cases found
      | directory names distinct inside =>
          rcases (find?_directory_eq_some_iff distinct).mp found with ⟨child, member, found⟩
          exact List.forall_mem_cons.mpr ⟨names _ member, induction (inside _ member) found⟩

theorem extension?_below_iff (names : ∀ name ∈ place, Path.IsName name) (filled : place ≠ []) :
    Path.extension? (Path.below directory place) = some "jar" ↔
      ∃ name, place.getLast? = some name ∧ IsArchive name := by
  have last := List.getLast?_eq_some_getLast filled
  have spelled (stem : String) : stem ++ "." ++ "jar" = stem ++ ".jar" := String.append_assoc ..
  rw [Path.extension?_eq_some_iff (by decide), Path.fileName?_below directory names last, last]
  simp only [Option.some_inj, exists_eq_left', IsArchive, spelled]

/-- The archives below a directory, in the order of their places. -/
theorem Sound.exists_archives {entries : List (String × FileTree α)}
    (sound : (FileTree.directory entries).Sound) (directory : String) :
    ∃ places : List (List String),
      (FileTree.directory entries).archives directory = places.map (Path.below directory) ∧
      places.Pairwise Before ∧
      ∀ place, place ∈ places ↔ (FileTree.directory entries).HasFile place ∧
        ∃ name, place.getLast? = some name ∧ IsArchive name := by
  rcases sound.exists_lists with ⟨places, lists⟩
  refine ⟨places.filter fun place =>
    Path.extension? (Path.below directory place) == some "jar", ?_, ?_, ?_⟩
  · rw [archives, lists.filePaths_eq, List.filter_map]
    rfl
  · exact lists.ordered.filter _
  · intro place
    rw [List.mem_filter, lists.mem_iff, beq_iff_eq]
    refine and_congr_right fun hasFile => ?_
    rcases hasFile with ⟨content, found⟩
    apply extension?_below_iff (sound.isName_of_find? found)
    rintro rfl
    cases found

end FileTree

namespace Program

theorem on_mapM {σ : Type} {body : α → Program (StateM σ) β} {step : α → Except Error β}
    {state : σ} (answers : ∀ item, (body item).on state = (step item, state)) (items : List α) :
    (items.mapM body).on state = (items.mapM step, state) := by
  induction items with
  | nil => rfl
  | cons item items induction =>
      rw [List.mapM_cons, List.mapM_cons, on_bind, answers]
      cases step item with
      | error error => rfl
      | ok value =>
          rw [next_ok, on_bind, induction]
          cases items.mapM step <;> rfl

end Program

namespace Config

variable {world : World}

/-- What a directory of a configuration gives: an error if it is no directory that exists, or
if a directory below it has too long a path, as the first one that has; else the archives
below it, each once and in the order of their places. That a directory may not be listed for
want of a permission, that something is neither a file nor a directory, and that a name is not
UTF-8 does not occur in a world. -/
inductive Gives (world : World) (directory : String) : Except Error (List String) → Prop
  | missing (absent : ∀ entries, world.find directory ≠ .ok (.directory entries)) :
      Gives world directory (.error (.invalidPath directory))
  | unlisted {entries : List (String × FileTree (List UInt8))} {place : List String}
      (found : world.find directory = .ok (.directory entries))
      (first : (FileTree.directory entries).FirstUnlisted directory place) :
      Gives world directory
        (.error (.io (.onTheWay (Path.below directory place) .nameTooLong)))
  | listed {entries : List (String × FileTree (List UInt8))} {places : List (List String)}
      (found : world.find directory = .ok (.directory entries))
      (short : ∀ place, ¬ (FileTree.directory entries).Unlisted directory place)
      (ordered : places.Pairwise FileTree.Before)
      (archives : ∀ place, place ∈ places ↔ (FileTree.directory entries).HasFile place ∧
        ∃ name, place.getLast? = some name ∧ FileTree.IsArchive name) :
      Gives world directory (.ok (places.map (Path.below directory)))

/-- What a configuration gives: all its archives, or the first error. -/
inductive Gathers (world : World) (config : Config) : Except Error (List String) → Prop
  | all {found : List (List String)}
      (each : List.Forall₂ (fun directory archives => Gives world directory (.ok archives))
        config.classpath.directories found) :
      Gathers world config (.ok (config.classpath.jars ++ found.flatten))
  | first {front behind : List String} {directory : String} {error : Error}
      (split : config.classpath.directories = front ++ directory :: behind)
      (ahead : ∀ earlier ∈ front, ∃ archives, Gives world earlier (.ok archives))
      (fails : Gives world directory (.error error)) :
      Gathers world config (.error error)

/-- The archives below a directory of a configuration. -/
def listing (world : World) (directory : String) : Except Error (List String) :=
  if world.kind? directory = some .directory then
    (Program.answer (world.readTree directory)).map (·.archives directory)
  else .error (.invalidPath directory)

theorem on_jarPaths (config : Config) (world : World) :
    (config.jarPaths : Program (StateM World) _).on world =
      ((config.classpath.directories.mapM (listing world)).map fun found =>
        config.classpath.jars ++ found.flatten, world) := by
  rw [jarPaths, Program.on_bind, Program.on_mapM]
  · cases config.classpath.directories.mapM (listing world) <;> rfl
  · intro directory
    have asked : (Program.isDirectory directory : StateM World Bool).run world =
        (world.kind? directory == some .directory, world) := rfl
    have read : (Host.readTree directory : StateM World _).run world =
        (world.readTree directory, world) := rfl
    rw [listing, Program.on_bind, Program.on_lift, asked]
    cases there : world.kind? directory == some .directory with
    | false =>
        rw [if_neg (ne_of_beq_false there)]
        rfl
    | true =>
        rw [if_pos (eq_of_beq there)]
        change (Program.require (Host.readTree directory) >>= fun tree =>
          pure (tree.archives directory) : Program (StateM World) _).on world = _
        rw [Program.on_bind, Program.on_require, read]
        cases world.readTree directory <;> rfl

theorem gives_listing (sound : world.root.Sound) (directory : String) :
    Gives world directory (listing world directory) := by
  rw [listing, World.kind?, World.readTree]
  cases found : world.find directory with
  | error cause =>
      apply Gives.missing
      intro entries found'
      rw [found] at found'
      cases found'
  | ok tree =>
      cases tree with
      | file content =>
          apply Gives.missing
          intro entries found'
          rw [found] at found'
          cases found'
      | directory entries =>
          have within := World.sound_of_find sound found
          change Gives world directory
            ((Program.answer (World.outline directory (.directory entries))).map _)
          have outlines := within.outlines directory
          revert outlines
          generalize World.outline directory (.directory entries) = outline
          intro outlines
          cases outlines with
          | error first => exact .unlisted found first
          | ok short same =>
              rcases within.exists_archives directory with ⟨places, whole, ordered, archives⟩
              rw [FileTree.archives, ← same] at whole
              change Gives world directory (.ok (FileTree.archives directory _))
              rw [FileTree.archives, whole]
              exact .listed found short ordered archives

theorem listing_relisted (sound : world.root.Sound) {root : FileTree (List UInt8)}
    (relisted : world.root.Relisted root) :
    listing { world with root } = listing world := by
  funext directory
  rw [listing, listing, World.kind?_relisted relisted, World.readTree_relisted sound relisted]

/-- There is one answer only: the members of a list and their order are fixed, and so is the
first directory that cannot be listed. -/
theorem Gives.unique {directory : String} {answer other : Except Error (List String)}
    (gives : Gives world directory answer) (gives' : Gives world directory other) :
    answer = other := by
  cases gives with
  | missing absent =>
      cases gives' with
      | missing => rfl
      | unlisted found => exact absurd found (absent _)
      | listed found => exact absurd found (absent _)
  | @unlisted entries place found first =>
      cases gives' with
      | missing absent => exact absurd found (absent _)
      | @unlisted entries' place' found' first' =>
          cases found.symm.trans found'
          have same : place = place' := by
            rcases first.first place' first'.unlisted with same | before
            · exact same.symm
            · rcases first'.first place first.unlisted with same | after
              · exact same
              · exact absurd after before.asymm
          rw [same]
      | listed found' short =>
          cases found.symm.trans found'
          exact absurd first.unlisted (short place)
  | @listed entries places found short ordered archives =>
      cases gives' with
      | missing absent => exact absurd found (absent _)
      | unlisted found' first =>
          cases found.symm.trans found'
          exact absurd first.unlisted (short _)
      | @listed entries' places' found' _ ordered' archives' =>
          cases found.symm.trans found'
          have same : places = places' := by
            apply List.Perm.eq_of_pairwise _ ordered ordered'
            · rw [List.perm_ext_iff_of_nodup ordered.nodup ordered'.nodup]
              exact fun place => (archives place).trans (archives' place).symm
            · exact fun _ _ _ _ before after => absurd after before.asymm
          rw [same]

/-- The archives of a configuration are those that are named, then those below each directory
as the order of their places has it, unless a directory gives an error. Nothing is changed,
and the order in which the directories list their entries does not matter. What is outside of a
world (permissions, special files, names that are not UTF-8) is not spoken of. -/
theorem jarPaths_ordered (config : Config) (world : World) (sound : world.root.Sound) :
    (∀ answer, Gathers world config answer ↔
      ((config.jarPaths : Program (StateM World) _).on world).1 = answer) ∧
      ((config.jarPaths : Program (StateM World) _).on world).2 = world ∧
      ∀ root, world.root.Relisted root →
        ((config.jarPaths : Program (StateM World) _).on { world with root }).1 =
          ((config.jarPaths : Program (StateM World) _).on world).1 := by
  rw [on_jarPaths]
  refine ⟨fun answer => ⟨fun gathers => ?_, ?_⟩, rfl, ?_⟩
  · cases gathers with
    | all each =>
        have each := each.imp fun directory _ => (gives_listing sound directory).unique
        rw [mapM_eq_ok each]
        rfl
    | first split ahead fails =>
        have ahead (earlier : String) (member : earlier ∈ _) :
            ∃ archives, listing world earlier = .ok archives :=
          (ahead earlier member).imp fun _ => (gives_listing sound earlier).unique
        rw [split, mapM_eq_error ahead ((gives_listing sound _).unique fails)]
        rfl
  · rintro rfl
    rcases all_ok_or_first_error (listing world) config.classpath.directories with
      ⟨found, each⟩ | ⟨front, directory, behind, error, split, ahead, fails⟩
    · rw [mapM_eq_ok each]
      exact .all (each.imp fun directory archives same => same ▸ gives_listing sound directory)
    · rw [split, mapM_eq_error ahead fails]
      refine .first split (fun earlier member => ?_) (fails ▸ gives_listing sound directory)
      rcases ahead earlier member with ⟨archives, same⟩
      exact ⟨archives, same ▸ gives_listing sound earlier⟩
  · intro root relisted
    rw [on_jarPaths, listing_relisted sound relisted]

/-! A directory that is named like an archive, a file that has no extension for all its name,
and the two directories around them in either order. -/

def namedRoot : FileTree (List UInt8) :=
  .directory [("lib", .directory [("x.jar", .directory [("y.jar", .file [])])]),
    ("more", .directory [(".jar", .file [])])]

def relistedRoot : FileTree (List UInt8) :=
  .directory [("more", .directory [(".jar", .file [])]),
    ("lib", .directory [("x.jar", .directory [("y.jar", .file [])])])]

def namedConfig : Config where
  classpath := { jars := ["b.jar", "a.jar"], directories := ["more", "lib/x.jar/..", "lib"] }

theorem sound_singleton {name : String} {tree : FileTree (List UInt8)} (isName : Path.IsName name)
    (sound : tree.Sound) : (FileTree.directory [(name, tree)]).Sound :=
  .directory (by simpa using isName) (List.nodup_singleton name) (by simpa using sound)

theorem sound_namedRoot : namedRoot.Sound := by
  have lib : (FileTree.directory [("x.jar", .directory [("y.jar",
      .file ([] : List UInt8))])]).Sound :=
    sound_singleton (by simp [Path.IsName]) (sound_singleton (by simp [Path.IsName]) (.file []))
  have more : (FileTree.directory [(".jar", .file ([] : List UInt8))]).Sound :=
    sound_singleton (by simp [Path.IsName]) (.file [])
  exact .directory (by simp [Path.IsName]) (by simp) (by simp [lib, more])

theorem relisted_namedRoot : namedRoot.Relisted relistedRoot :=
  FileTree.relisted_of_perm sound_namedRoot (.swap _ _ _)

theorem jarPaths_ordered_namedRoot :
    let archives := ["b.jar", "a.jar", "lib/x.jar/../x.jar/y.jar", "lib/x.jar/y.jar"]
    Gathers ⟨namedRoot, [], []⟩ namedConfig (.ok archives) ∧
      ((namedConfig.jarPaths : Program (StateM World) _).on ⟨relistedRoot, [], []⟩).1 =
        .ok archives := by
  have answer : ((namedConfig.jarPaths : Program (StateM World) _).on ⟨namedRoot, [], []⟩).1 =
      .ok ["b.jar", "a.jar", "lib/x.jar/../x.jar/y.jar", "lib/x.jar/y.jar"] := by
    decide +kernel
  rcases jarPaths_ordered namedConfig ⟨namedRoot, [], []⟩ sound_namedRoot with
    ⟨gathers, _, relisted⟩
  rw [answer] at gathers relisted
  exact ⟨(gathers _).mpr rfl, relisted relistedRoot relisted_namedRoot⟩

/-! A path with detours may be so long that it leads to a directory, but no longer to those
below. -/

/-- Stays in a directory as often as told. -/
def detour (times : Nat) : List Char := (List.replicate times ['.', '/']).flatten

theorem cut_detour (times : Nat) (text : List Char) :
    Pieces.cut '/' (detour times ++ text) = List.replicate times ['.'] ++ Pieces.cut '/' text := by
  induction times with
  | zero => rfl
  | succ times induction =>
      have step : detour (times + 1) ++ text = ['.'] ++ '/' :: (detour times ++ text) := rfl
      rw [step, Pieces.cut_append, induction]
      rfl

theorem byteLength_detour (times : Nat) (text : List Char) :
    Utf8.byteLength (detour times ++ text) = 2 * times + Utf8.byteLength text := by
  induction times with
  | zero => simp [detour]
  | succ times induction =>
      have step : detour (times + 1) ++ text = '.' :: '/' :: (detour times ++ text) := rfl
      have dot : '.'.utf8Size = 1 := by decide
      have slash : '/'.utf8Size = 1 := by decide
      rw [step, Utf8.byteLength, Utf8.byteLength, induction, dot, slash]
      omega

theorem notMem_detour {char : Char} (noDot : char ≠ '.') (noSlash : char ≠ '/') (times : Nat) :
    char ∉ detour times := by
  simp [detour, noDot, noSlash]

theorem walk_detour {root : FileTree (List UInt8)} {place : List String}
    (stands : World.isFileAt? root place = some false) (times : Nat) (pieces : List (List Char)) :
    World.walk root place (List.replicate times ['.'] ++ pieces) =
      World.walk root place pieces := by
  induction times with
  | zero => rfl
  | succ times induction =>
      have stays : World.step root place ['.'] = .ok place := by
        rw [World.step_eq, stands]
        rfl
      rw [List.replicate_succ, List.cons_append, World.walk, List.foldlM_cons, stays]
      exact induction

def deepWorld : World where
  root := .directory [("lib", .directory [("sub", .directory [("gradle-b.jar", .file [])])])]
  directory := []
  environment := []

/-- A directory with detours on the way to it, and a configuration that names it. -/
def detourTo (times : Nat) : String := String.ofList (detour times ++ "lib".toList)

def detourConfig (times : Nat) : Config where
  classpath := { directories := [detourTo times] }

variable {times : Nat}

theorem toList_detourTo (times : Nat) : (detourTo times).toList = detour times ++ "lib".toList :=
  String.toList_ofList

theorem byteLength_detourTo (times : Nat) :
    Utf8.byteLength (detourTo times).toList = 2 * times + 3 := by
  rw [toList_detourTo, byteLength_detour]
  rfl

theorem filled_detourTo (times : Nat) : detourTo times ≠ "" := by
  rw [← String.toList_inj.ne, toList_detourTo]
  exact List.append_ne_nil_of_right_ne_nil _ (by decide)

theorem find_detourTo (short : 2 * times + 3 < World.pathLimit) :
    deepWorld.find (detourTo times) =
      .ok (.directory [("sub", .directory [("gradle-b.jar", .file [])])]) := by
  have checked : World.checkPath (detourTo times) = .ok (detourTo times).toList := by
    have noNul : (detourTo times).toList.contains '\x00' = false := by
      rw [toList_detourTo, List.contains_eq_mem, decide_eq_false_iff_not, List.mem_append]
      exact not_or.mpr ⟨notMem_detour (by decide) (by decide) _, by decide⟩
    rw [World.checkPath, noNul, if_neg Bool.false_ne_true, if_neg (filled_detourTo times),
      byteLength_detourTo, if_neg (Nat.not_le.mpr short)]
  have start : deepWorld.start (detourTo times) = [] := by
    rw [World.start]
    split <;> rfl
  have walked : World.walk deepWorld.root [] (Pieces.cut '/' (detourTo times).toList) =
      .ok ["lib"] := by
    rw [toList_detourTo, cut_detour, walk_detour rfl]
    rfl
  rw [World.find_eq, World.locate, checked, start]
  change (World.walk deepWorld.root [] (Pieces.cut '/' (detourTo times).toList)).mapError _ >>=
    _ = _
  rw [walked]
  rfl

theorem join_detourTo (times : Nat) :
    Path.join (detourTo times) "sub" = detourTo times ++ "/sub" := by
  have last : (detourTo times).toList.getLast? = some 'b' := by
    rw [toList_detourTo, List.getLast?_append]
    rfl
  have noEnd : ¬ (detourTo times = "" || (detourTo times).toList.getLast? = some '/') := by
    rw [last]
    simp [filled_detourTo times]
  rw [Path.join, if_neg (by decide), if_neg noEnd, String.append_assoc]
  rfl

theorem on_jarPaths_detourTo (short : 2 * times + 3 < World.pathLimit)
    (long : World.pathLimit ≤ 2 * times + 7) :
    ((detourConfig times).jarPaths : Program (StateM World) _).on deepWorld =
      (.error (.io (.onTheWay (detourTo times ++ "/sub") .nameTooLong)), deepWorld) := by
  have inner : World.outline (detourTo times ++ "/sub")
      (.directory [("gradle-b.jar", FileTree.file ([] : List UInt8))]) =
        .error (.onTheWay (detourTo times ++ "/sub") .nameTooLong) := by
    rw [FileTree.outline_directory, if_pos]
    rw [String.toList_append, Utf8.byteLength_append, byteLength_detourTo]
    exact long
  have outer : World.outline (detourTo times) (.directory [("sub",
      FileTree.directory [("gradle-b.jar", .file ([] : List UInt8))])]) =
        .error (.onTheWay (detourTo times ++ "/sub") .nameTooLong) := by
    rw [FileTree.outline_directory, byteLength_detourTo, if_neg (Nat.not_le.mpr short),
      FileTree.byName_of_pairwise (List.pairwise_singleton ..), List.mapM_cons,
      FileTree.outlineBelow, join_detourTo, inner]
    rfl
  have listed : listing deepWorld (detourTo times) =
      .error (.io (.onTheWay (detourTo times ++ "/sub") .nameTooLong)) := by
    rw [listing, World.kind?, World.readTree, find_detourTo short, if_pos rfl]
    change (Program.answer (World.outline (detourTo times) _)).map _ = _
    rw [outer]
    rfl
  have first : [detourTo times].mapM (listing deepWorld) =
      .error (.io (.onTheWay (detourTo times ++ "/sub") .nameTooLong)) := by
    rw [List.mapM_cons, listed]
    rfl
  rw [on_jarPaths, detourConfig, first]
  rfl

/-- The directory is there, with an archive below it; but the path of `lib/sub` has 4097 bytes. -/
theorem jarPaths_detourTo_2045 : deepWorld.root.Sound ∧
    deepWorld.find (detourTo 2045) =
      .ok (.directory [("sub", .directory [("gradle-b.jar", .file [])])]) ∧
    ((detourConfig 2045).jarPaths : Program (StateM World) _).on deepWorld =
      (.error (.io (.onTheWay (detourTo 2045 ++ "/sub") .nameTooLong)), deepWorld) := by
  refine ⟨?_, find_detourTo (by decide), on_jarPaths_detourTo (by decide) (by decide)⟩
  have isName (name : String) (special : name = "lib" ∨ name = "sub" ∨ name = "gradle-b.jar") :
      Path.IsName name := by
    rcases special with rfl | rfl | rfl <;> simp [Path.IsName]
  exact sound_singleton (isName _ (by simp)) (sound_singleton (isName _ (by simp))
    (sound_singleton (isName _ (by simp)) (.file [])))

end Config

end TypeTokenWrappers
