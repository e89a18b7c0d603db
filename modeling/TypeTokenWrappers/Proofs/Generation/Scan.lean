import TypeTokenWrappers.Generation.Generator
import TypeTokenWrappers.Proofs.Files.Observed
import TypeTokenWrappers.Proofs.Generation.Stream
import TypeTokenWrappers.Proofs.Wrapper.Selection

/-! # What scanning archives gives on a watched host

What an archive gives depends on its content alone. Archives are opened up to the first
one that fails; so what is found is the same on two hosts if the archives opened on one of
them can be read on the other with the same result. -/

namespace TypeTokenWrappers

namespace WrapperStream

variable {outcome other : String → Except Error (List Wrapper)} {archive : String}
  {archives : List String}

/-- The archives that are opened: those up to the first one that fails. -/
def opened (outcome : String → Except Error (List Wrapper)) : List String → List String
  | [] => []
  | archive :: others =>
    match outcome archive with
    | .ok _ => archive :: opened outcome others
    | .error _ => [archive]

theorem opened_cons_of_ok {wrappers : List Wrapper} (gives : outcome archive = .ok wrappers)
    (archives : List String) :
    opened outcome (archive :: archives) = archive :: opened outcome archives := by
  rw [opened, gives]

theorem opened_cons_of_error {error : Error} (fails : outcome archive = .error error)
    (archives : List String) : opened outcome (archive :: archives) = [archive] := by
  rw [opened, fails]

theorem opened_subset (outcome : String → Except Error (List Wrapper)) (archives : List String) :
    ∀ archive ∈ opened outcome archives, archive ∈ archives := by
  induction archives with
  | nil => simp [opened]
  | cons first others induction =>
      intro archive member
      cases gives : outcome first with
      | ok wrappers =>
          rw [opened_cons_of_ok gives] at member
          rcases List.mem_cons.mp member with rfl | member
          · exact List.mem_cons_self
          · exact List.mem_cons_of_mem first (induction archive member)
      | error error =>
          rw [opened_cons_of_error gives, List.mem_singleton] at member
          rw [member]
          exact List.mem_cons_self

theorem opened_eq_self (complete : firstError? (archives.map outcome) = none) :
    opened outcome archives = archives := by
  induction archives with
  | nil => rfl
  | cons first others induction =>
      cases gives : outcome first with
      | ok wrappers =>
          rw [List.map_cons, gives] at complete
          rw [opened_cons_of_ok gives, induction complete]
      | error error =>
          rw [List.map_cons, gives] at complete
          cases complete

/-- All archives that are opened can be scanned, but for one that fails. -/
theorem gives_of_mem_opened (member : archive ∈ opened outcome archives) :
    (∃ wrappers, outcome archive = .ok wrappers) ∨
      (opened outcome archives).getLast? = some archive ∧
        ∃ error, firstError? (archives.map outcome) = some error := by
  induction archives with
  | nil => cases member
  | cons first others induction =>
      cases gives : outcome first with
      | ok wrappers =>
          rw [opened_cons_of_ok gives] at member ⊢
          rw [List.map_cons, gives, firstError?]
          rcases List.mem_cons.mp member with rfl | member
          · exact .inl ⟨wrappers, gives⟩
          · apply (induction member).imp_right
            intro last
            rw [List.getLast?_cons, last.1]
            exact ⟨rfl, last.2⟩
      | error error =>
          rw [opened_cons_of_error gives] at member ⊢
          rw [List.mem_singleton.mp member, List.map_cons, gives]
          exact .inr ⟨rfl, error, rfl⟩

theorem itemsOf_congr
    (same : ∀ archive ∈ opened outcome archives, other archive = outcome archive) :
    opened other archives = opened outcome archives ∧
      readable (archives.map other) = readable (archives.map outcome) ∧
      firstError? (archives.map other) = firstError? (archives.map outcome) := by
  induction archives with
  | nil => exact ⟨rfl, rfl, rfl⟩
  | cons first others induction =>
      cases gives : outcome first with
      | ok wrappers =>
          rw [opened_cons_of_ok gives] at same ⊢
          have gives' := (same first List.mem_cons_self).trans gives
          have later := induction fun archive member => same archive (List.mem_cons_of_mem _ member)
          simp [opened_cons_of_ok gives', gives, gives', readable, firstError?, later]
      | error error =>
          rw [opened_cons_of_error gives] at same ⊢
          have gives' := (same first List.mem_cons_self).trans gives
          simp [opened_cons_of_error gives', gives, gives', readable, firstError?]

end WrapperStream

theorem allOrFirstError_map (change : α → β) (items : List (Except ε α)) :
    allOrFirstError (items.map (Except.map change)) =
      (allOrFirstError items).map (List.map change) := by
  induction items with
  | nil => rfl
  | cons item others induction =>
      cases item with
      | error error => rfl
      | ok value =>
          change Except.map (change value :: ·) (allOrFirstError (others.map _)) = _
          rw [induction, allOrFirstError]
          cases allOrFirstError others <;> rfl

theorem allOrFirstError_append (values : List α) (items : List (Except ε α)) :
    allOrFirstError (values.map .ok ++ items) = (allOrFirstError items).map (values ++ ·) := by
  induction values with
  | nil =>
      change allOrFirstError items = _
      cases allOrFirstError items <;> rfl
  | cons value values induction =>
      change Except.map (value :: ·) (allOrFirstError (values.map .ok ++ items)) = _
      rw [induction]
      cases allOrFirstError items <;> rfl

theorem allOrFirstError_itemsOf (outcomes : List (Except Error (List Wrapper))) :
    allOrFirstError (WrapperStream.itemsOf outcomes) =
      match WrapperStream.firstError? outcomes with
      | none => .ok (WrapperStream.readable outcomes).flatten
      | some error => .error error := by
  rw [WrapperStream.itemsOf, allOrFirstError_append]
  cases WrapperStream.firstError? outcomes with
  | none => simp [allOrFirstError, Except.map]
  | some error => rfl

namespace Generation

open WrapperStream (readable firstError? itemsOf itemsOf_ok opened opened_cons_of_ok
  opened_cons_of_error)

/-- What scanning an archive gives, by what reading the file gives. -/
def scanOf (rules : Config.Scan) : Except IoError (List UInt8) → Except Error (List Wrapper)
  | .ok file => recordsOfArchive rules file >>= wrappersOfRecords rules
  | .error (.os .isDirectory) => .error (.archive "the path is a directory")
  | .error cause => .error (.io cause)

theorem content_of_scanOf_ok {rules : Config.Scan} {read : Except IoError (List UInt8)}
    {wrappers : List Wrapper} (gives : scanOf rules read = .ok wrappers) :
    ∃ content, read = .ok content := by
  cases read with
  | ok content => exact ⟨content, rfl⟩
  | error cause =>
      rw [scanOf.eq_def] at gives
      split at gives
      case h_1 same => cases same
      case h_2 => cases gives
      case h_3 => cases gives

/-- What scanning an archive gives on a host. -/
def outcome (rules : Config.Scan) (world : World) (archive : String) :
    Except Error (List Wrapper) :=
  scanOf rules (world.fileContent archive)

/-- What archives give on a host, up to the first one that fails, ... -/
def foundOf (rules : Config.Scan) (world : World) (archives : List String) : List Wrapper :=
  (readable (archives.map (outcome rules world))).flatten

/-- ... and how that one fails. -/
def failureOf (rules : Config.Scan) (world : World) (archives : List String) : Option Error :=
  firstError? (archives.map (outcome rules world))

section Cons

variable {rules : Config.Scan} {world : World} {archive : String} {wrappers : List Wrapper}
  {error : Error} (archives : List String)

theorem foundOf_cons_of_ok (gives : outcome rules world archive = .ok wrappers) :
    foundOf rules world (archive :: archives) = wrappers ++ foundOf rules world archives := by
  rw [foundOf, List.map_cons, gives, readable, List.flatten_cons, foundOf]

theorem failureOf_cons_of_ok (gives : outcome rules world archive = .ok wrappers) :
    failureOf rules world (archive :: archives) = failureOf rules world archives := by
  rw [failureOf, List.map_cons, gives, firstError?, failureOf]

theorem foundOf_cons_of_error (fails : outcome rules world archive = .error error) :
    foundOf rules world (archive :: archives) = [] := by
  rw [foundOf, List.map_cons, fails]
  rfl

theorem failureOf_cons_of_error (fails : outcome rules world archive = .error error) :
    failureOf rules world (archive :: archives) = some error := by
  rw [failureOf, List.map_cons, fails, firstError?]

end Cons

theorem run_scanArchive (rules : Config.Scan) (archive : String) (state : Observed) :
    (scanArchive rules archive : StateM Observed _).run state =
      (outcome rules state.world archive,
        { state with opened := state.opened ++ [archive] }) := by
  change (wrappersOfArchive rules archive).on state = _
  rw [wrappersOfArchive, Program.on_bind, selectClasses, Program.on_bind, Program.on_lift,
    Observed.run_fileContent, Program.next_ok, outcome]
  cases state.world.fileContent archive with
  | ok file =>
      dsimp only
      rw [Program.on_except, scanOf]
      cases recordsOfArchive rules file with
      | error error => rfl
      | ok records => exact Program.on_except _ _
  | error cause =>
      rw [scanOf.eq_def]
      match cause with
      | .os .isDirectory => rfl
      | .os .notFound | .os .exists | .os .notDirectory | .os .nameTooLong => rfl
      | .os (.other number description) => rfl
      | .other description => rfl

theorem run_items (rules : Config.Scan) (archives : List String) (state : Observed) :
    (WrapperStream.items (scanArchive rules) archives : StateM Observed _).run state =
      (itemsOf (archives.map (outcome rules state.world)),
        { state with opened := state.opened ++ opened (outcome rules state.world) archives }) := by
  induction archives generalizing state with
  | nil =>
      rw [opened, List.append_nil]
      rfl
  | cons archive others induction =>
      rw [WrapperStream.items, StateT.run_bind, run_scanArchive]
      change StateT.run (match outcome rules state.world archive with
        | .ok wrappers => _
        | .error error => _) _ = _
      cases gives : outcome rules state.world archive with
      | error error =>
          rw [opened_cons_of_error gives, List.map_cons, gives]
          rfl
      | ok wrappers =>
          dsimp only
          rw [StateT.run_bind, induction, opened_cons_of_ok gives, List.map_cons, gives,
            itemsOf_ok, List.append_cons _ _ (opened _ others)]
          rfl

/-- The archives of a configuration change nothing on the host when they are found. -/
theorem jarPaths_on (config : Config) (state : Observed) :
    (config.jarPaths : Program (StateM Observed) _).on state =
      (((config.jarPaths : Program (StateM Observed) _).on state).1, state) :=
  Prod.ext rfl (Observed.leads_jarPaths config state).symm

theorem wrappers_on_of_ok {config : Config} {state : Observed} {jars : List String}
    (found : ((config.jarPaths : Program (StateM Observed) _).on state).1 = .ok jars) :
    let archives := config.scanned jars
    let scan := outcome config.scan state.world
    (wrappers config : Program (StateM Observed) _).on state =
      (match failureOf config.scan state.world archives with
        | none => .ok (foundOf config.scan state.world archives)
        | some error => .error error,
        { state with opened := state.opened ++ opened scan archives }) := by
  rw [wrappers, Program.on_bind, jarPaths_on, found, Program.next_ok, Program.on_bind,
    Program.on_lift, items, run_items, Program.next_ok, Program.on_except,
    allOrFirstError_itemsOf]
  rfl

theorem wrappers_on_of_error {config : Config} {state : Observed} {error : Error}
    (failed : ((config.jarPaths : Program (StateM Observed) _).on state).1 = .error error) :
    (wrappers config : Program (StateM Observed) _).on state = (.error error, state) := by
  rw [wrappers, Program.on_bind, jarPaths_on, failed, Program.next_error]

theorem run_declarationItems (rules : Config.Scan) (paths : List String) (state : Observed) :
    let archives := Path.withNameBeginning rules.jarPrefix paths
    (declarationItems rules paths : StateM Observed _).run state =
      ((itemsOf (archives.map (outcome rules state.world))).map (Except.map Wrapper.render),
        { state with opened := state.opened ++ opened (outcome rules state.world) archives }) := by
  rw [declarationItems, StateT.run_bind, items, run_items]
  rfl

/-- The declarations are the wrappers rendered, also where the same error ends both. -/
theorem declarations_on (config : Config) (state : Observed) :
    let found := (wrappers config : Program (StateM Observed) _).on state
    (declarations config : Program (StateM Observed) _).on state =
      (found.1.map (List.map Wrapper.render), found.2) := by
  intro found
  cases jars : ((config.jarPaths : Program (StateM Observed) _).on state).1 with
  | error error =>
      rw [declarations, Program.on_bind, jarPaths_on, jars, Program.next_error]
      rw [show found = _ from wrappers_on_of_error jars]
      rfl
  | ok paths =>
      rw [declarations, Program.on_bind, jarPaths_on, jars, Program.next_ok, Program.on_bind,
        Program.on_lift, run_declarationItems, Program.next_ok, Program.on_except,
        allOrFirstError_map, allOrFirstError_itemsOf]
      rw [show found = _ from wrappers_on_of_ok jars]
      rfl

/-! An archive with one class. -/

def sampleArchive : List UInt8 :=
  let name := Utf8.encodeString "org/gradle/Finder.class"
  let checksumAndSizes := [0x7A, 0x19, 0x0F, 0xFF, 232, 0, 0, 0, 232, 0, 0, 0, 23, 0, 0, 0]
  Zip.localSignature ++ [10, 0] ++ List.replicate 8 0 ++ checksumAndSizes ++ name ++
    Wrapper.sampleRaw.bytes ++
    Zip.directorySignature ++ [10, 0, 10, 0] ++ List.replicate 8 0 ++ checksumAndSizes ++
      List.replicate 14 0 ++ name ++
    Zip.endSignature ++ [0, 0, 0, 0, 1, 0, 1, 0, 69, 0, 0, 0, 29, 1, 0, 0, 0, 0]

def sampleWrapper : Wrapper := ⟨"T", [], "a.Finder", "find", "T", []⟩

deriving instance DecidableEq for Zip.Entry

theorem open?_sampleArchive :
    Zip.open? sampleArchive = some [⟨"org/gradle/Finder.class", false, .stored, 0xFF0F197A,
      some Wrapper.sampleRaw.bytes⟩] := by
  decide +kernel

/-- Checksums are taken in parts, each of which is small enough to be computed at once. -/
theorem foldl_drop_eq {bytes : List UInt8} {before after : UInt32} (start count : Nat)
    (part : ((bytes.drop start).take count).foldl Crc32.byteStep before = after) :
    (bytes.drop start).foldl Crc32.byteStep before =
      (bytes.drop (start + count)).foldl Crc32.byteStep after := by
  rw [← part, ← List.drop_drop, ← List.foldl_append, List.take_append_drop]

theorem checksum_eq {bytes : List UInt8} {remainder : UInt32}
    (whole : (bytes.drop 0).foldl Crc32.byteStep 0xFFFFFFFF = remainder) :
    Crc32.checksum bytes = remainder ^^^ 0xFFFFFFFF := by
  rw [Crc32.checksum, ← whole, List.drop_zero]

theorem checksum_sampleRaw : Crc32.checksum Wrapper.sampleRaw.bytes = 0xFF0F197A := by
  let bytes := Wrapper.sampleRaw.bytes
  have remainder : (bytes.drop 0).foldl Crc32.byteStep 0xFFFFFFFF = 0x00F0E685 :=
    calc (bytes.drop 0).foldl Crc32.byteStep 0xFFFFFFFF
      _ = (bytes.drop 60).foldl Crc32.byteStep 2296809623 := foldl_drop_eq 0 60 (by decide +kernel)
      _ = (bytes.drop 120).foldl Crc32.byteStep 3832823544 :=
        foldl_drop_eq 60 60 (by decide +kernel)
      _ = (bytes.drop 180).foldl Crc32.byteStep 1047590477 :=
        foldl_drop_eq 120 60 (by decide +kernel)
      _ = 0x00F0E685 := by decide +kernel
  exact (checksum_eq remainder).trans (by decide)

theorem scanOf_of_only {rules : Config.Scan} {file content : List UInt8} {name : String}
    {checksum : UInt32} {wrappers : List Wrapper}
    (opened : Zip.open? file = some [⟨name, false, .stored, checksum, some content⟩])
    (candidate : isCandidate rules name = true) (fits : Crc32.checksum content = checksum)
    (selected : Wrapper.ofRecord rules ⟨name, content⟩ = .ok wrappers) :
    scanOf rules (.ok file) = .ok wrappers := by
  have record : recordOfEntry rules ⟨name, false, .stored, checksum, some content⟩ =
      .ok (some ⟨name, content⟩) := by
    simp [recordOfEntry, Zip.Entry.readable?, Zip.Entry.content?, candidate, fits]
  have records : recordsOfArchive rules file = .ok [⟨name, content⟩] := by
    rw [recordsOfArchive, opened]
    change recordsOfEntries rules [_] = _
    rw [recordsOfEntries, List.mapM_cons, record]
    rfl
  rw [scanOf, records]
  change wrappersOfRecords rules [⟨name, content⟩] = _
  rw [wrappersOfRecords, List.mapM_cons, selected]
  change Except.ok [wrappers].flatten = _
  rw [List.flatten_singleton]

theorem ofClass_sampleCompiled : Wrapper.ofClass {} Wrapper.sampleCompiled = [sampleWrapper] := by
  cbv

theorem ofRecord_sampleEntry :
    Wrapper.ofRecord {} ⟨"org/gradle/Finder.class", Wrapper.sampleRaw.bytes⟩ =
      .ok [sampleWrapper] := by
  rw [Wrapper.ofRecord, Wrapper.ofBytes_sampleRaw]
  exact congrArg Except.ok ofClass_sampleCompiled

theorem scanOf_sampleArchive : scanOf {} (.ok sampleArchive) = .ok [sampleWrapper] :=
  scanOf_of_only open?_sampleArchive (by decide +kernel) checksum_sampleRaw ofRecord_sampleEntry

end Generation

end TypeTokenWrappers
