import TypeTokenWrappers.Proofs.Generation.Scan

/-! # What generating leaves in the file

The file is written through a buffer, while archives are read that lead elsewhere. All
that was written so far is in the file or held back (`Draft.Holds`), and this is kept by
each archive. -/

namespace TypeTokenWrappers.Generation

open WrapperStream (readable opened opened_cons_of_ok opened_cons_of_error)

variable {world : World} {state : Observed} {path : String} {place : List String}
  {draft : Draft} {count : Nat} {content : List UInt8}

/-- A draft of the file at a place, `world` being the host when the file was made. What was
passed on stands in the file, in front of what is held back, and the declarations are counted. -/
structure Draft.Holds (world : World) (place : List String) (state : Observed) (draft : Draft)
    (count : Nat) (content : List UInt8) : Prop where
  declarations : draft.declarations = count
  written : ∃ passed, world.Writes state.world place passed ∧ passed ++ draft.held = content

theorem Draft.Holds.extend (holds : draft.Holds world place state count content)
    (writable : world.Writable path place) (more : Nat) (pieces : List (List UInt8)) :
    ∃ extended after, (draft.extend path more pieces).on state = (.ok extended, after) ∧
      after.opened = state.opened ∧
      extended.Holds world place after (count + more) (content ++ pieces.flatten) := by
  rcases holds with ⟨declarations, passed, writes, whole⟩
  rcases Observed.appendFile_of_writable writable writes
    ((Buffer.holding draft.held).writeAll pieces).passed with ⟨after, ran, opened, writes⟩
  rw [Draft.extend, Program.on_bind, Program.on_require, ran]
  have contents := Buffer.contents_writeAll (Buffer.holding draft.held) pieces
  rw [Buffer.contents, Buffer.contents_holding] at contents
  refine ⟨_, _, rfl, opened, congrArg (· + more) declarations, _, writes, ?_⟩
  rw [List.append_assoc, contents, ← List.append_assoc, whole]

/-- The blocks of the wrappers, one after the other. -/
def blocksOf (wrappers : List Wrapper) : List UInt8 :=
  wrappers.flatMap fun wrapper => SourceFile.block wrapper.render

theorem flatten_pieces (wrappers : List Wrapper) :
    (wrappers.flatMap fun wrapper => SourceFile.pieces wrapper.render).flatten =
      blocksOf wrappers := by
  rw [blocksOf, List.flatMap_def, List.flatMap_def, List.flatten_flatten, List.map_map]
  rfl

/-- An archive that is another file is read as it was when the file was made. -/
theorem Draft.Holds.outcome_eq {rules : Config.Scan} {archive : String}
    (holds : draft.Holds world place state count content) (writable : world.Writable path place)
    (apart : world.locate archive ≠ .ok place) :
    outcome rules state.world archive = outcome rules world archive := by
  rcases holds.written with ⟨passed, writes, _⟩
  rcases writable.stands with ⟨old, stands⟩
  rw [outcome, outcome, writes.fileContent_eq stands apart]

theorem Draft.Holds.writeArchives {archives : List String}
    (holds : draft.Holds world place state count content) (rules : Config.Scan)
    (writable : world.Writable path place)
    (apart : ∀ archive ∈ archives, world.locate archive ≠ .ok place) :
    let found := foundOf rules world archives
    ∃ last after,
      (Generation.writeArchives path rules draft archives).on state =
        (.ok (last, failureOf rules world archives), after) ∧
      after.opened = state.opened ++ opened (outcome rules world) archives ∧
      last.Holds world place after (count + found.length) (content ++ blocksOf found) := by
  induction archives generalizing draft state count content with
  | nil => exact ⟨draft, state, rfl, by simp [opened], by simpa [foundOf, readable, blocksOf]⟩
  | cons archive others induction =>
      have apart' : ∀ archive ∈ others, world.locate archive ≠ .ok place :=
        fun archive member => apart archive (List.mem_cons_of_mem _ member)
      have scanned := run_scanArchive rules archive state
      rw [holds.outcome_eq writable (apart archive List.mem_cons_self)] at scanned
      have began : draft.Holds world place
        { state with opened := state.opened ++ [archive] } count content := ⟨holds.1, holds.2⟩
      dsimp only
      rw [Generation.writeArchives, Program.on_bind, Program.on_exceptLift, scanned,
        Program.next_ok]
      cases gives : outcome rules world archive with
      | error error =>
          rw [opened_cons_of_error gives, failureOf_cons_of_error _ gives,
            foundOf_cons_of_error _ gives]
          exact ⟨draft, _, rfl, rfl, by simpa [blocksOf] using began⟩
      | ok wrappers =>
          rcases began.extend writable wrappers.length
            (wrappers.flatMap fun wrapper => SourceFile.pieces wrapper.render) with
            ⟨extended, middle, ran, kept, holds⟩
          rw [flatten_pieces] at holds
          rcases induction holds apart' with ⟨last, after, rest, opened, holds⟩
          rw [opened_cons_of_ok gives, failureOf_cons_of_ok _ gives, foundOf_cons_of_ok _ gives]
          refine ⟨last, after, ?_, ?_, ?_⟩
          · dsimp only
            rw [Program.on_bind, ran]
            exact rest
          · simp [opened, kept]
          · simpa [blocksOf, Nat.add_assoc] using holds

/-- The size that the host tells of the file is that of all that was written. -/
theorem Draft.Holds.finish (holds : draft.Holds world place state count content)
    (writable : world.Writable path place) (failure : Option Error) :
    ∃ after,
      (draft.finish path failure).on state =
        (match failure with
          | none => .ok ⟨count, content.length⟩
          | some error => .error error, after) ∧
      after.opened = state.opened ∧ world.Writes after.world place content := by
  rcases holds with ⟨declarations, passed, writes, whole⟩
  rcases Observed.appendFile_of_writable writable writes draft.held with
    ⟨after, flushed, opened, writes⟩
  rw [whole] at writes
  refine ⟨after, ?_, opened, writes⟩
  cases failure with
  | none =>
      have read := writes.fileContent_of_locate (writable.locate_of_writes writes)
      have size := World.fileSize_of_fileContent read
      rw [Draft.finish, Program.on_bind, Program.on_require, flushed]
      change Program.on (Program.require (Host.fileSize path) >>= _) after = _
      rw [Program.on_bind, Program.on_require, Observed.run_fileSize, size, declarations]
      rfl
  | some error =>
      rw [Draft.finish, Program.on_bind, Program.on_lift, flushed]
      rfl

/-- A file that was finished was written to, and was then asked for its size. -/
theorem changed_of_finish {failure : Option Error} {summary : Summary} {after : Observed}
    (ran : (draft.finish path failure).on state = (.ok summary, after)) :
    failure = none ∧
      (state.changed (state.world.changeFile path (· ++ draft.held))).2 = after ∧
      after.world.fileSize path = .ok summary.bytesWritten := by
  cases failure with
  | some error => cases ran
  | none =>
      rcases Program.exists_of_on_bind ran with ⟨_, middle, appended, ran⟩
      rcases Program.exists_of_on_bind ran with ⟨size, last, asked, ended⟩
      cases ended
      rw [Program.on_require, Observed.run_appendFile] at appended
      rw [Program.on_require, Observed.run_fileSize] at asked
      rcases found : middle.world.fileSize path with cause | count <;> rw [found] at asked
      · cases asked
      · cases asked
        exact ⟨rfl, (Prod.mk.inj appended).2, found⟩

/-! ## The whole file -/

/-- Makes the output file, and the directories above it if they are missing. -/
def prepare (path : String) : Program (StateM Observed) Unit := do
  makeParent path
  Program.require (Host.createFile path)

/-- What is written into the file when it is there. -/
def writeMade (path : String) (paths : List String) (rules : Config.Scan) (package : String) :
    Program (StateM Observed) Summary := do
  let header := Utf8.encodeString (SourceFile.header package)
  let begun ← Draft.extend ⟨0, []⟩ path 0 [header]
  let (draft, failure) ←
    writeArchives path rules begun (Path.withNameBeginning rules.jarPrefix paths)
  draft.finish path failure

theorem writeFile_eq (path : String) (paths : List String) (rules : Config.Scan)
    (package : String) :
    writeFile path paths rules package =
      prepare path >>= fun _ => writeMade path paths rules package := by
  rw [prepare, bind_assoc]
  rfl

theorem leads_makeParent (path : String) :
    Program.Leads Observed.Grows (makeParent path : Program (StateM Observed) Unit) := by
  rw [makeParent]
  split
  · split
    · exact Program.leads_pure _
    · exact Observed.leads_makeDirectories _
  · exact Program.leads_pure _

/-- The output file was made and is empty, and the other files can still be read. -/
structure Prepared (start made : Observed) (path : String) (place : List String) : Prop where
  opened : made.opened = start.opened
  environment : made.world.environment = start.world.environment
  writable : made.world.Writable path place
  empty : made.world.root.surface? place = some (some [])
  others : ∀ other content, start.world.fileContent other = .ok content →
    made.world.locate other ≠ .ok place → made.world.fileContent other = .ok content

/-- Paths that do not lead to the output file lead elsewhere. -/
theorem Prepared.elsewhere {start made : Observed} {archives : List String}
    (prepared : Prepared start made path place)
    (apart : ∀ archive ∈ archives, ¬ made.world.SameFile archive path) :
    ∀ archive ∈ archives, made.world.locate archive ≠ .ok place :=
  fun archive member leads => apart archive member ⟨place, leads, prepared.writable.locate⟩

theorem prepared_of_prepare {start made : Observed}
    (ran : (prepare path).on start = (.ok (), made)) : ∃ place, Prepared start made path place := by
  rw [prepare, Program.on_bind] at ran
  have grown := leads_makeParent path start
  rcases parent : (makeParent path).on start with ⟨error | _, middle⟩
  · rw [parent] at ran
    cases ran
  · rw [parent] at grown
    rw [parent, Program.next_ok, Program.on_require, Observed.run_createFile] at ran
    cases created : middle.world.changeFile path fun _ => [] with
    | error cause =>
        rw [created] at ran
        cases ran
    | ok last =>
        rw [created] at ran
        cases ran
        rcases World.names_of_changeFile created with ⟨directory, last, old, names, stood, writes⟩
        refine ⟨_, grown.opened, ?_, writes.writable names stood, writes.seen_self, ?_⟩
        · exact writes.environment.trans grown.world.environment
        · intro other content read apart
          exact writes.fileContent_of_ok stood (grown.world.fileContent read) apart

theorem writeMade_on {made : Observed} {rules : Config.Scan} {paths : List String}
    (package : String) (writable : made.world.Writable path place)
    (empty : made.world.root.surface? place = some (some []))
    (apart : ∀ archive ∈ Path.withNameBeginning rules.jarPrefix paths,
      made.world.locate archive ≠ .ok place) :
    let archives := Path.withNameBeginning rules.jarPrefix paths
    let found := foundOf rules made.world archives
    let content := Utf8.encodeString (SourceFile.header package) ++ blocksOf found
    ∃ after,
      (writeMade path paths rules package).on made =
        (match failureOf rules made.world archives with
          | none => .ok ⟨found.length, content.length⟩
          | some error => .error error, after) ∧
      after.opened = made.opened ++ opened (outcome rules made.world) archives ∧
      made.world.Writes after.world place content := by
  intro archives found content
  have holds : Draft.Holds made.world place made ⟨0, []⟩ 0 [] :=
    ⟨rfl, [], World.writes_self empty, rfl⟩
  rcases holds.extend writable 0 [Utf8.encodeString (SourceFile.header package)] with
    ⟨begun, first, wrote, kept, headed⟩
  rw [List.flatten_singleton, List.nil_append, Nat.add_zero] at headed
  rcases headed.writeArchives rules writable apart with ⟨last, second, rest, opened, holds⟩
  rw [Nat.zero_add] at holds
  rcases holds.finish writable (failureOf rules made.world archives) with
    ⟨after, ended, keptLast, writes⟩
  refine ⟨after, ?_, ?_, writes⟩
  · rw [writeMade, Program.on_bind, wrote, Program.next_ok, Program.on_bind, rest, Program.next_ok]
    exact ended
  · rw [keptLast, opened, kept]

/-! ## The log -/

/-- Where a line about the run is added, if the variable for it is set. -/
def logPath? (world : World) : Option String :=
  (Environment.ofList world.environment "REIFIER_LOG_DIR").map
    (· ++ "/reifier/logs" ++ "/generation.log")

theorem run_log_of_set {base : String} (line : String)
    (set : Environment.ofList state.world.environment "REIFIER_LOG_DIR" = some base) :
    let directory := base ++ "/reifier/logs"
    let middle := ((Program.makeDirectories directory).on state).2
    (log line : StateM Observed Unit).run state =
      ((), (middle.changed (middle.world.changeFile (directory ++ "/generation.log")
        (· ++ Utf8.encodeString line))).2) := by
  dsimp only
  rw [log, StateT.run_bind, Observed.run_environmentValue, set, ← Observed.run_appendFile]
  rfl

/-- Directories may be made for the log, and then the log may be written. -/
theorem run_log (line : String) (state : Observed) :
    ∃ middle after, (log line : StateM Observed Unit).run state = ((), after) ∧
      state.Grows middle ∧
      (after = middle ∨ ∃ path place content, logPath? state.world = some path ∧
        after.opened = middle.opened ∧ after.world.locate path = .ok place ∧
        middle.world.root.surface? place ≠ some none ∧
        middle.world.Writes after.world place content) := by
  cases set : Environment.ofList state.world.environment "REIFIER_LOG_DIR" with
  | none =>
      refine ⟨state, state, ?_, Std.Refl.refl state, .inl rfl⟩
      rw [log, StateT.run_bind, Observed.run_environmentValue, set]
      rfl
  | some base =>
      have named : logPath? state.world = some (base ++ "/reifier/logs" ++ "/generation.log") := by
        rw [logPath?, set]
        rfl
      have grows := Observed.leads_makeDirectories (base ++ "/reifier/logs") state
      rw [run_log_of_set line set]
      refine ⟨_, _, rfl, grows, ?_⟩
      generalize ((Program.makeDirectories (base ++ "/reifier/logs")).on state).2 = middle
      cases written : middle.world.changeFile (base ++ "/reifier/logs" ++ "/generation.log")
        (· ++ Utf8.encodeString line) with
      | error cause => exact .inl rfl
      | ok last =>
          rcases World.names_of_changeFile written with ⟨directory, name, old, names, stood, writes⟩
          have later := names.of_kindsKept writes.directory (writes.kindsKept stood)
          exact .inr ⟨_, _, _, named, rfl, later.locate, stood, writes⟩

/-- A file other than the log holds what it held. -/
theorem fileContent_after_log (line : String) (read : state.world.fileContent path = .ok content) :
    let left := ((log line : StateM Observed Unit).run state).2
    left.opened = state.opened ∧
      ((∀ other, logPath? state.world = some other → ¬ left.world.SameFile other path) →
        left.world.fileContent path = .ok content) := by
  rcases run_log line state with ⟨middle, after, ran, grows, logged⟩
  rw [ran]
  have kept := grows.world.fileContent read
  rcases logged with rfl | ⟨other, place, line, named, opened, leads, stood, writes⟩
  · exact ⟨grows.opened, fun _ => kept⟩
  · refine ⟨opened.trans grows.opened, fun apart => writes.fileContent_of_ok stood kept ?_⟩
    intro same
    exact apart other named ⟨place, leads, same⟩

end TypeTokenWrappers.Generation
