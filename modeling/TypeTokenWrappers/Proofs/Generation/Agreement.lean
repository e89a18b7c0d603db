import TypeTokenWrappers.CommandLine.Commands
import TypeTokenWrappers.Proofs.Generation.Written
import TypeTokenWrappers.Proofs.Text.Utf8
import TypeTokenWrappers.Proofs.Wrapper.Selection

/-! # Generating and listing

The wrappers, the declarations that are listed and the generated file come from one scan:
they hold the same, in the same order, and end with the same error. Two things only can
come between them: the directories that are made for the file, if they bar or open the way
to an archive, and the log, if it is written into the file. -/

namespace TypeTokenWrappers.Generation

open WrapperStream (opened gives_of_mem_opened itemsOf_congr)

variable {config : Config} {start made : Observed} {place : List String}

/-- Whether an archive, if it could not be read, still cannot be read for the same reason. -/
def StillFails (start made : Observed) (archive? : Option String) : Prop :=
  ∀ archive cause, archive? = some archive → start.world.fileContent archive = .error cause →
    made.world.fileContent archive = .error cause

/-- Archives that are other files give after the file was made what they gave before. -/
theorem scan_of_prepared {rules : Config.Scan} {archives : List String} {path : String}
    (prepared : Prepared start made path place)
    (apart : ∀ archive ∈ archives, made.world.locate archive ≠ .ok place)
    (stays : ∀ error, failureOf rules start.world archives = some error →
      StillFails start made (opened (outcome rules start.world) archives).getLast?) :
    opened (outcome rules made.world) archives = opened (outcome rules start.world) archives ∧
      foundOf rules made.world archives = foundOf rules start.world archives ∧
      failureOf rules made.world archives = failureOf rules start.world archives := by
  have same : ∀ archive ∈ opened (outcome rules start.world) archives,
      outcome rules made.world archive = outcome rules start.world archive := by
    intro archive member
    have apart := apart archive (WrapperStream.opened_subset _ _ archive member)
    rw [outcome, outcome]
    cases read : start.world.fileContent archive with
    | ok content => rw [prepared.others archive content read apart]
    | error cause =>
        rcases gives_of_mem_opened member with ⟨wrappers, gives⟩ | ⟨last, error, failed⟩
        · rcases content_of_scanOf_ok gives with ⟨content, found⟩
          rw [read] at found
          cases found
        · rw [stays error failed archive cause last read]
  rcases itemsOf_congr same with ⟨opened, readable, failure⟩
  exact ⟨opened, congrArg List.flatten readable, failure⟩

theorem content_eq (header : String) (wrappers : List Wrapper) :
    Utf8.encodeString header ++ blocksOf wrappers =
      SourceFile.content header (wrappers.map Wrapper.render) := by
  rw [SourceFile.content, blocksOf, List.flatMap_map]

theorem block_eq (declaration : String) :
    SourceFile.block declaration = Utf8.encodeString ("\n" ++ declaration ++ "\n") := by
  simp [SourceFile.block, SourceFile.pieces, Utf8.encodeString_append]

/-- The file as one text: the header, and each declaration between newlines. -/
theorem content_eq_encodeString (header : String) (declarations : List String) :
    SourceFile.content header declarations = Utf8.encodeString (header ++
      String.join (declarations.map fun declaration => "\n" ++ declaration ++ "\n")) := by
  rw [SourceFile.content, Utf8.encodeString_append]
  congr 1
  induction declarations with
  | nil => rfl
  | cons declaration others induction =>
      rw [List.flatMap_cons, block_eq, induction, List.map_cons, String.join_cons,
        ← Utf8.encodeString_append]

/-- The blocks of the file, read as one text. -/
theorem flatMap_block {declarations : List String} (filled : declarations ≠ []) :
    declarations.flatMap SourceFile.block =
      Utf8.encodeString ("\n" ++ ("\n\n".intercalate declarations ++ "\n")) := by
  induction declarations with
  | nil => exact absurd rfl filled
  | cons declaration others induction =>
      rw [List.flatMap_cons, block_eq]
      cases others with
      | nil => simp [String.append_assoc]
      | cons next others =>
          have newlines : "\n\n" = "\n" ++ "\n" := rfl
          rw [induction (by simp), ← Utf8.encodeString_append, String.intercalate_cons_cons]
          generalize "\n\n".intercalate (next :: others) = rest
          rw [newlines]
          simp only [String.append_assoc]

/-- The file is written with what the archives give when it was made. -/
theorem writeFile_on_of_made {rules : Config.Scan} {path : String} {paths : List String}
    (package : String) (ran : (prepare path).on start = (.ok (), made))
    (prepared : Prepared start made path place)
    (apart : ∀ archive ∈ Path.withNameBeginning rules.jarPrefix paths,
      made.world.locate archive ≠ .ok place) :
    let archives := Path.withNameBeginning rules.jarPrefix paths
    let found := foundOf rules made.world archives
    let content := SourceFile.content (SourceFile.header package) (found.map Wrapper.render)
    ∃ after,
      (writeFile path paths rules package).on start =
        (match failureOf rules made.world archives with
          | none => .ok ⟨found.length, content.length⟩
          | some error => .error error, after) ∧
      after.opened = start.opened ++ opened (outcome rules made.world) archives ∧
      made.world.Writes after.world place content := by
  intro archives found content
  rcases writeMade_on package prepared.writable prepared.empty apart with
    ⟨after, wrote, opened, writes⟩
  rw [content_eq] at wrote writes
  refine ⟨after, ?_, ?_, writes⟩
  · rw [writeFile_eq, Program.on_bind, ran, Program.next_ok]
    exact wrote
  · rw [opened, prepared.opened]

/-- The file is written with what the archives gave before it was made. -/
theorem writeFile_on {rules : Config.Scan} {path : String} {paths : List String}
    (package : String) (ran : (prepare path).on start = (.ok (), made))
    (apart : ∀ archive ∈ Path.withNameBeginning rules.jarPrefix paths,
      ¬ made.world.SameFile archive path)
    (stays : ∀ error,
      failureOf rules start.world (Path.withNameBeginning rules.jarPrefix paths) = some error →
      StillFails start made (opened (outcome rules start.world)
        (Path.withNameBeginning rules.jarPrefix paths)).getLast?) :
    let archives := Path.withNameBeginning rules.jarPrefix paths
    let found := foundOf rules start.world archives
    let content := SourceFile.content (SourceFile.header package) (found.map Wrapper.render)
    ∃ after,
      (writeFile path paths rules package).on start =
        (match failureOf rules start.world archives with
          | none => .ok ⟨found.length, content.length⟩
          | some error => .error error, after) ∧
      after.opened = start.opened ++ opened (outcome rules start.world) archives ∧
      after.world.environment = start.world.environment ∧
      after.world.fileContent path = .ok content := by
  intro archives found content
  rcases prepared_of_prepare ran with ⟨place, prepared⟩
  have elsewhere := prepared.elsewhere apart
  rcases scan_of_prepared prepared elsewhere stays with ⟨sameOpened, sameFound, sameFailure⟩
  rcases writeFile_on_of_made package ran prepared elsewhere with ⟨after, wrote, opened, writes⟩
  rw [sameFound] at wrote writes
  rw [sameFailure] at wrote
  refine ⟨after, wrote, ?_, ?_, ?_⟩
  · rw [opened, sameOpened]
  · rw [writes.environment, prepared.environment]
  · exact writes.fileContent_of_locate (prepared.writable.locate_of_writes writes)

/-! ## Agreement -/

theorem generate_on_of_error {error : Error}
    (failed : ((config.jarPaths : Program (StateM Observed) _).on start).1 = .error error) :
    (generate config : Program (StateM Observed) _).on start = (.error error, start) := by
  rw [generate, Program.on_bind, jarPaths_on, failed, Program.next_error]

/-- What is reported of the file that was written. -/
def reportOf (config : Config) (jars : List String) (summary : Summary) : Report where
  path := config.output.path
  bytesWritten := summary.bytesWritten
  archivesConsidered := jars.length
  archivesScanned := (config.scanned jars).length
  declarations := summary.declarations

@[simp] theorem bytesWritten_reportOf (config : Config) (jars : List String) (count size : Nat) :
    (reportOf config jars ⟨count, size⟩).bytesWritten = size := rfl

@[simp] theorem declarations_reportOf (config : Config) (jars : List String) (count size : Nat) :
    (reportOf config jars ⟨count, size⟩).declarations = count := rfl

theorem generate_on_of_written {jars : List String} {summary : Summary} {after : Observed}
    (classpath : ((config.jarPaths : Program (StateM Observed) _).on start).1 = .ok jars)
    (wrote : (writeFile config.output.path jars config.scan config.output.package).on start =
      (.ok summary, after)) :
    let report := reportOf config jars summary
    (generate config : Program (StateM Observed) _).on start =
      (.ok report, ((log report.logLine : StateM Observed Unit).run after).2) := by
  rw [generate, Program.on_bind, jarPaths_on, classpath, Program.next_ok, Program.on_bind,
    wrote, Program.next_ok]
  rfl

theorem generate_on_of_unwritten {jars : List String} {error : Error} {after : Observed}
    (classpath : ((config.jarPaths : Program (StateM Observed) _).on start).1 = .ok jars)
    (wrote : (writeFile config.output.path jars config.scan config.output.package).on start =
      (.error error, after)) :
    (generate config : Program (StateM Observed) _).on start = (.error error, after) := by
  rw [generate, Program.on_bind, jarPaths_on, classpath, Program.next_ok, Program.on_bind,
    wrote, Program.next_error]

/-- The report and the file tell of just these wrappers. -/
structure Tells (config : Config) (jars : List String) (found : List Wrapper)
    (start : Observed) (report : Report) (left : Observed) : Prop where
  path : report.path = config.output.path
  declarations : report.declarations = found.length
  bytesWritten : report.bytesWritten = (SourceFile.content
    (SourceFile.header config.output.package) (found.map Wrapper.render)).length
  archivesConsidered : report.archivesConsidered = jars.length
  archivesScanned : ∃ opened, left.opened = start.opened ++ opened ∧
    report.archivesScanned = opened.length
  file : (∀ path, logPath? start.world = some path →
      ¬ left.world.SameFile path config.output.path) →
    left.world.fileContent config.output.path = .ok (SourceFile.content
      (SourceFile.header config.output.package) (found.map Wrapper.render))

theorem generate_on_of_ok {jars : List String} {found : List Wrapper}
    (classpath : ((config.jarPaths : Program (StateM Observed) _).on start).1 = .ok jars)
    (ran : (prepare config.output.path).on start = (.ok (), made))
    (apart : ∀ archive ∈ config.scanned jars, ¬ made.world.SameFile archive config.output.path)
    (listed : ((wrappers config : Program (StateM Observed) _).on start).1 = .ok found) :
    ∃ report left, (generate config : Program (StateM Observed) _).on start = (.ok report, left) ∧
      Tells config jars found start report left := by
  rw [wrappers_on_of_ok classpath] at listed
  cases failure : failureOf config.scan start.world (config.scanned jars) with
  | some error =>
      rw [failure] at listed
      cases listed
  | none =>
      rw [failure] at listed
      have gives : foundOf config.scan start.world (config.scanned jars) = found :=
        Except.ok.inj listed
      rcases writeFile_on config.output.package ran apart
        (fun _ failed => nomatch failure.symm.trans failed) with
        ⟨after, wrote, opened, environment, content⟩
      rw [← Config.scanned, failure, gives] at wrote
      rw [← Config.scanned, WrapperStream.opened_eq_self failure] at opened
      rw [← Config.scanned, gives] at content
      have logs : logPath? after.world = logPath? start.world := by
        rw [logPath?, environment, logPath?]
      let report := reportOf config jars ⟨found.length, (SourceFile.content
        (SourceFile.header config.output.package) (found.map Wrapper.render)).length⟩
      rcases fileContent_after_log report.logLine content with ⟨kept, file⟩
      rw [logs] at file
      have tells : Tells config jars found start report
          ((log report.logLine : StateM Observed Unit).run after).2 :=
        ⟨rfl, declarations_reportOf _ _ _ _, bytesWritten_reportOf _ _ _ _, rfl,
          ⟨_, kept.trans opened, rfl⟩, file⟩
      exact ⟨report, _, generate_on_of_written classpath wrote, tells⟩

theorem generate_on_of_failure {jars : List String} {error : Error}
    (classpath : ((config.jarPaths : Program (StateM Observed) _).on start).1 = .ok jars)
    (ran : (prepare config.output.path).on start = (.ok (), made))
    (apart : ∀ archive ∈ config.scanned jars, ¬ made.world.SameFile archive config.output.path)
    (listed : ((wrappers config : Program (StateM Observed) _).on start).1 = .error error)
    (stays : StillFails start made
      ((wrappers config : Program (StateM Observed) _).on start).2.opened.getLast?) :
    ((generate config : Program (StateM Observed) _).on start).1 = .error error := by
  rw [wrappers_on_of_ok classpath] at listed stays
  cases failure : failureOf config.scan start.world (config.scanned jars) with
  | none =>
      rw [failure] at listed
      cases listed
  | some error =>
      rw [failure] at listed
      cases listed
      have stays' : StillFails start made (opened (outcome config.scan start.world)
          (config.scanned jars)).getLast? := by
        intro archive cause last
        apply stays archive cause
        rw [List.getLast?_append, last]
        rfl
      rcases writeFile_on config.output.package ran apart (fun _ _ => stays') with
        ⟨after, wrote, opened, environment, content⟩
      rw [← Config.scanned, failure] at wrote
      rw [generate_on_of_unwritten classpath wrote]

/-- What is printed are the renderings, separated by empty lines. -/
theorem perform_list {found : List Wrapper} {named : Option String} {quiet : Bool}
    {archives : List String} {before : Observed} {loaded : Config}
    (loads : (CommandLine.loadConfig named : Program (StateM Observed) _).on before =
      (.ok loaded, start))
    (same : CommandLine.withArchives loaded archives = config)
    (listed : ((wrappers config : Program (StateM Observed) _).on start).1 = .ok found) :
    ((CommandLine.perform named quiet (.list archives .pretty) :
      Program (StateM Observed) _).on before).1 =
        .ok ("\n\n".intercalate (found.map Wrapper.render) ++ "\n") := by
  rw [CommandLine.perform, Program.on_bind, loads, Program.next_ok, same, Program.on_bind,
    declarations_on, listed]
  rfl

theorem content_eq_header_append {header : String} {declarations : List String}
    (filled : declarations ≠ []) :
    SourceFile.content header declarations =
      Utf8.encodeString (header ++ "\n" ++ ("\n\n".intercalate declarations ++ "\n")) := by
  rw [SourceFile.content, flatMap_block filled, ← Utf8.encodeString_append, String.append_assoc]

/-- Listing the wrappers, listing the declarations and generating the file agree. An archive
that cannot be opened has to fail in the same way when the file was made, and the log must
not be the file; without `dev-mode` there is no log. -/
theorem generate_agrees (config : Config) (start : Observed) :
    let listed := (wrappers config : Program (StateM Observed) _).on start
    let generated := (generate config : Program (StateM Observed) _).on start
    (declarations config : Program (StateM Observed) _).on start =
        (listed.1.map (List.map Wrapper.render), listed.2) ∧
      (∀ error, ((config.jarPaths : Program (StateM Observed) _).on start).1 = .error error →
        listed.1 = .error error ∧ generated = (.error error, start)) ∧
      (∀ found named quiet archives before loaded,
        (CommandLine.loadConfig named : Program (StateM Observed) _).on before =
          (.ok loaded, start) →
        CommandLine.withArchives loaded archives = config →
        listed.1 = .ok found → found ≠ [] →
        ∃ printed,
          ((CommandLine.perform named quiet (.list archives .pretty) :
            Program (StateM Observed) _).on before).1 = .ok printed ∧
          SourceFile.content (SourceFile.header config.output.package)
              (found.map Wrapper.render) =
            Utf8.encodeString (SourceFile.header config.output.package ++ "\n" ++ printed)) ∧
      ∀ jars made,
        ((config.jarPaths : Program (StateM Observed) _).on start).1 = .ok jars →
        (prepare config.output.path).on start = (.ok (), made) →
        (∀ archive ∈ config.scanned jars,
          ¬ made.world.SameFile archive config.output.path) →
        (∀ found, listed.1 = .ok found →
          ∃ report left, generated = (.ok report, left) ∧
            Tells config jars found start report left) ∧
        ∀ error, listed.1 = .error error →
          StillFails start made listed.2.opened.getLast? → generated.1 = .error error := by
  intro listed generated
  refine ⟨declarations_on config start, ?_, ?_, ?_⟩
  · intro error failed
    exact ⟨congrArg Prod.fst (wrappers_on_of_error failed), generate_on_of_error failed⟩
  · intro found named quiet archives before loaded loads same gives filled
    exact ⟨_, perform_list loads same gives, content_eq_header_append (by simpa using filled)⟩
  · intro jars made classpath ran apart
    constructor
    · intro found gives
      exact generate_on_of_ok classpath ran apart gives
    · intro error fails stays
      exact generate_on_of_failure classpath ran apart fails stays

/-! The archive with one class, in the working directory. -/

def sampleHost : Observed where
  world := ⟨.directory [("gradle-a.jar", .file sampleArchive)], [], []⟩
  opened := []

def sampleConfig (archive : String) : Config :=
  CommandLine.withArchives {} [archive]

/-- The host when no configuration file was found. -/
def sampleStart : Observed :=
  ((CommandLine.loadConfig none : Program (StateM Observed) Config).on sampleHost).2

/-- The host when the output file was made. -/
def sampleMade : Observed :=
  ((prepare (sampleConfig "").output.path).on sampleStart).2

theorem loadConfig_sampleHost :
    (CommandLine.loadConfig none : Program (StateM Observed) _).on sampleHost =
      (.ok {}, sampleStart) := by
  rw [sampleStart]
  exact Program.on_eq (by decide +kernel)

theorem prepare_sampleConfig (archive : String) :
    (prepare (sampleConfig archive).output.path).on sampleStart = (.ok (), sampleMade) := by
  have same : (sampleConfig archive).output.path = (sampleConfig "").output.path := rfl
  rw [sampleMade, same]
  exact Program.on_eq (by decide +kernel)

theorem scanned_sampleConfig (archive : String)
    (named : Path.withNameBeginning "gradle-" [archive] = [archive]) :
    (sampleConfig archive).scanned [archive] = [archive] := named

theorem jarPaths_sampleConfig (archive : String) :
    (((sampleConfig archive).jarPaths : Program (StateM Observed) _).on sampleStart).1 =
      .ok [archive] := rfl

theorem apart_sampleConfig {archive : String}
    (place : sampleMade.world.locate archive = .ok [archive]) :
    ¬ sampleMade.world.SameFile archive (sampleConfig archive).output.path := by
  have output : sampleMade.world.locate (sampleConfig "").output.path =
      .ok ["build", "generated-src", "ReifiedTypeParametersExtensions.kt"] := by
    decide +kernel
  exact World.not_sameFile place output (by simp)

theorem wrappers_on_of_only {archive : String} {jars : List String} {found : List Wrapper}
    (classpath : ((config.jarPaths : Program (StateM Observed) _).on start).1 = .ok jars)
    (scanned : config.scanned jars = [archive])
    (gives : outcome config.scan start.world archive = .ok found) :
    ((wrappers config : Program (StateM Observed) _).on start).1 = .ok found := by
  rw [wrappers_on_of_ok classpath, scanned, failureOf_cons_of_ok _ gives, foundOf_cons_of_ok _ gives]
  exact congrArg Except.ok (List.append_nil found)

theorem wrappers_sampleConfig {archive : String}
    (named : Path.withNameBeginning "gradle-" [archive] = [archive])
    (read : sampleStart.world.fileContent archive = .ok sampleArchive) :
    ((wrappers (sampleConfig archive) : Program (StateM Observed) _).on sampleStart).1 =
      .ok [sampleWrapper] := by
  have gives : outcome {} sampleStart.world archive = .ok [sampleWrapper] := by
    rw [outcome, read, scanOf_sampleArchive]
  exact wrappers_on_of_only (jarPaths_sampleConfig _) (scanned_sampleConfig _ named) gives

theorem wrappers_missing {archive : String}
    (named : Path.withNameBeginning "gradle-" [archive] = [archive])
    (missing : sampleStart.world.fileContent archive = .error (.os .notFound)) :
    (wrappers (sampleConfig archive) : Program (StateM Observed) _).on sampleStart =
      (.error (.io (.os .notFound)),
        { sampleStart with opened := sampleStart.opened ++ [archive] }) := by
  have fails : outcome (sampleConfig archive).scan sampleStart.world archive =
      .error (.io (.os .notFound)) := by
    rw [outcome, missing]
    rfl
  rw [wrappers_on_of_ok (jarPaths_sampleConfig _), scanned_sampleConfig _ named,
    failureOf_cons_of_error _ fails, WrapperStream.opened_cons_of_error fails]

/-- A directory that is named on the classpath, but is not there. -/
def missingDirectory : Config where
  classpath := ⟨[], ["lib"]⟩

theorem generate_agrees_sampleConfig :
    (¬ sampleMade.world.SameFile "gradle-a.jar" (sampleConfig "gradle-a.jar").output.path ∧
      ((wrappers (sampleConfig "gradle-a.jar") : Program (StateM Observed) _).on
        sampleStart).1 = .ok [sampleWrapper] ∧
      (∃ report left,
        (generate (sampleConfig "gradle-a.jar") : Program (StateM Observed) _).on sampleStart =
          (.ok report, left) ∧
        Tells (sampleConfig "gradle-a.jar") ["gradle-a.jar"] [sampleWrapper] sampleStart
          report left) ∧
      ∃ printed,
        ((CommandLine.perform none false (.list ["gradle-a.jar"] .pretty) :
          Program (StateM Observed) _).on sampleHost).1 = .ok printed ∧
        SourceFile.content (SourceFile.header (sampleConfig "gradle-a.jar").output.package)
            [sampleWrapper.render] =
          Utf8.encodeString (SourceFile.header (sampleConfig "gradle-a.jar").output.package ++
            "\n" ++ printed)) ∧
    (¬ sampleMade.world.SameFile "gradle-b.jar" (sampleConfig "gradle-b.jar").output.path ∧
      ((wrappers (sampleConfig "gradle-b.jar") : Program (StateM Observed) _).on
        sampleStart).1 = .error (.io (.os .notFound)) ∧
      sampleMade.world.fileContent "gradle-b.jar" = .error (.os .notFound) ∧
      ((generate (sampleConfig "gradle-b.jar") : Program (StateM Observed) _).on
        sampleStart).1 = .error (.io (.os .notFound))) ∧
    ((missingDirectory.jarPaths : Program (StateM Observed) _).on sampleStart).1 =
        .error (.invalidPath "lib") ∧
    (generate missingDirectory : Program (StateM Observed) _).on sampleStart =
      (.error (.invalidPath "lib"), sampleStart) := by
  refine ⟨?_, ?_, ?_⟩
  · have named : Path.withNameBeginning "gradle-" ["gradle-a.jar"] = ["gradle-a.jar"] := by
      decide +kernel
    have read : sampleStart.world.fileContent "gradle-a.jar" = .ok sampleArchive := by
      decide +kernel
    have gives := wrappers_sampleConfig named read
    have scanned := scanned_sampleConfig "gradle-a.jar" named
    have apart := @apart_sampleConfig "gradle-a.jar" (by decide +kernel)
    rcases generate_agrees (sampleConfig "gradle-a.jar") sampleStart with ⟨_, _, lists, writes⟩
    have listed := lists _ none false ["gradle-a.jar"] sampleHost {} loadConfig_sampleHost rfl
      gives (by simp)
    have written := writes _ sampleMade (jarPaths_sampleConfig _) (prepare_sampleConfig _)
    rw [scanned, List.forall_mem_singleton] at written
    exact ⟨apart, gives, (written apart).1 _ gives, listed⟩
  · have named : Path.withNameBeginning "gradle-" ["gradle-b.jar"] = ["gradle-b.jar"] := by
      decide +kernel
    have scanned := scanned_sampleConfig "gradle-b.jar" named
    have apart := @apart_sampleConfig "gradle-b.jar" (by decide +kernel)
    have missing : sampleMade.world.fileContent "gradle-b.jar" = .error (.os .notFound) := by
      decide +kernel
    have before : sampleStart.world.fileContent "gradle-b.jar" = .error (.os .notFound) := by
      decide +kernel
    rcases generate_agrees (sampleConfig "gradle-b.jar") sampleStart with ⟨_, _, _, writes⟩
    have written := writes _ sampleMade (jarPaths_sampleConfig _) (prepare_sampleConfig _)
    rw [scanned, List.forall_mem_singleton, wrappers_missing named before] at written
    rw [wrappers_missing named before]
    refine ⟨apart, rfl, missing, (written apart).2 _ rfl ?_⟩
    intro archive cause last read
    rw [List.getLast?_concat] at last
    cases last
    rw [before] at read
    rw [missing, read]
  · have missing : ((missingDirectory.jarPaths : Program (StateM Observed) _).on
        sampleStart).1 = .error (.invalidPath "lib") := by
      decide +kernel
    rcases generate_agrees missingDirectory sampleStart with ⟨_, fails, _⟩
    exact ⟨missing, (fails _ missing).2⟩

/-! An empty archive beside the directory that is made for the file, and a log that is
written into the file. -/

def emptyArchiveHost (environment : List (String × String)) : Observed where
  world := ⟨.directory [("gradle-a.jar", .file (Zip.endSignature ++ List.replicate 18 0))], [],
    environment⟩
  opened := []

def configOf (archives : List String) (output : String) : Config where
  output := { path := output, package := "p" }
  classpath := ⟨archives, []⟩

theorem generate_disagrees :
    (∃ made,
      (prepare "out/x.kt").on (emptyArchiveHost []) = (.ok (), made) ∧
      ¬ made.world.SameFile "out/../gradle-a.jar" "out/x.kt" ∧
      ((wrappers (configOf ["out/../gradle-a.jar"] "out/x.kt") : Program (StateM Observed) _).on
        (emptyArchiveHost [])).1 = .error (.io (.os .notFound)) ∧
      ((generate (configOf ["out/../gradle-a.jar"] "out/x.kt") : Program (StateM Observed) _).on
        (emptyArchiveHost [])).1 = .ok ⟨"out/x.kt", 98, 1, 1, 0⟩) ∧
    ∃ made left,
      let host := emptyArchiveHost [("REIFIER_LOG_DIR", "log")]
      let output := "log/reifier/logs/generation.log"
      (prepare output).on host = (.ok (), made) ∧
      ((wrappers (configOf [] output) : Program (StateM Observed) _).on host).1 = .ok [] ∧
      (generate (configOf [] output) : Program (StateM Observed) _).on host =
        (.ok ⟨output, 98, 0, 0, 0⟩, left) ∧
      left.world.fileContent output = .ok (SourceFile.content (SourceFile.header "p") [] ++
        Utf8.encodeString
          "Wrote 0 declarations (98 bytes) to \"log/reifier/logs/generation.log\"\n") := by
  constructor
  · have ran := @Program.on_eq _ _ (prepare "out/x.kt") (emptyArchiveHost []) (.ok ())
      (by decide +kernel)
    have archive : ((prepare "out/x.kt").on (emptyArchiveHost [])).2.world.locate
        "out/../gradle-a.jar" = .ok ["gradle-a.jar"] := by
      decide +kernel
    have output : ((prepare "out/x.kt").on (emptyArchiveHost [])).2.world.locate "out/x.kt" =
        .ok ["out", "x.kt"] := by
      decide +kernel
    exact ⟨_, ran, World.not_sameFile archive output (by decide), by decide +kernel,
      by decide +kernel⟩
  · let host := emptyArchiveHost [("REIFIER_LOG_DIR", "log")]
    let file := "log/reifier/logs/generation.log"
    have ran := @Program.on_eq _ _ (prepare file) host (.ok ()) (by decide +kernel)
    have generated := @Program.on_eq _ _ (generate (configOf [] file)) host
      (.ok ⟨file, 98, 0, 0, 0⟩) (by decide +kernel)
    exact ⟨_, _, ran, rfl, generated, by decide +kernel⟩

end TypeTokenWrappers.Generation
