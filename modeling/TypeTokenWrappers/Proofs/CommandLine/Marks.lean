import TypeTokenWrappers.Proofs.CommandLine.Loading
import TypeTokenWrappers.Proofs.Files.FileName
import TypeTokenWrappers.Proofs.Generation.Written

/-! # Archives that are marked

The effective configuration is printed with a mark at each archive that generating would open.
Archives are marked by comparing paths, but opened by their file names. The two agree since all
spellings of one path have the same file name. -/

namespace TypeTokenWrappers

namespace Generation

variable {state after left : Observed} {path : String} {rules : Config.Scan}

/-! ## What generating opens -/

theorem opened_changed (state : Observed) (result : Except IoError World) :
    (state.changed result).2.opened = state.opened := by
  cases result <;> rfl

theorem opened_of_extend {draft extended : Draft} {count : Nat} {pieces : List (List UInt8)}
    (ran : (draft.extend path count pieces).on state = (.ok extended, after)) :
    after.opened = state.opened := by
  rcases Program.exists_of_on_bind ran with ⟨_, middle, appended, ended⟩
  rw [Program.on_require, Observed.run_appendFile] at appended
  cases ended
  rw [← (Prod.mk.inj appended).2, opened_changed]

/-- If all archives can be scanned, all are opened, and no others. -/
theorem opened_of_writeArchives {draft last : Draft} {archives : List String}
    (ran : (writeArchives path rules draft archives).on state = (.ok (last, none), after)) :
    after.opened = state.opened ++ archives := by
  induction archives generalizing draft state with
  | nil =>
      cases ran
      rw [List.append_nil]
  | cons archive others induction =>
      rw [writeArchives, Program.on_bind, Program.on_exceptLift, run_scanArchive,
        Program.next_ok] at ran
      cases gives : outcome rules state.world archive with
      | error error =>
          rw [gives] at ran
          cases ran
      | ok wrappers =>
          rw [gives] at ran
          rcases Program.exists_of_on_bind ran with ⟨extended, middle, wrote, rest⟩
          rw [induction rest, opened_of_extend wrote, List.append_assoc, List.singleton_append]

theorem opened_of_writeFile {paths : List String} {package : String} {summary : Summary}
    (ran : (writeFile path paths rules package).on state = (.ok summary, after)) :
    after.opened = state.opened ++ Path.withNameBeginning rules.jarPrefix paths := by
  rw [writeFile_eq] at ran
  rcases Program.exists_of_on_bind ran with ⟨_, made, ready, ran⟩
  rcases prepared_of_prepare ready with ⟨_, prepared⟩
  rcases Program.exists_of_on_bind ran with ⟨begun, headed, wrote, ran⟩
  rcases Program.exists_of_on_bind ran with ⟨⟨last, failure⟩, scanned, rest, ended⟩
  rcases changed_of_finish ended with ⟨rfl, rfl, _⟩
  rw [opened_changed, opened_of_writeArchives rest, opened_of_extend wrote, prepared.opened]

theorem opened_log (line : String) (state : Observed) :
    ((log line : StateM Observed Unit).run state).2.opened = state.opened := by
  rcases run_log line state with ⟨middle, after, ran, grows, same | ⟨_, _, _, _, opened, _⟩⟩
  · rw [ran, same, grows.opened]
  · rw [ran, opened, grows.opened]

/-- A report counts the archives of the classpath and those that were opened. -/
theorem counted_of_generate {config : Config} {archives : List String} {report : Report}
    (classpath : ((config.jarPaths : Program (StateM Observed) _).on state).1 = .ok archives)
    (ran : (generate config : Program (StateM Observed) _).on state = (.ok report, left)) :
    report.archivesConsidered = archives.length ∧
      report.archivesScanned = (config.scanned archives).length ∧
      left.opened = state.opened ++ config.scanned archives := by
  rcases Program.exists_of_on_bind ran with ⟨jars, found, listed, ran⟩
  rw [jarPaths_on, classpath] at listed
  cases listed
  rcases Program.exists_of_on_bind ran with ⟨summary, written, wrote, ran⟩
  rcases Program.exists_of_on_bind ran with ⟨_, logged, lined, ended⟩
  cases ended
  refine ⟨rfl, rfl, ?_⟩
  rw [← (Prod.mk.inj lined).2]
  exact (opened_log _ written).trans (opened_of_writeFile wrote)

end Generation

namespace CommandLine

variable {config : Config} {archive : String} {archives : List String}

/-! ## Marks -/

/-- Whether the file name of a path begins as that of a scanned archive does. -/
def marks (config : Config) (path : String) : Bool :=
  (Path.fileName? path).any fun name => config.scan.jarPrefix.toList.isPrefixOf name.toList

theorem marks_eq_true_iff {path : String} :
    marks config path = true ↔
      ∃ name, Path.EndsIn path name ∧ config.scan.jarPrefix.toList <+: name.toList := by
  simp [marks, Option.any_eq_true, ← Path.fileName?_eq_some_iff]

theorem scanned_eq (config : Config) (archives : List String) :
    config.scanned archives = archives.filter (marks config) := rfl

/-- Another spelling of an archive is scanned only if this one is. -/
theorem isAmong_scanned (member : archive ∈ archives) :
    isAmong (config.scanned archives) archive = marks config archive := by
  rw [isAmong, scanned_eq, Bool.eq_iff_iff, List.any_eq_true]
  constructor
  · rintro ⟨other, found, same⟩
    have names := Path.fileName?_congr (of_decide_eq_true same)
    have marked := (List.mem_filter.mp found).2
    rwa [marks, names] at marked
  · intro marked
    exact ⟨archive, List.mem_filter.mpr ⟨member, marked⟩, decide_eq_true rfl⟩

/-- What is printed in front of the archives. -/
def infoHead (config : Config) (total : Nat) : String :=
  "\n=== Configuration ===\n\n" ++ config.toToml ++ "\n" ++ s!"=== Archives ({total}) ===\n\n"

/-- The line of an archive with a mark or without one. -/
def markedLine (marked : Bool) (archive : String) : String :=
  (if marked then "  scan " else "  skip ") ++ archive ++ "\n"

theorem infoText_eq (config : Config) (archives : List String) :
    infoText config archives = infoHead config archives.length ++
      String.join (archives.map fun archive => markedLine (marks config archive) archive) := by
  have lines : archives.map (archiveLine (config.scanned archives)) =
      archives.map fun archive => markedLine (marks config archive) archive := by
    refine List.map_congr_left fun archive member => ?_
    rw [archiveLine, isAmong_scanned member, markedLine]
  unfold infoText infoHead
  rw [lines]

theorem perform_info {named : Option String} {quiet : Bool} {before start : Observed}
    (loads : (loadConfig named : Program (StateM Observed) _).on before = (.ok config, start))
    (classpath : ((config.jarPaths : Program (StateM Observed) _).on start).1 = .ok archives) :
    (perform named quiet .info : Program (StateM Observed) _).on before =
      (.ok (infoText config archives), start) := by
  rw [perform, Program.on_bind, loads, Program.next_ok, Program.on_bind, Generation.jarPaths_on,
    classpath]
  rfl

/-- An archive is marked if and only if its file name begins as it should. The marked archives
are those that are scanned, as they are spelled and in this order, and those that generating
by the same configuration counts and opens. -/
theorem info_marks_opened (config : Config) (archives : List String) :
    ∃ marked : String → Bool,
      (∀ path, marked path = true ↔
        ∃ name, Path.EndsIn path name ∧ config.scan.jarPrefix.toList <+: name.toList) ∧
      archives.filter marked = Path.withNameBeginning config.scan.jarPrefix archives ∧
      (∀ named quiet before start,
        (loadConfig named : Program (StateM Observed) _).on before = (.ok config, start) →
        ((config.jarPaths : Program (StateM Observed) _).on start).1 = .ok archives →
        (perform named quiet .info : Program (StateM Observed) _).on before =
          (.ok (infoHead config archives.length ++ String.join (archives.map fun archive =>
            markedLine (marked archive) archive)), start)) ∧
      ∀ start report left,
        ((config.jarPaths : Program (StateM Observed) _).on start).1 = .ok archives →
        (Generation.generate config : Program (StateM Observed) _).on start =
          (.ok report, left) →
        report.archivesConsidered = archives.length ∧
          report.archivesScanned = (archives.filter marked).length ∧
          left.opened = start.opened ++ archives.filter marked := by
  refine ⟨marks config, fun path => marks_eq_true_iff, rfl, ?_, ?_⟩
  · intro named quiet before start loads classpath
    rw [perform_info loads classpath, infoText_eq]
  · intro start report left classpath ran
    rw [← scanned_eq]
    exact Generation.counted_of_generate classpath ran

/-! An archive that is listed in two spellings, and paths that are passed over. -/

def spelledConfig : Config where
  output := { path := "x.kt" }
  classpath := ⟨["gradle-a.jar", ".//gradle-a.jar", "gradle-b/..", "lib/gradle/a.jar/."], []⟩

def spelledHost : Observed where
  world := ⟨.directory [
    ("spelled.toml", .file (Utf8.encodeString spelledConfig.toToml)),
    ("gradle-a.jar", .file (Zip.endSignature ++ List.replicate 18 0))], [], []⟩
  opened := []

/-- The host when the configuration was read. -/
def loadedHost : Observed := { spelledHost with opened := ["spelled.toml"] }

theorem loadConfig_spelledHost :
    (loadConfig (some "spelled.toml") : Program (StateM Observed) _).on spelledHost =
      (.ok spelledConfig, loadedHost) := by
  have absent : spelledConfig.NoPlaceholders := by decide +kernel
  have read := @Observed.on_fromPath_toToml spelledHost "spelled.toml" spelledConfig absent rfl
  have unresolved : (Path.parent? "spelled.toml").elim spelledConfig spelledConfig.resolveFrom =
      spelledConfig := by
    decide +kernel
  rw [unresolved] at read
  exact read

theorem info_marks_opened_spelledConfig :
    (perform (some "spelled.toml") false .info : Program (StateM Observed) _).on spelledHost =
        (.ok (infoHead spelledConfig 4 ++ String.join
          ["  scan gradle-a.jar\n", "  scan .//gradle-a.jar\n", "  skip gradle-b/..\n",
            "  skip lib/gradle/a.jar/.\n"]), loadedHost) ∧
      ∃ report left,
        (Generation.generate spelledConfig : Program (StateM Observed) _).on loadedHost =
          (.ok report, left) ∧
        report.archivesConsidered = 4 ∧ report.archivesScanned = 2 ∧
        left.opened = ["spelled.toml", "gradle-a.jar", ".//gradle-a.jar"] := by
  rcases info_marks_opened spelledConfig spelledConfig.classpath.jars with
    ⟨marked, marked_iff, selected, prints, opens⟩
  have marked_eq : marked = marks spelledConfig := by
    funext path
    rw [Bool.eq_iff_iff, marked_iff, marks_eq_true_iff]
  subst marked_eq
  have lines : spelledConfig.classpath.jars.map
      (fun archive => markedLine (marks spelledConfig archive) archive) =
        ["  scan gradle-a.jar\n", "  scan .//gradle-a.jar\n", "  skip gradle-b/..\n",
          "  skip lib/gradle/a.jar/.\n"] := by
    decide +kernel
  have scanned : spelledConfig.classpath.jars.filter (marks spelledConfig) =
      ["gradle-a.jar", ".//gradle-a.jar"] := by
    decide +kernel
  have generated : ((Generation.generate spelledConfig : Program (StateM Observed) _).on
      loadedHost).1 = .ok ⟨"x.kt", 118, 4, 2, 0⟩ := by
    decide +kernel
  rw [scanned] at opens
  have printed := prints _ false _ _ loadConfig_spelledHost rfl
  rw [lines] at printed
  have ran := Program.on_eq generated
  exact ⟨printed, _, _, ran, opens _ _ _ rfl ran⟩

end CommandLine

end TypeTokenWrappers
