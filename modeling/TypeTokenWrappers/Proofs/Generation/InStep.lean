import TypeTokenWrappers.Proofs.Files.InStep
import TypeTokenWrappers.Proofs.Generation.Agreement

/-! # Generating on two hosts

Two hosts that differ in files which are neither read nor written generate the same. Only the
errors can be different ones, where an archive cannot be read on either host. -/

namespace TypeTokenWrappers.Generation

open Observed (Paired)

variable {common : World.Common} {errors : Error → Error → Prop} {rules : Config.Scan}
  {path archive : String} {archives : List String}

/-- Whether an archive gives the same on all such hosts, or else such errors. -/
def GivesAlike (common : World.Common) (errors : Error → Error → Prop) (rules : Config.Scan)
    (archive : String) : Prop :=
  ∀ one other, World.Paired common one other →
    Alike errors Eq (outcome rules one archive) (outcome rules other archive)

theorem givesAlike_of_clear [Std.Refl errors] (rules : Config.Scan)
    (clear : World.Clear common archive) : GivesAlike common errors rules archive := by
  intro one other paired
  rw [outcome, outcome, paired.fileContent clear]
  exact alike_self _

theorem exists_error_of_scanOf (rules : Config.Scan) (cause : IoError) :
    ∃ error, scanOf rules (.error cause) = .error error := by
  rw [scanOf.eq_def]
  split
  · next same => cases same
  · exact ⟨_, rfl⟩
  · exact ⟨_, rfl⟩

theorem givesAlike_of_apart (rules : Config.Scan)
    (apart : World.goal common.directory archive ∉ common.files) :
    GivesAlike common AnyErrors rules archive := by
  intro one other paired
  have same := paired.fileContent_of_apart apart
  rw [outcome, outcome]
  rcases read : one.fileContent archive with cause | content <;>
    rcases read' : other.fileContent archive with cause' | content' <;>
    rw [read, read'] at same
  · obtain ⟨error, fails⟩ := exists_error_of_scanOf rules cause
    obtain ⟨error', fails'⟩ := exists_error_of_scanOf rules cause'
    rw [fails, fails']
    exact .error trivial
  · cases same
  · cases same
  · cases same
    exact alike_self _

theorem coupled_scanArchive (gives : GivesAlike common errors rules archive) :
    Coupled (Paired common) (Alike errors Eq) (scanArchive rules archive : StateM Observed _)
      (scanArchive rules archive) := by
  intro one other paired
  rw [run_scanArchive, run_scanArchive]
  exact ⟨gives one.world other.world paired, paired⟩

theorem inStep_extend (clear : World.Clear common path) (draft : Draft) (declarations : Nat)
    (pieces : List (List UInt8)) :
    Program.InStep (Paired common)
      (draft.extend path declarations pieces : Program (StateM Observed) Draft) :=
  (Program.inStep_require (Observed.inStep_appendFile clear _)).bind fun _ => Program.inStep_pure _

/-- Drafts that were ended by nothing or by such errors. -/
def EndedAlike (errors : Error → Error → Prop) (ended ended' : Draft × Option Error) : Prop :=
  ended.1 = ended'.1 ∧ Option.Rel errors ended.2 ended'.2

theorem coupled_writeArchives [Std.Refl errors] (output : World.Clear common path) (draft : Draft)
    (gives : ∀ archive ∈ archives, GivesAlike common errors rules archive) :
    Program.Coupled (Paired common) errors (EndedAlike errors)
      (writeArchives path rules draft archives : Program (StateM Observed) _)
      (writeArchives path rules draft archives) := by
  induction archives generalizing draft with
  | nil => exact Program.coupled_pure ⟨rfl, .none⟩
  | cons archive others induction =>
    have ⟨here, behind⟩ := List.forall_mem_cons.mp gives
    refine (Program.coupled_lift (coupled_scanArchive here)).bind fun scanned scanned' alike => ?_
    cases alike with
    | error related => exact Program.coupled_pure ⟨rfl, .some related⟩
    | ok same =>
      subst same
      refine (inStep_extend output draft _ _).coupled.bind ?_
      rintro extended _ rfl
      exact induction extended behind

theorem coupled_finish [Std.Refl errors] (output : World.Clear common path) (draft : Draft)
    {failure failure' : Option Error} (alike : Option.Rel errors failure failure') :
    Program.Coupled (Paired common) errors Eq
      (draft.finish path failure : Program (StateM Observed) Summary)
      (draft.finish path failure') := by
  have append := Observed.inStep_appendFile output draft.held
  have size := Observed.inStep_fileSize output
  cases alike with
  | none =>
    apply Program.InStep.coupled
    refine (Program.inStep_require append).bind fun _ => ?_
    exact (Program.inStep_require size).bind fun _ => Program.inStep_pure _
  | some related =>
    refine (Program.coupled_lift append).bind fun _ _ _ => ?_
    exact Program.coupled_throw related

theorem inStep_makeParent (passable : World.Passable common path) :
    Program.InStep (Paired common) (makeParent path : Program (StateM Observed) Unit) := by
  rw [makeParent]
  split
  · next parent above =>
    split
    · exact Program.inStep_pure _
    · have member : parent ∈ Path.ancestors path :=
        List.mem_cons_of_mem _ (List.mem_of_head? above)
      exact Observed.inStep_makeDirectories (passable.above member)
  · exact Program.inStep_pure _

theorem coupled_writeFile [Std.Refl errors] {paths : List String} (package : String)
    (output : World.Clear common path)
    (gives : ∀ path ∈ paths, GivesAlike common errors rules path) :
    Program.Coupled (Paired common) errors Eq
      (writeFile path paths rules package : Program (StateM Observed) Summary)
      (writeFile path paths rules package) := by
  have scanned : ∀ archive ∈ Path.withNameBeginning rules.jarPrefix paths,
      GivesAlike common errors rules archive :=
    fun archive member => gives archive (List.mem_of_mem_filter member)
  have create : Program.InStep (Paired common)
      (Program.require (Host.createFile path) : Program (StateM Observed) Unit) :=
    Program.inStep_require (Observed.inStep_createFile output)
  refine (inStep_makeParent output.passable).coupled.bind fun _ _ _ => ?_
  refine create.coupled.bind fun _ _ _ => ?_
  refine (inStep_extend output _ _ _).coupled.bind ?_
  rintro begun _ rfl
  refine (coupled_writeArchives output begun scanned).bind ?_
  rintro ⟨draft, failure⟩ ⟨_, failure'⟩ ⟨rfl, alike⟩
  exact coupled_finish output draft alike

/-! ## Behind the file -/

/-- A file that was written can be read. -/
theorem fileContent_of_writeFile {paths : List String} {package : String} {summary : Summary}
    {state after : Observed}
    (ran : (writeFile path paths rules package).on state = (.ok summary, after)) :
    ∃ content, after.world.fileContent path = .ok content := by
  obtain ⟨_, _, -, ran⟩ := Program.exists_of_on_bind ran
  obtain ⟨_, _, -, ran⟩ := Program.exists_of_on_bind ran
  obtain ⟨begun, _, -, ran⟩ := Program.exists_of_on_bind ran
  obtain ⟨⟨draft, failure⟩, _, -, ran⟩ := Program.exists_of_on_bind ran
  obtain ⟨-, -, size⟩ := changed_of_finish ran
  rw [World.fileSize] at size
  cases read : after.world.fileContent path with
  | error cause =>
    rw [read] at size
    cases size
  | ok content => exact ⟨content, rfl⟩

/-- Whether the log, if there is one (without `dev-mode` there is none), is another file than
the output, or is as clear. -/
def LogApart (common : World.Common) (world : World) (output : String) : Prop :=
  ∀ path, logPath? world = some path →
    World.goal common.directory path = World.goal common.directory output →
      World.Clear common path

theorem paired_log {one other : Observed} (paired : Paired common one other)
    (clear : ∀ path, logPath? one.world = some path → World.Clear common path) (line : String) :
    Paired common ((log line : StateM Observed Unit).run one).2
      ((log line : StateM Observed Unit).run other).2 := by
  have environment : other.world.environment = one.world.environment :=
    paired.environment'.trans paired.environment.symm
  cases set : Environment.ofList one.world.environment "REIFIER_LOG_DIR" with
  | none =>
    have unlogged {state : Observed}
        (set : Environment.ofList state.world.environment "REIFIER_LOG_DIR" = none) :
        (log line : StateM Observed Unit).run state = ((), state) := by
      rw [log, StateT.run_bind, Observed.run_environmentValue, set]
      rfl
    rw [unlogged set, unlogged (environment ▸ set)]
    exact paired
  | some base =>
    have clear := clear _ (by rw [logPath?, set]; rfl)
    have filled : base ++ "/reifier/logs" ≠ "" := by
      intro empty
      have length := congrArg (List.length ∘ String.toList) empty
      simp at length
    have passable : World.Passable common (base ++ "/reifier/logs") := fun place passed =>
      clear.passable place (World.way_append filled "generation.log".toList rfl passed)
    rw [run_log_of_set line set, run_log_of_set line (environment ▸ set)]
    have made := (Observed.inStep_makeDirectories passable one other paired).2
    have wrote := (Observed.inStep_appendFile clear (Utf8.encodeString line) _ _ made).2
    rw [Observed.run_appendFile, Observed.run_appendFile] at wrote
    exact wrote

/-- The line in the log does not change another file. -/
theorem fileContent_log {state : Observed} {content : List UInt8} (line : String)
    (read : state.world.fileContent path = .ok content)
    (apart : ∀ log, logPath? state.world = some log →
      World.goal state.world.directory log ≠ World.goal state.world.directory path) :
    ((log line : StateM Observed Unit).run state).2.world.fileContent path = .ok content := by
  have directory : ((log line : StateM Observed Unit).run state).2.world.directory =
      state.world.directory := by
    obtain ⟨middle, after, ran, grows, logged⟩ := run_log line state
    rw [ran]
    rcases logged with rfl | ⟨_, _, _, _, _, _, _, writes⟩
    · exact grows.world.directory
    · exact writes.directory.trans grows.world.directory
  apply (fileContent_after_log line read).2
  rintro other named ⟨place, leads, leads'⟩
  have one := World.eq_goal_of_locate leads
  have two := World.eq_goal_of_locate leads'
  rw [directory] at one two
  exact apart other named (one.symm.trans two)

theorem jarPaths_of_jars (rules : Config.Scan) (output : Config.Output) (jars : List String) :
    (Config.jarPaths ⟨rules, output, ⟨jars, []⟩⟩ : Program (StateM Observed) _) = pure jars := by
  change (pure (jars ++ ([] : List (List String)).flatten) : Program (StateM Observed) _) = _
  rw [List.flatten_nil, List.append_nil]

/-- Generating on both hosts gives the same report, or else such errors, and leaves the same
output. -/
theorem generate_paired [Std.Refl errors] {one other : Observed} (paired : Paired common one other)
    (rules : Config.Scan) (output : Config.Output) {jars : List String}
    (clear : World.Clear common output.path)
    (gives : ∀ jar ∈ jars, GivesAlike common errors rules jar)
    (apart : LogApart common one.world output.path) :
    let config : Config := ⟨rules, output, ⟨jars, []⟩⟩
    let first := (generate config : Program (StateM Observed) _).on one
    let second := (generate config : Program (StateM Observed) _).on other
    Alike errors Eq first.1 second.1 ∧
      second.2.world.fileContent output.path = first.2.world.fileContent output.path := by
  intro config first second
  have classpath (state : Observed) :
      ((config.jarPaths : Program (StateM Observed) _).on state).1 = .ok jars := by
    rw [jarPaths_of_jars, Program.on_pure]
  obtain ⟨alike, after⟩ := coupled_writeFile output.package clear gives one other paired
  rcases wrote : (writeFile output.path jars rules output.package).on one with ⟨answer, left⟩
  rcases wrote' : (writeFile output.path jars rules output.package).on other with ⟨answer', left'⟩
  change Alike errors Eq ((writeFile output.path jars rules output.package).on one).1
    ((writeFile output.path jars rules output.package).on other).1 at alike
  change Paired common ((writeFile output.path jars rules output.package).on one).2
    ((writeFile output.path jars rules output.package).on other).2 at after
  rw [wrote, wrote'] at alike after
  cases alike with
  | error related =>
    simp only [first, second, generate_on_of_unwritten (classpath _) wrote,
      generate_on_of_unwritten (classpath _) wrote']
    exact ⟨.error related, World.Paired.fileContent after clear⟩
  | @ok summary _ same =>
    subst same
    simp only [first, second, generate_on_of_written (classpath _) wrote,
      generate_on_of_written (classpath _) wrote']
    have named : logPath? left.world = logPath? one.world := by
      rw [logPath?, logPath?, after.environment, paired.environment]
    have named' : logPath? left'.world = logPath? one.world := by
      rw [logPath?, logPath?, after.environment', paired.environment]
    refine ⟨.ok rfl, ?_⟩
    by_cases logged : ∃ log, logPath? one.world = some log ∧
      World.goal common.directory log = World.goal common.directory output.path
    · -- The line is added to the output itself, on both hosts.
      obtain ⟨log, set, same⟩ := logged
      refine World.Paired.fileContent (paired_log after (fun path set' => ?_) _) clear
      rw [named, set] at set'
      exact Option.some.inj set' ▸ apart log set same
    · obtain ⟨content, read⟩ := fileContent_of_writeFile wrote
      have read' := (World.Paired.fileContent after clear).trans read
      rw [fileContent_log _ read, fileContent_log _ read']
      · rw [named', after.there]
        exact fun log set same => logged ⟨log, set, same⟩
      · rw [named, after.here]
        exact fun log set same => logged ⟨log, set, same⟩

/-! ## The wrappers alone -/

theorem coupled_items (gives : ∀ archive ∈ archives, GivesAlike common errors rules archive) :
    Coupled (Paired common) (List.Forall₂ (Alike errors Eq))
      (WrapperStream.items (scanArchive rules) archives : StateM Observed _)
      (WrapperStream.items (scanArchive rules) archives) := by
  induction archives with
  | nil => exact Coupled.pure .nil
  | cons archive others induction =>
    have ⟨here, behind⟩ := List.forall_mem_cons.mp gives
    refine (coupled_scanArchive here).bind fun scanned scanned' alike => ?_
    cases alike with
    | error related => exact Coupled.pure (.cons (.error related) .nil)
    | @ok wrappers _ same =>
      subst same
      refine (induction behind).bind fun rest rest' alike => Coupled.pure ?_
      exact List.rel_append (List.forall₂_map_left_iff.mpr
        (List.forall₂_map_right_iff.mpr (List.forall₂_same.mpr fun _ _ => .ok rfl))) alike

theorem alike_allOrFirstError {items items' : List (Except Error α)}
    (alike : List.Forall₂ (Alike errors Eq) items items') :
    Alike errors Eq (allOrFirstError items) (allOrFirstError items') := by
  induction alike with
  | nil => exact .ok rfl
  | cons first _ induction =>
    cases first with
    | error related => exact .error related
    | ok same =>
      subst same
      exact induction.map fun _ _ same => congrArg _ same

theorem coupled_wrappers {jars : List String} (rules : Config.Scan)
    (gives : ∀ jar ∈ jars, GivesAlike common errors rules jar) (output output' : Config.Output) :
    Program.Coupled (Paired common) errors Eq
      (wrappers ⟨rules, output, ⟨jars, []⟩⟩ : Program (StateM Observed) _)
      (wrappers ⟨rules, output', ⟨jars, []⟩⟩) := by
  rw [wrappers, wrappers, jarPaths_of_jars, jarPaths_of_jars, pure_bind]
  have scanned : ∀ archive ∈ Path.withNameBeginning rules.jarPrefix jars,
      GivesAlike common errors rules archive :=
    fun archive member => gives archive (List.mem_of_mem_filter member)
  exact (Program.coupled_lift (coupled_items scanned)).bind fun _ _ alike =>
    Program.coupled_except (alike_allOrFirstError alike)

theorem coupled_declarations {jars : List String} (rules : Config.Scan)
    (gives : ∀ jar ∈ jars, GivesAlike common errors rules jar) (output output' : Config.Output) :
    Program.Coupled (Paired common) errors Eq
      (declarations ⟨rules, output, ⟨jars, []⟩⟩ : Program (StateM Observed) _)
      (declarations ⟨rules, output', ⟨jars, []⟩⟩) := by
  intro one other paired
  obtain ⟨alike, after⟩ := coupled_wrappers rules gives output output' one other paired
  change Alike errors Eq ((declarations _).on one).1 ((declarations _).on other).1 ∧
    Paired common ((declarations _).on one).2 ((declarations _).on other).2
  rw [declarations_on, declarations_on]
  exact ⟨alike.map fun _ _ same => congrArg _ same, after⟩

end TypeTokenWrappers.Generation
