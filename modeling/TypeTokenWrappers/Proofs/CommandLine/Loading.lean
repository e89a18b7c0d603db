import TypeTokenWrappers.CommandLine.Commands
import TypeTokenWrappers.Proofs.Config.RoundTrip
import TypeTokenWrappers.Proofs.Files.InStep

/-! # Loading on two hosts

Two hosts that differ in their configuration files stay such a pair when each loads its own: a
configuration file is only read, and the variables file is the same on both. -/

namespace TypeTokenWrappers

section Asks

variable {σ : Type}

/-- Whether an action leaves its host as it was. -/
def Asks (action : StateM σ α) : Prop := ∀ state, (action.run state).2 = state

theorem asks_pure (value : α) : Asks (pure value : StateM σ α) := fun _ => rfl

theorem Asks.bind {action : StateM σ α} {following : α → StateM σ β} (first : Asks action)
    (second : ∀ value, Asks (following value)) : Asks (action >>= following) :=
  fun state => (second _ _).trans (first state)

theorem Asks.mapM {body : α → StateM σ β} (each : ∀ item, Asks (body item)) (list : List α) :
    Asks (list.mapM body) := by
  induction list with
  | nil =>
    rw [List.mapM_nil]
    exact asks_pure _
  | cons item list induction =>
    rw [List.mapM_cons]
    exact (each item).bind fun _ => induction.bind fun _ => asks_pure _

end Asks

namespace Observed

/-! ## What is only read -/

/-- A host after something that may have read files and has changed nothing. -/
def Kept (state after : Observed) : Prop := after.world = state.world

instance : Std.Refl Kept := ⟨fun _ => rfl⟩

instance : IsTrans Observed Kept := ⟨fun _ _ _ first second => second.trans first⟩

theorem leads_of_asks {action : StateM Observed α} (asks : Asks action) :
    Program.Leads Kept (liftM action : Program (StateM Observed) α) :=
  fun state => congrArg world (asks state)

theorem leads_except (result : Except Error α) :
    Program.Leads Kept (liftM result : Program (StateM Observed) α) := by
  cases result with
  | ok value => exact Program.leads_pure _
  | error error => exact Program.leads_throw _

theorem asks_environmentValue (name : String) :
    Asks (Host.environmentValue name : StateM Observed _) := fun _ => rfl

theorem asks_kind? (path : String) : Asks (Host.kind? path : StateM Observed _) := fun _ => rfl

theorem asks_environmentOf (names : List String) :
    Asks (Program.environmentOf names : StateM Observed _) :=
  (Asks.mapM (fun name => (asks_environmentValue name).bind fun _ => asks_pure _) names).bind
    fun _ => asks_pure _

theorem leads_readText (path : String) :
    Program.Leads Kept (Program.readText path : Program (StateM Observed) String) := by
  refine Program.Leads.bind (fun state => ?_) fun bytes => ?_
  · rw [Program.on_require, run_fileContent]
    rfl
  · cases Utf8.decodeString? bytes with
    | none => exact Program.leads_throw _
    | some text => exact Program.leads_pure _

theorem leads_fromPath (path : String) :
    Program.Leads Kept (Config.fromPath path : Program (StateM Observed) Config) := by
  refine (leads_readText path).bind fun text => ?_
  refine (leads_except _).bind fun config => ?_
  refine (leads_of_asks (asks_environmentOf _)).bind fun values => ?_
  refine (leads_except _).bind fun config => ?_
  cases Path.parent? path with
  | none => exact Program.leads_pure _
  | some directory => exact Program.leads_pure _

/-- A configuration that was written is read again from its file. -/
theorem on_fromPath_toToml {state : Observed} {path : String} {config : Config}
    (absent : config.NoPlaceholders)
    (content : state.world.fileContent path = .ok (Utf8.encodeString config.toToml)) :
    (Config.fromPath path : Program (StateM Observed) Config).on state =
      (.ok ((Path.parent? path).elim config config.resolveFrom),
        { state with opened := state.opened ++ [path] }) := by
  have decoded : Utf8.decodeString? (Utf8.encodeString config.toToml) = some config.toToml := by
    rw [Utf8.decodeString?, Utf8.encodeString, Utf8.decode?_encode]
    exact congrArg some String.ofList_toList
  have text : (Program.readText path : Program (StateM Observed) String).on state =
      (.ok config.toToml, { state with opened := state.opened ++ [path] }) := by
    rw [Program.readText, Program.on_bind, Program.on_require, run_fileContent, content]
    change Program.next _ (.ok _, _) = _
    rw [Program.next_ok, decoded]
    rfl
  rw [Config.fromPath, Program.on_bind, text, Program.next_ok, Config.read_toToml,
    Program.on_bind, Program.on_except, Program.next_ok, absent.variableNames, Program.on_bind,
    Program.on_lift]
  change Program.next _ (.ok [], _) = _
  rw [Program.next_ok, Program.on_bind, Program.on_except, absent.resolvePlaceholders,
    Program.next_ok]
  cases Path.parent? path <;> rfl

theorem asks_findIn? (directories : List String) :
    Asks (Config.findIn? directories : StateM Observed _) := by
  induction directories with
  | nil => exact asks_pure _
  | cons directory above induction =>
    refine ((asks_kind? _).bind fun _ => asks_pure _).bind fun there => ?_
    cases there with
    | true => exact asks_pure _
    | false => exact induction

/-- Looking for a configuration file and reading it, once the variables file was loaded. -/
def search : Program (StateM Observed) Config := do
  let directory ← Program.require Host.workingDirectory
  let path ← Config.findFile directory
  Config.fromPath path

theorem load_eq : (Config.load : Program (StateM Observed) Config) =
    (liftM (VariablesFile.load : StateM Observed Unit) >>= fun _ => search) :=
  rfl

theorem leads_search : Program.Leads Kept search := by
  refine Program.Leads.bind (fun state => ?_) fun directory => ?_
  · rw [Program.on_require]
    rfl
  refine Program.Leads.bind ?_ leads_fromPath
  refine (leads_of_asks (asks_findIn? _)).bind fun found => ?_
  cases found with
  | none => exact Program.leads_throw _
  | some path => exact Program.leads_pure _

theorem world_loadConfig_named (path : String) (state : Observed) :
    ((CommandLine.loadConfig (some path)).on state).2.world = state.world :=
  leads_fromPath path state

/-- Only the variables file has an effect on the host. -/
theorem world_loadConfig_none (state : Observed) :
    ((CommandLine.loadConfig none).on state).2.world =
      ((VariablesFile.load : StateM Observed Unit).run state).2.world := by
  have searched := leads_search ((VariablesFile.load : StateM Observed Unit).run state).2
  have loads : (Config.load : Program (StateM Observed) Config).on state =
      search.on ((VariablesFile.load : StateM Observed Unit).run state).2 := by
    rw [load_eq, Program.on_bind, Program.on_lift, Program.next_ok]
  rw [CommandLine.loadConfig, Program.on_tryCatch, loads]
  rcases ran : search.on ((VariablesFile.load : StateM Observed Unit).run state).2 with
    ⟨error | config, after⟩
  · rw [ran] at searched
    cases error <;> exact searched
  · rw [ran] at searched
    exact searched

/-! ## The variables file -/

/-- Such a pair, whatever variables are set on both hosts by now. -/
def PairedAnyhow (common : World.Common) (one other : Observed) : Prop :=
  ∃ environment, Paired { common with environment } one other

variable {common : World.Common}

theorem inStep_anyhow {action : StateM Observed α}
    (each : ∀ environment, InStep (Paired { common with environment }) action) :
    InStep (PairedAnyhow common) action := by
  rintro one other ⟨environment, paired⟩
  obtain ⟨same, after⟩ := each environment one other paired
  exact ⟨same, environment, after⟩

theorem inStep_setVariable (name value : String) :
    InStep (PairedAnyhow common) (Host.setVariable name value : StateM Observed _) := by
  rintro one other ⟨environment, paired⟩
  refine ⟨rfl, (name, value) :: environment, ?_⟩
  obtain ⟨here, there, known, known', seen, kind, directories⟩ := paired
  exact ⟨here, there, congrArg _ known, congrArg _ known', seen, kind, directories⟩

theorem inStep_expand (earlier : List (String × String)) (value : List VariablesFile.Piece) :
    InStep (PairedAnyhow common) (VariablesFile.expand earlier value : StateM Observed _) := by
  refine InStep.bind (InStep.mapM (fun piece => ?_) value) fun _ => InStep.pure _
  cases piece with
  | literal char => exact InStep.pure _
  | reference name =>
    refine (inStep_anyhow fun _ => inStep_environmentValue name).bind fun found => ?_
    cases found <;> exact InStep.pure _

theorem inStep_loadLines (earlier : List (String × String)) (lines : List (List UInt8)) :
    InStep (PairedAnyhow common) (VariablesFile.loadLines earlier lines : StateM Observed _) := by
  induction lines generalizing earlier with
  | nil => exact InStep.pure _
  | cons line others induction =>
    rw [VariablesFile.loadLines]
    split
    · exact InStep.pure _
    · exact InStep.pure _
    · exact induction earlier
    · next key pieces _ =>
      refine (inStep_expand earlier pieces).bind fun value => ?_
      refine (inStep_anyhow fun _ => inStep_environmentValue key).bind fun found => ?_
      cases found with
      | none => exact (inStep_setVariable key value).bind fun _ => induction _
      | some set => exact induction _

/-- Whether none of the files can be taken for a variables file. -/
def NoVariablesFile (common : World.Common) : Prop :=
  ∀ directory,
    World.goal common.directory (Path.join directory VariablesFile.fileName) ∉ common.files

/-- Two answers that name the same variables file, or none. -/
def FoundAlike (found found' : Option String) : Prop :=
  found = found' ∧ ∀ path, found = some path →
    ∃ directory, path = Path.join directory VariablesFile.fileName

theorem coupled_findVariables (others : NoVariablesFile common) (directories : List String) :
    Coupled (PairedAnyhow common) FoundAlike
      (VariablesFile.find? directories : StateM Observed _) (VariablesFile.find? directories) := by
  induction directories with
  | nil => exact Coupled.pure ⟨rfl, nofun⟩
  | cons directory above induction =>
    have asked : InStep (PairedAnyhow common)
        (Program.isFile (Path.join directory VariablesFile.fileName) : StateM Observed _) := by
      apply inStep_anyhow
      intro environment one other paired
      refine ⟨?_, paired⟩
      change (one.world.kind? _ == _) = (other.world.kind? _ == _)
      rw [World.Paired.kind?_of_apart paired (others directory)]
    refine Coupled.bind asked ?_
    rintro there _ rfl
    cases there with
    | true => exact Coupled.pure ⟨rfl, fun path same => ⟨directory, (Option.some.inj same).symm⟩⟩
    | false => exact induction

theorem coupled_readVariables (others : NoVariablesFile common) (directory : String) :
    let path := Path.join directory VariablesFile.fileName
    Coupled (PairedAnyhow common) (fun content content' => content.toOption = content'.toOption)
      (Host.fileContent path : StateM Observed _) (Host.fileContent path) := by
  rintro path one other ⟨environment, paired⟩
  exact ⟨(World.Paired.fileContent_of_apart paired (others directory)).symm, environment, paired⟩

theorem inStep_workingDirectory :
    InStep (PairedAnyhow common) (Host.workingDirectory : StateM Observed _) := by
  rintro one other ⟨environment, paired⟩
  refine ⟨?_, environment, paired⟩
  change Except.ok one.world.workingDirectory = .ok other.world.workingDirectory
  rw [World.workingDirectory, World.workingDirectory, World.Paired.here paired,
    World.Paired.there paired]

theorem inStep_loadVariables (others : NoVariablesFile common) :
    InStep (PairedAnyhow common) (VariablesFile.load : StateM Observed Unit) := by
  refine inStep_workingDirectory.bind fun directory => ?_
  cases directory with
  | error cause => exact InStep.pure _
  | ok directory =>
    refine Coupled.bind (coupled_findVariables others _) ?_
    rintro found _ ⟨rfl, named⟩
    cases found with
    | none => exact InStep.pure _
    | some path =>
      obtain ⟨directory, rfl⟩ := named path rfl
      refine Coupled.bind (coupled_readVariables others directory) ?_
      rintro (cause | bytes) (cause' | bytes') same
      · exact InStep.pure _
      · cases same
      · cases same
      · cases same
        exact inStep_loadLines [] _

/-- A file of the name of a configuration is no variables file. -/
theorem noVariablesFile
    (named : ∀ file ∈ common.files, file.getLast? = some Config.fileName) :
    NoVariablesFile common := by
  intro directory member
  have free : '/' ∉ VariablesFile.fileName.toList := by decide
  have last := World.getLast?_goal_join common.directory directory free (by decide) (by decide)
  rw [named _ member] at last
  exact absurd last (by decide)

theorem PairedAnyhow.of_worlds {one other one' other' : Observed}
    (paired : PairedAnyhow common one other) (world : one'.world = one.world) (world' : other'.world = other.world) :
    PairedAnyhow common one' other' := by
  obtain ⟨environment, paired⟩ := paired
  refine ⟨environment, ?_⟩
  rw [Paired, world, world']
  exact paired

/-- Hosts that are such a pair before each loads its configuration are one afterwards. -/
theorem pairedAnyhow_of_loaded {one other loaded loaded' : Observed} {named named' : Option String}
    {config config' : Config} (paired : Paired common one other)
    (both : named'.isSome = named.isSome)
    (searched : named = none → ∀ file ∈ common.files, file.getLast? = some Config.fileName)
    (loads : (CommandLine.loadConfig named).on one = (.ok config, loaded))
    (loads' : (CommandLine.loadConfig named').on other = (.ok config', loaded')) :
    PairedAnyhow common loaded loaded' := by
  have anyhow : PairedAnyhow common one other := ⟨common.environment, paired⟩
  have world : loaded.world = _ := congrArg (·.2.world) loads.symm
  have world' : loaded'.world = _ := congrArg (·.2.world) loads'.symm
  cases named with
  | some path =>
    obtain ⟨path', rfl⟩ := Option.isSome_iff_exists.mp both
    exact anyhow.of_worlds (world.trans (world_loadConfig_named path one))
      (world'.trans (world_loadConfig_named path' other))
  | none =>
    cases named' with
    | some path' => cases both
    | none =>
      have after := inStep_loadVariables (noVariablesFile (searched rfl)) one other anyhow
      exact after.2.of_worlds (world.trans (world_loadConfig_none one))
        (world'.trans (world_loadConfig_none other))

end Observed

end TypeTokenWrappers
