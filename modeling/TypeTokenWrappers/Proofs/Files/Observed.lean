import TypeTokenWrappers.Config.Load
import TypeTokenWrappers.Proofs.Files.Program
import TypeTokenWrappers.Proofs.Files.World

/-! # Hosts that are watched

A modelled host that takes down which files are read, one after the other. All else it
does as the modelled host does. -/

namespace TypeTokenWrappers

structure Observed where
  world : World
  /-- The paths under which files were read, the last one last. -/
  opened : List String

namespace Observed

/-- Does something that reads no file. -/
def unseen (action : StateM World α) : StateM Observed α := fun state =>
  let (answer, world) := action.run state.world
  (answer, { state with world })

instance : Host (StateM Observed) where
  fileContent path := do
    modify fun state => { state with opened := state.opened ++ [path] }
    unseen (Host.fileContent path)
  fileSize path := unseen (Host.fileSize path)
  kind? path := unseen (Host.kind? path)
  readTree path := unseen (Host.readTree path)
  makeDirectory path := unseen (Host.makeDirectory path)
  createFile path := unseen (Host.createFile path)
  appendFile path bytes := unseen (Host.appendFile path bytes)
  workingDirectory := unseen Host.workingDirectory
  environmentValue name := unseen (Host.environmentValue name)
  setVariable name value := unseen (Host.setVariable name value)

variable {state after : Observed} {path : String}

@[simp] theorem run_fileContent (path : String) (state : Observed) :
    (Host.fileContent path : StateM Observed _).run state =
      (state.world.fileContent path, { state with opened := state.opened ++ [path] }) := rfl

@[simp] theorem run_fileSize (path : String) (state : Observed) :
    (Host.fileSize path : StateM Observed _).run state = (state.world.fileSize path, state) := rfl

@[simp] theorem run_readTree (path : String) (state : Observed) :
    (Host.readTree path : StateM Observed _).run state = (state.world.readTree path, state) := rfl

@[simp] theorem run_environmentValue (name : String) (state : Observed) :
    (Host.environmentValue name : StateM Observed _).run state =
      (Environment.ofList state.world.environment name, state) := rfl

/-- What a change of the world that may be refused answers and leaves. -/
def changed (state : Observed) : Except IoError World → Except IoError Unit × Observed
  | .ok world => (.ok (), { state with world })
  | .error cause => (.error cause, state)

theorem run_attempt (change : World → Except IoError World) (state : Observed) :
    (unseen (World.attempt change)).run state = state.changed (change state.world) := by
  have attempt : (World.attempt change).run state.world =
      match change state.world with
      | .ok world => (.ok (), world)
      | .error cause => (.error cause, state.world) := by
    rw [World.attempt, StateT.run_bind]
    change StateT.run (match change state.world with | .ok world => _ | .error cause => _)
      state.world = _
    cases change state.world <;> rfl
  change (((World.attempt change).run state.world).1,
    { state with world := ((World.attempt change).run state.world).2 }) = _
  rw [attempt]
  cases change state.world <;> rfl

@[simp] theorem run_makeDirectory (path : String) (state : Observed) :
    (Host.makeDirectory path : StateM Observed _).run state =
      state.changed (state.world.makeDirectory path) :=
  run_attempt (World.makeDirectory · path) state

@[simp] theorem run_createFile (path : String) (state : Observed) :
    (Host.createFile path : StateM Observed _).run state =
      state.changed (state.world.changeFile path fun _ => []) :=
  run_attempt (World.changeFile · path fun _ => []) state

@[simp] theorem run_appendFile (path : String) (bytes : List UInt8) (state : Observed) :
    (Host.appendFile path bytes : StateM Observed _).run state =
      state.changed (state.world.changeFile path (· ++ bytes)) :=
  run_attempt (World.changeFile · path (· ++ bytes)) state

/-- What is added to a file stands behind what was written into it before. -/
theorem appendFile_of_writable {world : World} {place : List String} {content : List UInt8}
    (writable : world.Writable path place) (writes : world.Writes state.world place content)
    (bytes : List UInt8) :
    ∃ after, (Host.appendFile path bytes : StateM Observed _).run state = (.ok (), after) ∧
      after.opened = state.opened ∧ world.Writes after.world place (content ++ bytes) := by
  rcases writable.changeFile writes (· ++ bytes) with ⟨last, changed, written⟩
  exact ⟨{ state with world := last }, by rw [run_appendFile, changed]; rfl, rfl, written⟩

/-! ## Programs that look around or make directories -/

theorem leads_isDirectory {relation : Observed → Observed → Prop} [Std.Refl relation] :
    Program.Leads relation (liftM (Program.isDirectory path : StateM Observed Bool)) :=
  fun state => Std.Refl.refl state

/-- Nothing was read, and what could be seen is still to be seen. -/
structure Grows (state after : Observed) : Prop where
  world : state.world.Grows after.world
  opened : after.opened = state.opened

instance : Std.Refl Grows := ⟨fun state => ⟨World.Grows.refl state.world, rfl⟩⟩

instance : IsTrans Observed Grows :=
  ⟨fun _ _ _ first second =>
    ⟨first.world.trans second.world, second.opened.trans first.opened⟩⟩

theorem leads_makeDirectory (path : String) :
    Program.Leads Grows (liftM (Host.makeDirectory path : StateM Observed _)) := by
  intro state
  rw [Program.on_lift, run_makeDirectory]
  cases made : state.world.makeDirectory path with
  | error cause => exact Std.Refl.refl state
  | ok world => exact ⟨World.grows_of_makeDirectory made, rfl⟩

theorem leads_makeAll (paths : List String) :
    Program.Leads Grows (Program.makeAll paths : Program (StateM Observed) Unit) := by
  apply Program.Leads.forM
  intro path
  refine (leads_makeDirectory path).bind fun made => ?_
  cases made with
  | ok made => exact Program.leads_pure _
  | error cause =>
      refine leads_isDirectory.bind fun there => ?_
      cases there with
      | true => exact Program.leads_pure _
      | false => exact Program.leads_throw _

theorem leads_makeDirectoriesFrom (missing paths : List String) :
    Program.Leads Grows
      (Program.makeDirectoriesFrom missing paths : Program (StateM Observed) Unit) := by
  induction paths generalizing missing with
  | nil => exact leads_makeAll missing
  | cons path above induction =>
      rw [Program.makeDirectoriesFrom]
      split
      · exact leads_makeAll missing
      · refine (leads_makeDirectory path).bind fun made => ?_
        split
        · exact leads_makeAll missing
        · exact induction (missing ++ [path])
        · refine leads_isDirectory.bind fun there => ?_
          cases there with
          | true => exact leads_makeAll missing
          | false => exact Program.leads_throw _

theorem leads_makeDirectories (path : String) :
    Program.Leads Grows (Program.makeDirectories path : Program (StateM Observed) Unit) :=
  leads_makeDirectoriesFrom [] (Path.ancestors path)

/-- Finding the archives of a configuration changes nothing. -/
theorem leads_jarPaths (config : Config) :
    Program.Leads Eq (config.jarPaths : Program (StateM Observed) (List String)) := by
  refine (Program.Leads.mapM (fun directory => ?_) _).bind fun found => Program.leads_pure _
  have below : Program.Leads Eq (Program.require (Host.readTree directory) >>=
      fun tree => pure (tree.archives directory) : Program (StateM Observed) (List String)) := by
    refine Program.Leads.bind (fun state => ?_) fun tree => Program.leads_pure _
    rw [Program.on_require, run_readTree]
  refine leads_isDirectory.bind fun there => ?_
  cases there with
  | true => exact below
  | false => exact (Program.leads_throw _).bind fun _ => below

end Observed

end TypeTokenWrappers
