import TypeTokenWrappers.Proofs.Files.Observed
import TypeTokenWrappers.Proofs.Files.Pair

/-! # Running on two hosts

Rules for two runs, one on each of two hosts that are in a relation. A run keeps the relation if
each of its steps does; what the steps answer has to be related as well, for the runs may go on
with it. -/

namespace TypeTokenWrappers

section Coupled

variable {σ : Type} {relation : σ → σ → Prop}

/-- Whether two actions, run on two hosts in this relation, give related answers and leave the
hosts in the relation. -/
def Coupled (relation : σ → σ → Prop) (answers : α → β → Prop) (action : StateM σ α)
    (action' : StateM σ β) : Prop :=
  ∀ one other, relation one other →
    answers (action.run one).1 (action'.run other).1 ∧
      relation (action.run one).2 (action'.run other).2

theorem Coupled.pure {answers : α → β → Prop} {value : α} {value' : β}
    (related : answers value value') :
    Coupled relation answers (Pure.pure value) (Pure.pure value') :=
  fun _ _ hosts => ⟨related, hosts⟩

theorem Coupled.bind {answers : α → α' → Prop} {results : β → β' → Prop} {action : StateM σ α}
    {action' : StateM σ α'} {following : α → StateM σ β} {following' : α' → StateM σ β'}
    (first : Coupled relation answers action action')
    (second : ∀ value value', answers value value' →
      Coupled relation results (following value) (following' value')) :
    Coupled relation results (action >>= following) (action' >>= following') := by
  intro one other hosts
  obtain ⟨related, after⟩ := first one other hosts
  exact second _ _ related _ _ after

/-- Whether an action gives the same answer on two hosts in this relation, and leaves them in it. -/
def InStep (relation : σ → σ → Prop) (action : StateM σ α) : Prop :=
  Coupled relation Eq action action

theorem InStep.pure (value : α) : InStep relation (Pure.pure value : StateM σ α) :=
  Coupled.pure rfl

theorem InStep.bind {action : StateM σ α} {following : α → StateM σ β}
    (first : InStep relation action) (second : ∀ value, InStep relation (following value)) :
    InStep relation (action >>= following) := by
  refine Coupled.bind first ?_
  rintro value _ rfl
  exact second value

theorem InStep.mapM {body : α → StateM σ β} (each : ∀ item, InStep relation (body item))
    (list : List α) : InStep relation (list.mapM body) := by
  induction list with
  | nil =>
    rw [List.mapM_nil]
    exact InStep.pure _
  | cons item list induction =>
    rw [List.mapM_cons]
    exact (each item).bind fun _ => induction.bind fun _ => InStep.pure _

/-- Two answers with related values, or with related errors. -/
inductive Alike (errors : Error → Error → Prop) (values : α → β → Prop) :
    Except Error α → Except Error β → Prop
  | ok {value : α} {value' : β} (related : values value value') :
      Alike errors values (.ok value) (.ok value')
  | error {error error' : Error} (related : errors error error') :
      Alike errors values (.error error) (.error error')

variable {errors : Error → Error → Prop}

theorem alike_self [Std.Refl errors] (answer : Except Error α) : Alike errors Eq answer answer := by
  cases answer with
  | ok value => exact .ok rfl
  | error error => exact .error (Std.Refl.refl error)

/-- Errors of any kind, which are not told apart. -/
def AnyErrors (_ _ : Error) : Prop := True

instance : Std.Refl AnyErrors := ⟨fun _ => trivial⟩

theorem Alike.eq {answer answer' : Except Error α} (alike : Alike Eq Eq answer answer') :
    answer = answer' := by
  cases alike with
  | ok related => rw [related]
  | error related => rw [related]

theorem Alike.map {values : α → β → Prop} {results : α' → β' → Prop} {answer : Except Error α}
    {answer' : Except Error β} {change : α → α'} {change' : β → β'}
    (alike : Alike errors values answer answer')
    (keeps : ∀ value value', values value value' → results (change value) (change' value')) :
    Alike errors results (answer.map change) (answer'.map change') := by
  cases alike with
  | ok related => exact .ok (keeps _ _ related)
  | error related => exact .error related

namespace Program

/-- Whether two programs, run on such hosts, give such answers. -/
def Coupled (relation : σ → σ → Prop) (errors : Error → Error → Prop) (values : α → β → Prop)
    (program : Program (StateM σ) α) (program' : Program (StateM σ) β) : Prop :=
  TypeTokenWrappers.Coupled relation (Alike errors values) program.run program'.run

theorem coupled_pure {values : α → β → Prop} {value : α} {value' : β}
    (related : values value value') :
    Coupled relation errors values (pure value) (pure value') :=
  TypeTokenWrappers.Coupled.pure (.ok related)

theorem coupled_throw {values : α → β → Prop} {error error' : Error}
    (related : errors error error') :
    Coupled relation errors values (throw error) (throw error') :=
  TypeTokenWrappers.Coupled.pure (.error related)

theorem coupled_except {values : α → β → Prop} {result : Except Error α} {result' : Except Error β}
    (alike : Alike errors values result result') :
    Coupled relation errors values (liftM result) (liftM result') := by
  cases alike with
  | ok related => exact coupled_pure related
  | error related => exact coupled_throw related

theorem Coupled.bind {values : α → α' → Prop} {results : β → β' → Prop}
    {program : Program (StateM σ) α} {program' : Program (StateM σ) α'}
    {following : α → Program (StateM σ) β} {following' : α' → Program (StateM σ) β'}
    (first : Coupled relation errors values program program')
    (second : ∀ value value', values value value' →
      Coupled relation errors results (following value) (following' value')) :
    Coupled relation errors results (program >>= following) (program' >>= following') := by
  change TypeTokenWrappers.Coupled relation (Alike errors results)
    (program.run >>= ExceptT.bindCont following) (program'.run >>= ExceptT.bindCont following')
  refine TypeTokenWrappers.Coupled.bind first fun answer answer' alike => ?_
  cases alike with
  | ok related => exact second _ _ related
  | error related => exact coupled_throw related

theorem coupled_lift {values : α → β → Prop} {action : StateM σ α} {action' : StateM σ β}
    (coupled : TypeTokenWrappers.Coupled relation values action action') :
    Coupled relation errors values (liftM action) (liftM action') :=
  TypeTokenWrappers.Coupled.bind coupled fun _ _ related =>
    TypeTokenWrappers.Coupled.pure (Alike.ok related)

/-- Whether a program gives the same answer on such hosts, and leaves them in the relation. -/
def InStep (relation : σ → σ → Prop) (program : Program (StateM σ) α) : Prop :=
  Coupled relation Eq Eq program program

theorem InStep.coupled [Std.Refl errors] {program : Program (StateM σ) α}
    (inStep : InStep relation program) : Coupled relation errors Eq program program := by
  intro one other hosts
  obtain ⟨alike, after⟩ := inStep one other hosts
  exact ⟨alike.eq ▸ alike_self _, after⟩

theorem inStep_pure (value : α) : InStep relation (pure value : Program (StateM σ) α) :=
  coupled_pure rfl

theorem inStep_throw (error : Error) : InStep relation (throw error : Program (StateM σ) α) :=
  coupled_throw rfl

theorem InStep.bind {program : Program (StateM σ) α} {following : α → Program (StateM σ) β}
    (first : InStep relation program) (second : ∀ value, InStep relation (following value)) :
    InStep relation (program >>= following) := by
  refine Coupled.bind first ?_
  rintro value _ rfl
  exact second value

theorem inStep_lift {action : StateM σ α} (inStep : TypeTokenWrappers.InStep relation action) :
    InStep relation (liftM action : Program (StateM σ) α) :=
  coupled_lift inStep

theorem inStep_require {action : StateM σ (Except IoError α)}
    (inStep : TypeTokenWrappers.InStep relation action) : InStep relation (require action) := by
  apply (inStep_lift inStep).bind
  intro answer
  cases answer with
  | ok value => exact inStep_pure value
  | error cause => exact inStep_throw _

theorem inStep_forM {body : α → Program (StateM σ) PUnit} {list : List α}
    (each : ∀ item ∈ list, InStep relation (body item)) : InStep relation (list.forM body) := by
  induction list with
  | nil => exact inStep_pure _
  | cons item list induction =>
    have ⟨here, others⟩ := List.forall_mem_cons.mp each
    exact here.bind fun _ => induction others

end Program

end Coupled

namespace Observed

variable {common : World.Common} {path : String}

/-- Watched hosts whose worlds are such a pair. -/
def Paired (common : World.Common) (one other : Observed) : Prop :=
  World.Paired common one.world other.world

theorem inStep_environmentValue (name : String) :
    InStep (Paired common) (Host.environmentValue name : StateM Observed _) := by
  intro one other paired
  refine ⟨?_, paired⟩
  rw [run_environmentValue, run_environmentValue, World.Paired.environment paired,
    World.Paired.environment' paired]

theorem inStep_isDirectory (passable : World.Passable common path) :
    InStep (Paired common) (Program.isDirectory path : StateM Observed Bool) := by
  intro one other paired
  refine ⟨?_, paired⟩
  change (one.world.kind? path == _) = (other.world.kind? path == _)
  rw [World.Paired.kind? paired passable]

/-- A change of the world that is made on both hosts. -/
theorem inStep_changed {change : World → Except IoError World}
    {action : StateM Observed (Except IoError Unit)}
    (runs : ∀ state, action.run state = state.changed (change state.world))
    (leads : ∀ one other, World.Paired common one other →
      World.BothLead (World.Paired common) (change one) (change other)) :
    InStep (Paired common) action := by
  intro one other paired
  rw [runs, runs]
  have both := leads one.world other.world paired
  revert both
  rcases change one.world with cause | after <;> rcases change other.world with cause' | after'
  · rintro rfl
    exact ⟨rfl, paired⟩
  · exact False.elim
  · exact False.elim
  · exact fun both => ⟨rfl, both⟩

theorem inStep_makeDirectory (passable : World.Passable common path) :
    InStep (Paired common) (Host.makeDirectory path : StateM Observed _) :=
  inStep_changed (run_makeDirectory path) fun _ _ paired => paired.makeDirectory passable

theorem inStep_createFile (clear : World.Clear common path) :
    InStep (Paired common) (Host.createFile path : StateM Observed _) :=
  inStep_changed (run_createFile path) fun _ _ paired => paired.changeFile clear _

theorem inStep_appendFile (clear : World.Clear common path) (bytes : List UInt8) :
    InStep (Paired common) (Host.appendFile path bytes : StateM Observed _) :=
  inStep_changed (run_appendFile path bytes) fun _ _ paired => paired.changeFile clear _

theorem inStep_fileSize (clear : World.Clear common path) :
    InStep (Paired common) (Host.fileSize path : StateM Observed _) := by
  intro one other paired
  refine ⟨?_, paired⟩
  rw [run_fileSize, run_fileSize, World.fileSize, World.fileSize,
    World.Paired.fileContent paired clear]

theorem inStep_makeAll {paths : List String}
    (passable : ∀ path ∈ paths, World.Passable common path) :
    Program.InStep (Paired common)
      (Program.makeAll paths : Program (StateM Observed) Unit) := by
  apply Program.inStep_forM
  intro path member
  have passable := passable path (List.mem_reverse.mp member)
  refine (Program.inStep_lift (inStep_makeDirectory passable)).bind fun made => ?_
  cases made with
  | ok made => exact Program.inStep_pure _
  | error cause =>
    refine (Program.inStep_lift (inStep_isDirectory passable)).bind fun there => ?_
    cases there with
    | true => exact Program.inStep_pure _
    | false => exact Program.inStep_throw _

theorem inStep_makeDirectoriesFrom {missing paths : List String}
    (passable : ∀ path ∈ missing ++ paths, World.Passable common path) :
    Program.InStep (Paired common)
      (Program.makeDirectoriesFrom missing paths : Program (StateM Observed) Unit) := by
  induction paths generalizing missing with
  | nil =>
    rw [List.append_nil] at passable
    exact inStep_makeAll passable
  | cons path above induction =>
    have ahead : ∀ path ∈ missing, World.Passable common path :=
      fun path member => passable path (List.mem_append_left _ member)
    have here := passable path (List.mem_append_right _ List.mem_cons_self)
    rw [Program.makeDirectoriesFrom]
    split
    · exact inStep_makeAll ahead
    · refine (Program.inStep_lift (inStep_makeDirectory here)).bind fun made => ?_
      split
      · exact inStep_makeAll ahead
      · rw [List.append_cons] at passable
        exact induction passable
      · refine (Program.inStep_lift (inStep_isDirectory here)).bind fun there => ?_
        cases there with
        | true => exact inStep_makeAll ahead
        | false => exact Program.inStep_throw _

theorem inStep_makeDirectories (passable : World.Passable common path) :
    Program.InStep (Paired common)
      (Program.makeDirectories path : Program (StateM Observed) Unit) :=
  inStep_makeDirectoriesFrom fun _ member => passable.above member

end Observed

end TypeTokenWrappers
