import Mathlib.Order.Defs.Unbundled
import TypeTokenWrappers.Files.World

/-! # Running programs on a modelled host

What a program answers and how it leaves its host, for each way in which programs
are put together. -/

namespace TypeTokenWrappers.Program

variable {σ : Type}

/-- Runs a program from a state of its host. -/
def on (program : Program (StateM σ) α) (state : σ) : Except Error α × σ :=
  program.run.run state

/-- Goes on behind a program unless it has failed. -/
def next (following : α → Program (StateM σ) β) :
    Except Error α × σ → Except Error β × σ
  | (.ok value, state) => (following value).on state
  | (.error error, state) => (.error error, state)

@[simp] theorem next_ok (following : α → Program (StateM σ) β) (value : α) (state : σ) :
    next following (.ok value, state) = (following value).on state := rfl

@[simp] theorem next_error (following : α → Program (StateM σ) β) (error : Error) (state : σ) :
    next following (.error error, state) = (.error error, state) := rfl

@[simp] theorem on_pure (value : α) (state : σ) :
    on (pure value : Program (StateM σ) α) state = (.ok value, state) := rfl

@[simp] theorem on_bind (program : Program (StateM σ) α)
    (following : α → Program (StateM σ) β) (state : σ) :
    (program >>= following).on state = next following (program.on state) := by
  change StateT.run (ExceptT.bindCont following (program.on state).1) (program.on state).2 = _
  rcases program.on state with ⟨_ | _, _⟩ <;> rfl

theorem exists_of_on_bind {program : Program (StateM σ) α}
    {following : α → Program (StateM σ) β} {value : β} {state last : σ}
    (ran : (program >>= following).on state = (.ok value, last)) :
    ∃ first middle, program.on state = (.ok first, middle) ∧
      (following first).on middle = (.ok value, last) := by
  rw [on_bind] at ran
  rcases first : program.on state with ⟨error | value, middle⟩
  · rw [first] at ran
    cases ran
  · rw [first] at ran
    exact ⟨_, _, rfl, ran⟩

theorem on_tryCatch (program : Program (StateM σ) α)
    (handler : Error → Program (StateM σ) α) (state : σ) :
    on (tryCatch program handler) state =
      match program.on state with
      | (.ok value, after) => (.ok value, after)
      | (.error error, after) => (handler error).on after := by
  rw [on, ExceptT.run_tryCatch, StateT.run_bind]
  rcases ran : program.on state with ⟨error | value, after⟩ <;> rw [on] at ran <;> rw [ran]
  · rfl
  · rfl

/-- An action of the host, whose failure is an answer like any other. -/
@[simp] theorem on_lift (action : StateM σ α) (state : σ) :
    on (liftM action : Program (StateM σ) α) state =
      (.ok (action.run state).1, (action.run state).2) := rfl

@[simp] theorem on_exceptLift (action : StateM σ α) (state : σ) :
    on (ExceptT.lift action : Program (StateM σ) α) state =
      (.ok (action.run state).1, (action.run state).2) := rfl

@[simp] theorem on_except (result : Except Error α) (state : σ) :
    on (liftM result : Program (StateM σ) α) state = (result, state) := by
  cases result <;> rfl

theorem on_eq {program : Program (StateM σ) α} {state : σ} {answer : Except Error α}
    (answers : (program.on state).1 = answer) :
    program.on state = (answer, (program.on state).2) :=
  Prod.ext answers rfl

/-- The failure of an action as that of the program. -/
def answer : Except IoError α → Except Error α := Except.mapError .io

@[simp] theorem on_require (action : StateM σ (Except IoError α)) (state : σ) :
    on (require action) state = (answer (action.run state).1, (action.run state).2) := by
  rw [require, on_bind, on_lift]
  rcases action.run state with ⟨_ | _, _⟩ <;> rfl

/-! ## What every run keeps -/

/-- Whether a program, however it ends, leaves each state in this relation to what comes
out of it. -/
def Leads (relation : σ → σ → Prop) (program : Program (StateM σ) α) : Prop :=
  ∀ state, relation state (program.on state).2

section Leads

variable {relation : σ → σ → Prop} [Std.Refl relation] [IsTrans σ relation]

omit [IsTrans σ relation] in
theorem leads_pure (value : α) : Leads relation (pure value : Program (StateM σ) α) :=
  fun state => Std.Refl.refl state

omit [IsTrans σ relation] in
theorem leads_throw (error : Error) : Leads relation (throw error : Program (StateM σ) α) :=
  fun state => Std.Refl.refl state

omit [Std.Refl relation] in
theorem Leads.bind {program : Program (StateM σ) α} {following : α → Program (StateM σ) β}
    (first : Leads relation program) (second : ∀ value, Leads relation (following value)) :
    Leads relation (program >>= following) := by
  intro state
  have reached := first state
  rw [on_bind]
  rcases ran : program.on state with ⟨error | value, after⟩
  · rwa [ran] at reached
  · rw [ran] at reached
    exact IsTrans.trans _ _ _ reached (second value after)

theorem Leads.forM {body : α → Program (StateM σ) PUnit} (each : ∀ item, Leads relation (body item))
    (list : List α) : Leads relation (list.forM body) := by
  induction list with
  | nil => exact leads_pure _
  | cons item list induction => exact (each item).bind fun _ => induction

theorem Leads.mapM {body : α → Program (StateM σ) β} (each : ∀ item, Leads relation (body item))
    (list : List α) : Leads relation (list.mapM body) := by
  induction list with
  | nil =>
      rw [List.mapM_nil]
      exact leads_pure _
  | cons item list induction =>
      rw [List.mapM_cons]
      exact (each item).bind fun _ => induction.bind fun _ => leads_pure _

end Leads

end TypeTokenWrappers.Program
