import TypeTokenWrappers.Tasks.TaskSet

/-! # Typed operations on any container

What a container does when it is asked through its typed operations, step by step and over
whole runs. Of the container only this is known: it finds the first element of a name, it
creates each name once, and being asked changes nothing. Which questions the typed operations
ask, and what they configure, is taken down beside the container, whatever it may do inside. -/

namespace TypeTokenWrappers

section Containers

variable {Token : Type} [ElementTypes Token] {σ : Type}

/-- What can be seen of a container: its named elements in order, and its own name. -/
structure ContainerView (Token : Type) [ElementTypes Token] (σ : Type) where
  elements : σ → List (String × Element Token)
  title : σ → String

/-- Whether two states of a container look alike. -/
structure ContainerView.Alike (view : ContainerView Token σ) (state other : σ) : Prop where
  elements : view.elements other = view.elements state
  title : view.title other = view.title state

/-- A container that finds the first element of a name. `get` fails as for an unknown element
exactly where `find?` finds nothing. `create` refuses a name that is there already; if it
succeeds, it adds one element at the end. -/
structure Container.Lawful (container : Container Token (StateM σ))
    (view : ContainerView Token σ) : Prop where
  find : ∀ name state,
    ((container.find? name).run state).1 = (view.elements state).lookup name ∧
      view.Alike state ((container.find? name).run state).2
  get : ∀ name state,
    (match (view.elements state).lookup name with
      | some element => ((container.get name).run state).1 = .ok element
      | none => ∃ unknown title,
          ((container.get name).run state).1 = .error (.unknownElement unknown title)) ∧
      view.Alike state ((container.get name).run state).2
  made : ∀ {name type arguments state element after},
    (container.create name type arguments).run state = (.ok element, after) →
      (view.elements state).lookup name = none ∧
        view.elements after = view.elements state ++ [(name, element)]
  refused : ∀ {name type arguments state error after},
    (container.create name type arguments).run state = (.error error, after) →
      view.Alike state after
  displayName : ∀ state,
    (container.displayName.run state).1 = view.title state ∧
      view.Alike state (container.displayName.run state).2

theorem ContainerView.Alike.trans {view : ContainerView Token σ} {first second third : σ}
    (one : view.Alike first second) (two : view.Alike second third) : view.Alike first third :=
  ⟨two.elements.trans one.elements, two.title.trans one.title⟩

/-- A container with the questions that it was asked from outside and the elements that were
configured, the latest last. -/
structure Watched (Token : Type) [ElementTypes Token] (σ : Type) where
  state : σ
  calls : List (ContainerCall Token)
  configured : List (Element Token)

namespace Watched

def noting (call : ContainerCall Token) (action : StateM σ α) : StateM (Watched Token σ) α :=
  fun watched =>
    let (answer, state) := action.run watched.state
    (answer, { watched with state, calls := watched.calls ++ [call] })

def configure (token : Token) (value : ElementTypes.Value token) :
    StateM (Watched Token σ) Unit :=
  modify fun watched => { watched with configured := watched.configured ++ [⟨token, value⟩] }

end Watched

namespace Container

/-- The container with a record of what it is asked. -/
def watch (container : Container Token (StateM σ)) :
    Container Token (StateM (Watched Token σ)) where
  create name type arguments :=
    Watched.noting (.create name type (arguments.map (·.token)))
      (container.create name type arguments)
  get name := Watched.noting (.get name) (container.get name)
  find? name := Watched.noting (.find name) (container.find? name)
  displayName := Watched.noting .displayName container.displayName

end Container

namespace TaskStep

def name : TaskStep Token → String
  | .create name _ _ | .get name _ | .find name _ => name

def requested : TaskStep Token → Token
  | .create _ requested _ | .get _ requested | .find _ requested => requested

/-- The question that a step asks of the container. -/
def call : TaskStep Token → ContainerCall Token
  | .create name requested arguments => .create name requested (arguments.map (·.token))
  | .get name _ => .get name
  | .find name _ => .find name

/-- What the container says to that question, whatever type was requested, and how it is left. -/
def ask (container : Container Token (StateM σ)) (state : σ) :
    TaskStep Token → Except Error (Option (Element Token)) × σ
  | .create name requested arguments =>
    ((container.create name requested arguments).run state).map (·.map some) id
  | .get name _ => ((container.get name).run state).map (·.map some) id
  | .find name _ => ((container.find? name).run state).map .ok id

/-- The elements that the container adds in a step. -/
def created (container : Container Token (StateM σ)) (step : TaskStep Token)
    (watched : Watched Token σ) : List (String × Element Token) :=
  match step with
  | .create name requested arguments =>
    match ((container.create name requested arguments).run watched.state).1 with
    | .ok element => [(name, element)]
    | .error _ => []
  | .get _ _ | .find _ _ => []

/-- The elements that a step configures if this is the answer to it. -/
def configures (answer : Except Error (Option (Element Token))) :
    TaskStep Token → List (Element Token)
  | .get _ _ =>
    match answer with
    | .ok (some element) => [element]
    | _ => []
  | .create _ _ _ | .find _ _ => []

variable [DecidableEq Token]

/-- Carries a step out on any container. -/
def carryOut {m : Type → Type} [Monad m] (container : Container Token m)
    (configure : (token : Token) → ElementTypes.Value token → m Unit) :
    TaskStep Token → m (Except Error (Option (Element Token)))
  | .create name requested arguments => do
    let made ← container.createAs name requested arguments
    return made.map fun value => some ⟨requested, value⟩
  | .get name requested => do
    let found ← container.getAs name requested (configure requested)
    return found.map fun value => some ⟨requested, value⟩
  | .find name requested => do
    let found ← container.findAs? name requested
    return found.map fun value => value.map fun value => ⟨requested, value⟩

theorem run_eq_carryOut (make : TaskSet.Maker Token) (step : TaskStep Token) :
    step.run make = step.carryOut (TaskSet.container make) TaskSet.configure := by
  cases step <;> rfl

/-- The type of the given element, if it is not the requested one. -/
def mistyped? (requested : Token) :
    (given : Except Error (Option (Element Token))) → Option Token
  | .ok (some element) => if element.token = requested then none else some element.token
  | _ => none

/-- What a step asks: its own question, and the container's name if the element that the
container gives has another type than the requested one. -/
def asks (container : Container Token (StateM σ)) (step : TaskStep Token)
    (watched : Watched Token σ) : List (ContainerCall Token) :=
  step.call ::
    if (mistyped? step.requested (step.ask container watched.state).1).isSome
    then [.displayName] else []

end TaskStep

variable [DecidableEq Token]

theorem Element.as?_eq_some_iff (element : Element Token) (requested : Token)
    (value : ElementTypes.Value requested) :
    element.as? requested = some value ↔ element = ⟨requested, value⟩ := by
  obtain ⟨token, own⟩ := element
  unfold Element.as?
  split
  · next same =>
    cases same
    simp
  · next other =>
    simp only [reduceCtorEq, Element.mk.injEq, false_iff, not_and]
    exact fun same => absurd same other

theorem Element.as?_eq_none_iff (element : Element Token) (requested : Token) :
    element.as? requested = none ↔ element.token ≠ requested := by
  unfold Element.as?
  split <;> simp_all

/-! ## One step -/

namespace Watched

/-- What is left when the container was asked and is in this state now. -/
def asked (watched : Watched Token σ) (call : ContainerCall Token) (state : σ) :
    Watched Token σ :=
  ⟨state, watched.calls ++ [call], watched.configured⟩

omit [DecidableEq Token] in
theorem run_noting {action : StateM σ α} {watched : Watched Token σ} {answer : α} {state : σ}
    (call : ContainerCall Token) (runs : action.run watched.state = (answer, state)) :
    (noting call action).run watched = (answer, watched.asked call state) := by
  change ((action.run watched.state).1, watched.asked call (action.run watched.state).2) = _
  rw [runs]

end Watched

variable (container : Container Token (StateM σ))

theorem run_watch_cast (name : String) (requested : Token) (element : Element Token)
    (watched : Watched Token σ) :
    (container.watch.cast name requested element).run watched =
      match element.as? requested with
      | some value => (.ok value, watched)
      | none =>
        let (title, state) := container.displayName.run watched.state
        (.error (Container.castError name element.token requested title),
          watched.asked .displayName state) := by
  unfold Container.cast
  cases element.as? requested <;> rfl

theorem run_watch_createAs (name : String) (requested : Token)
    (arguments : List (Element Token)) (watched : Watched Token σ) :
    (container.watch.createAs name requested arguments).run watched =
      let (answer, state) := (container.create name requested arguments).run watched.state
      let watched := watched.asked (.create name requested (arguments.map (·.token))) state
      match answer with
      | .ok element => (container.watch.cast name requested element).run watched
      | .error error => (.error error, watched) := by
  rcases answer : (container.create name requested arguments).run watched.state with
    ⟨_ | element, state⟩ <;>
  · have asked : (container.watch.create name requested arguments).run watched = _ :=
      Watched.run_noting _ answer
    rw [Container.createAs, StateT.run_bind, asked]
    rfl

theorem run_watch_getAs (name : String) (requested : Token)
    (configure : ElementTypes.Value requested → StateM (Watched Token σ) Unit)
    (watched : Watched Token σ) :
    (container.watch.getAs name requested configure).run watched =
      let (answer, state) := (container.get name).run watched.state
      let watched := watched.asked (.get name) state
      match answer with
      | .error error => (.error error, watched)
      | .ok element =>
        match (container.watch.cast name requested element).run watched with
        | (.error error, watched) => (.error error, watched)
        | (.ok value, watched) => (.ok value, ((configure value).run watched).2) := by
  rcases answer : (container.get name).run watched.state with ⟨_ | element, state⟩ <;>
    have asked : (container.watch.get name).run watched = _ := Watched.run_noting _ answer <;>
    rw [Container.getAs, StateT.run_bind, asked]
  · rfl
  · change StateT.run (container.watch.cast name requested element >>= _) _ = _
    simp only [StateT.run_bind, run_watch_cast]
    cases element.as? requested <;> rfl

theorem run_watch_findAs (name : String) (requested : Token) (watched : Watched Token σ) :
    (container.watch.findAs? name requested).run watched =
      let (answer, state) := (container.find? name).run watched.state
      let watched := watched.asked (.find name) state
      match answer with
      | none => (.ok none, watched)
      | some element =>
        let (answer, watched) := (container.watch.cast name requested element).run watched
        (answer.map some, watched) := by
  rcases answer : (container.find? name).run watched.state with ⟨_ | element, state⟩ <;>
  · have asked : (container.watch.find? name).run watched = _ := Watched.run_noting _ answer
    rw [Container.findAs?, StateT.run_bind, asked]
    rfl

theorem mistyped?_of_as?_eq_some {requested : Token} {value : ElementTypes.Value requested}
    {element : Element Token} (typed : element.as? requested = some value) :
    TaskStep.mistyped? requested (.ok (some element)) = none := by
  rw [(element.as?_eq_some_iff requested value).mp typed]
  exact if_pos rfl

theorem mistyped?_of_as?_eq_none {requested : Token} {element : Element Token}
    (typed : element.as? requested = none) :
    TaskStep.mistyped? requested (.ok (some element)) = some element.token :=
  if_neg ((element.as?_eq_none_iff requested).mp typed)

/-- A step in full. The container's answer to the step's question is passed on, and configured
if it is asked for; only an element of another type is refused, under the container's name. -/
theorem run_carryOut (step : TaskStep Token) (watched : Watched Token σ) :
    (step.carryOut container.watch Watched.configure).run watched =
      let (given, state) := step.ask container watched.state
      let watched := watched.asked step.call state
      match TaskStep.mistyped? step.requested given with
      | none => (given, { watched with configured := watched.configured ++ step.configures given })
      | some token =>
        let (title, state) := container.displayName.run state
        (.error (Container.castError step.name token step.requested title),
          watched.asked .displayName state) := by
  cases step with
  | create name requested arguments =>
    change Prod.map (Except.map fun value => some (Element.mk requested value)) id
      ((container.watch.createAs name requested arguments).run _) = _
    rw [run_watch_createAs, TaskStep.ask, TaskStep.requested]
    rcases (container.create name requested arguments).run watched.state with
      ⟨_ | element, state⟩
    · simp [TaskStep.mistyped?, TaskStep.configures, TaskStep.call, Except.map]
    · rcases typed : element.as? requested with _ | value
      · simp only [run_watch_cast, typed, Prod.map, Except.map, mistyped?_of_as?_eq_none]
        rfl
      · cases (element.as?_eq_some_iff requested value).mp typed
        simp only [run_watch_cast, typed, Prod.map, Except.map, mistyped?_of_as?_eq_some typed,
          TaskStep.configures, List.append_nil]
        rfl
  | get name requested =>
    change Prod.map (Except.map fun value => some (Element.mk requested value)) id
      ((container.watch.getAs name requested _).run _) = _
    rw [run_watch_getAs, TaskStep.ask, TaskStep.requested]
    rcases (container.get name).run watched.state with ⟨_ | element, state⟩
    · simp [TaskStep.mistyped?, TaskStep.configures, TaskStep.call, Except.map]
    · rcases typed : element.as? requested with _ | value
      · simp only [run_watch_cast, typed, Prod.map, Except.map, mistyped?_of_as?_eq_none]
        rfl
      · cases (element.as?_eq_some_iff requested value).mp typed
        simp only [run_watch_cast, typed, Prod.map, Except.map, mistyped?_of_as?_eq_some typed,
          TaskStep.configures]
        rfl
  | find name requested =>
    change Prod.map (Except.map (Option.map fun value => Element.mk requested value)) id
      ((container.watch.findAs? name requested).run _) = _
    rw [run_watch_findAs, TaskStep.ask, TaskStep.requested]
    rcases (container.find? name).run watched.state with ⟨_ | element, state⟩
    · simp [TaskStep.mistyped?, TaskStep.configures, TaskStep.call, Except.map]
    · rcases typed : element.as? requested with _ | value
      · simp only [run_watch_cast, typed, Prod.map, Except.map, mistyped?_of_as?_eq_none]
        rfl
      · cases (element.as?_eq_some_iff requested value).mp typed
        simp only [run_watch_cast, typed, Prod.map, Except.map, mistyped?_of_as?_eq_some typed,
          TaskStep.configures, List.append_nil]
        rfl

namespace TaskStep

def answer (step : TaskStep Token) (watched : Watched Token σ) :
    Except Error (Option (Element Token)) :=
  ((step.carryOut container.watch Watched.configure).run watched).1

def after (step : TaskStep Token) (watched : Watched Token σ) : Watched Token σ :=
  ((step.carryOut container.watch Watched.configure).run watched).2

/-- What a step does to the container and to the record of it. -/
structure Effect (view : ContainerView Token σ) (step : TaskStep Token)
    (watched : Watched Token σ) : Prop where
  elements : view.elements (step.after container watched).state =
    view.elements watched.state ++ step.created container watched
  kept : step.created container watched = [] →
    view.Alike watched.state (step.after container watched).state
  calls : (step.after container watched).calls = watched.calls ++ step.asks container watched
  configured : (step.after container watched).configured =
    watched.configured ++ step.configures (step.answer container watched)

end TaskStep

variable {container} {view : ContainerView Token σ}

omit [DecidableEq Token] in
/-- What the container's own operation does, before any type is looked at. -/
theorem elements_ask (lawful : container.Lawful view) (step : TaskStep Token)
    (watched : Watched Token σ) :
    view.elements (step.ask container watched.state).2 =
        view.elements watched.state ++ step.created container watched ∧
      (step.created container watched = [] →
        view.Alike watched.state (step.ask container watched.state).2) := by
  cases step with
  | create name requested arguments =>
    rw [TaskStep.ask, TaskStep.created]
    rcases run : (container.create name requested arguments).run watched.state with
      ⟨_ | element, state⟩
    · have kept := lawful.refused run
      exact ⟨by rw [List.append_nil]; exact kept.elements, fun _ => kept⟩
    · exact ⟨(lawful.made run).2, nofun⟩
  | get name requested =>
    have kept := (lawful.get name watched.state).2
    exact ⟨by rw [TaskStep.created, List.append_nil]; exact kept.elements, fun _ => kept⟩
  | find name requested =>
    have kept := (lawful.find name watched.state).2
    exact ⟨by rw [TaskStep.created, List.append_nil]; exact kept.elements, fun _ => kept⟩

omit [DecidableEq Token] in
theorem configures_error (step : TaskStep Token) (error : Error) :
    step.configures (.error error) = [] := by
  cases step <;> rfl

theorem effect (lawful : container.Lawful view) (step : TaskStep Token)
    (watched : Watched Token σ) : step.Effect container view watched := by
  have run := run_carryOut container step watched
  obtain ⟨adds, keeps⟩ := elements_ask lawful step watched
  rcases asked : step.ask container watched.state with ⟨given, state⟩
  rw [asked] at run adds keeps
  rcases typed : TaskStep.mistyped? step.requested given with _ | token
  · simp only [typed] at run
    constructor
    · rw [TaskStep.after, run]
      exact adds
    · rw [TaskStep.after, run]
      exact keeps
    · rw [TaskStep.after, run, TaskStep.asks, asked, typed]
      rfl
    · rw [TaskStep.after, TaskStep.answer, run]
      rfl
  · simp only [typed] at run
    have named := (lawful.displayName state).2
    constructor
    · rw [TaskStep.after, run]
      exact named.elements.trans adds
    · rw [TaskStep.after, run]
      exact fun none => (keeps none).trans named
    · rw [TaskStep.after, run, TaskStep.asks, asked, typed]
      exact List.append_assoc ..
    · rw [TaskStep.after, TaskStep.answer, run]
      exact ((congrArg _ (configures_error step _)).trans (List.append_nil _)).symm

/-! ## Whole runs -/

namespace Container

variable (container)

def afterAll (steps : List (TaskStep Token)) (start : Watched Token σ) : Watched Token σ :=
  steps.foldl (fun watched step => step.after container watched) start

/-- What a run yields step after step, each step in the state in which it finds the container. -/
def gathered (yields : TaskStep Token → Watched Token σ → List α) :
    List (TaskStep Token) → Watched Token σ → List α
  | [], _ => []
  | step :: steps, watched =>
    yields step watched ++ gathered yields steps (step.after container watched)

variable {container}

theorem read_afterAll (read : Watched Token σ → List α)
    {yields : TaskStep Token → Watched Token σ → List α}
    (grows : ∀ step watched, read (step.after container watched) =
      read watched ++ yields step watched)
    (steps : List (TaskStep Token)) (start : Watched Token σ) :
    read (container.afterAll steps start) =
      read start ++ container.gathered yields steps start := by
  induction steps generalizing start with
  | nil => exact (List.append_nil _).symm
  | cons step steps induction =>
    rw [gathered, ← List.append_assoc, ← grows]
    exact induction (step.after container start)

end Container

/-! ## The two lookups -/

/-- The two lookups of a name at a type find the same and refuse the same, and differ only where
the name is missing. -/
structure Container.LookupsAgree (container : Container Token (StateM σ))
    (view : ContainerView Token σ) (name : String) (requested : Token)
    (watched : Watched Token σ) : Prop where
  got : view.Alike watched.state
    ((container.watch.getAs name requested fun _ => pure ()).run watched).2.state
  found : view.Alike watched.state
    ((container.watch.findAs? name requested).run watched).2.state
  value : ∀ value,
    ((container.watch.findAs? name requested).run watched).1 = .ok (some value) ↔
      ((container.watch.getAs name requested fun _ => pure ()).run watched).1 = .ok value
  absent :
    ((container.watch.findAs? name requested).run watched).1 = .ok none ↔
      ∃ unknown title,
        ((container.watch.getAs name requested fun _ => pure ()).run watched).1 =
          .error (.unknownElement unknown title)
  mistyped : ∀ message,
    ((container.watch.findAs? name requested).run watched).1 = .error (.illegalState message) ↔
      ((container.watch.getAs name requested fun _ => pure ()).run watched).1 =
        .error (.illegalState message)
  configured : ∀ configure,
    (container.watch.getAs name requested configure).run watched =
      match (container.watch.getAs name requested fun _ => pure ()).run watched with
      | (.ok value, after) => (.ok value, ((configure value).run after).2)
      | (.error error, after) => (.error error, after)

variable (container) in
theorem getAs_configured (name : String) (requested : Token)
    (configure : ElementTypes.Value requested → StateM (Watched Token σ) Unit)
    (watched : Watched Token σ) :
    (container.watch.getAs name requested configure).run watched =
      match (container.watch.getAs name requested fun _ => pure ()).run watched with
      | (.ok value, after) => (.ok value, ((configure value).run after).2)
      | (.error error, after) => (.error error, after) := by
  simp only [run_watch_getAs, run_watch_cast]
  rcases (container.get name).run watched.state with ⟨_ | element, state⟩
  · rfl
  · rcases typed : element.as? requested with _ | value <;> simp only [typed] <;> rfl

namespace ContainerView

variable (view : ContainerView Token σ)

/-- An element at a type, or its refusal under the name that the container shows. -/
def typed (name : String) (requested : Token) (state : σ) (element : Element Token) :
    Except Error (ElementTypes.Value requested) :=
  match element.as? requested with
  | some value => .ok value
  | none => .error (Container.castError name element.token requested (view.title state))

/-- What there is of a name at a type. -/
def typed? (name : String) (requested : Token) (state : σ) :
    Option (Except Error (ElementTypes.Value requested)) :=
  ((view.elements state).lookup name).map (view.typed name requested state)

end ContainerView

/-- An element looks the same at a type when the container looks the same. -/
theorem ContainerView.typed_congr {state other : σ} (alike : view.Alike state other)
    (name : String) (requested : Token) (element : Element Token) :
    view.typed name requested other element = view.typed name requested state element := by
  rw [typed, typed, alike.title]

theorem cast_of_lawful (lawful : container.Lawful view) (name : String) (requested : Token)
    (element : Element Token) (watched : Watched Token σ) :
    ((container.watch.cast name requested element).run watched).1 =
        view.typed name requested watched.state element ∧
      view.Alike watched.state
        ((container.watch.cast name requested element).run watched).2.state := by
  rw [run_watch_cast, ContainerView.typed]
  obtain ⟨title, named⟩ := lawful.displayName watched.state
  cases element.as? requested with
  | none =>
    simp only [← title]
    exact ⟨rfl, named⟩
  | some value => exact ⟨rfl, rfl, rfl⟩

theorem findAs_of_lawful (lawful : container.Lawful view) (name : String) (requested : Token)
    (watched : Watched Token σ) :
    ((container.watch.findAs? name requested).run watched).1 =
        (match view.typed? name requested watched.state with
          | none => .ok none
          | some verdict => verdict.map some) ∧
      view.Alike watched.state
        ((container.watch.findAs? name requested).run watched).2.state := by
  obtain ⟨finds, kept⟩ := lawful.find name watched.state
  rcases run : (container.find? name).run watched.state with ⟨found, state⟩
  rw [run] at finds kept
  subst finds
  rw [run_watch_findAs, run, ContainerView.typed?]
  cases (view.elements watched.state).lookup name with
  | none => exact ⟨rfl, kept⟩
  | some element =>
    obtain ⟨answer, named⟩ :=
      cast_of_lawful lawful name requested element (watched.asked (.find name) state)
    refine ⟨?_, kept.trans named⟩
    exact congrArg (Except.map some) (answer.trans (view.typed_congr kept name requested element))

theorem getAs_of_lawful (lawful : container.Lawful view) (name : String) (requested : Token)
    (watched : Watched Token σ) :
    (match view.typed? name requested watched.state with
      | none => ∃ unknown title,
          ((container.watch.getAs name requested fun _ => pure ()).run watched).1 =
            .error (.unknownElement unknown title)
      | some verdict =>
          ((container.watch.getAs name requested fun _ => pure ()).run watched).1 = verdict) ∧
      view.Alike watched.state
        ((container.watch.getAs name requested fun _ => pure ()).run watched).2.state := by
  obtain ⟨gets, kept⟩ := lawful.get name watched.state
  rcases run : (container.get name).run watched.state with ⟨got, state⟩
  rw [run] at gets kept
  rw [run_watch_getAs, run, ContainerView.typed?]
  cases looked : (view.elements watched.state).lookup name with
  | none =>
    simp only [looked] at gets
    obtain ⟨unknown, title, rfl⟩ := gets
    exact ⟨⟨unknown, title, rfl⟩, kept⟩
  | some element =>
    simp only [looked] at gets
    subst gets
    obtain ⟨answer, named⟩ :=
      cast_of_lawful lawful name requested element (watched.asked (.get name) state)
    have answer := answer.trans (view.typed_congr kept name requested element)
    simp only
    rcases cast : (container.watch.cast name requested element).run
      (watched.asked (.get name) state) with ⟨_ | value, after⟩ <;>
    · rw [cast] at answer named
      exact ⟨answer, kept.trans named⟩

theorem ContainerView.illegalState_of_typed? {name : String} {requested : Token} {state : σ}
    {error : Error} (refused : view.typed? name requested state = some (.error error)) :
    ∃ message, error = .illegalState message := by
  obtain ⟨element, -, refused⟩ := Option.map_eq_some_iff.mp refused
  unfold typed at refused
  split at refused <;> cases refused
  exact ⟨_, rfl⟩

theorem lookupsAgree (lawful : container.Lawful view) (name : String) (requested : Token)
    (watched : Watched Token σ) : container.LookupsAgree view name requested watched := by
  obtain ⟨finds, found⟩ := findAs_of_lawful lawful name requested watched
  obtain ⟨gets, got⟩ := getAs_of_lawful lawful name requested watched
  have configured := getAs_configured container name requested
  rcases verdict : view.typed? name requested watched.state with _ | error | value <;>
    simp only [verdict] at finds gets
  · obtain ⟨unknown, title, gets⟩ := gets
    refine ⟨got, found, ?_, ?_, ?_, (configured · watched)⟩ <;> simp [finds, gets]
  · obtain ⟨message, rfl⟩ := ContainerView.illegalState_of_typed? verdict
    refine ⟨got, found, ?_, ?_, ?_, (configured · watched)⟩ <;> simp [finds, gets, Except.map]
  · refine ⟨got, found, ?_, ?_, ?_, (configured · watched)⟩ <;> simp [finds, gets, Except.map]

/-- Typed operations over whole runs. However a run has gone, its container holds what it held
before and what the successful creations of the run added; it was asked one question a step,
and its name where an element had another type than the requested one; and what the run
configured is what getting succeeded in. Each step adds to this in the same way, and the two
lookups agree. -/
theorem typed_steps_accounted (lawful : container.Lawful view) (start : Watched Token σ)
    (steps : List (TaskStep Token)) :
    let reached := container.afterAll steps start
    view.elements reached.state =
        view.elements start.state ++ container.gathered (TaskStep.created container) steps start ∧
      reached.calls = start.calls ++ container.gathered (TaskStep.asks container) steps start ∧
      reached.configured = start.configured ++
        container.gathered (fun step watched => step.configures (step.answer container watched))
          steps start ∧
      (∀ step : TaskStep Token, step.Effect container view reached) ∧
      ∀ name requested, container.LookupsAgree view name requested reached :=
  ⟨Container.read_afterAll (fun watched => view.elements watched.state)
      (fun step watched => (effect lawful step watched).elements) steps start,
    Container.read_afterAll Watched.calls
      (fun step watched => (effect lawful step watched).calls) steps start,
    Container.read_afterAll Watched.configured
      (fun step watched => (effect lawful step watched).configured) steps start,
    fun step => effect lawful step _, fun name requested => lookupsAgree lawful name requested _⟩

end Containers

/-! ## Task sets -/

namespace TaskSet

variable {Token : Type} [ElementTypes Token]

def look : ContainerView Token (TaskSet Token) := ⟨tasks, displayName⟩

theorem run_create (make : Maker Token) (name : String) (type : Token)
    (arguments : List (Element Token)) (set : TaskSet Token) :
    ((container make).create name type arguments).run set =
      let noted := { set with
        calls := set.calls ++ [.create name type (arguments.map (·.token))] }
      match set.task? name with
      | some _ => (.error (.illegalState s!"task '{name}' already exists"), noted)
      | none =>
        (.ok (make name type arguments),
          { noted with tasks := set.tasks ++ [(name, make name type arguments)] }) := by
  change StateT.run (match set.task? name with | some _ => _ | none => _) _ = _
  cases set.task? name <;> rfl

theorem run_get (make : Maker Token) (name : String) (set : TaskSet Token) :
    ((container make).get name).run set =
      (match set.task? name with
        | some element => .ok element
        | none => .error (.unknownElement name set.displayName),
        { set with calls := set.calls ++ [.get name] }) := by
  change StateT.run (match set.task? name with | some _ => _ | none => _) _ = _
  cases set.task? name <;> rfl

theorem lawful_container (make : Maker Token) : (container make).Lawful look where
  find name set := ⟨rfl, rfl, rfl⟩
  get name set := by
    rw [run_get, task?]
    refine ⟨?_, rfl, rfl⟩
    change match set.tasks.lookup name with | some _ => _ | none => _
    cases set.tasks.lookup name with
    | none => exact ⟨name, set.displayName, rfl⟩
    | some element => rfl
  made {name type arguments set element after} made := by
    rw [run_create, task?] at made
    rcases looked : set.tasks.lookup name with _ | there <;> rw [looked] at made <;> cases made
    exact ⟨looked, rfl⟩
  refused {name type arguments set error after} refused := by
    rw [run_create] at refused
    rcases looked : set.task? name with _ | there <;> rw [looked] at refused <;> cases refused
    exact ⟨rfl, rfl⟩
  displayName set := ⟨rfl, rfl, rfl⟩

/-- Two kinds of tasks for the run below. -/
inductive SampleType where
  | copy
  | archive
deriving DecidableEq

instance : ElementTypes SampleType where
  Value
    | .copy => String
    | .archive => Nat
  typeName
    | .copy => "Copy"
    | .archive => "Jar"

/-- Makes copies only, whatever type is requested. -/
def makeCopy : Maker SampleType := fun name _ _ => ⟨.copy, name⟩

/-- A run that meets an element of another type, creates one, is refused a second of the name,
configures it and misses one. -/
theorem typed_steps_accounted_makeCopy :
    (container makeCopy).Lawful look ∧
      let start : Watched SampleType (TaskSet SampleType) :=
        ⟨.ofTasks "tasks" [("first", ⟨.copy, "x"⟩)], [], []⟩
      let reached := (container makeCopy).afterAll [.get "first" .archive,
        .create "second" .archive [], .create "second" .copy [], .get "second" .copy,
        .find "third" .copy] start
      look.elements reached.state = [("first", ⟨.copy, "x"⟩), ("second", ⟨.copy, "second"⟩)] ∧
        reached.calls = [.get "first", .displayName, .create "second" .archive [], .displayName,
          .create "second" .copy [], .get "second", .find "third"] ∧
        reached.configured = [⟨.copy, "second"⟩] ∧
        (∀ step : TaskStep SampleType, step.Effect (container makeCopy) look reached) ∧
        ∀ name requested, (container makeCopy).LookupsAgree look name requested reached := by
  have lawful := lawful_container makeCopy
  obtain ⟨elements, calls, configured, others⟩ := typed_steps_accounted lawful
    ⟨.ofTasks "tasks" [("first", ⟨.copy, "x"⟩)], [], []⟩
    [.get "first" .archive, .create "second" .archive [], .create "second" .copy [],
      .get "second" .copy, .find "third" .copy]
  exact ⟨lawful, elements.trans rfl, calls.trans rfl, configured.trans rfl, others⟩

end TaskSet

end TypeTokenWrappers
