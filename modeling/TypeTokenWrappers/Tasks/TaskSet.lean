import TypeTokenWrappers.Tasks.Container

/-! # Task sets

A task set is a container that keeps its elements in the order in which they
were created and finds the first one of a name. It notes what is asked of it and
which elements were configured, the latest last. -/

namespace TypeTokenWrappers

inductive ContainerCall (Token : Type) where
  | create (name : String) (type : Token) (arguments : List Token)
  | get (name : String)
  | find (name : String)
  | displayName
deriving DecidableEq, Repr

structure TaskSet (Token : Type) [ElementTypes Token] where
  displayName : String
  tasks : List (String × Element Token)
  calls : List (ContainerCall Token)
  configured : List (Element Token)

namespace TaskSet

variable {Token : Type} [ElementTypes Token]

def ofTasks (displayName : String) (tasks : List (String × Element Token)) : TaskSet Token :=
  ⟨displayName, tasks, [], []⟩

def task? (set : TaskSet Token) (name : String) : Option (Element Token) :=
  set.tasks.lookup name

def note (call : ContainerCall Token) : StateM (TaskSet Token) Unit :=
  modify fun set => { set with calls := set.calls ++ [call] }

def configure (token : Token) (value : ElementTypes.Value token) : StateM (TaskSet Token) Unit :=
  modify fun set => { set with configured := set.configured ++ [⟨token, value⟩] }

abbrev Maker (Token : Type) [ElementTypes Token] :=
  (name : String) → (type : Token) → (arguments : List (Element Token)) → Element Token

/-- The task set as a container. A name is given only once. -/
def container (make : Maker Token) : Container Token (StateM (TaskSet Token)) where
  create name type arguments := do
    note (.create name type (arguments.map (·.token)))
    let set ← get
    match set.task? name with
    | some _ => return .error (.illegalState s!"task '{name}' already exists")
    | none =>
      let element := make name type arguments
      modify fun set => { set with tasks := set.tasks ++ [(name, element)] }
      return .ok element
  get name := do
    note (.get name)
    let set ← get
    match set.task? name with
    | some element => return .ok element
    | none => return .error (.unknownElement name set.displayName)
  find? name := do
    note (.find name)
    return (← get).task? name
  displayName := do
    note .displayName
    return (← get).displayName

end TaskSet

inductive TaskStep (Token : Type) [ElementTypes Token] where
  | create (name : String) (requested : Token) (arguments : List (Element Token))
  | get (name : String) (requested : Token)
  | find (name : String) (requested : Token)

namespace TaskStep

variable {Token : Type} [ElementTypes Token] [DecidableEq Token]

/-- Carries a step out. The answer has no element if none was found. -/
def run (make : TaskSet.Maker Token) :
    TaskStep Token → StateM (TaskSet Token) (Except Error (Option (Element Token)))
  | .create name requested arguments => do
    let made ← (TaskSet.container make).createAs name requested arguments
    return made.map fun value => some ⟨requested, value⟩
  | .get name requested => do
    let found ← (TaskSet.container make).getAs name requested (TaskSet.configure requested)
    return found.map fun value => some ⟨requested, value⟩
  | .find name requested => do
    let found ← (TaskSet.container make).findAs? name requested
    return found.map fun value => value.map fun value => ⟨requested, value⟩

end TaskStep

end TypeTokenWrappers
