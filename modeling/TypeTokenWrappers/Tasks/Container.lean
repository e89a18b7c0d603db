import TypeTokenWrappers.Error

/-! # Containers

A container creates elements and finds them by name, and knows no more about
them than their type tokens. The operations whose names end in `As` ask for an
element of a type and give its value at that type; they leave everything else
to the container. -/

namespace TypeTokenWrappers

/-! The types of elements are known only when the program runs. Each has a token, by
which types are told apart, and a name for messages; names need not differ. -/

class ElementTypes (Token : Type) where
  Value : Token → Type
  typeName : Token → String

def ElementTypes.shown [ElementTypes Token] (token : Token) : String :=
  s!"TypeToken({typeName token})"

structure Element (Token : Type) [ElementTypes Token] where
  token : Token
  value : ElementTypes.Value token

namespace Element

variable {Token : Type} [ElementTypes Token]

def typeName (element : Element Token) : String :=
  ElementTypes.typeName element.token

def as? [DecidableEq Token] (element : Element Token) (requested : Token) :
    Option (ElementTypes.Value requested) :=
  if same : element.token = requested then some (same ▸ element.value) else none

end Element

structure Container (Token : Type) [ElementTypes Token] (m : Type → Type) where
  create : (name : String) → (type : Token) → (arguments : List (Element Token)) →
    m (Except Error (Element Token))
  get : (name : String) → m (Except Error (Element Token))
  find? : (name : String) → m (Option (Element Token))
  displayName : m String

namespace Container

variable {Token : Type} [ElementTypes Token] [DecidableEq Token]
variable {m : Type → Type} [Monad m]

def castError (name : String) (actual requested : Token) (container : String) : Error :=
  .illegalState (s!"Element '{name}' of type '{ElementTypes.typeName actual}' from container " ++
    s!"'{container}' cannot be cast to '{ElementTypes.typeName requested}'.")

/-- The value of an element at the requested type. The container is asked for
its name only if the element has another type. -/
def cast (container : Container Token m) (name : String) (requested : Token)
    (element : Element Token) : m (Except Error (ElementTypes.Value requested)) := do
  match element.as? requested with
  | some value => return .ok value
  | none => return .error (castError name element.token requested (← container.displayName))

/-- Creates an element. One of another type than the requested one is refused
after the container has made it. -/
def createAs (container : Container Token m) (name : String) (requested : Token)
    (arguments : List (Element Token)) : m (Except Error (ElementTypes.Value requested)) := do
  match ← container.create name requested arguments with
  | .ok element => container.cast name requested element
  | .error error => return .error error

def getAs (container : Container Token m) (name : String) (requested : Token)
    (configure : ElementTypes.Value requested → m Unit) :
    m (Except Error (ElementTypes.Value requested)) := do
  match ← container.get name with
  | .error error => return .error error
  | .ok element =>
    match ← container.cast name requested element with
    | .error error => return .error error
    | .ok value =>
      configure value
      return .ok value

def findAs? (container : Container Token m) (name : String) (requested : Token) :
    m (Except Error (Option (ElementTypes.Value requested))) := do
  match ← container.find? name with
  | none => return .ok none
  | some element => return (← container.cast name requested element).map some

end Container

end TypeTokenWrappers
