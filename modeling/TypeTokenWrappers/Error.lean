import TypeTokenWrappers.Text.Quoted

/-! # Errors

What can go wrong, as causes. The wording of every message is in `message`. -/

namespace TypeTokenWrappers

inductive OsError where
  | notFound
  | exists
  | notDirectory
  | isDirectory
  | nameTooLong
  | other (number : Nat) (description : String)
deriving DecidableEq, Repr

namespace OsError

def number : OsError → Nat
  | .notFound => 2
  | .exists => 17
  | .notDirectory => 20
  | .isDirectory => 21
  | .nameTooLong => 36
  | .other number _ => number

def description : OsError → String
  | .notFound => "No such file or directory"
  | .exists => "File exists"
  | .notDirectory => "Not a directory"
  | .isDirectory => "Is a directory"
  | .nameTooLong => "File name too long"
  | .other _ description => description

end OsError

inductive IoError where
  | os (error : OsError)
  | other (description : String)
deriving DecidableEq, Repr

def OsError.message (error : OsError) : String :=
  s!"{error.description} (os error {error.number})"

/-- A refusal on the way through a tree of files, which tells where it happened. -/
def IoError.onTheWay (path : String) (error : OsError) : IoError :=
  .other s!"IO error for operation on {path}: {error.message}"

def IoError.message : IoError → String
  | .os error => error.message
  | .other description => description

inductive Error where
  | io (cause : IoError)
  | archive (description : String)
  | classFormat (entry message : String)
  | config (description : String)
  | configNotFound (searchStart : String)
  | variableNotSet (name : String)
  | invalidPattern (description : String)
  /-- A pattern whose compiled form takes more than `limit` bytes. -/
  | patternTooBig (limit : Nat)
  | invalidPath (path : String)
  | unknownElement (name container : String)
  | illegalState (description : String)
deriving DecidableEq, Repr

namespace Error

def message : Error → String
  | .io cause => s!"IO error: {cause.message}"
  | .archive description => s!"Archive error: {description}"
  | .classFormat entry message => s!"Malformed class file {entry}: {message}"
  | .config description => s!"Configuration error: {description}"
  | .configNotFound searchStart =>
    s!"Configuration file 'reifier.toml' not found searching from {Quoted.quote searchStart}"
  | .variableNotSet name => s!"Environment variable not set: {name}"
  | .invalidPattern description => s!"Invalid regex pattern: {description}"
  | .patternTooBig limit =>
    s!"Invalid regex pattern: Compiled regex exceeds size limit of {limit} bytes."
  | .invalidPath path => s!"Invalid path: {path}"
  | .unknownElement name container =>
    s!"Domain object with name '{name}' not found in container '{container}'."
  | .illegalState description => description

end Error

end TypeTokenWrappers
