import TypeTokenWrappers.Error
import TypeTokenWrappers.Files.Tree
import TypeTokenWrappers.Text.Utf8

/-! # Hosts

What a program asks of the system it runs on: files, a working directory and
environment variables. Programs are written for every host, so that they run on
a real system and can be reasoned about on a modelled one. -/

namespace TypeTokenWrappers

/-! Variables have a value or are not set. Their values are what looking them up
as text gives, so one whose value is not Unicode counts as not set. Looking up a
name that is empty or has an `=` or a NUL in it may be refused, and here it is. -/

abbrev Environment := String → Option String

namespace Environment

def isName (name : String) : Bool :=
  name != "" && name.toList.all fun char => char != '=' && char != '\x00'

def ofList (values : List (String × String)) : Environment := fun name =>
  if isName name then values.lookup name else none

end Environment

inductive FileKind where
  | file
  | directory
deriving DecidableEq, Repr

class Host (m : Type → Type) where
  fileContent : (path : String) → m (Except IoError (List UInt8))
  fileSize : (path : String) → m (Except IoError Nat)
  kind? : (path : String) → m (Option FileKind)
  /-- The names below a directory; what the files hold is left out. -/
  readTree : (path : String) → m (Except IoError (FileTree Unit))
  makeDirectory : (path : String) → m (Except IoError Unit)
  /-- Makes a file empty, which may not have existed. -/
  createFile : (path : String) → m (Except IoError Unit)
  /-- Adds to the end of a file, which may not have existed. -/
  appendFile : (path : String) → List UInt8 → m (Except IoError Unit)
  workingDirectory : m (Except IoError String)
  environmentValue : (name : String) → m (Option String)
  setVariable : (name value : String) → m Unit

abbrev Program (m : Type → Type) (α : Type) := ExceptT Error m α

namespace Program

variable {m : Type → Type} [Monad m] [Host m]

/-- Runs an action whose failure ends the program. -/
def require (action : m (Except IoError α)) : Program m α := do
  match ← (action : m _) with
  | .ok value => return value
  | .error cause => throw (.io cause)

def readText (path : String) : Program m String := do
  let bytes ← require (Host.fileContent path)
  match Utf8.decodeString? bytes with
  | some text => return text
  | none => throw (.io (.other "stream did not contain valid UTF-8"))

def exists? (path : String) : m Bool :=
  return (← Host.kind? path).isSome

def isDirectory (path : String) : m Bool :=
  return (← Host.kind? path) == some .directory

def isFile (path : String) : m Bool :=
  return (← Host.kind? path) == some .file

/-- Makes the directories of a list from the last to the first. One that is
there already, as `..` may make it, is as good as made. -/
def makeAll (paths : List String) : Program m Unit :=
  paths.reverse.forM fun path => do
    match ← (Host.makeDirectory path : m _) with
    | .ok () => pure ()
    | .error cause =>
      unless ← (isDirectory path : m Bool) do throw (.io cause)

/-- Makes a directory and those above it that are missing. `missing` are the
directories below `path` that have to be made afterwards, the nearest last. -/
def makeDirectoriesFrom (missing : List String) : (paths : List String) → Program m Unit
  | [] => makeAll missing
  | path :: above => do
    if path = "" || path = "/" then makeAll missing
    else
      match ← (Host.makeDirectory path : m _) with
      | .ok () => makeAll missing
      | .error (.os .notFound) => makeDirectoriesFrom (missing ++ [path]) above
      | .error cause =>
        if ← (isDirectory path : m Bool) then makeAll missing
        else throw (.io cause)

def makeDirectories (path : String) : Program m Unit :=
  makeDirectoriesFrom [] (Path.ancestors path)

def environmentOf (names : List String) : m (List (String × String)) := do
  let values ← names.mapM fun name => do
    return (← Host.environmentValue name).map fun value => (name, value)
  return values.filterMap id

end Program

end TypeTokenWrappers
