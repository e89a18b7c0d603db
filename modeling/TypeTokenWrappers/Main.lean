import TypeTokenWrappers.CommandLine.Commands

/-! # The program

The system that the program runs on, as a host. Variables that the program sets
are kept beside those of the process. -/

namespace TypeTokenWrappers.Machine

abbrev Action := StateT (List (String × String)) IO

/-- The number of an error, which some operations give with the opposite sign. -/
def errorNumber (code : UInt32) : Nat :=
  if code.toNat < 0x80000000 then code.toNat else 0x100000000 - code.toNat

def osError (code : UInt32) (description : String) : OsError :=
  match errorNumber code with
  | 2 => .notFound
  | 17 => .exists
  | 20 => .notDirectory
  | 21 => .isDirectory
  | 36 => .nameTooLong
  | number => .other number description

def cause : IO.Error → IoError
  | .noFileOrDirectory _ _ _ => .os .notFound
  | .alreadyExists _ _ _ => .os .exists
  | .inappropriateType _ code description | .invalidArgument _ code description
  | .permissionDenied _ code description | .resourceExhausted _ code description
  | .noSuchThing _ code description => .os (osError code description)
  | .otherError code description | .resourceBusy code description
  | .unsupportedOperation code description => .os (osError code description)
  | error => .other error.toString

def attempt (operation : IO α) : Action (Except IoError α) := do
  match ← (operation.toBaseIO : BaseIO _) with
  | .ok value => return .ok value
  | .error error => return .error (cause error)

def kindOf (path : String) : IO FileKind := do
  let information ← (← IO.FS.realPath path).metadata
  match information.type with
  | .dir => return .directory
  | _ => return .file

partial def outline (path : String) : IO (FileTree Unit) := do
  match ← kindOf path with
  | .file => return .file ()
  | .directory =>
    let entries ← (← IO.FS.realPath path).readDir
    let names := entries.toList.map fun entry => (entry.fileName, ())
    let found ← (FileTree.byName names).mapM fun (name, _) =>
      return (name, ← outline (Path.join path name))
    return .directory found

instance : Host Action where
  fileContent path := attempt do return (← IO.FS.readBinFile path).toList
  fileSize path := attempt do
    return (← (← IO.FS.realPath path).metadata).byteSize.toNat
  kind? path := return (← attempt (kindOf path)).toOption
  readTree path := do
    match ← attempt (outline path) with
    | .error (.os error) => return .error (.onTheWay path error)
    | result => return result
  makeDirectory path := attempt (IO.FS.createDir path)
  createFile path := attempt (IO.FS.writeBinFile path ByteArray.empty)
  appendFile path bytes := attempt do
    let handle ← IO.FS.Handle.mk path .append
    handle.write ⟨bytes.toArray⟩
  workingDirectory := attempt do return (← IO.currentDir).toString
  environmentValue name := do
    match (← get).lookup name with
    | some value => return some value
    | none => if Environment.isName name then IO.getEnv name else return none
  setVariable name value := modify fun earlier => (name, value) :: earlier

def run (arguments : List String) : IO UInt32 := do
  let (outcome, _) ← (CommandLine.run arguments : Action _).run []
  IO.print outcome.stdout
  IO.eprint outcome.complaint
  return outcome.status.toUInt32

end TypeTokenWrappers.Machine

def main (arguments : List String) : IO UInt32 :=
  TypeTokenWrappers.Machine.run arguments
