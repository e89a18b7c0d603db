import TypeTokenWrappers.Files.Host
import TypeTokenWrappers.VariablesFile.Line

/-! # Loading a variables file

The nearest file named `.env`, from the working directory upward, is loaded
line by line. A variable that is set already keeps its value. Loading ends
without complaint at the first line that cannot be read. -/

namespace TypeTokenWrappers.VariablesFile

def fileName : String := ".env"

variable {m : Type → Type} [Monad m] [Host m]

/-- What a value stands for. A reference is looked up among the variables that
are set, then among the lines read before; otherwise it stands for nothing. -/
def expand (earlier : List (String × String)) (value : List Piece) : m String := do
  let texts ← value.mapM fun
    | .literal char => pure (String.singleton char)
    | .reference name => do
      match ← Host.environmentValue name with
      | some text => return text
      | none => return (earlier.lookup name).getD ""
  return String.join texts

def loadLines (earlier : List (String × String)) : (lines : List (List UInt8)) → m Unit
  | [] => return ()
  | line :: others => do
    match (Utf8.decode? line).map Line.ofText with
    | none | some .malformed => return ()
    | some .blank => loadLines earlier others
    | some (.assignment key pieces) =>
      let value ← expand earlier pieces
      if (← Host.environmentValue key).isNone then Host.setVariable key value
      loadLines ((key, value) :: earlier) others

def find? : (directories : List String) → m (Option String)
  | [] => return none
  | directory :: above => do
    let path := Path.join directory fileName
    if ← Program.isFile path then return some path
    find? above

def load : m Unit := do
  match ← Host.workingDirectory with
  | .error _ => return ()
  | .ok directory =>
    match ← find? (Path.ancestors directory) with
    | none => return ()
    | some path =>
      match ← Host.fileContent path with
      | .error _ => return ()
      | .ok bytes => loadLines [] (Pieces.cut 0x0A bytes)

end TypeTokenWrappers.VariablesFile
