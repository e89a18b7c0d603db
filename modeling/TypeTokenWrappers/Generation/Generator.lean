import TypeTokenWrappers.Config.Load
import TypeTokenWrappers.Generation.Stream
import TypeTokenWrappers.Output.Buffer
import TypeTokenWrappers.Output.SourceFile

/-! # Generating the file

The output file is made before any archive is opened, and the declarations are
written into it in the order of the stream, through a buffer. If an archive
fails, the declarations before it stay in the file. An archive that is the output
file itself is opened with what the file holds by then. -/

namespace TypeTokenWrappers

namespace Generation

variable {m : Type → Type} [Monad m] [Host m]

def scanArchive (rules : Config.Scan) (archive : String) : m (Except Error (List Wrapper)) :=
  (wrappersOfArchive rules archive).run

def items (rules : Config.Scan) (paths : List String) : m (List (Except Error Wrapper)) :=
  WrapperStream.items (scanArchive rules) (Path.withNameBeginning rules.jarPrefix paths)

def declarationItems (rules : Config.Scan) (paths : List String) :
    m (List (Except Error String)) :=
  return (← items rules paths).map (Except.map Wrapper.render)

structure Summary where
  declarations : Nat
  bytesWritten : Nat
deriving DecidableEq, Repr

def makeParent (path : String) : Program m Unit :=
  match Path.parent? path with
  | some parent => if parent = "" then return () else Program.makeDirectories parent
  | none => return ()

/-- A file that is being written. What was written last may be `held` back. -/
structure Draft where
  declarations : Nat
  held : List UInt8
deriving DecidableEq, Repr

/-- Writes pieces behind a draft, as far as the buffer passes them on. -/
def Draft.extend (draft : Draft) (path : String) (declarations : Nat)
    (pieces : List (List UInt8)) : Program m Draft := do
  let buffer := (Buffer.holding draft.held).writeAll pieces
  Program.require (Host.appendFile path buffer.passed)
  return ⟨draft.declarations + declarations, buffer.held⟩

/-- Writes what was held back. The error of an archive is told even if this fails
as well. -/
def Draft.finish (draft : Draft) (path : String) : (failure : Option Error) → Program m Summary
  | none => do
    Program.require (Host.appendFile path draft.held)
    let size ← Program.require (Host.fileSize path)
    return ⟨draft.declarations, size⟩
  | some error => do
    let _ ← (Host.appendFile path draft.held : m _)
    throw error

/-- Writes the declarations of one archive after the other. An archive is opened
when those before it are written. One that cannot be read ends this early. -/
def writeArchives (path : String) (rules : Config.Scan) (draft : Draft) :
    (archives : List String) → Program m (Draft × Option Error)
  | [] => return (draft, none)
  | archive :: others => do
    match ← ExceptT.lift (scanArchive rules archive) with
    | .ok wrappers =>
      let pieces := wrappers.flatMap fun wrapper => SourceFile.pieces wrapper.render
      let extended ← draft.extend path wrappers.length pieces
      writeArchives path rules extended others
    | .error error => return (draft, some error)

def writeFile (path : String) (paths : List String) (rules : Config.Scan) (package : String) :
    Program m Summary := do
  makeParent path
  Program.require (Host.createFile path)
  let header := Utf8.encodeString (SourceFile.header package)
  let begun ← Draft.extend ⟨0, []⟩ path 0 [header]
  let (draft, failure) ←
    writeArchives path rules begun (Path.withNameBeginning rules.jarPrefix paths)
  draft.finish path failure

structure Report where
  path : String
  bytesWritten : Nat
  archivesConsidered : Nat
  archivesScanned : Nat
  declarations : Nat
deriving DecidableEq, Repr

def Report.logLine (report : Report) : String :=
  s!"Wrote {report.declarations} declarations ({report.bytesWritten} bytes) to " ++
    Quoted.quote report.path ++ "\n"

/-- Adds a line to the log below the directory that a variable names, if it is
set. Failures are ignored. Only programs built for development (with the feature
`dev-mode`) keep this log; they are the ones that are modelled. -/
def log (line : String) : m Unit := do
  match ← Host.environmentValue "REIFIER_LOG_DIR" with
  | none => return ()
  | some base =>
    let directory := base ++ "/reifier/logs"
    let _ ← (Program.makeDirectories directory : Program m Unit).run
    let _ ← Host.appendFile (directory ++ "/generation.log") (Utf8.encodeString line)

/-- Scans the classpath and writes the output file, and then the line of the log
as a build for development does. In other builds the run ends with the file. -/
def generate (config : Config) : Program m Report := do
  let jars ← config.jarPaths
  let summary ← writeFile config.output.path jars config.scan config.output.package
  let report : Report := {
    path := config.output.path
    bytesWritten := summary.bytesWritten
    archivesConsidered := jars.length
    archivesScanned := (config.scanned jars).length
    declarations := summary.declarations }
  (log report.logLine : m Unit)
  return report

def generateConfigured : Program m Report := do
  generate (← Config.load)

def declarations (config : Config) : Program m (List String) := do
  let jars ← config.jarPaths
  let blocks ← (declarationItems config.scan jars : m _)
  allOrFirstError blocks

def wrappers (config : Config) : Program m (List Wrapper) := do
  let jars ← config.jarPaths
  let found ← (items config.scan jars : m _)
  allOrFirstError found

end Generation

end TypeTokenWrappers
