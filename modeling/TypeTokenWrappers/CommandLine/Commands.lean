import TypeTokenWrappers.CommandLine.Arguments
import TypeTokenWrappers.Config.Load
import TypeTokenWrappers.Generation.Generator
import TypeTokenWrappers.Output.Json
import TypeTokenWrappers.Toml.Writer

/-! # Commands

What the commands do on a host. A command that fails prints nothing. -/

namespace TypeTokenWrappers.CommandLine

variable {m : Type → Type} [Monad m] [Host m]

def configVariable : String := "REIFIER_CONFIG"

def programName : String := "reifier"

def programVersion : String := "0.1.0"

/-- The configuration file that is named, or the one that is found. If none is
found, the defaults hold. -/
def loadConfig : (named : Option String) → Program m Config
  | some path => Config.fromPath path
  | none => tryCatch Config.load fun
    | .configNotFound _ => return {}
    | error => throw error

def withArchives (config : Config) : (archives : List String) → Config
  | [] => config
  | archives => (config.setJars archives).clearDirectories

def withOutput (config : Config) : (output : Option String) → Config
  | none => config
  | some path => config.setOutputPath path

def starterText : String :=
  let defaults : Config := {}
  "# Reifier Configuration\n" ++
    "\n[scan]\n" ++
    "# Only archives whose file name starts with this prefix are scanned\n" ++
    "jar_prefix = \"" ++ defaults.scan.jarPrefix ++ "\"\n" ++
    "# Only class entries under this package path are scanned\n" ++
    "root_namespace = \"" ++ defaults.scan.rootNamespace ++ "\"\n" ++
    "# Fully-qualified type names to leave alone\n" ++
    "type_class_name_blacklist = []\n" ++
    "# Method names never wrapped\n" ++
    "method_name_blacklist = [\"apply\"]\n" ++
    "\n[output]\n" ++
    "path = \"" ++ defaults.output.path ++ "\"\n" ++
    "package = \"" ++ defaults.output.package ++ "\"\n" ++
    "\n[classpath]\n" ++
    "# Explicit archives, scanned first and in this order\n" ++
    "jars = []\n" ++
    "# Directories searched recursively for *.jar, e.g. " ++
    "\"$\x7bGRADLE_HOME:-/opt/gradle\x7d/lib\"\n" ++
    "directories = []\n"

def writeStarter (force : Bool) : Program m Unit := do
  let present ← (Program.exists? Config.fileName : m Bool)
  if force || !present then
    Program.require (Host.createFile Config.fileName)
    Program.require (Host.appendFile Config.fileName (Utf8.encodeString starterText))

def generatedText (report : Generation.Report) : String :=
  s!"Wrote {report.declarations} declarations ({report.bytesWritten} bytes) to {report.path} " ++
    s!"({report.archivesScanned} of {report.archivesConsidered} archives scanned)\n"

/-- Whether an archive is among those that are scanned, however it is spelled. -/
def isAmong (scanned : List String) (archive : String) : Bool :=
  scanned.any fun other => Path.components other = Path.components archive

def archiveLine (scanned : List String) (archive : String) : String :=
  (if isAmong scanned archive then "  scan " else "  skip ") ++ archive ++ "\n"

def infoText (config : Config) (archives : List String) : String :=
  "\n=== Configuration ===\n\n" ++ config.toToml ++ "\n" ++
    s!"=== Archives ({archives.length}) ===\n\n" ++
    String.join (archives.map (archiveLine (config.scanned archives)))

def perform (named : Option String) (quiet : Bool) : Action → Program m String
  | .generate archives output => do
    let config ← loadConfig named
    let report ← Generation.generate (withOutput (withArchives config archives) output)
    return if quiet then "" else generatedText report
  | .list archives .pretty => do
    let config ← loadConfig named
    let declarations ← Generation.declarations (withArchives config archives)
    return "\n\n".intercalate declarations ++ "\n"
  | .list archives .json => do
    let config ← loadConfig named
    let wrappers ← Generation.wrappers (withArchives config archives)
    return (JsonValue.array (wrappers.map JsonValue.ofWrapper)).print ++ "\n"
  | .init force => do
    writeStarter force
    return ""
  | .info => do
    let config ← loadConfig named
    return infoText config (← config.jarPaths)

structure Outcome where
  status : Nat
  stdout : String
  complaint : String := ""
deriving DecidableEq, Repr

def commandName : Option Command → String
  | none => programName
  | some command => programName ++ "-" ++ command.name

def usageText : Option Command → String
  | none => s!"Usage: {programName} [OPTIONS] generate|list|init|info\n"
  | some .generate => s!"Usage: {programName} generate [OPTIONS] [JARS]...\n"
  | some .list => s!"Usage: {programName} list [OPTIONS] [JARS]...\n"
  | some .init => s!"Usage: {programName} init [OPTIONS]\n"
  | some .info => s!"Usage: {programName} info [OPTIONS]\n"

def Stop.outcome : Stop → Outcome
  | .usage => { status := 2, stdout := "", complaint := usageText none }
  | .help command => { status := 0, stdout := usageText command }
  | .version command => { status := 0, stdout := s!"{commandName command} {programVersion}\n" }

def run (arguments : List String) : m Outcome := do
  match Invocation.ofArguments (← Host.environmentValue configVariable) arguments with
  | .error stop => return stop.outcome
  | .ok invocation =>
    match ← (perform invocation.config invocation.quiet invocation.action : Program m _).run with
    | .ok output => return { status := 0, stdout := output }
    | .error error => return { status := 1, stdout := "", complaint := error.message ++ "\n" }

end TypeTokenWrappers.CommandLine
