import TypeTokenWrappers.Config.Document
import TypeTokenWrappers.Config.Edit
import TypeTokenWrappers.VariablesFile.Load

/-! # Finding and loading configurations

A configuration lies in a file of a fixed name, in the working directory or
above it. Relative paths in it are taken as seen from the directory of the
file. -/

namespace TypeTokenWrappers.Config

def fileName : String := "reifier.toml"

variable {m : Type → Type} [Monad m] [Host m]

def fromPath (path : String) : Program m Config := do
  let text ← Program.readText path
  let config ← (read text : Except Error Config)
  let values ← (Program.environmentOf config.variableNames : m _)
  let config ← config.resolvePlaceholders (Environment.ofList values)
  match Path.parent? path with
  | some directory => return config.resolveFrom directory
  | none => return config

def findIn? : (directories : List String) → m (Option String)
  | [] => return none
  | directory :: above => do
    let path := Path.join directory fileName
    if ← Program.exists? path then return some path
    findIn? above

/-- The configuration file in a directory or the nearest one above it. -/
def findFile (directory : String) : Program m String := do
  match ← (findIn? (Path.ancestors directory) : m _) with
  | some path => return path
  | none => throw (.configNotFound directory)

def load : Program m Config := do
  (VariablesFile.load : m Unit)
  let directory ← Program.require Host.workingDirectory
  let path ← findFile directory
  fromPath path

/-- The archives of a configuration: those that are named, then those below
each directory. -/
def jarPaths (config : Config) : Program m (List String) := do
  let found ← config.classpath.directories.mapM fun directory => do
    unless ← (Program.isDirectory directory : m Bool) do throw (.invalidPath directory)
    let tree ← Program.require (Host.readTree directory)
    return tree.archives directory
  return config.classpath.jars ++ found.flatten

def scanned (config : Config) (jars : List String) : List String :=
  Path.withNameBeginning config.scan.jarPrefix jars

end TypeTokenWrappers.Config
