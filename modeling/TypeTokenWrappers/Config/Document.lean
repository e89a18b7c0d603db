import TypeTokenWrappers.Config.Basic
import TypeTokenWrappers.Config.Placeholder
import TypeTokenWrappers.Toml.Document
import TypeTokenWrappers.Toml.Writer

/-! # Configurations as TOML documents

A document gives the three parts of a configuration under their keys; what it
leaves out has its default, and keys that are not known are passed over. A part
may also be given as an array of its fields in order. Placeholders in paths are
replaced after reading. -/

namespace TypeTokenWrappers.Config

open Toml (Value)

abbrev Decoder (α : Type) := Value → Option α

def decodeString : Decoder String
  | .string text => some text
  | _ => none

def decodeStrings : Decoder (List String)
  | .array elements => elements.mapM decodeString
  | _ => none

abbrev Field (σ : Type) := String × (σ → Value → Option σ)

/-- Reads a record from a table. The values of unknown keys only have to be in
range. -/
def decodeEntries (fields : List (Field σ)) (base : σ) (entries : List (String × Value)) :
    Option σ :=
  entries.foldlM
    (fun record (key, value) =>
      match fields.lookup key with
      | some set => set record value
      | none => if value.inRange then some record else none)
    base

def decodeElements : List (Field σ) → σ → List Value → Option σ
  | (_, set) :: fields, record, value :: values => do
    let record ← set record value
    decodeElements fields record values
  | _, record, _ => some record

/-- A record is a table or an array; a date reads as a table without known keys. -/
def decodeRecord (fields : List (Field σ)) (base : σ) : Decoder σ
  | .table entries => decodeEntries fields base entries
  | .array elements => decodeElements fields base elements
  | .dateTime => some base
  | _ => none

def scanFields : List (Field Scan) :=
  [("jar_prefix", fun scan value =>
      (decodeString value).map fun text => { scan with jarPrefix := text }),
    ("root_namespace", fun scan value =>
      (decodeString value).map fun text => { scan with rootNamespace := text }),
    ("type_class_name_blacklist", fun scan value =>
      (decodeStrings value).map fun names => { scan with typeBlacklist := names }),
    ("method_name_blacklist", fun scan value =>
      (decodeStrings value).map fun names => { scan with methodBlacklist := names })]

def outputFields : List (Field Output) :=
  [("path", fun output value =>
      (decodeString value).map fun text => { output with path := text }),
    ("package", fun output value =>
      (decodeString value).map fun text => { output with package := text })]

def classpathFields : List (Field Classpath) :=
  [("jars", fun classpath value =>
      (decodeStrings value).map fun paths => { classpath with jars := paths }),
    ("directories", fun classpath value =>
      (decodeStrings value).map fun paths => { classpath with directories := paths })]

def configFields : List (Field Config) :=
  [("scan", fun config value =>
      (decodeRecord scanFields {} value).map fun scan => { config with scan }),
    ("output", fun config value =>
      (decodeRecord outputFields {} value).map fun output => { config with output }),
    ("classpath", fun config value =>
      (decodeRecord classpathFields {} value).map fun classpath => { config with classpath })]

def read (document : String) : Except Error Config :=
  match Toml.parse? document with
  | none => .error (.config "the document is not valid TOML")
  | some entries =>
    match decodeEntries configFields {} entries with
    | none => .error (.config "a value does not have the type that its key requires")
    | some config => .ok config

/-- Replaces the placeholders in the paths of a configuration: the output path,
then the archives, then the directories. -/
def resolvePlaceholders (environment : Environment) (config : Config) : Except Error Config := do
  let path ← substitute environment config.output.path
  let jars ← config.classpath.jars.mapM (substitute environment)
  let directories ← config.classpath.directories.mapM (substitute environment)
  return { config with output := { config.output with path }, classpath := { jars, directories } }

def substitutedValues (config : Config) : List String :=
  config.output.path :: config.classpath.jars ++ config.classpath.directories

def variableNames (config : Config) : List String :=
  config.substitutedValues.flatMap fun value => (Placeholder.findAll value).map (·.name)

def parse (environment : Environment) (document : String) : Except Error Config := do
  let config ← read document
  config.resolvePlaceholders environment

/-! Writing. -/

def writeLine (key : String) (value : List Char) : List Char :=
  key.toList ++ " = ".toList ++ value ++ ['\n']

def writeString (key value : String) : List Char :=
  writeLine key (Toml.quoteString value.toList)

def writeStrings (key : String) (values : List String) : List Char :=
  writeLine key (Toml.quoteArray values)

def toToml (config : Config) : String :=
  String.ofList <|
    "[scan]\n".toList ++
      writeString "jar_prefix" config.scan.jarPrefix ++
      writeString "root_namespace" config.scan.rootNamespace ++
      writeStrings "type_class_name_blacklist" config.scan.typeBlacklist ++
      writeStrings "method_name_blacklist" config.scan.methodBlacklist ++
    "\n[output]\n".toList ++
      writeString "path" config.output.path ++
      writeString "package" config.output.package ++
    "\n[classpath]\n".toList ++
      writeStrings "jars" config.classpath.jars ++
      writeStrings "directories" config.classpath.directories

end TypeTokenWrappers.Config
