import Mathlib.Data.List.Basic
import TypeTokenWrappers.Config.Load
import TypeTokenWrappers.Proofs.Config.Placeholder
import TypeTokenWrappers.Proofs.Files.Program
import TypeTokenWrappers.Proofs.Text.Utf8
import TypeTokenWrappers.Proofs.Toml.Document

/-! # Written configurations are read back

The document of a configuration is read as that configuration, whatever its texts
hold. Placeholders are replaced in paths only, so paths without them come back as
they are, and absolute ones do so from a file in any directory. -/

namespace TypeTokenWrappers.Config

open Toml (Line Value)

/-! ## The document by its parts -/

def stringLine (key value : String) : Line :=
  ⟨key, Toml.quoteString value.toList, .string value⟩

def stringsLine (key : String) (values : List String) : Line :=
  ⟨key, Toml.quoteArray values, .array (values.map .string)⟩

def scanPart (scan : Scan) : Toml.Part where
  name := "scan"
  lines := [
    stringLine "jar_prefix" scan.jarPrefix,
    stringLine "root_namespace" scan.rootNamespace,
    stringsLine "type_class_name_blacklist" scan.typeBlacklist,
    stringsLine "method_name_blacklist" scan.methodBlacklist]

def outputPart (output : Output) : Toml.Part where
  name := "output"
  lines := [stringLine "path" output.path, stringLine "package" output.package]

def classpathPart (classpath : Classpath) : Toml.Part where
  name := "classpath"
  lines := [stringsLine "jars" classpath.jars, stringsLine "directories" classpath.directories]

def parts (config : Config) : List Toml.Part :=
  [scanPart config.scan, outputPart config.output, classpathPart config.classpath]

theorem writeString_eq (key value : String) : writeString key value = (stringLine key value).chars :=
  rfl

theorem writeStrings_eq (key : String) (values : List String) :
    writeStrings key values = (stringsLine key values).chars :=
  rfl

theorem chars_part (name : String) (lines : List Line) :
    (Toml.Part.mk name lines).chars =
      ['['] ++ name.toList ++ [']', '\n'] ++ lines.flatMap Line.chars := by
  simp [Toml.Part.chars]

theorem toToml_eq (config : Config) :
    config.toToml = String.ofList (Toml.documentChars config.parts) := by
  apply congrArg String.ofList
  have scan : "[scan]\n".toList = ['['] ++ "scan".toList ++ [']', '\n'] := rfl
  have output : "\n[output]\n".toList = ['\n'] ++ (['['] ++ "output".toList ++ [']', '\n']) := rfl
  have classpath : "\n[classpath]\n".toList =
      ['\n'] ++ (['['] ++ "classpath".toList ++ [']', '\n']) := rfl
  simp only [scan, output, classpath, writeString_eq, writeStrings_eq, parts, scanPart, outputPart,
    classpathPart, Toml.documentChars, List.map_cons, List.map_nil, List.intercalate_cons_cons,
    List.intercalate_singleton, chars_part, List.flatMap_cons, List.flatMap_nil, List.append_nil,
    List.append_assoc]

theorem readable_stringLine {key : String} (bare : Toml.Bare key) (value : String) :
    (stringLine key value).Readable := by
  refine ⟨bare, ?_, fun rest => Toml.readValue_quoteString value (by simp) (by simp)⟩
  rcases Toml.quoteString_head value.toList [] with ⟨quote, more, written, isQuote⟩
  rw [List.append_nil] at written
  exact ⟨quote, more, written, (Toml.quote_ink isQuote).1⟩

theorem readable_stringsLine {key : String} (bare : Toml.Bare key) (values : List String) :
    (stringsLine key values).Readable :=
  ⟨bare, ⟨_, _, rfl, by decide⟩, fun rest => Toml.readValue_quoteArray values _⟩

theorem readable_part {name : String} {lines : List Line} (bare : Toml.Bare name)
    (each : lines.Forall Line.Readable) : (Toml.Part.mk name lines).Readable :=
  ⟨bare, List.forall_iff_forall_mem.mp each⟩

theorem readable_parts (config : Config) : ∀ part ∈ config.parts, part.Readable := by
  rw [← List.forall_iff_forall_mem]
  refine ⟨readable_part (by decide) ?_, readable_part (by decide) ?_,
    readable_part (by decide) ?_⟩
  · exact ⟨readable_stringLine (by decide) _, readable_stringLine (by decide) _,
      readable_stringsLine (by decide) _, readable_stringsLine (by decide) _⟩
  · exact ⟨readable_stringLine (by decide) _, readable_stringLine (by decide) _⟩
  · exact ⟨readable_stringsLine (by decide) _, readable_stringsLine (by decide) _⟩

theorem parse?_toToml (config : Config) :
    Toml.parse? config.toToml =
      some (config.parts.map fun part => (part.name, .table part.entries)) := by
  rw [toToml_eq]
  apply Toml.parse?_documentChars (readable_parts config)
  · change ["scan", "output", "classpath"].Nodup
    decide
  · rw [← List.forall_iff_forall_mem]
    refine ⟨?_, ?_, ?_⟩
    · change ["jar_prefix", "root_namespace", "type_class_name_blacklist",
        "method_name_blacklist"].Nodup
      decide
    · change ["path", "package"].Nodup
      decide
    · change ["jars", "directories"].Nodup
      decide

/-! ## The parts by their fields -/

@[simp] theorem decodeString_string (text : String) : decodeString (.string text) = some text := rfl

@[simp] theorem decodeStrings_strings (values : List String) :
    decodeStrings (.array (values.map .string)) = some values := by
  induction values with
  | nil => rfl
  | cons value values induction =>
      rw [decodeStrings] at induction ⊢
      rw [List.map_cons, List.mapM_cons, decodeString_string, induction]
      rfl

theorem decodeRecord_scanPart (scan : Scan) :
    decodeRecord scanFields {} (.table (scanPart scan).entries) = some scan := by
  simp [decodeRecord, decodeEntries, List.lookup_cons, scanFields, scanPart, Toml.Part.entries,
    stringLine, stringsLine]

theorem decodeRecord_outputPart (output : Output) :
    decodeRecord outputFields {} (.table (outputPart output).entries) = some output := by
  simp [decodeRecord, decodeEntries, List.lookup_cons, outputFields, outputPart,
    Toml.Part.entries, stringLine]

theorem decodeRecord_classpathPart (classpath : Classpath) :
    decodeRecord classpathFields {} (.table (classpathPart classpath).entries) =
      some classpath := by
  simp [decodeRecord, decodeEntries, List.lookup_cons, classpathFields, classpathPart,
    Toml.Part.entries, stringsLine]

theorem read_toToml (config : Config) : read config.toToml = .ok config := by
  have decoded : decodeEntries configFields {}
      (config.parts.map fun part => (part.name, .table part.entries)) = some config := by
    change decodeEntries configFields {} [("scan", .table (scanPart config.scan).entries),
      ("output", .table (outputPart config.output).entries),
      ("classpath", .table (classpathPart config.classpath).entries)] = some config
    simp [decodeEntries, List.lookup_cons, configFields, decodeRecord_scanPart,
      decodeRecord_outputPart, decodeRecord_classpathPart]
  rw [read, parse?_toToml]
  dsimp only
  rw [decoded]

/-! ## Placeholders -/

/-- Whether no placeholder is written in a path of the configuration. -/
def NoPlaceholders (config : Config) : Prop :=
  ∀ value ∈ config.substitutedValues, ∀ placeholder : Placeholder,
    ¬ placeholder.Occurs value.toList

theorem mapM_ok_self {step : α → Except ε α} {values : List α}
    (kept : ∀ value ∈ values, step value = .ok value) : values.mapM step = .ok values := by
  induction values with
  | nil => rfl
  | cons value values induction =>
      rw [List.forall_mem_cons] at kept
      rw [List.mapM_cons, kept.1, induction kept.2]
      rfl

instance (config : Config) : Decidable config.NoPlaceholders :=
  decidable_of_iff (∀ value ∈ config.substitutedValues, Placeholder.findAll value = []) <|
    forall₂_congr fun _ _ => Placeholder.findAll_eq_nil_iff

namespace NoPlaceholders

variable {config : Config}

theorem findAll (absent : config.NoPlaceholders) :
    ∀ value ∈ config.substitutedValues, Placeholder.findAll value = [] :=
  fun value member => Placeholder.findAll_eq_nil_iff.mpr (absent value member)

theorem resolvePlaceholders (absent : config.NoPlaceholders) (environment : Environment) :
    config.resolvePlaceholders environment = .ok config := by
  have kept : ∀ value ∈ config.substitutedValues, substitute environment value = .ok value :=
    fun value member => substitute_of_findAll_eq_nil environment (absent.findAll value member)
  rw [substitutedValues, List.cons_append, List.forall_mem_cons, List.forall_mem_append] at kept
  rw [Config.resolvePlaceholders, kept.1, mapM_ok_self kept.2.1, mapM_ok_self kept.2.2]
  rfl

theorem variableNames (absent : config.NoPlaceholders) : config.variableNames = [] := by
  rw [Config.variableNames, List.flatMap_eq_nil_iff]
  intro value member
  rw [absent.findAll value member]
  rfl

end NoPlaceholders

/-! ## Files -/

theorem join_of_isAbsolute {path : String} (absolute : Path.isAbsolute path = true)
    (directory : String) : Path.join directory path = path := by
  rw [Path.join, if_pos absolute]

theorem resolveFrom_of_isAbsolute {config : Config}
    (absolute : ∀ value ∈ config.substitutedValues, Path.isAbsolute value = true)
    (directory : String) : config.resolveFrom directory = config := by
  rw [substitutedValues, List.cons_append, List.forall_mem_cons, List.forall_mem_append] at absolute
  have each (paths : List String) (absolute : ∀ path ∈ paths, Path.isAbsolute path = true) :
      paths.map (Path.join directory) = paths := by
    rw [List.map_congr_left fun path member => join_of_isAbsolute (absolute path member) directory]
    exact List.map_id paths
  rw [resolveFrom, join_of_isAbsolute absolute.1, each _ absolute.2.1, each _ absolute.2.2]

theorem on_readText {world : World} {path text : String}
    (content : world.fileContent path = .ok (Utf8.encodeString text)) :
    Program.on (Program.readText path) world = (.ok text, world) := by
  have decoded : Utf8.decodeString? (Utf8.encodeString text) = some text := by
    rw [Utf8.decodeString?, Utf8.encodeString, Utf8.decode?_encode]
    exact congrArg some String.ofList_toList
  have run : (Host.fileContent path : StateM World _).run world =
      (.ok (Utf8.encodeString text), world) := congrArg (·, world) content
  rw [Program.readText, Program.on_bind, Program.on_require, run]
  change Program.next _ (.ok (Utf8.encodeString text), world) = _
  rw [Program.next_ok, decoded]
  rfl

/-- A configuration without placeholders in its paths is read back from its document in
every environment; if its paths are absolute, also from a file in any directory. -/
theorem parse_toToml (config : Config) (absent : config.NoPlaceholders) :
    (∀ environment, parse environment config.toToml = .ok config) ∧
      ((∀ value ∈ config.substitutedValues, Path.isAbsolute value = true) →
        ∀ (world : World) (path : String),
          world.fileContent path = .ok (Utf8.encodeString config.toToml) →
            Program.on (fromPath path) world = (.ok config, world)) := by
  constructor
  · intro environment
    rw [parse, read_toToml]
    exact absent.resolvePlaceholders environment
  · intro absolute world path content
    rw [fromPath, Program.on_bind, on_readText content, Program.next_ok, read_toToml]
    rw [Program.on_bind, Program.on_except, Program.next_ok, absent.variableNames,
      Program.on_bind, Program.on_lift]
    change Program.next _ (.ok [], world) = _
    rw [Program.next_ok, Program.on_bind, Program.on_except, absent.resolvePlaceholders,
      Program.next_ok]
    split
    · rw [resolveFrom_of_isAbsolute absolute, Program.on_pure]
    · rw [Program.on_pure]

/-- Texts for each form in which a string is written: with quotes of both kinds in runs,
backslashes, control characters, line ends, and a placeholder where it is not replaced. -/
def sampleConfig : Config where
  scan := {
    jarPrefix := "\"\"\" '''\n''' \\"
    rootNamespace := "'\"\"\x00"
    typeBlacklist := ["", "\r\n'\"", "a'\"\"\"\"b", "\t\"é"]
    methodBlacklist := [] }
  output := { path := "/out\\'\n", package := "$\x7bX:-y\x7d" }
  classpath := { jars := ["/a.jar", "/\"\"\"'''\"\"\""], directories := ["/$\x7bX:y\x7d"] }

/-- A host on which only a configuration file lies. -/
def worldOf (config : Config) : World where
  root := .directory [("c", .directory [(fileName, .file (Utf8.encodeString config.toToml))])]
  directory := ["c"]
  environment := [("X", "z")]

theorem parse_toToml_sampleConfig :
    parse (fun _ => none) sampleConfig.toToml = .ok sampleConfig ∧
      Program.on (fromPath fileName) (worldOf sampleConfig) =
        (.ok sampleConfig, worldOf sampleConfig) := by
  have absent : sampleConfig.NoPlaceholders := by decide +kernel
  have absolute : ∀ value ∈ sampleConfig.substitutedValues, Path.isAbsolute value = true := by
    decide +kernel
  have content : (worldOf sampleConfig).fileContent fileName =
      .ok (Utf8.encodeString sampleConfig.toToml) := rfl
  have main := parse_toToml sampleConfig absent
  exact ⟨main.1 _, main.2 absolute (worldOf sampleConfig) fileName content⟩

end TypeTokenWrappers.Config
