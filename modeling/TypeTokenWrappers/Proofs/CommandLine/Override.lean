import TypeTokenWrappers.Proofs.CommandLine.Loading
import TypeTokenWrappers.Proofs.Generation.InStep

/-! # Archives and an output on the command line

What is given on the command line stands in place of what is configured. So two configurations
that agree in the rest lead to the same run, wherever their files lie and whatever else they say. -/

namespace TypeTokenWrappers

namespace World

/-- Two hosts on which all is the same but these files, which may have another content or be
missing on one of them. -/
structure DifferIn (files : List (List String)) (one other : World) : Prop where
  directory : other.directory = one.directory
  environment : other.environment = one.environment
  seen : ∀ place, place ∉ files → other.root.surface? place = one.root.surface? place
  here : ∀ place ∈ files, isFileAt? one.root place ≠ some false
  there : ∀ place ∈ files, isFileAt? other.root place ≠ some false

/-- What such hosts have in common. A file is a gap if it stands on one of them only. -/
def common (files : List (List String)) (one other : World) : Common :=
  ⟨one.directory, one.environment, files, fun place =>
    isFileAt? other.root place ≠ isFileAt? one.root place⟩

theorem Clear.anyhow {common : Common} {path : String} (clear : Clear common path)
    (environment : List (String × String)) : Clear { common with environment } path :=
  ⟨clear.passable, clear.apart⟩

theorem DifferIn.paired {files : List (List String)} {one other : World}
    (differ : DifferIn files one other) : Paired (common files one other) one other := by
  refine ⟨rfl, differ.directory, rfl, differ.environment, differ.seen,
    fun _ closed => not_not.mp closed, fun place => ?_⟩
  by_cases member : place ∈ files
  · exact iff_of_false (differ.there place member) (differ.here place member)
  · rw [isFileAt?, isFileAt?, differ.seen place member]

/-- A host on which one file is added differs from itself with another file in these two. -/
theorem differIn_of_writes {world one other : World} {place place' : List String}
    {content content' : List UInt8} (first : Writes world one place content)
    (second : Writes world other place' content')
    (free : isFileAt? world.root place ≠ some false)
    (free' : isFileAt? world.root place' ≠ some false) :
    DifferIn [place, place'] one other := by
  have none (another : List String) (member : another ∈ [place, place']) :
      isFileAt? world.root another ≠ some false := by
    rcases List.mem_pair.mp member with rfl | rfl
    · exact free
    · exact free'
  refine ⟨second.directory.trans first.directory.symm,
    second.environment.trans first.environment.symm, fun another apart => ?_,
    fun another member => ?_, fun another member => ?_⟩
  · rw [List.mem_pair, not_or] at apart
    rw [first.seen, second.seen, if_neg apart.1, if_neg apart.2]
  · rw [first.alters.isFileAt?_eq]
    split
    · exact nofun
    · exact none another member
  · rw [second.alters.isFileAt?_eq]
    split
    · exact nofun
    · exact none another member

end World

namespace CommandLine

open Generation (LogApart GivesAlike givesAlike_of_apart givesAlike_of_clear generate_paired
  coupled_wrappers coupled_declarations)
open Observed (Paired)

variable {common : World.Common} {errors : Error → Error → Prop} {rules : Config.Scan}
  {jars : List String} {quiet : Bool}

/-- Generates by a configuration and gives the text that is printed. -/
def generated (quiet : Bool) (config : Config) : Program (StateM Observed) String := do
  let report ← Generation.generate config
  return if quiet then "" else generatedText report

/-- The text that is printed for a list. -/
def listed (config : Config) : (format : ListFormat) → Program (StateM Observed) String
  | .pretty => do
    let declarations ← Generation.declarations config
    return "\n\n".intercalate declarations ++ "\n"
  | .json => do
    let wrappers ← Generation.wrappers config
    return (JsonValue.array (wrappers.map JsonValue.ofWrapper)).print ++ "\n"

theorem generated_on (quiet : Bool) (config : Config) (state : Observed) :
    let ran := (Generation.generate config : Program (StateM Observed) _).on state
    (generated quiet config).on state =
      (ran.1.map fun report => if quiet then "" else generatedText report, ran.2) := by
  intro ran
  rw [generated, Program.on_bind]
  change Program.next _ ran = _
  rcases ran with ⟨error | report, after⟩
  · rfl
  · rfl

/-- The configuration that is in force: only the rules and the package are left of the one that
was loaded. -/
def overridden (config : Config) (jars : List String) (path : String) : Config :=
  ⟨config.scan, ⟨path, config.output.package⟩, ⟨jars, []⟩⟩

theorem withArchives_eq (config : Config) (filled : jars ≠ []) :
    withArchives config jars = overridden config jars config.output.path := by
  cases jars with
  | nil => exact absurd rfl filled
  | cons jar jars => rfl

theorem generated_paired [Std.Refl errors] {one other : Observed} (paired : Paired common one other)
    (config : Config) {path : String} (clear : World.Clear common path)
    (gives : ∀ jar ∈ jars, GivesAlike common errors config.scan jar)
    (log : LogApart common one.world path) (quiet : Bool) :
    let first := (generated quiet (overridden config jars path)).on one
    let second := (generated quiet (overridden config jars path)).on other
    Alike errors Eq first.1 second.1 ∧
      second.2.world.fileContent path = first.2.world.fileContent path := by
  intro first second
  obtain ⟨alike, content⟩ :=
    generate_paired paired config.scan ⟨path, config.output.package⟩ clear gives log
  rw [show first = _ from generated_on .., show second = _ from generated_on ..]
  refine ⟨alike.map ?_, content⟩
  rintro report _ rfl
  rfl

theorem coupled_listed (gives : ∀ jar ∈ jars, GivesAlike common errors rules jar)
    (output output' : Config.Output) (format : ListFormat) :
    Program.Coupled (Paired common) errors Eq (listed ⟨rules, output, ⟨jars, []⟩⟩ format)
      (listed ⟨rules, output', ⟨jars, []⟩⟩ format) := by
  cases format with
  | pretty =>
    refine (coupled_declarations rules gives output output').bind ?_
    rintro declarations _ rfl
    exact Program.coupled_pure rfl
  | json =>
    refine (coupled_wrappers rules gives output output').bind ?_
    rintro wrappers _ rfl
    exact Program.coupled_pure rfl

/-! ## How runs end -/

/-- How a run ends whose action has this answer. -/
def Outcome.ofAnswer : Except Error String → Outcome
  | .ok output => { status := 0, stdout := output }
  | .error error => { status := 1, stdout := "", complaint := error.message ++ "\n" }

/-- Two runs that end with the same status and print the same. What they report beside the
output is the same, too, if this holds. -/
structure Outcome.Same (whole : Prop) (first second : Outcome) : Prop where
  status : second.status = first.status
  stdout : second.stdout = first.stdout
  complaint : whole → second.complaint = first.complaint

theorem Outcome.same_of_alike {whole : Prop} {answer answer' : Except Error String}
    (alike : Alike AnyErrors Eq answer answer')
    (exactly : whole → Alike Eq Eq answer answer') :
    Same whole (ofAnswer answer) (ofAnswer answer') := by
  have complaint (holds : whole) : (ofAnswer answer').complaint = (ofAnswer answer).complaint := by
    rw [(exactly holds).eq]
  cases alike with
  | ok same => exact ⟨rfl, same.symm, complaint⟩
  | error _ => exact ⟨rfl, rfl, complaint⟩

/-- Archives that are none of the files give the same text. If their ways are clear, they fail for
the same reason. -/
theorem same_of_generated {one other : Observed} (paired : Paired common one other)
    (config : Config) {path : String} (clear : World.Clear common path)
    (apart : ∀ jar ∈ jars, World.goal common.directory jar ∉ common.files)
    (log : LogApart common one.world path) (quiet : Bool) :
    let first := (generated quiet (overridden config jars path)).on one
    let second := (generated quiet (overridden config jars path)).on other
    Outcome.Same (∀ jar ∈ jars, World.Passable common jar) (.ofAnswer first.1)
        (.ofAnswer second.1) ∧
      second.2.world.fileContent path = first.2.world.fileContent path := by
  intro first second
  have gives (jar : String) (member : jar ∈ jars) :=
    givesAlike_of_apart config.scan (apart jar member)
  obtain ⟨alike, content⟩ := generated_paired paired config clear gives log quiet
  refine ⟨Outcome.same_of_alike alike fun free => ?_, content⟩
  have same (jar : String) (member : jar ∈ jars) : GivesAlike common Eq config.scan jar :=
    givesAlike_of_clear config.scan ⟨free jar member, apart jar member⟩
  exact (generated_paired paired config clear same log quiet).1

theorem same_of_listed {one other : Observed} (paired : Paired common one other)
    {config config' : Config} (scan : config'.scan = config.scan)
    (apart : ∀ jar ∈ jars, World.goal common.directory jar ∉ common.files)
    (path path' : String) (format : ListFormat) :
    let first := (listed (overridden config jars path) format).on one
    let second := (listed (overridden config' jars path') format).on other
    Outcome.Same (∀ jar ∈ jars, World.Passable common jar) (.ofAnswer first.1)
      (.ofAnswer second.1) := by
  intro first second
  have gives (jar : String) (member : jar ∈ jars) :=
    givesAlike_of_apart config.scan (apart jar member)
  have coupled {errors : Error → Error → Prop}
      (gives : ∀ jar ∈ jars, GivesAlike common errors config.scan jar) :
      Program.Coupled (Paired common) errors Eq (listed (overridden config jars path) format)
        (listed (overridden config' jars path') format) := by
    rw [overridden, overridden, scan]
    exact coupled_listed gives _ _ format
  refine Outcome.same_of_alike (coupled gives one other paired).1 fun free => ?_
  have same (jar : String) (member : jar ∈ jars) : GivesAlike common Eq config.scan jar :=
    givesAlike_of_clear config.scan ⟨free jar member, apart jar member⟩
  exact (coupled same one other paired).1

theorem Outcome.Same.imp {whole free : Prop} {first second : Outcome}
    (same : Same whole first second) (holds : free → whole) : Same free first second :=
  ⟨same.status, same.stdout, fun given => same.complaint (holds given)⟩

theorem run_of_loads {state loaded : Observed} {arguments : List String} {named : Option String}
    {action : Action} {config : Config} {following : Config → Program (StateM Observed) String}
    (reads : Invocation.ofArguments (Environment.ofList state.world.environment configVariable)
      arguments = .ok ⟨named, quiet, action⟩)
    (performs : perform named quiet action = loadConfig named >>= following)
    (loads : (loadConfig named).on state = (.ok config, loaded)) :
    (run arguments : StateM Observed Outcome).run state =
      (Outcome.ofAnswer ((following config).on loaded).1, ((following config).on loaded).2) := by
  have performed : StateT.run (perform named quiet action : Program (StateM Observed) String).run
      state = (following config).on loaded := by
    change (perform named quiet action).on state = _
    rw [performs, Program.on_bind, loads, Program.next_ok]
  rw [run, StateT.run_bind, Observed.run_environmentValue]
  dsimp only [bind]
  rw [reads]
  change StateT.run ((perform named quiet action : Program (StateM Observed) String).run >>= _)
    state = _
  rw [StateT.run_bind, performed]
  rcases (following config).on loaded with ⟨error | output, after⟩
  · rfl
  · rfl

/-- A command line by which this action is carried out with this configuration. -/
structure Invoked (state : Observed) (arguments : List String) (named : Option String)
    (quiet : Bool) (action : Action) (config : Config) (loaded : Observed) : Prop where
  reads : Invocation.ofArguments (Environment.ofList state.world.environment configVariable)
    arguments = .ok ⟨named, quiet, action⟩
  loads : (loadConfig named).on state = (.ok config, loaded)

theorem perform_generated (named : Option String) (quiet : Bool) (filled : jars ≠ [])
    (path : String) :
    perform named quiet (.generate jars (some path)) =
      loadConfig named >>= fun config => generated quiet (overridden config jars path) := by
  refine bind_congr fun config => ?_
  rw [withArchives_eq config filled]
  rfl

theorem perform_listed (named : Option String) (quiet : Bool) (filled : jars ≠ [])
    (format : ListFormat) :
    perform named quiet (.list jars format) =
      loadConfig named >>= fun config =>
        listed (overridden config jars config.output.path) format := by
  cases format <;>
  · refine bind_congr fun config => ?_
    rw [withArchives_eq config filled]
    rfl

/-- Archives and an output that are given replace those of the configuration, and are taken from
the working directory. So nothing else matters of a configuration but its rules and its package,
and of its file but that it stands in no one's way. The hosts may differ in the files that are
loaded and in more: in any files if the configuration is named, and in all files that the search
could find if it is searched. -/
theorem run_overridden {files : List (List String)} {one other loaded loaded' : Observed}
    {arguments arguments' : List String} {named named' : Option String} {quiet : Bool}
    {action : Action} {config config' : Config} {jars : List String}
    (differ : World.DifferIn files one.world other.world)
    (invoked : Invoked one arguments named quiet action config loaded)
    (invoked' : Invoked other arguments' named' quiet action config' loaded')
    (both : named'.isSome = named.isSome)
    (searched : named = none → ∀ file ∈ files, file.getLast? = some Config.fileName)
    (scan : config'.scan = config.scan) (package : config'.output.package = config.output.package)
    (filled : jars ≠ []) (apart : ∀ jar ∈ jars, World.goal one.world.directory jar ∉ files) :
    let common := World.common files one.world other.world
    let first := (run arguments : StateM Observed Outcome).run one
    let second := (run arguments' : StateM Observed Outcome).run other
    let free := ∀ jar ∈ jars, World.Passable common jar
    loaded.world.directory = one.world.directory ∧
      (∀ path, action = .generate jars (some path) → World.Clear common path →
        LogApart common loaded.world path →
          let ran := (generated quiet (overridden config jars path)).on loaded
          first = (Outcome.ofAnswer ran.1, ran.2) ∧ first.1.Same free second.1 ∧
            second.2.world.fileContent path = first.2.world.fileContent path) ∧
      (∀ format, action = .list jars format →
        let ran := (listed (overridden config jars config.output.path) format).on loaded
        first = (Outcome.ofAnswer ran.1, ran.2) ∧ first.1.Same free second.1) := by
  intro common first second free
  obtain ⟨environment, paired⟩ := Observed.pairedAnyhow_of_loaded differ.paired both searched
    invoked.loads invoked'.loads
  refine ⟨paired.here, ?_, ?_⟩
  · -- The output is made on both hosts from here on, so its way has to be the same.
    rintro path rfl clear log ran
    have began := run_of_loads invoked.reads (perform_generated named quiet filled path)
      invoked.loads
    have ended := run_of_loads invoked'.reads (perform_generated named' quiet filled path)
      invoked'.loads
    have inForce : overridden config' jars path = overridden config jars path := by
      rw [overridden, overridden, scan, package]
    have log : LogApart { common with environment } loaded.world path :=
      fun other set leads => (log other set leads).anyhow environment
    have same := same_of_generated paired config (clear.anyhow environment) apart log quiet
    rw [show first = _ from began, show second = _ from ended, inForce]
    exact ⟨rfl, same⟩
  · rintro format rfl ran
    have began := run_of_loads invoked.reads (perform_listed named quiet filled format)
      invoked.loads
    have ended := run_of_loads invoked'.reads (perform_listed named' quiet filled format)
      invoked'.loads
    have same := same_of_listed paired scan apart config.output.path config'.output.path format
    rw [show first = _ from began, show second = _ from ended]
    exact ⟨rfl, same⟩

/-! Two files that name archives, directories and outputs of their own. -/

/-- A working directory `a/w`, in which an archive without entries lies. -/
def bareRoot : FileTree (List UInt8) :=
  .directory [("a", .directory [("w", .directory
    [("gradle-a.jar", .file (Zip.endSignature ++ List.replicate 18 0)),
      ("reifier", .directory [("logs", .directory [])])])])]

/-- A host that has a file besides. -/
def hostWith (environment : List (String × String)) (place : List String) (name : String)
    (content : List UInt8) : Observed :=
  ⟨⟨bareRoot.put (place ++ [name]) (.file content), ["a", "w"], environment⟩, []⟩

theorem writes_hostWith {environment : List (String × String)} {place : List String}
    {name : String} (content : List UInt8)
    (stands : World.isFileAt? bareRoot place = some false)
    (free : World.isFileAt? bareRoot (place ++ [name]) = none) :
    World.Writes ⟨bareRoot, ["a", "w"], environment⟩ (hostWith environment place name content).world
      (place ++ [name]) content := by
  refine World.writes_put stands (fun seen => ?_) content
  rw [World.isFileAt?, seen] at free
  cases free

def nearConfig : Config where
  output := { path := "near.kt" }
  classpath := ⟨["gradle-b.jar"], ["missing"]⟩

def farConfig : Config where
  output := { path := "far/far.kt" }
  classpath := ⟨[], ["w/lib", "w"]⟩

def nearHost : Observed :=
  hostWith [] ["a", "w"] "near.toml" (Utf8.encodeString nearConfig.toToml)

def farHost : Observed :=
  hostWith [] ["a"] "far.toml" (Utf8.encodeString farConfig.toToml)

def sampleArguments (file : String) : List String :=
  ["--config", file, "generate", "gradle-a.jar", "-o", "out.kt"]

def sampleAction : Action := .generate ["gradle-a.jar"] (some "out.kt")

/-- The host when the configuration was read from this file. -/
def readFrom (file : String) (host : Observed) : Observed :=
  { host with opened := [file] }

theorem invoked_nearHost : Invoked nearHost (sampleArguments "near.toml") (some "near.toml") false
    sampleAction (nearConfig.resolveFrom "") (readFrom "near.toml" nearHost) where
  reads := by decide +kernel
  loads := Observed.on_fromPath_toToml (by decide +kernel) rfl

theorem invoked_farHost : Invoked farHost (sampleArguments "../far.toml") (some "../far.toml") false
    sampleAction (farConfig.resolveFrom "..") (readFrom "../far.toml" farHost) where
  reads := by decide +kernel
  loads := Observed.on_fromPath_toToml (by decide +kernel) rfl

def sampleFiles : List (List String) := [["a", "w", "near.toml"], ["a", "far.toml"]]

theorem run_overridden_nearHost :
    let common := World.common sampleFiles nearHost.world farHost.world
    let first := (run (sampleArguments "near.toml") : StateM Observed Outcome).run nearHost
    let second := (run (sampleArguments "../far.toml") : StateM Observed Outcome).run farHost
    World.DifferIn sampleFiles nearHost.world farHost.world ∧
      World.Clear common "out.kt" ∧ World.Clear common "gradle-a.jar" ∧
      LogApart common nearHost.world "out.kt" ∧
      first.1.Same True second.1 ∧
      second.2.world.fileContent "out.kt" = first.2.world.fileContent "out.kt" := by
  intro common
  have near : World.Writes _ nearHost.world ["a", "w", "near.toml"] _ :=
    writes_hostWith _ (by decide) (by decide)
  have far : World.Writes _ farHost.world ["a", "far.toml"] _ :=
    writes_hostWith _ (by decide) (by decide)
  have differ : World.DifferIn sampleFiles nearHost.world farHost.world :=
    World.differIn_of_writes near far (by decide) (by decide)
  have passed : ∀ path ∈ ["out.kt", "gradle-a.jar"], ∀ place ∈ World.way ["a", "w"] path,
      World.isFileAt? farHost.world.root place = World.isFileAt? nearHost.world.root place := by
    decide +kernel
  have apart : ∀ path ∈ ["out.kt", "gradle-a.jar"],
      World.goal ["a", "w"] path ∉ sampleFiles := by
    decide +kernel
  have clear (path : String) (member : path ∈ ["out.kt", "gradle-a.jar"]) :
      World.Clear common path :=
    ⟨fun place way => not_not.mpr (passed path member place way), apart path member⟩
  have output := clear "out.kt" (by simp)
  have jar := clear "gradle-a.jar" (by simp)
  have log : LogApart common nearHost.world "out.kt" := nofun
  obtain ⟨-, generates, -⟩ := run_overridden differ invoked_nearHost invoked_farHost rfl nofun rfl
    rfl (List.cons_ne_nil _ _) (List.forall_mem_singleton.mpr jar.apart)
  obtain ⟨same, content⟩ := (generates "out.kt" rfl output log).2
  have free := List.forall_mem_singleton.mpr jar.passable
  dsimp only
  exact ⟨differ, output, jar, log, same.imp fun _ => free, content⟩

/-! Two empty files, both of which are found by the search. The nearer one is in the way of what
lies below its place on the other host. -/

def gapFiles : List (List String) := [["a", "w", Config.fileName], ["a", Config.fileName]]

/-- The host with one of the files, where the way to the log passes the place of the nearer one. -/
def gapHost (place : List String) : Observed :=
  hostWith [("REIFIER_LOG_DIR", "reifier.toml/..")] place Config.fileName []

def searchedFrom (host : Observed) : Observed :=
  ((loadConfig none : Program (StateM Observed) Config).on host).2

def generateArguments (jar path : String) : List String := ["generate", jar, "-o", path]

/-- How the run ends, and the host that is left. -/
def gapRun (jar path : String) (place : List String) : Outcome × Observed :=
  (run (generateArguments jar path) : StateM Observed Outcome).run (gapHost place)

theorem invoked_gapHost {place : List String} {directory : String}
    (loads : ((loadConfig none).on (gapHost place)).1 = .ok (Config.resolveFrom directory {}))
    {jar path : String} (reads : Invocation.ofArguments none (generateArguments jar path) =
      .ok ⟨none, false, .generate [jar] (some path)⟩) :
    Invoked (gapHost place) (generateArguments jar path) none false (.generate [jar] (some path))
      (Config.resolveFrom directory {}) (searchedFrom (gapHost place)) :=
  ⟨reads, Program.on_eq loads⟩

/-- Archives and outputs for which the file is in the way. -/
def gapCases : List (String × String) :=
  [("x.jar", "reifier.toml/x.kt"), ("reifier.toml/gradle-x.jar", "x.kt"),
    ("x.jar", "reifier/logs/generation.log")]

/-- An output below the place of a file can be made on one of the hosts only; an archive there
fails for different reasons; and the log is added to the output on one of the hosts only. -/
theorem run_depends_on_gap :
    World.DifferIn gapFiles (gapHost ["a", "w"]).world (gapHost ["a"]).world ∧
      (Config.resolveFrom "/a" {}).scan = (Config.resolveFrom "/a/w" {}).scan ∧
      (Config.resolveFrom "/a" {}).output.package = (Config.resolveFrom "/a/w" {}).output.package ∧
      (∀ given ∈ gapCases,
        Invoked (gapHost ["a", "w"]) (generateArguments given.1 given.2) none false
            (.generate [given.1] (some given.2)) (Config.resolveFrom "/a/w" {})
            (searchedFrom (gapHost ["a", "w"])) ∧
          Invoked (gapHost ["a"]) (generateArguments given.1 given.2) none false
            (.generate [given.1] (some given.2)) (Config.resolveFrom "/a" {})
            (searchedFrom (gapHost ["a"])) ∧
          World.goal ["a", "w"] given.1 ∉ gapFiles ∧ World.goal ["a", "w"] given.2 ∉ gapFiles) ∧
      (gapRun "x.jar" "reifier.toml/x.kt" ["a", "w"]).1.status = 1 ∧
      (gapRun "x.jar" "reifier.toml/x.kt" ["a"]).1.status = 0 ∧
      (gapRun "reifier.toml/gradle-x.jar" "x.kt" ["a", "w"]).1.complaint =
        "IO error: Not a directory (os error 20)\n" ∧
      (gapRun "reifier.toml/gradle-x.jar" "x.kt" ["a"]).1.complaint =
        "IO error: No such file or directory (os error 2)\n" ∧
      (gapRun "x.jar" "reifier/logs/generation.log" ["a", "w"]).2.world.fileContent
          "reifier/logs/generation.log" ≠
        (gapRun "x.jar" "reifier/logs/generation.log" ["a"]).2.world.fileContent
          "reifier/logs/generation.log" := by
  have near : World.Writes _ (gapHost ["a", "w"]).world ["a", "w", Config.fileName] _ :=
    writes_hostWith _ (by decide) (by decide)
  have far : World.Writes _ (gapHost ["a"]).world ["a", Config.fileName] _ :=
    writes_hostWith _ (by decide) (by decide)
  have loads : ((loadConfig none).on (gapHost ["a", "w"])).1 =
      .ok (Config.resolveFrom "/a/w" {}) := by
    decide +kernel
  have loads' : ((loadConfig none).on (gapHost ["a"])).1 = .ok (Config.resolveFrom "/a" {}) := by
    decide +kernel
  have reads : ∀ given ∈ gapCases, Invocation.ofArguments none (generateArguments given.1 given.2) =
      .ok ⟨none, false, .generate [given.1] (some given.2)⟩ := by
    decide +kernel
  have apart : ∀ given ∈ gapCases,
      World.goal ["a", "w"] given.1 ∉ gapFiles ∧ World.goal ["a", "w"] given.2 ∉ gapFiles := by
    decide +kernel
  refine ⟨World.differIn_of_writes near far (by decide) (by decide), rfl, rfl,
    fun given member => ?_, by decide +kernel, by decide +kernel, by decide +kernel,
    by decide +kernel, by decide +kernel⟩
  have reads := reads given member
  exact ⟨invoked_gapHost loads reads, invoked_gapHost loads' reads, apart given member⟩

end CommandLine

end TypeTokenWrappers
