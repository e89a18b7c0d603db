import TypeTokenWrappers.CommandLine.Invocation

/-! # Reading command lines

The arguments up to the name of the command, and those behind it, are read in
the same way, each with the options known there. What an argument means is found
out first; whether it may stand there, in the order of the arguments, afterwards. -/

namespace TypeTokenWrappers.CommandLine

inductive Setting where
  | config
  | output
  | format
deriving DecidableEq, Repr

inductive Switch where
  | verbose
  | quiet
  | force
  | help
  | version
deriving DecidableEq, Repr

inductive OptionName where
  | short (letter : Char)
  | long (name : String)
deriving DecidableEq, Repr

def setting? (command : Option Command) : OptionName → Option Setting
  | .short 'c' | .long "config" => some .config
  | .short 'o' | .long "output" => if command = some .generate then some .output else none
  | .long "format" => if command = some .list then some .format else none
  | _ => none

def switch? (command : Option Command) : OptionName → Option Switch
  | .short 'v' | .long "verbose" => some .verbose
  | .short 'q' | .long "quiet" => some .quiet
  | .short 'h' | .long "help" => some .help
  | .short 'V' | .long "version" => some .version
  | .long "force" => if command = some .init then some .force else none
  | _ => none

inductive Shape where
  /-- The `--` behind which all arguments are operands. -/
  | separator
  | long (name : String) (value : Option String)
  | cluster (letters : List Char)
  | word
deriving DecidableEq, Repr

def Shape.ofArgument (argument : String) : Shape :=
  match argument.toList with
  | ['-', '-'] => .separator
  | '-' :: '-' :: text =>
    let value := match text.dropWhile (· != '=') with
      | [] => none
      | _ :: value => some (String.ofList value)
    .long (String.ofList (text.takeWhile (· != '='))) value
  | '-' :: letter :: letters => .cluster (letter :: letters)
  | _ => .word

inductive Occurrence where
  | switch (switch : Switch)
  | attached (setting : Setting) (value : String)
  | separate (setting : Setting) (value : String)
  | operand (text : String)
  | refused
deriving DecidableEq, Repr

/-- Also gives the option at the end whose value is the next argument. -/
def readCluster (command : Option Command) : List Char → List Occurrence × Option Setting
  | [] => ([], none)
  | letter :: letters =>
    match setting? command (.short letter), letters with
    | some setting, [] => ([], some setting)
    | some setting, '=' :: value => ([.attached setting (String.ofList value)], none)
    | some setting, value => ([.attached setting (String.ofList value)], none)
    | none, letters =>
      match switch? command (.short letter) with
      | some switch =>
        let (others, pending) := readCluster command letters
        (.switch switch :: others, pending)
      | none => ([.refused], none)

def readLong (command : Option Command) (name : String) (value : Option String) :
    List Occurrence × Option Setting :=
  match setting? command (.long name), value with
  | some setting, some value => ([.attached setting value], none)
  | some setting, none => ([], some setting)
  | none, some _ => ([.refused], none)
  | none, none =>
    match switch? command (.long name) with
    | some switch => ([.switch switch], none)
    | none => ([.refused], none)

inductive Continuation where
  | command (command : Command) (arguments : List String)
  | help (arguments : List String)
deriving DecidableEq, Repr

def continuation? (command : Option Command) (word : String) (arguments : List String) :
    Option Continuation :=
  match command with
  | some _ => none
  | none =>
    if word = "help" then some (.help arguments)
    else (Command.ofName? word).map fun command => .command command arguments

/-- Reads up to the name of a command. `pending` is the option whose value comes next. -/
def readArguments (command : Option Command) (pending : Option Setting) :
    (arguments : List String) → List Occurrence × Option Continuation
  | [] => (if pending.isSome then [.refused] else [], none)
  | argument :: arguments =>
    match pending, Shape.ofArgument argument with
    | some setting, .word =>
      let (others, continuation) := readArguments command none arguments
      (.separate setting argument :: others, continuation)
    | some _, _ => ([.refused], none)
    | none, .separator => (arguments.map .operand, none)
    | none, .long name value =>
      let (first, pending) := readLong command name value
      let (others, continuation) := readArguments command pending arguments
      (first ++ others, continuation)
    | none, .cluster letters =>
      let (first, pending) := readCluster command letters
      let (others, continuation) := readArguments command pending arguments
      (first ++ others, continuation)
    | none, .word =>
      match continuation? command argument arguments with
      | some continuation => ([], some continuation)
      | none =>
        let (others, continuation) := readArguments command none arguments
        (.operand argument :: others, continuation)

structure Given where
  config : Option String := none
  output : Option String := none
  format : Option ListFormat := none
  quiet : Bool := false
  force : Bool := false
  operands : List String := []
deriving DecidableEq, Repr

namespace Given

/-- An option with a value is given once, and a path is not empty. -/
def addSetting (given : Given) (value : String) : Setting → Except Stop Given
  | .config =>
    if given.config.isSome || value = "" then throw .usage
    else return { given with config := some value }
  | .output =>
    if given.output.isSome || value = "" then throw .usage
    else return { given with output := some value }
  | .format =>
    match given.format, ListFormat.ofName? value with
    | none, some format => return { given with format := some format }
    | _, _ => throw .usage

def addSwitch (command : Option Command) (given : Given) : Switch → Except Stop Given
  | .verbose => return given
  | .quiet => if given.quiet then throw .usage else return { given with quiet := true }
  | .force => if given.force then throw .usage else return { given with force := true }
  | .help => throw (.help command)
  | .version => throw (.version command)

def add (command : Option Command) (given : Given) : Occurrence → Except Stop Given
  | .switch switch => given.addSwitch command switch
  | .attached setting value | .separate setting value => given.addSetting value setting
  | .operand text =>
    if command.any (·.takesArchives) && text != "" then
      return { given with operands := given.operands ++ [text] }
    else throw .usage
  | .refused => throw .usage

def ofOccurrences (command : Option Command) (occurrences : List Occurrence) :
    Except Stop Given :=
  occurrences.foldlM (add command) {}

/-- The configuration file that an environment variable names counts where none
is given, and its path is not empty. -/
def checkEnvironment (given : Given) (fromEnvironment : Option String) : Except Stop Unit :=
  if given.config.isNone && fromEnvironment = some "" then throw .usage else return ()

def action (given : Given) : Command → Action
  | .generate => .generate given.operands given.output
  | .list => .list given.operands (given.format.getD .pretty)
  | .init => .init given.force
  | .info => .info

end Given

def helpAbout : (arguments : List String) → Stop
  | [] => .help none
  | [name] =>
    if name = "help" then .help none
    else match Command.ofName? name with
      | some command => .help (some command)
      | none => .usage
  | _ => .usage

/-- Leaves out an option at the end whose value is an argument of its own: that
value is looked at only after what follows. -/
def withoutLastSeparate (occurrences : List Occurrence) : List Occurrence :=
  match occurrences.getLast? with
  | some (.separate _ _) => occurrences.dropLast
  | _ => occurrences

def Invocation.ofArguments (fromEnvironment : Option String) (arguments : List String) :
    Except Stop Invocation := do
  let (before, continuation) := readArguments none none arguments
  let _ ← Given.ofOccurrences none (withoutLastSeparate before)
  match continuation with
  | none => throw .usage
  | some (.help arguments) => throw (helpAbout arguments)
  | some (.command command arguments) =>
    let behind ← Given.ofOccurrences (some command) (readArguments (some command) none arguments).1
    behind.checkEnvironment fromEnvironment
    let before ← Given.ofOccurrences none before
    before.checkEnvironment fromEnvironment
    return {
      config := (behind.config.or before.config).or fromEnvironment
      quiet := before.quiet || behind.quiet
      action := behind.action command }

end TypeTokenWrappers.CommandLine
