/-! # What a command line asks for

The command line has options, which may stand before or behind the name of a
command, and options and operands of the command itself. -/

namespace TypeTokenWrappers.CommandLine

inductive Command where
  | generate
  | list
  | init
  | info
deriving DecidableEq, Repr

namespace Command

def name : Command → String
  | .generate => "generate"
  | .list => "list"
  | .init => "init"
  | .info => "info"

def ofName? (name : String) : Option Command :=
  [.generate, .list, .init, .info].find? fun command => command.name == name

def takesArchives : Command → Bool
  | .generate | .list => true
  | .init | .info => false

end Command

inductive ListFormat where
  | pretty
  | json
deriving DecidableEq, Repr

def ListFormat.ofName? : (name : String) → Option ListFormat
  | "pretty" => some .pretty
  | "json" => some .json
  | _ => none

/-- What is to be done. Archives that are named replace the configured ones. -/
inductive Action where
  | generate (archives : List String) (output : Option String)
  | list (archives : List String) (format : ListFormat)
  | init (force : Bool)
  | info
deriving DecidableEq, Repr

structure Invocation where
  config : Option String
  quiet : Bool
  action : Action
deriving DecidableEq, Repr

inductive Stop where
  | usage
  | help (command : Option Command)
  | version (command : Option Command)
deriving DecidableEq, Repr

end TypeTokenWrappers.CommandLine
