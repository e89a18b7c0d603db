import TypeTokenWrappers.Files.Host
import TypeTokenWrappers.Error
import TypeTokenWrappers.Text.Pieces

/-! # Placeholders

A configured path may name environment variables: `$` and then, in braces, a
name and possibly `:-` and a default. Every placeholder of a value is found
before any is replaced. Replacing one replaces its text wherever it occurs. -/

namespace TypeTokenWrappers

namespace Config

structure Placeholder where
  name : String
  default : Option String
  written : List Char
deriving DecidableEq, Repr

namespace Placeholder

def endsName (char : Char) : Bool := char == '\x7d' || char == ':'

def endsDefault (char : Char) : Bool := char == '\x7d'

def ofBody? (body : List Char) : Option Placeholder :=
  let name := body.takeWhile (!endsName ·)
  let opening := ['$', '\x7b'] ++ name
  if name = [] then none
  else match body.dropWhile (!endsName ·) with
    | '\x7d' :: _ => some ⟨String.ofList name, none, opening ++ ['\x7d']⟩
    | ':' :: '-' :: rest =>
      let default := rest.takeWhile (!endsDefault ·)
      match rest.dropWhile (!endsDefault ·) with
      | [] => none
      | _ :: _ =>
        some ⟨String.ofList name, some (String.ofList default),
          opening ++ [':', '-'] ++ default ++ ['\x7d']⟩
    | _ => none

def atFront? (text : List Char) : Option Placeholder :=
  match text with
  | '$' :: '\x7b' :: body => ofBody? body
  | _ => none

/-- The placeholders of a text from left to right, without overlaps. `skip`
characters still belong to the one found last. -/
def findFrom (skip : Nat) : List Char → List Placeholder
  | [] => []
  | char :: rest =>
    match skip with
    | skip + 1 => findFrom skip rest
    | 0 =>
      match atFront? (char :: rest) with
      | some placeholder => placeholder :: findFrom (placeholder.written.length - 1) rest
      | none => findFrom 0 rest

def findAll (value : String) : List Placeholder :=
  findFrom 0 value.toList

def resolve (environment : Environment) (placeholder : Placeholder) : Except Error String :=
  match environment placeholder.name with
  | some value => .ok value
  | none =>
    match placeholder.default with
    | some default => .ok default
    | none => .error (.variableNotSet placeholder.name)

def replaceIn (environment : Environment) (text : List Char) (placeholder : Placeholder) :
    Except Error (List Char) := do
  let value ← placeholder.resolve environment
  return Pieces.replace placeholder.written value.toList text

end Placeholder

def substitute (environment : Environment) (value : String) : Except Error String := do
  let text ← (Placeholder.findAll value).foldlM (Placeholder.replaceIn environment) value.toList
  return String.ofList text

end Config

end TypeTokenWrappers
