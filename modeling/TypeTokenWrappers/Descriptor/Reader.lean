import TypeTokenWrappers.Descriptor.Basic
import TypeTokenWrappers.Text.Taken

/-! # Reading descriptors

A descriptor is read from left to right with no separators: each letter decides
what follows it. Reading stops at the first fault and remembers the text that
was still ahead, from which the reported position is computed. -/

namespace TypeTokenWrappers

namespace Descriptor

inductive Fault where
  | unexpectedEnd
  | unterminatedClassType
  | emptyClassName
  | unexpected (char : Char)
  | expectedParenthesis
  | trailingCharacters
deriving DecidableEq, Repr

structure Stop where
  fault : Fault
  rest : List Char
deriving DecidableEq, Repr

/-- The character with the number of the first byte of `char`: an unexpected
character is reported by that byte alone. -/
def leadByte (char : Char) : Char :=
  Char.ofNat (((String.utf8EncodeChar char).head?.map UInt8.toNat).getD 0)

def Fault.message : Fault → String
  | .unexpectedEnd => "unexpected end of descriptor"
  | .unterminatedClassType => "unterminated class type"
  | .emptyClassName => "empty class name"
  | .unexpected char => s!"unexpected '{leadByte char}'"
  | .expectedParenthesis => "expected '('"
  | .trailingCharacters => "trailing characters"

/-- The byte at which a fault in `text` is reported: the first byte that was not
read, except that the first byte of an unexpected character counts as read. -/
def Stop.position (text : List Char) (stop : Stop) : Nat :=
  match stop.fault with
  | .unexpected _ => bytesBefore text stop.rest + 1
  | _ => bytesBefore text stop.rest

def readFieldType : (text : List Char) → Except Stop (Taken FieldType text.length)
  | [] => .error ⟨.unexpectedEnd, []⟩
  | '[' :: rest => do
    let element ← readFieldType rest
    return (element.map .array).behind '['
  | 'L' :: rest =>
    match behind : rest.dropWhile (· != ';') with
    | [] => .error ⟨.unterminatedClassType, rest⟩
    | _ :: after =>
      match rest.takeWhile (· != ';') with
      | [] => .error ⟨.emptyClassName, rest⟩
      | name => .ok ⟨.classType (String.ofList name), after, by
          have suffix := (List.dropWhile_suffix (· != ';') (l := rest)).length_le
          simp only [behind, List.length_cons] at suffix ⊢
          omega⟩
  | char :: rest =>
    match Primitive.ofLetter? char with
    | some kind => .ok (.one (.primitive kind) char rest)
    | none => .error ⟨.unexpected char, char :: rest⟩

def readArguments : (text : List Char) → Except Stop (Taken (List FieldType) text.length)
  | ')' :: rest => .ok (.one [] ')' rest)
  | text => do
    let first ← readFieldType text
    let others ← readArguments first.rest
    return first.andThen (others.map (first.value :: ·))
termination_by text => text.length
decreasing_by exact first.shorter

def readReturnType : (text : List Char) → Except Stop (Taken ReturnType text.length)
  | 'V' :: rest => .ok (.one .void 'V' rest)
  | text => do
    let type ← readFieldType text
    return type.map .value

def complete (taken : Taken α limit) : Except Stop α :=
  match taken.rest with
  | [] => .ok taken.value
  | rest => .error ⟨.trailingCharacters, rest⟩

end Descriptor

structure DescriptorError where
  descriptor : String
  fault : Descriptor.Fault
  position : Nat
deriving DecidableEq, Repr

namespace DescriptorError

def message (error : DescriptorError) : String :=
  s!"Invalid descriptor '{error.descriptor}': {error.fault.message} at {error.position}"

def ofStop (descriptor : String) (stop : Descriptor.Stop) : DescriptorError :=
  ⟨descriptor, stop.fault, stop.position descriptor.toList⟩

end DescriptorError

open Descriptor

def FieldType.parse (descriptor : String) : Except DescriptorError FieldType :=
  (readFieldType descriptor.toList >>= complete).mapError (DescriptorError.ofStop descriptor)

def MethodDescriptor.parse (descriptor : String) : Except DescriptorError MethodDescriptor :=
  let read : Except Stop MethodDescriptor :=
    match descriptor.toList with
    | '(' :: rest => do
      let arguments ← readArguments rest
      let returnType ← readReturnType arguments.rest
      return ⟨arguments.value, ← complete returnType⟩
    | text => .error ⟨.expectedParenthesis, text⟩
  read.mapError (DescriptorError.ofStop descriptor)

end TypeTokenWrappers
