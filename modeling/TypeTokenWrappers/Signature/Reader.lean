import TypeTokenWrappers.Signature.Basic
import TypeTokenWrappers.Text.Taken

/-! # Reading the formal type parameters of a signature

The reader descends through the section, taking each piece from the front of
the text. It reads the section only, so what follows the closing `>` never
matters, and a signature that does not begin with `<` declares nothing. -/

namespace TypeTokenWrappers

namespace Signature

inductive Fault where
  | unexpectedEnd
  | emptyIdentifier
  | expected (char : Char)
  | expectedReferenceType
  | unterminatedTypeArguments
deriving DecidableEq, Repr

def Fault.message : Fault → String
  | .unexpectedEnd => "unexpected end of signature"
  | .emptyIdentifier => "empty identifier"
  | .expected char => s!"expected '{char}'"
  | .expectedReferenceType => "expected a reference type"
  | .unterminatedTypeArguments => "unterminated type arguments"

structure Stop where
  fault : Fault
  rest : List Char
deriving DecidableEq, Repr

def readIdentifier (ends : Char → Bool) (text : List Char) :
    Except Stop (Taken String text.length) :=
  match text with
  | [] => .error ⟨.unexpectedEnd, []⟩
  | first :: rest =>
    if ends first then .error ⟨.emptyIdentifier, first :: rest⟩
    else match Taken.before? ends rest with
      | some others => .ok ((others.map fun name => String.ofList (first :: name)).behindMaybe first)
      | none => .error ⟨.unexpectedEnd, first :: rest⟩

def readChar (char : Char) (text : List Char) : Except Stop (Taken Unit text.length) :=
  match text with
  | [] => .error ⟨.expected char, []⟩
  | first :: rest =>
    if first = char then .ok (.one () first rest)
    else .error ⟨.expected char, first :: rest⟩

def endsParameterName (char : Char) : Bool := char == ':'

def endsTypeVariable (char : Char) : Bool := char == ';'

def endsClassName (char : Char) : Bool := char == '<' || char == '.' || char == ';'

mutual
def readReferenceType (text : List Char) : Except Stop (Taken ReferenceType text.length) :=
  match text with
  | 'L' :: rest => do
    let outer ← readClassSegment rest
    let inner ← readInnerSegments outer.rest
    return (outer.andThen (inner.map (.classType outer.value))).behind 'L'
  | 'T' :: rest => do
    let name ← readIdentifier endsTypeVariable rest
    let closing ← readChar ';' name.rest
    return (name.andThen (closing.map fun _ => .typeVariable name.value)).behind 'T'
  | '[' :: letter :: rest =>
    match Primitive.ofLetter? letter with
    | some element => .ok ((Taken.one (.primitiveArray element) letter rest).behind '[')
    | none => do
      let element ← readReferenceType (letter :: rest)
      return (element.map .array).behind '['
  | ['['] => .error ⟨.expectedReferenceType, []⟩
  | other => .error ⟨.expectedReferenceType, other⟩
termination_by (text.length, 0)
decreasing_by
  · exact Prod.Lex.left _ _ (Nat.lt_succ_self _)
  · exact Prod.Lex.left _ _ (Nat.lt_succ_of_lt outer.shorter)
  · exact Prod.Lex.left _ _ (Nat.lt_succ_self _)

def readClassSegment (text : List Char) : Except Stop (Taken ClassSegment text.length) := do
  let name ← readIdentifier endsClassName text
  match ahead : name.rest with
  | '<' :: rest =>
    let arguments ← readTypeArguments rest
    return name.optional.nextMaybe ahead (arguments.map (.parameterized name.value)).optional
  | _ => return name.map .plain
termination_by (text.length, 0)
decreasing_by
  have := name.shorter
  simp only [ahead, List.length_cons] at this
  exact Prod.Lex.left _ _ (by omega)

def readInnerSegments (text : List Char) :
    Except Stop (Taken (List ClassSegment) text.length) :=
  match text with
  | '.' :: rest => do
    let segment ← readClassSegment rest
    let others ← readInnerSegments segment.rest
    return (segment.andThen (others.map (segment.value :: ·))).behind '.'
  | other => do
    let closing ← readChar ';' other
    return closing.map fun _ => []
termination_by (text.length, 0)
decreasing_by
  · exact Prod.Lex.left _ _ (Nat.lt_succ_self _)
  · exact Prod.Lex.left _ _ (Nat.lt_succ_of_lt segment.shorter)

def readTypeArguments (text : List Char) :
    Except Stop (Taken (List TypeArgument) text.length) :=
  match text with
  | [] => .error ⟨.unterminatedTypeArguments, []⟩
  | '>' :: rest => .ok (.one [] '>' rest)
  | first :: rest => do
    let argument ← readTypeArgument (first :: rest)
    let others ← readTypeArguments argument.rest
    return argument.andThen (others.map (argument.value :: ·))
termination_by (text.length, 2)
decreasing_by
  · exact Prod.Lex.right _ (by omega)
  · exact Prod.Lex.left _ _ argument.shorter

def readTypeArgument (text : List Char) : Except Stop (Taken TypeArgument text.length) :=
  match text with
  | '*' :: rest => .ok (.one .wildcard '*' rest)
  | '+' :: rest => do
    let bound ← readReferenceType rest
    return (bound.map (.bounded .covariant)).behind '+'
  | '-' :: rest => do
    let bound ← readReferenceType rest
    return (bound.map (.bounded .contravariant)).behind '-'
  | other => do
    let bound ← readReferenceType other
    return bound.map (.bounded .invariant)
termination_by (text.length, 1)
end

/-- The class bound is absent when no reference type begins behind the colon. -/
def readClassBound (text : List Char) :
    Except Stop (Taken (Option ReferenceType) (text.length + 1)) :=
  match text with
  | first :: rest =>
    if first == 'L' || first == 'T' || first == '[' then do
      let bound ← readReferenceType (first :: rest)
      return (bound.map some).optional
    else .ok (.nothing none _)
  | [] => .ok (.nothing none _)

def readInterfaceBounds (text : List Char) :
    Except Stop (Taken (List ReferenceType) (text.length + 1)) :=
  match text with
  | ':' :: rest => do
    let bound ← readReferenceType rest
    let others ← readInterfaceBounds bound.rest
    return ((bound.andMaybe (others.map (bound.value :: ·))).behind ':').optional
  | other => .ok (.nothing [] other)
termination_by text.length
decreasing_by
  have := bound.shorter
  simp only [List.length_cons]
  omega

def readParameter (text : List Char) : Except Stop (Taken Parameter text.length) := do
  let name ← readIdentifier endsParameterName text
  let colon ← readChar ':' name.rest
  let classBound ← readClassBound colon.rest
  let interfaceBounds ← readInterfaceBounds classBound.rest
  return name.andThen <| colon.andMaybe <| classBound.andMaybe <|
    interfaceBounds.map fun bounds => ⟨name.value, classBound.value, bounds⟩

/-- Reads parameters up to and including the closing `>`. There is at least one. -/
def readParameters (text : List Char) : Except Stop (Taken (List Parameter) text.length) := do
  let parameter ← readParameter text
  match ahead : parameter.rest with
  | '>' :: _ => return parameter.optional.next ahead [parameter.value]
  | _ =>
    let others ← readParameters parameter.rest
    return parameter.andThen (others.map (parameter.value :: ·))
termination_by text.length
decreasing_by exact parameter.shorter

def readSection (text : List Char) : Except Stop (List Parameter) :=
  match text with
  | '<' :: rest => (·.value) <$> readParameters rest
  | _ => .ok []

end Signature

structure SignatureError where
  signature : String
  fault : Signature.Fault
  position : Nat
deriving DecidableEq, Repr

namespace SignatureError

def message (error : SignatureError) : String :=
  s!"Invalid signature '{error.signature}' at {error.position}: {error.fault.message}"

def ofStop (signature : String) (stop : Signature.Stop) : SignatureError :=
  ⟨signature, stop.fault, bytesBefore signature.toList stop.rest⟩

end SignatureError

def Signature.typeParameters (signature : String) : Except SignatureError (List TypeParameter) :=
  ((Signature.readSection signature.toList).map Signature.declaredParameters).mapError
    (SignatureError.ofStop signature)

end TypeTokenWrappers
