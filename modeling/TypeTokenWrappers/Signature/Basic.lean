import TypeTokenWrappers.TypeName

/-! # Generic signatures

A signature is the text by which a compiled class or method keeps its generic
types. Only its first part matters here, the section `<T::Ljava/lang/Runnable;>`
of formal type parameters. The types below are the syntax of that section. -/

namespace TypeTokenWrappers

namespace Signature

inductive Variance where
  | covariant
  | contravariant
  | invariant
deriving DecidableEq, Repr

def Variance.text : Variance → List Char
  | .covariant => ['+']
  | .contravariant => ['-']
  | .invariant => []

mutual
inductive ReferenceType where
  /-- A class type, followed by the inner classes it is narrowed to. -/
  | classType (outer : ClassSegment) (inner : List ClassSegment)
  | typeVariable (name : String)
  | primitiveArray (element : Primitive)
  | array (element : ReferenceType)

inductive ClassSegment where
  | plain (name : String)
  | parameterized (name : String) (arguments : List TypeArgument)

inductive TypeArgument where
  | wildcard
  | bounded (variance : Variance) (bound : ReferenceType)
end

/-! Printing. -/

mutual
def ReferenceType.text : ReferenceType → List Char
  | .classType outer inner => 'L' :: outer.text ++ innerText inner ++ [';']
  | .typeVariable name => 'T' :: name.toList ++ [';']
  | .primitiveArray element => ['[', element.letter]
  | .array element => '[' :: element.text

def ClassSegment.text : ClassSegment → List Char
  | .plain name => name.toList
  | .parameterized name arguments => name.toList ++ '<' :: argumentsText arguments ++ ['>']

def TypeArgument.text : TypeArgument → List Char
  | .wildcard => ['*']
  | .bounded variance bound => variance.text ++ bound.text

def innerText : List ClassSegment → List Char
  | [] => []
  | segment :: others => '.' :: segment.text ++ innerText others

def argumentsText : List TypeArgument → List Char
  | [] => []
  | argument :: others => argument.text ++ argumentsText others
end

/-! The class names of a reference type. An inner class is not named on its own,
but the types among its arguments are. -/

mutual
def ReferenceType.classNames : ReferenceType → List String
  | .classType outer inner => ClassName.dotted outer.name :: outer.argumentNames ++ innerNames inner
  | .typeVariable _ => []
  | .primitiveArray _ => []
  | .array element => element.classNames

def ClassSegment.argumentNames : ClassSegment → List String
  | .plain _ => []
  | .parameterized _ arguments => argumentsNames arguments

def TypeArgument.classNames : TypeArgument → List String
  | .wildcard => []
  | .bounded _ bound => bound.classNames

def innerNames : List ClassSegment → List String
  | [] => []
  | segment :: others => segment.argumentNames ++ innerNames others

def argumentsNames : List TypeArgument → List String
  | [] => []
  | argument :: others => argument.classNames ++ argumentsNames others

def ClassSegment.name : ClassSegment → String
  | .plain name => name
  | .parameterized name _ => name
end

structure Parameter where
  name : String
  classBound : Option ReferenceType
  interfaceBounds : List ReferenceType

namespace Parameter

def text (parameter : Parameter) : List Char :=
  parameter.name.toList ++ ':' :: (parameter.classBound.map ReferenceType.text).getD [] ++
    parameter.interfaceBounds.flatMap fun bound => ':' :: bound.text

/-- The class names in the interface bounds; those of the class bound are dropped. -/
def boundNames (parameter : Parameter) : List String :=
  parameter.interfaceBounds.flatMap ReferenceType.classNames

end Parameter

def sectionText (parameters : List Parameter) : List Char :=
  '<' :: parameters.flatMap Parameter.text ++ ['>']

end Signature

structure TypeParameter where
  name : String
  /-- The bounds, separated by commas; absent when there are none. -/
  bounds : Option String
deriving DecidableEq, Repr

namespace Signature

abbrev Declared := List (String × List String)

namespace Declared

/-- Declares a name. A name that was declared before keeps its place and gives
up its earlier bounds. -/
def declare (name : String) (bounds : List String) : Declared → Declared
  | [] => [(name, bounds)]
  | (other, earlier) :: others =>
    if other = name then (name, bounds) :: others
    else (other, earlier) :: declare name bounds others

def ofParameters (parameters : List Parameter) : Declared :=
  parameters.foldl (fun declared parameter => declare parameter.name parameter.boundNames declared) []

end Declared

def typeParameter : String × List String → TypeParameter
  | (name, []) => ⟨name, none⟩
  | (name, bounds) => ⟨name, some (", ".intercalate bounds)⟩

def declaredParameters (parameters : List Parameter) : List TypeParameter :=
  (Declared.ofParameters parameters).map typeParameter

end Signature

end TypeTokenWrappers
