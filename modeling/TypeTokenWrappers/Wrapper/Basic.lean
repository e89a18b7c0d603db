import TypeTokenWrappers.Signature.Basic

/-! # Wrappers

A wrapper is an inline function that calls a method of the same name and passes
the class of its reified type parameter as the type token. -/

namespace TypeTokenWrappers

structure Wrapper where
  typeParameterName : String
  /-- The type parameters of the extended type itself. -/
  extendedTypeParameters : List TypeParameter
  extendedType : String
  functionName : String
  returnType : String
  /-- Name and type of each further parameter, in order. -/
  parameters : List (String × String)
deriving DecidableEq, Repr

namespace Wrapper

def commaSeparated (items : List String) : String :=
  ", ".intercalate items

def typeParameterDeclaration (parameter : TypeParameter) : String :=
  match parameter.bounds with
  | some bounds => parameter.name ++ " : " ++ bounds
  | none => parameter.name

/-- All type parameters: `<T, U : java.lang.Runnable, reified S>`. -/
def typeParametersDeclaration (wrapper : Wrapper) : String :=
  let declared := wrapper.extendedTypeParameters.map typeParameterDeclaration
  "<" ++ commaSeparated (declared ++ ["reified " ++ wrapper.typeParameterName]) ++ ">"

/-- The extended type with its arguments: `org.gradle.api.Thing<T, U>`. -/
def extendedTypeDeclaration (wrapper : Wrapper) : String :=
  match wrapper.extendedTypeParameters with
  | [] => wrapper.extendedType
  | parameters => wrapper.extendedType ++ "<" ++ commaSeparated (parameters.map (·.name)) ++ ">"

def parametersDeclaration (wrapper : Wrapper) : String :=
  commaSeparated (wrapper.parameters.map fun (name, type) => name ++ ": " ++ type)

def parametersPassing (wrapper : Wrapper) : String :=
  String.join (wrapper.parameters.map fun (name, _) => ", " ++ name)

def render (wrapper : Wrapper) : String :=
  "inline\n" ++
    "fun " ++ wrapper.typeParametersDeclaration ++ " " ++ wrapper.extendedTypeDeclaration ++ "." ++
    wrapper.functionName ++ "(" ++ wrapper.parametersDeclaration ++ "): " ++ wrapper.returnType ++
    " =\n" ++
    "    " ++ wrapper.functionName ++ "(" ++ wrapper.typeParameterName ++ "::class.java" ++
    wrapper.parametersPassing ++ ")"

end Wrapper

end TypeTokenWrappers
