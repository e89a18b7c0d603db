import TypeTokenWrappers.TypeName

/-! # Descriptors

A descriptor is the compact text by which a compiled class gives the type of a
field or of a method: `[I`, `(Ljava/lang/Class;I)V`. What descriptors cannot say,
such as `void` anywhere but as what a method returns, is no type here. -/

namespace TypeTokenWrappers

inductive FieldType where
  | primitive (kind : Primitive)
  | classType (internalName : String)
  | array (element : FieldType)
deriving DecidableEq, Repr

namespace FieldType

/-- The name of the type in source code: `int`, `java.lang.String[][]`. -/
def className : FieldType → String
  | .primitive kind => kind.name
  | .classType internalName => ClassName.dotted internalName
  | .array element => element.className ++ "[]"

def text : FieldType → List Char
  | .primitive kind => [kind.letter]
  | .classType internalName => 'L' :: internalName.toList ++ [';']
  | .array element => '[' :: element.text

def dimensions : FieldType → Nat
  | .array element => element.dimensions + 1
  | _ => 0

def innermost : FieldType → FieldType
  | .array element => element.innermost
  | type => type

end FieldType

inductive ReturnType where
  | void
  | value (type : FieldType)
deriving DecidableEq, Repr

namespace ReturnType

def className : ReturnType → String
  | .void => "void"
  | .value type => type.className

def text : ReturnType → List Char
  | .void => ['V']
  | .value type => type.text

end ReturnType

structure MethodDescriptor where
  arguments : List FieldType
  returnType : ReturnType
deriving DecidableEq, Repr

namespace MethodDescriptor

def text (descriptor : MethodDescriptor) : List Char :=
  '(' :: descriptor.arguments.flatMap FieldType.text ++ ')' :: descriptor.returnType.text

end MethodDescriptor

end TypeTokenWrappers
