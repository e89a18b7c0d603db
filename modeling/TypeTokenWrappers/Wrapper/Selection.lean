import TypeTokenWrappers.ClassFile.Reader
import TypeTokenWrappers.Config.Basic
import TypeTokenWrappers.Descriptor.Reader
import TypeTokenWrappers.Error
import TypeTokenWrappers.Signature.Reader
import TypeTokenWrappers.Wrapper.Basic

/-! # Selecting the methods to wrap

A class takes part if it is not excluded by name, extends nothing but the
universal base type, and carries a generic signature without type parameters.
Of its methods those are wrapped that are public, take a type token and nothing
else, and declare one type parameter without bounds. Signatures and descriptors
that cannot be read only disqualify their class or method. -/

namespace TypeTokenWrappers

structure ClassRecord where
  entry : String
  bytes : List UInt8
deriving DecidableEq, Repr

namespace Wrapper

def declaresNothing (signature : String) : Bool :=
  match Signature.typeParameters signature with
  | .ok [] => true
  | _ => false

def extendedType? (rules : Config.Scan) (header : ClassHeader) : Option String :=
  let name := ClassName.dotted header.name
  let admitted :=
    !rules.typeBlacklist.contains name &&
    header.superName.map ClassName.dotted == some ClassName.object &&
    header.signature.any declaresNothing
  if admitted then some name else none

def takesOnlyToken (arguments : List FieldType) : Bool :=
  match arguments with
  | [.classType internalName] => ClassName.dotted internalName == ClassName.token
  | _ => false

def soleUnboundedParameter? (signature : String) : Option String :=
  match Signature.typeParameters signature with
  | .ok [⟨name, none⟩] => some name
  | _ => none

/-- A method that returns the universal base type returns the type parameter;
any other return type is applied to it. -/
def wrappedReturnType (returnType : ReturnType) (typeParameterName : String) : String :=
  let name := returnType.className
  if name = ClassName.object then typeParameterName
  else name ++ "<" ++ typeParameterName ++ ">"

def ofMethod? (rules : Config.Scan) (extendedType : String) (method : CompiledMethod) :
    Option Wrapper := do
  guard (!rules.methodBlacklist.contains method.name && method.isPublic)
  let signature ← method.signature
  let descriptor ← (MethodDescriptor.parse method.descriptor).toOption
  guard (takesOnlyToken descriptor.arguments)
  let typeParameterName ← soleUnboundedParameter? signature
  return {
    typeParameterName
    extendedTypeParameters := []
    extendedType
    functionName := method.name
    returnType := wrappedReturnType descriptor.returnType typeParameterName
    parameters := [] }

/-- The name of the class, once it is known to take part, and the wrappers so far. -/
structure Walk where
  extendedType : Option String
  wrappers : List Wrapper
deriving DecidableEq, Repr

namespace Walk

def start : Walk := ⟨none, []⟩

def meet (rules : Config.Scan) (walk : Walk) : ClassEvent → Walk
  | .header header =>
    match extendedType? rules header with
    | some extendedType => { walk with extendedType }
    | none => walk
  | .method method =>
    match walk.extendedType.bind (ofMethod? rules · method) with
    | some wrapper => { walk with wrappers := walk.wrappers ++ [wrapper] }
    | none => walk
  | .finished => walk

end Walk

def ofClass (rules : Config.Scan) (compiled : CompiledClass) : List Wrapper :=
  (compiled.events.foldl (Walk.meet rules) Walk.start).wrappers

/-- The wrappers of a class file. Bytes that are no class file are an error. -/
def ofRecord (rules : Config.Scan) (record : ClassRecord) : Except Error (List Wrapper) :=
  match CompiledClass.ofBytes record.bytes with
  | .ok compiled => .ok (ofClass rules compiled)
  | .error error => .error (.classFormat record.entry error.message)

end Wrapper

end TypeTokenWrappers
