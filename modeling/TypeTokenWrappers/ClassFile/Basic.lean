/-! # Compiled classes

The part of a compiled class that decides about wrappers: names, access flags,
descriptors and generic signatures. Names are internal names. -/

namespace TypeTokenWrappers

structure ClassHeader where
  majorVersion : UInt16
  minorVersion : UInt16
  access : UInt16
  name : String
  signature : Option String
  /-- Absent for the universal base type and for module descriptions. -/
  superName : Option String
  interfaces : List String
deriving DecidableEq, Repr

structure CompiledMethod where
  access : UInt16
  name : String
  descriptor : String
  signature : Option String
deriving DecidableEq, Repr

structure CompiledClass where
  header : ClassHeader
  methods : List CompiledMethod
deriving DecidableEq, Repr

namespace CompiledMethod

def isPublic (method : CompiledMethod) : Bool :=
  method.access &&& 0x0001 != 0

end CompiledMethod

inductive ClassEvent where
  | header (header : ClassHeader)
  | method (method : CompiledMethod)
  | finished
deriving DecidableEq, Repr

namespace CompiledClass

def events (compiled : CompiledClass) : List ClassEvent :=
  .header compiled.header :: compiled.methods.map .method ++ [.finished]

end CompiledClass

end TypeTokenWrappers
