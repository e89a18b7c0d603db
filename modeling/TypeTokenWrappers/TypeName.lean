/-! # Names of types

Compiled classes name a class by its internal name, `org/gradle/api/Project`,
and a primitive type by a letter. Source code names a class by its dotted name,
`org.gradle.api.Project`, and a primitive type by a word. -/

namespace TypeTokenWrappers

namespace ClassName

/-- A `$` of a nested class is part of the name and stays. -/
def dotted (internalName : String) : String :=
  internalName.map fun char => if char = '/' then '.' else char

def object : String := "java.lang.Object"

/-- The type of type tokens. -/
def token : String := "java.lang.Class"

example : dotted "java/util/Map$Entry" = "java.util.Map$Entry" := by decide +kernel

end ClassName

inductive Primitive where
  | boolean
  | char
  | byte
  | short
  | int
  | float
  | long
  | double
deriving DecidableEq, Repr

namespace Primitive

def letter : Primitive → Char
  | .boolean => 'Z'
  | .char => 'C'
  | .byte => 'B'
  | .short => 'S'
  | .int => 'I'
  | .float => 'F'
  | .long => 'J'
  | .double => 'D'

def ofLetter? : Char → Option Primitive
  | 'Z' => some .boolean
  | 'C' => some .char
  | 'B' => some .byte
  | 'S' => some .short
  | 'I' => some .int
  | 'F' => some .float
  | 'J' => some .long
  | 'D' => some .double
  | _ => none

def name : Primitive → String
  | .boolean => "boolean"
  | .char => "char"
  | .byte => "byte"
  | .short => "short"
  | .int => "int"
  | .float => "float"
  | .long => "long"
  | .double => "double"

@[simp] theorem ofLetter?_letter (primitive : Primitive) :
    ofLetter? primitive.letter = some primitive := by
  cases primitive <;> rfl

theorem letter_of_ofLetter? {char : Char} {primitive : Primitive}
    (found : ofLetter? char = some primitive) : char = primitive.letter := by
  unfold ofLetter? at found
  split at found <;> simp_all <;> subst found <;> rfl

end Primitive

end TypeTokenWrappers
