import Mathlib.Data.Set.List
import TypeTokenWrappers.Proofs.Descriptor.Reader

/-! # Reading descriptors is the inverse of printing them

What a descriptor can say is spelled here with `void` as a type like any other, which may
stand anywhere. Exactly the proper types are read: those in which `void` is at most what
a method returns. Each is read from its text, and no two of them share one. -/

namespace TypeTokenWrappers

/-! ## Types with `void` anywhere -/

inductive SpelledType where
  | void
  | primitive (kind : Primitive)
  | classType (internalName : String)
  | array (element : SpelledType)
deriving DecidableEq, Repr

namespace SpelledType

def text : SpelledType → List Char
  | .void => ['V']
  | .primitive kind => [kind.letter]
  | .classType internalName => 'L' :: internalName.toList ++ [';']
  | .array element => '[' :: element.text

/-- Whether values can have the type: `void` is no part of it, and a class name is not empty
and does not hold the `;` that ends it. -/
def Proper : SpelledType → Prop
  | .void => False
  | .primitive _ => True
  | .classType internalName => internalName.toList ≠ [] ∧ ';' ∉ internalName.toList
  | .array element => element.Proper

end SpelledType

structure SpelledMethod where
  arguments : List SpelledType
  returnType : SpelledType
deriving DecidableEq, Repr

namespace SpelledMethod

def text (method : SpelledMethod) : List Char :=
  '(' :: method.arguments.flatMap SpelledType.text ++ ')' :: method.returnType.text

structure Proper (method : SpelledMethod) : Prop where
  arguments : ∀ argument ∈ method.arguments, argument.Proper
  returnType : method.returnType = .void ∨ method.returnType.Proper

end SpelledMethod

/-! ## How descriptors are spelled -/

namespace FieldType

def spelled : FieldType → SpelledType
  | .primitive kind => .primitive kind
  | .classType internalName => .classType internalName
  | .array element => .array element.spelled

@[simp] theorem text_spelled (type : FieldType) : type.spelled.text = type.text := by
  induction type with
  | primitive => rfl
  | classType => rfl
  | array element induction => simp [spelled, SpelledType.text, text, induction]

@[simp] theorem proper_spelled (type : FieldType) : type.spelled.Proper ↔ type.Readable := by
  induction type with
  | primitive => exact Iff.rfl
  | classType => exact Iff.rfl
  | array element induction => exact induction

end FieldType

theorem SpelledType.Proper.exists_spelled {type : SpelledType} (proper : type.Proper) :
    ∃ field : FieldType, field.spelled = type := by
  induction type with
  | void => exact proper.elim
  | primitive kind => exact ⟨.primitive kind, rfl⟩
  | classType internalName => exact ⟨.classType internalName, rfl⟩
  | array element induction =>
      rcases induction proper with ⟨field, equal⟩
      exact ⟨.array field, congrArg SpelledType.array equal⟩

def ReturnType.spelled : ReturnType → SpelledType
  | .void => .void
  | .value type => type.spelled

namespace MethodDescriptor

def spelled (descriptor : MethodDescriptor) : SpelledMethod :=
  ⟨descriptor.arguments.map FieldType.spelled, descriptor.returnType.spelled⟩

@[simp] theorem text_spelled (descriptor : MethodDescriptor) :
    descriptor.spelled.text = descriptor.text := by
  have returned : descriptor.returnType.spelled.text = descriptor.returnType.text := by
    cases descriptor.returnType with
    | void => rfl
    | value type => exact type.text_spelled
  simp [spelled, SpelledMethod.text, text, List.flatMap_map, returned]

@[simp] theorem proper_spelled (descriptor : MethodDescriptor) :
    descriptor.spelled.Proper ↔ descriptor.Readable := by
  have arguments : (∀ argument ∈ descriptor.spelled.arguments, argument.Proper) ↔
      ∀ argument ∈ descriptor.arguments, argument.Readable := by
    simp [spelled]
  have returned : (descriptor.spelled.returnType = .void ∨
      descriptor.spelled.returnType.Proper) ↔ descriptor.returnType.Readable := by
    change descriptor.returnType.spelled = .void ∨ descriptor.returnType.spelled.Proper ↔ _
    cases descriptor.returnType with
    | void => exact ⟨fun _ => trivial, fun _ => .inl rfl⟩
    | value type =>
        have notVoid : type.spelled ≠ .void := by cases type <;> exact nofun
        exact (or_iff_right notVoid).trans type.proper_spelled
  constructor
  · intro proper
    exact ⟨arguments.mp proper.arguments, returned.mp proper.returnType⟩
  · intro readable
    exact ⟨arguments.mpr readable.arguments, returned.mpr readable.returnType⟩

end MethodDescriptor

theorem SpelledMethod.Proper.exists_spelled {method : SpelledMethod} (proper : method.Proper) :
    ∃ descriptor : MethodDescriptor, descriptor.spelled = method := by
  have arguments : method.arguments ∈ Set.range (List.map FieldType.spelled) := by
    rw [Set.range_list_map]
    intro argument member
    exact (proper.arguments argument member).exists_spelled
  have returned : ∃ type : ReturnType, type.spelled = method.returnType := by
    rcases proper.returnType with void | value
    · exact ⟨.void, void.symm⟩
    · rcases value.exists_spelled with ⟨type, equal⟩
      exact ⟨.value type, equal⟩
  rcases arguments with ⟨types, argumentsEqual⟩
  rcases returned with ⟨type, returnEqual⟩
  refine ⟨⟨types, type⟩, ?_⟩
  rw [MethodDescriptor.spelled, argumentsEqual, returnEqual]

/-! ## Texts tell what they spell -/

open Descriptor Taken

theorem MethodDescriptor.eq_of_text_append {first second : MethodDescriptor}
    {front back : List Char} (firstReadable : first.Readable) (secondReadable : second.Readable)
    (same : first.text ++ front = second.text ++ back) : first = second ∧ front = back := by
  have split (descriptor : MethodDescriptor) (rest : List Char) : descriptor.text ++ rest =
      '(' :: (descriptor.arguments.flatMap FieldType.text ++
        ')' :: (descriptor.returnType.text ++ rest)) := by
    simp [text]
  rw [split, split] at same
  rcases eq_of_layout reads_readArguments firstReadable.arguments secondReadable.arguments
    (List.cons.inj same).2 with ⟨arguments, behind⟩
  rcases eq_of_layout reads_readReturnType firstReadable.returnType secondReadable.returnType
    behind with ⟨returned, rest⟩
  rcases first with ⟨_, _⟩
  cases arguments
  cases returned
  exact ⟨rfl, rest⟩

/-! ## The inverse -/

/-- Whether reading undoes printing. The texts of proper values are read, and nothing else
is; no text is that of two values; and none goes on behind another. -/
structure Undoes (parse : String → Except ε α) (Proper : α → Prop) (print : α → List Char) :
    Prop where
  reads : ∀ text value, parse text = .ok value ↔ Proper value ∧ text.toList = print value
  separates : ∀ first second, Proper first → Proper second → print first = print second →
    first = second
  ends : ∀ text more first second, parse text = .ok first → parse (text ++ more) = .ok second →
    more = ""

/-- Reading undoes printing up to a spelling that reaches all proper values. -/
theorem Undoes.of_spelled {parse : String → Except ε α} {Readable : α → Prop}
    {print : α → List Char} {spelled : α → β} {Proper : β → Prop} {spell : β → List Char}
    (reads : ∀ {text value}, parse text = .ok value ↔ Readable value ∧ text.toList = print value)
    (tells : ∀ {first second front back}, Readable first → Readable second →
      print first ++ front = print second ++ back → first = second ∧ front = back)
    (proper_spelled : ∀ value, Proper (spelled value) ↔ Readable value)
    (spell_spelled : ∀ value, spell (spelled value) = print value)
    (exists_spelled : ∀ {value}, Proper value → ∃ found, spelled found = value) :
    Undoes (fun text => (parse text).map spelled) Proper spell := by
  constructor
  case reads =>
    intro text value
    rw [map_ok_iff]
    constructor
    · intro found
      rcases found with ⟨read, ok, rfl⟩
      rcases reads.mp ok with ⟨readable, whole⟩
      exact ⟨(proper_spelled read).mpr readable, whole.trans (spell_spelled read).symm⟩
    · intro proper
      rcases exists_spelled proper.1 with ⟨read, rfl⟩
      rw [proper_spelled, spell_spelled] at proper
      exact ⟨read, reads.mpr proper, rfl⟩
  case separates =>
    intro first second firstProper secondProper same
    rcases exists_spelled firstProper with ⟨read, rfl⟩
    rcases exists_spelled secondProper with ⟨other, rfl⟩
    rw [proper_spelled] at firstProper secondProper
    rw [spell_spelled, spell_spelled] at same
    have equal := tells firstProper secondProper (congrArg (· ++ []) same)
    rw [equal.1]
  case ends =>
    intro text more first second readFirst readSecond
    rcases map_ok_iff.mp readFirst with ⟨read, readOk, _⟩
    rcases map_ok_iff.mp readSecond with ⟨other, otherOk, _⟩
    rcases reads.mp readOk with ⟨readable, whole⟩
    rcases reads.mp otherOk with ⟨otherReadable, otherWhole⟩
    rw [String.toList_append, whole, ← List.append_nil (print other)] at otherWhole
    have nothing := (tells readable otherReadable otherWhole).2
    exact String.toList_eq_nil_iff.mp nothing

/-- Reading descriptors undoes printing them, for types and for methods. -/
theorem parse_undoes_text :
    Undoes (fun text => (FieldType.parse text).map FieldType.spelled)
      SpelledType.Proper SpelledType.text ∧
    Undoes (fun text => (MethodDescriptor.parse text).map MethodDescriptor.spelled)
      SpelledMethod.Proper SpelledMethod.text :=
  ⟨.of_spelled FieldType.parse_eq_ok_iff (eq_of_layout reads_readFieldType)
      FieldType.proper_spelled FieldType.text_spelled SpelledType.Proper.exists_spelled,
    .of_spelled MethodDescriptor.parse_eq_ok_iff MethodDescriptor.eq_of_text_append
      MethodDescriptor.proper_spelled MethodDescriptor.text_spelled
      SpelledMethod.Proper.exists_spelled⟩

/-- `void` is what a method returns, and nothing else. -/
example : (MethodDescriptor.parse "(I)V").toOption = some ⟨[.primitive .int], .void⟩ ∧
    (MethodDescriptor.parse "(V)V").toOption = none ∧ (FieldType.parse "[V").toOption = none := by
  cbv

end TypeTokenWrappers
