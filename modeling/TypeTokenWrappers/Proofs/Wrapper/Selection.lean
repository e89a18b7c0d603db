import Mathlib.Data.Option.Basic
import TypeTokenWrappers.ClassFile.Layout
import TypeTokenWrappers.Proofs.Descriptor.Reader
import TypeTokenWrappers.Proofs.Signature.Declared
import TypeTokenWrappers.Proofs.Signature.Section
import TypeTokenWrappers.Wrapper.Selection

/-! # Which methods are wrapped

The methods that are selected are described by the grammar of their descriptors and
signatures, without the readers of these. -/

namespace TypeTokenWrappers.Wrapper

open Signature

/-! ## Classes and methods that take part -/

structure Admitted (rules : Config.Scan) (header : ClassHeader) : Prop where
  allowed : ClassName.dotted header.name ∉ rules.typeBlacklist
  extendsObject : ∃ superName, header.superName = some superName ∧
    ClassName.dotted superName = "java.lang.Object"
  notGeneric : ∃ signature, header.signature = some signature ∧
    signature.toList.head? ≠ some '<'

/-- A signature whose section declares this name and no other, the last time without
a class in its interface bounds. -/
def DeclaresOnly (signature name : String) : Prop :=
  ∃ before last rest, SectionReadable (before ++ [last]) ∧
    signature.toList = sectionText (before ++ [last]) ++ rest ∧
    (∀ parameter ∈ before ++ [last], parameter.name = name) ∧ last.boundNames = []

/-- A text that is the descriptor of a method that takes a type token and nothing else. -/
def TakesToken (text : String) (returnType : ReturnType) : Prop :=
  ∃ internalName, ClassName.dotted internalName = "java.lang.Class" ∧
    MethodDescriptor.Readable ⟨[.classType internalName], returnType⟩ ∧
    text.toList = MethodDescriptor.text ⟨[.classType internalName], returnType⟩

structure Eligible (rules : Config.Scan) (method : CompiledMethod) : Prop where
  allowed : method.name ∉ rules.methodBlacklist
  isPublic : method.access.toNat.testBit 0 = true
  takesToken : ∃ returnType, TakesToken method.descriptor returnType
  declares : ∃ signature name, method.signature = some signature ∧ DeclaresOnly signature name

/-- What a wrapper takes from the method that it wraps. -/
structure Wraps (extendedType : String) (method : CompiledMethod) (wrapper : Wrapper) : Prop where
  typeParameterName : ∃ signature, method.signature = some signature ∧
    DeclaresOnly signature wrapper.typeParameterName
  extendedTypeParameters : wrapper.extendedTypeParameters = []
  extendedType : wrapper.extendedType = extendedType
  functionName : wrapper.functionName = method.name
  returnType : ∃ returnType, TakesToken method.descriptor returnType ∧
    wrapper.returnType =
      if returnType.className = "java.lang.Object" then wrapper.typeParameterName
      else returnType.className ++ "<" ++ wrapper.typeParameterName ++ ">"
  parameters : wrapper.parameters = []

/-! ## Single conditions -/

theorem isPublic_iff {method : CompiledMethod} :
    method.isPublic = true ↔ method.access.toNat.testBit 0 = true := by
  rw [CompiledMethod.isPublic, bne_iff_ne, Ne, ← UInt16.toNat_inj, UInt16.toNat_and,
    Nat.testBit_zero, decide_eq_true_iff]
  change ¬ method.access.toNat &&& 1 = 0 ↔ _
  rw [Nat.and_one_is_mod]
  omega

theorem declaresNothing_iff {signature : String} :
    declaresNothing signature = true ↔ signature.toList.head? ≠ some '<' := by
  have nothing : declaresNothing signature = true ↔ typeParameters signature = .ok [] := by
    rw [declaresNothing]
    split
    case h_1 found => simp [found]
    case h_2 other => exact iff_of_false Bool.false_ne_true other
  rw [nothing, typeParameters_eq_ok_iff]
  constructor
  · rintro (⟨unopened, _⟩ | ⟨parameters, rest, readable, _, nothing⟩)
    · exact unopened
    · exact absurd nothing.symm (declaredParameters_ne_nil readable.nonempty)
  · intro unopened
    exact .inl ⟨unopened, rfl⟩

theorem soleUnboundedParameter?_eq_some_iff {signature name : String} :
    soleUnboundedParameter? signature = some name ↔ DeclaresOnly signature name := by
  have single : soleUnboundedParameter? signature = some name ↔
      typeParameters signature = .ok [⟨name, none⟩] := by
    rw [soleUnboundedParameter?]
    split
    case h_1 found => simp [found]
    case h_2 other =>
      constructor
      · intro impossible
        cases impossible
      · intro found
        exact absurd found (other name)
  rw [single, typeParameters_eq_ok_iff]
  constructor
  · rintro (⟨_, impossible⟩ | ⟨parameters, rest, readable, whole, declared⟩)
    · cases impossible
    -- The last of the parameters decides about the bounds.
    · rcases List.eq_nil_or_concat parameters with nothing | ⟨before, last, split⟩
      · exact absurd nothing readable.nonempty
      · rw [List.concat_eq_append] at split
        subst split
        rcases declaredParameters_eq_singleton_iff.mp declared.symm with ⟨same, unbounded⟩
        exact ⟨before, last, rest, readable, whole, same, unbounded⟩
  · rintro ⟨before, last, rest, readable, whole, same, unbounded⟩
    have declared := declaredParameters_eq_singleton_iff.mpr ⟨same, unbounded⟩
    exact .inr ⟨_, rest, readable, whole, declared.symm⟩

theorem takesOnlyToken_iff {arguments : List FieldType} :
    takesOnlyToken arguments = true ↔
      ∃ internalName, ClassName.dotted internalName = "java.lang.Class" ∧
        arguments = [.classType internalName] := by
  rw [takesOnlyToken.eq_def]
  split
  case h_1 internalName =>
    simp [ClassName.token]
  case h_2 other =>
    constructor
    · intro impossible
      cases impossible
    · rintro ⟨internalName, _, equal⟩
      exact absurd equal (other internalName)

theorem takesToken_iff {text : String} {returnType : ReturnType} :
    TakesToken text returnType ↔ ∃ descriptor, MethodDescriptor.parse text = .ok descriptor ∧
      takesOnlyToken descriptor.arguments = true ∧ descriptor.returnType = returnType := by
  simp only [MethodDescriptor.parse_eq_ok_iff, takesOnlyToken_iff]
  constructor
  · rintro ⟨internalName, token, readable, whole⟩
    exact ⟨_, ⟨readable, whole⟩, ⟨internalName, token, rfl⟩, rfl⟩
  · rintro ⟨⟨_, _⟩, ⟨readable, whole⟩, ⟨internalName, token, rfl⟩, rfl⟩
    exact ⟨internalName, token, readable, whole⟩

theorem not_contains_iff {names : List String} {name : String} :
    (!names.contains name) = true ↔ name ∉ names := by
  rw [Bool.not_eq_true', ← Bool.not_eq_true, List.contains_iff_mem]

theorem extendedType?_eq_some_iff {rules : Config.Scan} {header : ClassHeader} {name : String} :
    extendedType? rules header = some name ↔
      Admitted rules header ∧ ClassName.dotted header.name = name := by
  have notGeneric : header.signature.any declaresNothing = true ↔
      ∃ signature, header.signature = some signature ∧ signature.toList.head? ≠ some '<' := by
    simp only [Option.any_eq_true, declaresNothing_iff]
  have object : (header.superName.map ClassName.dotted == some ClassName.object) = true ↔
      ∃ superName, header.superName = some superName ∧
        ClassName.dotted superName = "java.lang.Object" := by
    rw [beq_iff_eq, Option.map_eq_some_iff]
    rfl
  have admitted : Admitted rules header ↔ (!rules.typeBlacklist.contains
      (ClassName.dotted header.name) &&
        header.superName.map ClassName.dotted == some ClassName.object &&
        header.signature.any declaresNothing) = true := by
    rw [Bool.and_eq_true, Bool.and_eq_true, notGeneric, object, not_contains_iff]
    constructor
    · rintro ⟨allowed, extendsObject, notGeneric⟩
      exact ⟨⟨allowed, extendsObject⟩, notGeneric⟩
    · rintro ⟨⟨allowed, extendsObject⟩, notGeneric⟩
      exact ⟨allowed, extendsObject, notGeneric⟩
  by_cases holds : Admitted rules header
  · have found : extendedType? rules header = some (ClassName.dotted header.name) :=
      if_pos (admitted.mp holds)
    rw [found, Option.some.injEq, and_iff_right holds]
  · have missing : extendedType? rules header = none :=
      if_neg fun other => holds (admitted.mpr other)
    simp [missing, holds]

theorem toOption_eq_some_iff {result : Except ε α} {value : α} :
    result.toOption = some value ↔ result = .ok value := by
  cases result <;> simp [Except.toOption]

theorem ofMethod?_eq_some_iff {rules : Config.Scan} {extendedType : String}
    {method : CompiledMethod} {wrapper : Wrapper} :
    ofMethod? rules extendedType method = some wrapper ↔
      Eligible rules method ∧ Wraps extendedType method wrapper := by
  constructor
  · intro found
    simp only [ofMethod?, Option.bind_eq_bind, Option.bind_eq_some_iff, Option.guard_eq_some',
      Bool.and_eq_true, not_contains_iff, isPublic_iff, toOption_eq_some_iff,
      soleUnboundedParameter?_eq_some_iff] at found
    rcases found with ⟨_, ⟨allowed, isPublic⟩, signature, signed, descriptor, parsed, _, token,
      name, declares, equal⟩
    cases equal
    have takes : TakesToken method.descriptor descriptor.returnType :=
      takesToken_iff.mpr ⟨descriptor, parsed, token, rfl⟩
    exact ⟨⟨allowed, isPublic, ⟨_, takes⟩, signature, name, signed, declares⟩,
      ⟨signature, signed, declares⟩, rfl, rfl, rfl, ⟨_, takes, rfl⟩, rfl⟩
  · rintro ⟨eligible, wraps⟩
    rcases wraps.typeParameterName with ⟨signature, signed, declares⟩
    rcases wraps.returnType with ⟨returnType, takes, returned⟩
    rcases takesToken_iff.mp takes with ⟨descriptor, parsed, token, rfl⟩
    have allowed : (!rules.methodBlacklist.contains method.name && method.isPublic) = true := by
      rw [Bool.and_eq_true, not_contains_iff, isPublic_iff]
      exact ⟨eligible.allowed, eligible.isPublic⟩
    have name := soleUnboundedParameter?_eq_some_iff.mpr declares
    rw [ofMethod?, guard, if_pos allowed, signed, parsed]
    change (guard (takesOnlyToken descriptor.arguments = true) >>= fun _ =>
      soleUnboundedParameter? signature >>= fun typeParameterName => some _) = some wrapper
    have built : wrapper.returnType =
        wrappedReturnType descriptor.returnType wrapper.typeParameterName := returned
    rw [guard, if_pos token, name, ← wraps.extendedTypeParameters, ← wraps.extendedType,
      ← wraps.functionName, ← wraps.parameters]
    change some (Wrapper.mk _ _ _ _ (wrappedReturnType _ _) _) = _
    rw [← built]

theorem Eligible.exists_wraps {rules : Config.Scan} {method : CompiledMethod}
    (eligible : Eligible rules method) (extendedType : String) :
    ∃ wrapper, Wraps extendedType method wrapper := by
  rcases eligible.takesToken with ⟨returnType, takes⟩
  rcases eligible.declares with ⟨signature, name, signed, declares⟩
  exact ⟨⟨name, [], extendedType, method.name, wrappedReturnType returnType name, []⟩,
    ⟨⟨signature, signed, declares⟩, rfl, rfl, rfl, ⟨returnType, takes, rfl⟩, rfl⟩⟩

theorem isSome_ofMethod?_iff {rules : Config.Scan} {extendedType : String}
    {method : CompiledMethod} :
    (ofMethod? rules extendedType method).isSome = true ↔ Eligible rules method := by
  rw [Option.isSome_iff_exists]
  simp only [ofMethod?_eq_some_iff]
  constructor
  · rintro ⟨_, eligible, _⟩
    exact eligible
  · intro eligible
    rcases eligible.exists_wraps extendedType with ⟨wrapper, wraps⟩
    exact ⟨wrapper, eligible, wraps⟩

instance (rules : Config.Scan) (method : CompiledMethod) : Decidable (Eligible rules method) :=
  decidable_of_iff ((ofMethod? rules "" method).isSome = true) isSome_ofMethod?_iff

/-! ## The walk over a class -/

/-- A method changes a walk only by the wrapper that it may have, put behind the others. -/
theorem Walk.meet_method (rules : Config.Scan) (walk : Walk) (method : CompiledMethod) :
    walk.meet rules (.method method) =
      ⟨walk.extendedType, walk.wrappers ++
        (walk.extendedType.bind (ofMethod? rules · method)).toList⟩ := by
  rw [meet]
  split
  case h_1 wrapper found => rw [found, Option.toList_some]
  case h_2 missing => rw [missing, Option.toList_none, List.append_nil]

theorem Walk.foldl_meet_methods (rules : Config.Scan) (methods : List CompiledMethod)
    (walk : Walk) :
    (methods.map .method).foldl (meet rules) walk =
      ⟨walk.extendedType, walk.wrappers ++
        methods.filterMap fun method => walk.extendedType.bind (ofMethod? rules · method)⟩ := by
  induction methods generalizing walk with
  | nil => rw [List.filterMap_nil, List.append_nil]; rfl
  | cons method methods induction =>
      rw [List.map_cons, List.foldl_cons, meet_method, induction, List.append_assoc,
        List.filterMap_cons]
      cases walk.extendedType.bind (ofMethod? rules · method) with
      | none => rfl
      | some wrapper => rfl

theorem ofClass_eq (rules : Config.Scan) (compiled : CompiledClass) :
    ofClass rules compiled = compiled.methods.filterMap fun method =>
      (extendedType? rules compiled.header).bind (ofMethod? rules · method) := by
  have begun : Walk.start.meet rules (.header compiled.header) =
      ⟨extendedType? rules compiled.header, []⟩ := by
    rw [Walk.meet]
    cases extendedType? rules compiled.header with
    | none => rfl
    | some extendedType => rfl
  rw [ofClass, CompiledClass.events, List.cons_append, List.foldl_cons, List.foldl_append,
    begun, Walk.foldl_meet_methods]
  rfl

/-- The eligible methods are wrapped, each once and in order. -/
theorem forall₂_filterMap_ofMethod? (rules : Config.Scan) (extendedType : String)
    (methods : List CompiledMethod) :
    List.Forall₂ (Wraps extendedType) (methods.filter (Eligible rules ·))
      (methods.filterMap (ofMethod? rules extendedType)) := by
  induction methods with
  | nil => exact .nil
  | cons method methods induction =>
      by_cases eligible : Eligible rules method
      · rcases eligible.exists_wraps extendedType with ⟨wrapper, wraps⟩
        have found := ofMethod?_eq_some_iff.mpr ⟨eligible, wraps⟩
        rw [List.filter_cons, if_pos (decide_eq_true eligible), List.filterMap_cons_some found]
        exact .cons wraps induction
      · have missing : ofMethod? rules extendedType method = none := by
          rw [← Option.not_isSome_iff_eq_none, isSome_ofMethod?_iff]
          exact eligible
        rw [List.filter_cons, if_neg (by simpa using eligible), List.filterMap_cons_none missing]
        exact induction

theorem ofClass_of_admitted {rules : Config.Scan} {compiled : CompiledClass}
    (admitted : Admitted rules compiled.header) :
    List.Forall₂ (Wraps (ClassName.dotted compiled.header.name))
      (compiled.methods.filter (Eligible rules ·)) (ofClass rules compiled) := by
  rw [ofClass_eq, extendedType?_eq_some_iff.mpr ⟨admitted, rfl⟩]
  exact forall₂_filterMap_ofMethod? ..

theorem ofClass_of_not_admitted {rules : Config.Scan} {compiled : CompiledClass}
    (refused : ¬ Admitted rules compiled.header) : ofClass rules compiled = [] := by
  have missing : extendedType? rules compiled.header = none := by
    cases found : extendedType? rules compiled.header with
    | none => rfl
    | some name => exact absurd (extendedType?_eq_some_iff.mp found).1 refused
  rw [ofClass_eq, missing]
  exact List.filterMap_eq_nil_iff.mpr fun _ _ => rfl

/-! ## Records -/

/-- A record fails if and only if its bytes are no class file. A class that is not
admitted has no wrappers; of any other class exactly the eligible methods are
wrapped, in order. -/
theorem ofRecord_selects (rules : Config.Scan) (record : ClassRecord) :
    (∀ error, ofRecord rules record = .error error ↔
      ∃ fault, CompiledClass.ofBytes record.bytes = .error fault ∧
        error = .classFormat record.entry fault.message) ∧
    ∀ compiled, CompiledClass.ofBytes record.bytes = .ok compiled →
      ∃ wrappers, ofRecord rules record = .ok wrappers ∧
        (¬ Admitted rules compiled.header → wrappers = []) ∧
        (Admitted rules compiled.header →
          List.Forall₂ (Wraps (ClassName.dotted compiled.header.name))
            (compiled.methods.filter (Eligible rules ·)) wrappers) := by
  rw [ofRecord]
  constructor
  · intro error
    cases CompiledClass.ofBytes record.bytes with
    | ok compiled => simp
    | error fault => simp [eq_comm]
  · intro compiled accepted
    rw [accepted]
    exact ⟨_, rfl, ofClass_of_not_admitted, ofClass_of_admitted⟩

/-- `find(Class<T>): T`, as a public method and as one that is not public. -/
def sampleMethod (access : UInt16) : CompiledMethod where
  access := access
  name := "find"
  descriptor := "(Ljava/lang/Class;)Ljava/lang/Object;"
  signature := some "<T:Ljava/lang/Object;>(Ljava/lang/Class<TT;>;)TT;"

def sampleCompiled : CompiledClass where
  header := ⟨52, 0, 1, "a/Finder", some "Ljava/lang/Object;", some "java/lang/Object", []⟩
  methods := [sampleMethod 4, sampleMethod 1]

def sampleRaw : ClassFile.RawClass where
  minorVersion := 0
  majorVersion := 52
  constantCount := 10
  constants := [.classReference 2, .text (Utf8.encode "a/Finder".toList), .classReference 4,
    .text (Utf8.encode "java/lang/Object".toList), .text (Utf8.encode "Signature".toList),
    .text (Utf8.encode "Ljava/lang/Object;".toList), .text (Utf8.encode "find".toList),
    .text (Utf8.encode "(Ljava/lang/Class;)Ljava/lang/Object;".toList),
    .text (Utf8.encode "<T:Ljava/lang/Object;>(Ljava/lang/Class<TT;>;)TT;".toList)]
  access := 1
  nameIndex := 1
  superIndex := 3
  interfaces := []
  fields := []
  methods := [⟨4, 7, 8, [⟨5, [0, 9]⟩]⟩, ⟨1, 7, 8, [⟨5, [0, 9]⟩]⟩]
  attributes := [⟨5, [0, 6]⟩]

theorem ofBytes_sampleRaw : CompiledClass.ofBytes sampleRaw.bytes = .ok sampleCompiled := by
  decide +kernel

/-- A public method whose type parameter is bounded. -/
def boundedMethod : CompiledMethod where
  access := 1
  name := "find"
  descriptor := "(Ljava/lang/Class;)Ljava/lang/Object;"
  signature := some "<T::La/Set<La/Key;>;>(Ljava/lang/Class<TT;>;)TT;"

def pickMethod : CompiledMethod := { sampleMethod 1 with name := "pick" }

/-- A class with two methods that are wrapped and two that are passed over. -/
def variedCompiled : CompiledClass where
  header := sampleCompiled.header
  methods := [boundedMethod, sampleMethod 1, sampleMethod 4, pickMethod]

def variedRaw : ClassFile.RawClass :=
  { sampleRaw with
    constantCount := 12
    constants := sampleRaw.constants ++ [.text (Utf8.encode "pick".toList),
      .text (Utf8.encode "<T::La/Set<La/Key;>;>(Ljava/lang/Class<TT;>;)TT;".toList)]
    methods := [⟨1, 7, 8, [⟨5, [0, 11]⟩]⟩, ⟨1, 7, 8, [⟨5, [0, 9]⟩]⟩, ⟨4, 7, 8, [⟨5, [0, 9]⟩]⟩,
      ⟨1, 10, 8, [⟨5, [0, 9]⟩]⟩] }

theorem ofBytes_variedRaw : CompiledClass.ofBytes variedRaw.bytes = .ok variedCompiled := by
  decide +kernel

theorem eligible_variedCompiled :
    variedCompiled.methods.filter (Eligible {} ·) = [sampleMethod 1, pickMethod] := by
  have bounded : ¬ Eligible {} boundedMethod := by
    intro other
    have wrapped := @isSome_ofMethod?_iff {} "a.Finder" boundedMethod |>.mpr other
    have passedOver : (ofMethod? {} "a.Finder" boundedMethod).isSome = false := by cbv
    rw [passedOver] at wrapped
    cases wrapped
  have found : Eligible {} (sampleMethod 1) :=
    (@isSome_ofMethod?_iff {} "a.Finder" _).mp (by cbv)
  have hidden : ¬ Eligible {} (sampleMethod 4) := fun other => absurd other.isPublic (by decide)
  have picked : Eligible {} pickMethod := (@isSome_ofMethod?_iff {} "a.Finder" _).mp (by cbv)
  simp [variedCompiled, bounded, found, hidden, picked]

theorem ofRecord_variedRaw :
    variedCompiled.methods = [boundedMethod, sampleMethod 1, sampleMethod 4, pickMethod] ∧
      ∃ first second,
        ofRecord {} ⟨"a/Finder.class", variedRaw.bytes⟩ = .ok [first, second] ∧
        Wraps "a.Finder" (sampleMethod 1) first ∧ Wraps "a.Finder" pickMethod second := by
  have admitted : Admitted {} variedCompiled.header :=
    ⟨nofun, ⟨_, rfl, by decide +kernel⟩, ⟨_, rfl, by decide +kernel⟩⟩
  have dotted : ClassName.dotted variedCompiled.header.name = "a.Finder" := by
    decide +kernel
  rcases (ofRecord_selects {} ⟨"a/Finder.class", variedRaw.bytes⟩).2 _ ofBytes_variedRaw with
    ⟨wrappers, selected, _, wraps⟩
  have wraps := wraps admitted
  rw [eligible_variedCompiled, dotted] at wraps
  cases wraps with
  | cons first others =>
      cases others with
      | cons second others =>
          cases others
          exact ⟨rfl, _, _, selected, first, second⟩

end TypeTokenWrappers.Wrapper
