import TypeTokenWrappers.Proofs.Wrapper.Selection

/-! # What wrappers return

A wrapper returns its type parameter in place of the universal base type. Any other type
that its method returns is applied to the type parameter: class types, but also void,
primitive types and arrays, which take no type arguments in source code. What a method
returns has no part in whether it is wrapped. -/

namespace TypeTokenWrappers

/-! ## Names of types -/

/-- The name of an array is that of its innermost type, and a pair of brackets for each level. -/
theorem FieldType.className_eq (type : FieldType) :
    type.className =
      type.innermost.className ++ String.join (List.replicate type.dimensions "[]") := by
  induction type with
  | primitive kind => simp [innermost, dimensions]
  | classType internalName => simp [innermost, dimensions]
  | array element induction =>
      rw [className, innermost, dimensions, List.replicate_succ', String.join_append, induction,
        String.append_assoc]
      simp

theorem FieldType.className_array_ne_object (element : FieldType) :
    (array element).className ≠ "java.lang.Object" := by
  intro same
  have last := congrArg (fun name => name.toList.getLast?) same
  rw [className] at last
  simp at last

theorem ReturnType.className_eq_object {returnType : ReturnType}
    (object : returnType.className = "java.lang.Object") :
    ∃ internalName, returnType = .value (.classType internalName) ∧
      ClassName.dotted internalName = "java.lang.Object" := by
  match returnType, object with
  | .void, object => exact absurd object (by decide)
  | .value (.primitive kind), object =>
      cases kind <;> exact absurd object (by decide)
  | .value (.array element), object => exact absurd object element.className_array_ne_object
  | .value (.classType internalName), object => exact ⟨internalName, rfl, object⟩

namespace Wrapper

variable {rules : Config.Scan} {compiled : CompiledClass} {method : CompiledMethod}
  {wrapper : Wrapper} {extendedType : String}

/-- What a wrapper with this type parameter returns, by what its method returns. -/
inductive Returns (parameter : String) : ReturnType → String → Prop where
  | object {internalName : String} (object : ClassName.dotted internalName = "java.lang.Object") :
    Returns parameter (.value (.classType internalName)) parameter
  | classType {internalName : String} (other : ClassName.dotted internalName ≠ "java.lang.Object") :
    Returns parameter (.value (.classType internalName))
      (ClassName.dotted internalName ++ "<" ++ parameter ++ ">")
  | void : Returns parameter .void ("void<" ++ parameter ++ ">")
  | primitive (kind : Primitive) :
    Returns parameter (.value (.primitive kind)) (kind.name ++ "<" ++ parameter ++ ">")
  | array (element : FieldType) :
    Returns parameter (.value (.array element)) (element.innermost.className ++
      String.join (List.replicate (element.dimensions + 1) "[]") ++ "<" ++ parameter ++ ">")

theorem wrappedReturnType_of_ne {returnType : ReturnType}
    (other : returnType.className ≠ "java.lang.Object") (parameter : String) :
    wrappedReturnType returnType parameter = returnType.className ++ "<" ++ parameter ++ ">" :=
  if_neg other

theorem returns_wrappedReturnType (returnType : ReturnType) (parameter : String) :
    Returns parameter returnType (wrappedReturnType returnType parameter) := by
  by_cases object : returnType.className = "java.lang.Object"
  · rcases ReturnType.className_eq_object object with ⟨internalName, rfl, dotted⟩
    have same : wrappedReturnType (.value (.classType internalName)) parameter = parameter :=
      if_pos object
    rw [same]
    exact .object dotted
  · rw [wrappedReturnType_of_ne object]
    match returnType, object with
    | .void, _ => exact .void
    | .value (.primitive kind), _ => exact .primitive kind
    | .value (.classType internalName), other => exact .classType other
    | .value (.array element), _ =>
        rw [ReturnType.className, FieldType.className_eq]
        exact .array element

/-- Whether a wrapper returns what belongs to the descriptor of this method. -/
def ReturnsFor (method : CompiledMethod) (wrapper : Wrapper) : Prop :=
  ∃ returnType, TakesToken method.descriptor returnType ∧
    Returns wrapper.typeParameterName returnType wrapper.returnType

theorem Wraps.returnsFor (wraps : Wraps extendedType method wrapper) :
    ReturnsFor method wrapper := by
  rcases wraps.returnType with ⟨returnType, takes, returned⟩
  refine ⟨returnType, takes, ?_⟩
  rw [returned]
  exact returns_wrappedReturnType returnType _

theorem mem_ofClass_iff : wrapper ∈ ofClass rules compiled ↔
    Admitted rules compiled.header ∧ ∃ method ∈ compiled.methods, Eligible rules method ∧
      Wraps (ClassName.dotted compiled.header.name) method wrapper := by
  rw [ofClass_eq, List.mem_filterMap]
  constructor
  · intro among
    rcases among with ⟨method, member, found⟩
    rcases Option.bind_eq_some_iff.mp found with ⟨extendedType, admitted, wrapped⟩
    rcases extendedType?_eq_some_iff.mp admitted with ⟨takesPart, rfl⟩
    exact ⟨takesPart, method, member, ofMethod?_eq_some_iff.mp wrapped⟩
  · intro wrapped
    rcases wrapped with ⟨admitted, method, member, wrapped⟩
    refine ⟨method, member, ?_⟩
    rw [extendedType?_eq_some_iff.mpr ⟨admitted, rfl⟩]
    exact ofMethod?_eq_some_iff.mpr wrapped

/-- Each wrapper of a class returns what belongs to the descriptor of its method, and each
eligible method has its wrapper, whatever it returns. -/
theorem ofRecord_returns (rules : Config.Scan) (record : ClassRecord) (wrappers : List Wrapper)
    (selected : ofRecord rules record = .ok wrappers) :
    ∃ compiled, CompiledClass.ofBytes record.bytes = .ok compiled ∧
      (∀ wrapper ∈ wrappers, ∃ method ∈ compiled.methods, Eligible rules method ∧
        wrapper.functionName = method.name ∧ ReturnsFor method wrapper) ∧
      (Admitted rules compiled.header → ∀ method ∈ compiled.methods, Eligible rules method →
        ∃ wrapper ∈ wrappers, wrapper.functionName = method.name ∧ ReturnsFor method wrapper) := by
  rw [ofRecord] at selected
  cases accepted : CompiledClass.ofBytes record.bytes with
  | error error =>
      rw [accepted] at selected
      cases selected
  | ok compiled =>
      rw [accepted] at selected
      cases selected
      refine ⟨compiled, rfl, ?_, ?_⟩
      · intro wrapper among
        rcases mem_ofClass_iff.mp among with ⟨_, method, member, eligible, wraps⟩
        exact ⟨method, member, eligible, wraps.functionName, wraps.returnsFor⟩
      · intro admitted method member eligible
        rcases eligible.exists_wraps (ClassName.dotted compiled.header.name) with ⟨wrapper, wraps⟩
        have among := mem_ofClass_iff.mpr ⟨admitted, method, member, eligible, wraps⟩
        exact ⟨wrapper, among, wraps.functionName, wraps.returnsFor⟩

/-- `clear(Class<T>): void`, `count(Class<T>): int` and `names(Class<T>): String[]`. -/
def unfitRaw : ClassFile.RawClass where
  minorVersion := 0
  majorVersion := 52
  constantCount := 16
  constants := [.classReference 2, .text (Utf8.encode "a/Finder".toList), .classReference 4,
    .text (Utf8.encode "java/lang/Object".toList), .text (Utf8.encode "Signature".toList),
    .text (Utf8.encode "Ljava/lang/Object;".toList),
    .text (Utf8.encode "clear".toList), .text (Utf8.encode "(Ljava/lang/Class;)V".toList),
    .text (Utf8.encode "<T:Ljava/lang/Object;>(Ljava/lang/Class<TT;>;)V".toList),
    .text (Utf8.encode "count".toList), .text (Utf8.encode "(Ljava/lang/Class;)I".toList),
    .text (Utf8.encode "<T:Ljava/lang/Object;>(Ljava/lang/Class<TT;>;)I".toList),
    .text (Utf8.encode "names".toList),
    .text (Utf8.encode "(Ljava/lang/Class;)[Ljava/lang/String;".toList),
    .text (Utf8.encode "<T:Ljava/lang/Object;>(Ljava/lang/Class<TT;>;)[Ljava/lang/String;".toList)]
  access := 1
  nameIndex := 1
  superIndex := 3
  interfaces := []
  fields := []
  methods := [⟨1, 7, 8, [⟨5, [0, 9]⟩]⟩, ⟨1, 10, 11, [⟨5, [0, 12]⟩]⟩, ⟨1, 13, 14, [⟨5, [0, 15]⟩]⟩]
  attributes := [⟨5, [0, 6]⟩]

def unfitCompiled : CompiledClass where
  header := ⟨52, 0, 1, "a/Finder", some "Ljava/lang/Object;", some "java/lang/Object", []⟩
  methods := [
    ⟨1, "clear", "(Ljava/lang/Class;)V", some "<T:Ljava/lang/Object;>(Ljava/lang/Class<TT;>;)V"⟩,
    ⟨1, "count", "(Ljava/lang/Class;)I", some "<T:Ljava/lang/Object;>(Ljava/lang/Class<TT;>;)I"⟩,
    ⟨1, "names", "(Ljava/lang/Class;)[Ljava/lang/String;",
      some "<T:Ljava/lang/Object;>(Ljava/lang/Class<TT;>;)[Ljava/lang/String;"⟩]

theorem ofBytes_unfitRaw : CompiledClass.ofBytes unfitRaw.bytes = .ok unfitCompiled := by
  decide +kernel

def unfitWrappers : List Wrapper := [
  ⟨"T", [], "a.Finder", "clear", "void<T>", []⟩,
  ⟨"T", [], "a.Finder", "count", "int<T>", []⟩,
  ⟨"T", [], "a.Finder", "names", "java.lang.String[]<T>", []⟩]

theorem ofRecord_unfitRaw :
    ofRecord {} ⟨"a/Finder.class", unfitRaw.bytes⟩ = .ok unfitWrappers := by
  have selected : ofClass {} unfitCompiled = unfitWrappers := by
    cbv
  rw [ofRecord, ofBytes_unfitRaw]
  exact congrArg Except.ok selected

theorem ofRecord_returns_unfitRaw :
    (∃ method ∈ unfitCompiled.methods, Eligible {} method ∧ "names" = method.name ∧
      ReturnsFor method ⟨"T", [], "a.Finder", "names", "java.lang.String[]<T>", []⟩) ∧
    ∃ wrapper ∈ unfitWrappers, wrapper.functionName = "clear" ∧
      ReturnsFor ⟨1, "clear", "(Ljava/lang/Class;)V",
        some "<T:Ljava/lang/Object;>(Ljava/lang/Class<TT;>;)V"⟩ wrapper := by
  rcases ofRecord_returns {} _ _ ofRecord_unfitRaw with ⟨compiled, accepted, returns, wrapped⟩
  cases ofBytes_unfitRaw.symm.trans accepted
  have admitted : Admitted {} unfitCompiled.header :=
    ⟨nofun, ⟨_, rfl, by decide +kernel⟩, ⟨_, rfl, by decide +kernel⟩⟩
  have eligible : (ofMethod? {} "a.Finder" ⟨1, "clear", "(Ljava/lang/Class;)V",
      some "<T:Ljava/lang/Object;>(Ljava/lang/Class<TT;>;)V"⟩).isSome = true := by
    cbv
  constructor
  · exact returns ⟨"T", [], "a.Finder", "names", "java.lang.String[]<T>", []⟩
      (by simp [unfitWrappers])
  · exact wrapped admitted _ List.mem_cons_self (isSome_ofMethod?_iff.mp eligible)

/-- Type arguments are put behind void, a primitive type and an array. -/
theorem ofRecord_unfit_return_types :
    CompiledClass.ofBytes unfitRaw.bytes = .ok unfitCompiled ∧
      unfitCompiled.methods.map (fun method =>
        (method.name, (MethodDescriptor.parse method.descriptor).map (·.returnType))) =
        [("clear", .ok .void), ("count", .ok (.value (.primitive .int))),
          ("names", .ok (.value (.array (.classType "java/lang/String"))))] ∧
      ofRecord {} ⟨"a/Finder.class", unfitRaw.bytes⟩ = .ok [
        ⟨"T", [], "a.Finder", "clear", "void<T>", []⟩,
        ⟨"T", [], "a.Finder", "count", "int<T>", []⟩,
        ⟨"T", [], "a.Finder", "names", "java.lang.String[]<T>", []⟩] := by
  refine ⟨ofBytes_unfitRaw, ?_, ofRecord_unfitRaw⟩
  cbv

end Wrapper

end TypeTokenWrappers
