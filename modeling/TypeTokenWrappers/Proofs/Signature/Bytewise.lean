import TypeTokenWrappers.Proofs.Signature.Identifier
import TypeTokenWrappers.Proofs.Text.Cursor

/-! # Signatures, byte by byte

A reader of formal type parameters that keeps a position in the bytes. It ends where the
reader of characters ends, with the same answer, and all that it does on its way is sound. -/

namespace TypeTokenWrappers.Signature

/-- The bytes of a signature. What reads them is named as a method of theirs. -/
abbrev Bytewise := List UInt8

namespace Bytewise

open Cursor Utf8
open Descriptor (leadByte)

/-- Everything up to the first byte at which the name ends. -/
def identifier (bytes : Bytewise) (terminators : List Char) : CursorReader String := do
  let start ← here
  let ahead ← bytesFrom bytes start
  match ahead.findIdx? fun byte => terminators.contains (Char.ofNat byte.toNat) with
  | none => fail Fault.unexpectedEnd.message
  | some 0 => fail Fault.emptyIdentifier.message
  | some length => do
    advance length
    return String.ofList (← cut bytes start (start + length))

/-! The names of class types are collected on the way, behind those found before. -/

mutual
def referenceType (bytes : Bytewise) (names : List String) : CursorReader (List String) := do
  let before ← here
  let names ← bytes |>.referenceTypeBody names
  record (.call before (← here))
  return names
partial_fixpoint

def referenceTypeBody (bytes : Bytewise) (names : List String) :
    CursorReader (List String) := do
  match ← peek bytes with
  | some 'L' => bytes |>.classType names
  | some 'T' => do
    advance 1
    let _ ← bytes |>.identifier [';']
    expect bytes ';'
    return names
  | some '[' => do
    advance 1
    if ((← peek bytes).bind Primitive.ofLetter?).isSome then
      advance 1
      return names
    else bytes |>.referenceType names
  | _ => fail Fault.expectedReferenceType.message
partial_fixpoint

def classType (bytes : Bytewise) (names : List String) : CursorReader (List String) := do
  let before ← here
  let names ← bytes |>.classTypeBody names
  record (.call before (← here))
  return names
partial_fixpoint

def classTypeBody (bytes : Bytewise) (names : List String) : CursorReader (List String) := do
  expect bytes 'L'
  let names ← bytes |>.classSegment fun name => names ++ [ClassName.dotted name]
  bytes |>.innerClasses names
partial_fixpoint

/-- A class name, which may be collected, and its type arguments if it has any. -/
def classSegment (bytes : Bytewise) (collected : String → List String) :
    CursorReader (List String) := do
  let name ← bytes |>.identifier ['<', '.', ';']
  if (← peek bytes) = some '<' then bytes |>.typeArguments (collected name)
  else return collected name
partial_fixpoint

/-- The inner classes, in a loop, up to and including the `;`. -/
def innerClasses (bytes : Bytewise) (names : List String) : CursorReader (List String) := do
  if (← peek bytes) = some '.' then
    let before ← here
    advance 1
    let names ← bytes |>.classSegment fun _ => names
    record (.round before (← here))
    bytes |>.innerClasses names
  else
    expect bytes ';'
    return names
partial_fixpoint

def typeArguments (bytes : Bytewise) (names : List String) : CursorReader (List String) := do
  let before ← here
  let names ← bytes |>.typeArgumentsBody names
  record (.call before (← here))
  return names
partial_fixpoint

def typeArgumentsBody (bytes : Bytewise) (names : List String) :
    CursorReader (List String) := do
  expect bytes '<'
  bytes |>.arguments names
partial_fixpoint

/-- Type arguments, in a loop, up to and including the closing `>`. -/
def arguments (bytes : Bytewise) (names : List String) : CursorReader (List String) := do
  match ← peek bytes with
  | some '>' => do
    advance 1
    return names
  | some _ => do
    let before ← here
    let names ← bytes |>.argument names
    record (.round before (← here))
    bytes |>.arguments names
  | none => fail Fault.unterminatedTypeArguments.message
partial_fixpoint

def argument (bytes : Bytewise) (names : List String) : CursorReader (List String) := do
  match ← peek bytes with
  | some '*' => do
    advance 1
    return names
  | some '+' | some '-' => do
    advance 1
    bytes |>.referenceType names
  | _ => bytes |>.referenceType names
partial_fixpoint
end

/-- The interface bounds of a parameter, in a loop. -/
def interfaceBounds (bytes : Bytewise) (names : List String) : CursorReader (List String) := do
  if (← peek bytes) = some ':' then
    let before ← here
    advance 1
    let found ← bytes |>.referenceType []
    record (.round before (← here))
    bytes |>.interfaceBounds (names ++ found)
  else return names
partial_fixpoint

/-- Reads the class bound, if there is one, and drops it. -/
def classBound (bytes : Bytewise) : CursorReader Unit := do
  match ← peek bytes with
  | some 'L' | some 'T' | some '[' => do
    let _ ← bytes |>.referenceType []
  | _ => return

/-- A parameter with the names in its interface bounds. -/
def parameter (bytes : Bytewise) : CursorReader (String × List String) := do
  let name ← bytes |>.identifier [':']
  expect bytes ':'
  bytes |>.classBound
  return (name, ← bytes |>.interfaceBounds [])

/-- Parameters, in a loop, up to and including the closing `>`. -/
def parameters (bytes : Bytewise) (found : List (String × List String)) :
    CursorReader (List (String × List String)) := do
  let before ← here
  let next ← bytes |>.parameter
  if (← peek bytes) = some '>' then
    advance 1
    return found ++ [next]
  else
    record (.round before (← here))
    bytes |>.parameters (found ++ [next])
partial_fixpoint

def formalTypeParameters (bytes : Bytewise) :
    CursorReader (List (String × List String)) := do
  if (← peek bytes) = some '<' then
    advance 1
    bytes |>.parameters []
  else return []

/-- What the names and bounds that were found declare. -/
def declared (found : List (String × List String)) : List TypeParameter :=
  (found.foldl (fun earlier next => Declared.declare next.1 next.2 earlier) []).map typeParameter

/-- Reads the formal type parameters of a signature. -/
def parse (bytes : Bytewise) : CursorReader (List TypeParameter) :=
  return declared (← bytes |>.formalTypeParameters)

theorem referenceType_eq (bytes : Bytewise) (names : List String) :
    referenceType bytes names = called (referenceTypeBody bytes names) := by
  rw [referenceType]
  rfl

theorem classType_eq (bytes : Bytewise) (names : List String) :
    classType bytes names = called (classTypeBody bytes names) := by
  rw [classType]
  rfl

theorem typeArguments_eq (bytes : Bytewise) (names : List String) :
    typeArguments bytes names = called (typeArgumentsBody bytes names) := by
  rw [typeArguments]
  rfl

/-- How a fault is told in a text. -/
def placed (text : List Char) (stop : Stop) : Halt :=
  .fault stop.fault.message (bytesBefore text stop.rest)

section Ends

variable {text rest left : List Char}

/-! ## Names -/

section Names

variable {terminators : List Char}

/-- A byte ends a name only if it is a character of its own. -/
theorem contains_byte_eq_false (ascii : ∀ char ∈ terminators, char.toNat < 128) {char : Char}
    (outside : terminators.contains char = false) :
    ∀ byte ∈ String.utf8EncodeChar char,
      terminators.contains (Char.ofNat byte.toNat) = false := by
  intro byte member
  by_cases small : char.toNat < 128
  · rw [encodeChar_of_ascii small, List.mem_singleton] at member
    rwa [member, UInt8.toNat_ofNat_of_lt' (Nat.lt_trans small (by decide)), Char.ofNat_toNat]
  · have large := le_of_mem_encodeChar small byte member
    have bound := byte.toNat_lt
    rw [List.contains_eq_mem, decide_eq_false_iff_not]
    intro inside
    have number := ascii _ inside
    rw [Utf8.toNat_charOfNat (by omega)] at number
    omega

theorem findIdx?_encode_eq_none (ascii : ∀ char ∈ terminators, char.toNat < 128)
    (outside : ∀ char ∈ rest, terminators.contains char = false) :
    (Utf8.encode rest).findIdx? (fun byte => terminators.contains (Char.ofNat byte.toNat)) =
      none := by
  rw [List.findIdx?_eq_none_iff]
  intro byte member
  rcases List.mem_flatMap.mp member with ⟨char, inside, byte_mem⟩
  exact contains_byte_eq_false ascii (outside char inside) byte byte_mem

theorem findIdx?_encode_eq_some (ascii : ∀ char ∈ terminators, char.toNat < 128)
    {name : List Char} {stop : Char} (outside : ∀ char ∈ name, terminators.contains char = false)
    (ends : terminators.contains stop = true) :
    (Utf8.encode (name ++ stop :: left)).findIdx?
      (fun byte => terminators.contains (Char.ofNat byte.toNat)) =
        some (Utf8.byteLength name) := by
  have small : stop.toNat < 128 := ascii stop (List.contains_iff_mem.mp ends)
  have first : terminators.contains (Char.ofNat (UInt8.ofNat stop.toNat).toNat) = true := by
    rwa [UInt8.toNat_ofNat_of_lt' (Nat.lt_trans small (by decide)), Char.ofNat_toNat]
  rw [encode_append, encode_cons, encodeChar_of_ascii small, List.findIdx?_append,
    findIdx?_encode_eq_none ascii outside, List.singleton_append, List.findIdx?_cons, if_pos first,
    length_encode]
  simp

theorem readIdentifier_unended {ends : Char → Bool} (outside : ∀ char ∈ rest, ends char = false) :
    readIdentifier ends rest = .error ⟨.unexpectedEnd, rest⟩ := by
  cases rest with
  | nil => rfl
  | cons first rest =>
      rw [readIdentifier, if_neg (by simp [outside first])]
      cases found : Taken.before? ends rest with
      | none => rfl
      | some taken =>
          rcases before?_eq_some_iff.mp ⟨taken, found, rfl, rfl⟩ with
            ⟨_, whole, stop, others, behind, stops⟩
          have member : stop ∈ first :: rest := by simp [whole, behind]
          rw [outside stop member] at stops
          cases stops

/-- A name that ends is read as a whole, and cut out between characters. -/
theorem ends_advance_name {ends : Char → Bool} {name after : List Char} {stop : Char}
    (filled : name ≠ []) (outside : ∀ char ∈ name, ends char = false) (stops : ends stop = true)
    (within : name ++ stop :: after <:+ text) :
    Ends text (name ++ stop :: after) (do
        advance (Utf8.byteLength name)
        return String.ofList (← cut (Utf8.encode text) (bytesBefore text (name ++ stop :: after))
          (bytesBefore text (name ++ stop :: after) + Utf8.byteLength name)))
      (outcomeOf (placed text) id (readIdentifier ends (name ++ stop :: after))) := by
  have named : Named ends (String.ofList name) := by
    rw [Named, String.toList_ofList]
    exact ⟨filled, outside⟩
  have whole : name ++ stop :: after = (String.ofList name).toList ++ stop :: after := by
    rw [String.toList_ofList]
  rcases reads_readIdentifier.mpr ⟨named, whole, stop, after, rfl, stops⟩ with
    ⟨taken, read, value, behind⟩
  have position := bytesBefore_append_left within
  rw [read, outcomeOf_ok, value, behind, ← position]
  apply (ends_advance (List.suffix_append _ _) position.symm).bind
  exact (ends_cut within).bind (ends_pure _)

theorem ends_identifier (small : terminators.all (·.toNat < 128) = true)
    (within : rest <:+ text) :
    Ends text rest (identifier (Utf8.encode text) terminators)
      (outcomeOf (placed text) id (readIdentifier (terminators.contains ·) rest)) := by
  have ascii : ∀ char ∈ terminators, char.toNat < 128 := by
    simpa using small
  apply ends_here.bind
  apply (ends_bytesFrom within).bind
  cases found : rest.find? (terminators.contains ·) with
  | none =>
      have outside : ∀ char ∈ rest, terminators.contains char = false := by
        simpa using List.find?_eq_none.mp found
      rw [findIdx?_encode_eq_none ascii outside, readIdentifier_unended outside]
      exact ends_fail _
  | some stop =>
      rcases List.find?_eq_some_iff_append.mp found with ⟨stops, name, after, rfl, outside⟩
      have outside : ∀ char ∈ name, terminators.contains char = false := by
        simpa using outside
      rw [findIdx?_encode_eq_some ascii outside stops]
      cases name with
      | nil =>
          rw [List.nil_append, readIdentifier, if_pos stops]
          exact ends_fail _
      | cons first name =>
          have filled := List.cons_ne_nil first name
          rcases Nat.exists_eq_add_one.mpr (byteLength_pos filled) with ⟨length, size⟩
          have named := ends_advance_name filled outside stops within
          rw [size] at named ⊢
          exact named

theorem endsParameterName_eq : endsParameterName = ([':'].contains ·) := by
  funext char
  simp [endsParameterName, beq_eq_decide]

theorem endsTypeVariable_eq : endsTypeVariable = ([';'].contains ·) := by
  funext char
  simp [endsTypeVariable, beq_eq_decide]

theorem endsClassName_eq : endsClassName = (['<', '.', ';'].contains ·) := by
  funext char
  simp [endsClassName, beq_eq_decide, Bool.or_assoc]

end Names

theorem ends_readChar {char : Char} (ascii : char.toNat < 128) (within : rest <:+ text) :
    Ends text rest (expect (Utf8.encode text) char)
      (outcomeOf (placed text) id (readChar char rest)) := by
  rw [readChar.eq_def]
  split
  case h_1 =>
    exact ends_expect_error ascii within fun left => (List.cons_ne_nil char left).symm
  case h_2 first rest =>
    split
    case isTrue same =>
      subst same
      exact ends_expect ascii within
    case isFalse other =>
      refine ends_expect_error ascii within fun left same => ?_
      exact other (List.cons.inj same).1

/-! ## Reference types -/

/-- Where `rest` is ahead, the readers of reference types end as those of characters do. -/
structure MirroredAt (text rest : List Char) : Prop where
  referenceType (names : List String) :
    Ends text rest (referenceType (Utf8.encode text) names)
      (outcomeOf (placed text) (names ++ ·.classNames) (readReferenceType rest))
  classSegment (collected : String → List String) :
    Ends text rest (classSegment (Utf8.encode text) collected)
      (outcomeOf (placed text) (fun segment => collected segment.name ++ segment.argumentNames)
        (readClassSegment rest))
  innerClasses (names : List String) :
    Ends text rest (innerClasses (Utf8.encode text) names)
      (outcomeOf (placed text) (names ++ innerNames ·) (readInnerSegments rest))
  arguments (names : List String) :
    Ends text rest (arguments (Utf8.encode text) names)
      (outcomeOf (placed text) (names ++ argumentsNames ·) (readTypeArguments rest))

theorem ends_typeArguments (within : '<' :: left <:+ text) (mirrored : MirroredAt text left)
    (names : List String) :
    Ends text ('<' :: left) (typeArguments (Utf8.encode text) names)
      (outcomeOf (placed text) (names ++ argumentsNames ·)
        (readTypeArguments left >>= fun taken => pure (taken.behind '<'))) := by
  rw [typeArguments_eq]
  apply Ends.called within
  rw [typeArgumentsBody]
  apply (ends_expect (by decide) within).bind
  exact (mirrored.arguments names).wrap fun _ => rfl

section Steps

variable (within : rest <:+ text)
  (below : ∀ shorter, shorter.length < rest.length → shorter <:+ rest → MirroredAt text shorter)
include within below

theorem classSegment_step (collected : String → List String) :
    Ends text rest (classSegment (Utf8.encode text) collected)
      (outcomeOf (placed text) (fun segment => collected segment.name ++ segment.argumentNames)
        (readClassSegment rest)) := by
  rw [classSegment, readClassSegment, endsClassName_eq]
  refine (ends_identifier rfl within).bind_outcome fun name _ behind => ?_
  apply (ends_peek (behind.trans within)).bind
  by_cases opening : name.rest.head?.map leadByte = some '<'
  · rw [if_pos opening]
    split
    case h_1 left ahead =>
      have behindIt : '<' :: left <:+ rest := ahead ▸ behind
      have shorter := name.shorter
      rw [ahead] at shorter
      have mirrored := below left (Nat.lt_of_succ_lt shorter)
        ((List.suffix_cons '<' left).trans behindIt)
      have ends : Ends text ('<' :: left)
          (typeArguments (Utf8.encode text) (collected name.value))
          (outcomeOf (placed text) (collected name.value ++ argumentsNames ·)
            (readTypeArguments left)) :=
        (ends_typeArguments (behindIt.trans within) mirrored _).unwrap fun _ => rfl
      rw [← ahead] at ends
      exact ends.wrap fun _ => rfl
    case h_2 noArguments =>
      rcases (ahead_eq_some_iff (by decide)).mp opening with ⟨left, ahead⟩
      exact absurd ahead (noArguments left)
  · rw [if_neg opening]
    split
    case h_1 left ahead =>
      exact absurd ((ahead_eq_some_iff (by decide)).mpr ⟨left, ahead⟩) opening
    case h_2 =>
      exact ends_pure_append_nil (collected name.value)

theorem innerClasses_step (names : List String) :
    Ends text rest (innerClasses (Utf8.encode text) names)
      (outcomeOf (placed text) (names ++ innerNames ·) (readInnerSegments rest)) := by
  rw [innerClasses]
  apply (ends_peek within).bind
  split
  case isTrue narrowed =>
    rcases (ahead_eq_some_iff (by decide)).mp narrowed with ⟨left, rfl⟩
    have suffix : left <:+ '.' :: left := List.suffix_cons '.' left
    rw [readInnerSegments]
    apply ends_here.bind
    apply (ends_advance_one (by decide) within).bind
    refine ((below left (Nat.lt_succ_self _) suffix).classSegment _).bind_outcome
      fun segment _ behind => ?_
    have behind := behind.trans suffix
    have shorter : segment.rest.length < ('.' :: left).length :=
      Nat.lt_succ_of_lt segment.shorter
    apply ends_here.bind
    apply (ends_round within behind shorter).bind
    apply ((below segment.rest shorter behind).innerClasses _).wrap
    intro others
    exact congrArg (·, others.rest) (List.append_assoc names _ _).symm
  case isFalse ended =>
    rw [readInnerSegments.eq_2]
    · refine (ends_readChar (by decide) within).bind_outcome fun closing _ _ => ?_
      exact ends_pure_append_nil names
    · rintro left rfl
      exact ended rfl

/-- A class type begins with an `L`. -/
theorem classType_step (opening : rest = 'L' :: left) (names : List String) :
    Ends text rest (classType (Utf8.encode text) names)
      (outcomeOf (placed text) (names ++ ·.classNames) (readReferenceType rest)) := by
  subst opening
  have suffix : left <:+ 'L' :: left := List.suffix_cons 'L' left
  rw [classType_eq]
  apply Ends.called within
  rw [classTypeBody, readReferenceType]
  apply (ends_expect (by decide) within).bind
  refine ((below left (Nat.lt_succ_self _) suffix).classSegment _).bind_outcome
    fun outer _ behind => ?_
  have shorter : outer.rest.length < ('L' :: left).length := Nat.lt_succ_of_lt outer.shorter
  apply ((below outer.rest shorter (behind.trans suffix)).innerClasses _).wrap
  intro inner
  apply congrArg (·, inner.rest)
  change names ++ (ReferenceType.classType outer.value inner.value).classNames = _
  simp [ReferenceType.classNames]

theorem array_step (opening : rest = '[' :: left) (names : List String) :
    Ends text rest (do
        advance 1
        if ((← peek (Utf8.encode text)).bind Primitive.ofLetter?).isSome then
          advance 1
          return names
        else referenceType (Utf8.encode text) names)
      (outcomeOf (placed text) (names ++ ·.classNames) (readReferenceType rest)) := by
  subst opening
  have suffix : left <:+ '[' :: left := List.suffix_cons '[' left
  have element := (below left (Nat.lt_succ_self _) suffix).referenceType names
  -- The letter of a primitive type is looked for one character further on.
  apply (ends_advance_one (by decide) within).bind
  apply (ends_peek (suffix.trans within)).bind
  cases left with
  | nil =>
      have nothing : readReferenceType [] = .error ⟨.expectedReferenceType, []⟩ := by
        rw [readReferenceType] <;> simp
      rw [nothing] at element
      rw [readReferenceType.eq_4]
      exact element
  | cons letter left =>
      rw [List.head?_cons, Option.map_some, Option.bind_some, ofLetter?_leadByte,
        readReferenceType]
      cases kind : Primitive.ofLetter? letter with
      | some primitive =>
          have ascii := letter_ascii primitive
          rw [← Primitive.letter_of_ofLetter? kind] at ascii
          exact (ends_advance_one ascii (suffix.trans within)).bind (ends_pure_append_nil names)
      | none => exact element.wrap fun _ => rfl

theorem referenceType_step (names : List String) :
    Ends text rest (referenceType (Utf8.encode text) names)
      (outcomeOf (placed text) (names ++ ·.classNames) (readReferenceType rest)) := by
  rw [referenceType_eq]
  apply Ends.called within
  rw [referenceTypeBody]
  apply (ends_peek within).bind
  split
  case h_1 opening =>
    rcases (ahead_eq_some_iff (by decide)).mp opening with ⟨left, same⟩
    exact classType_step within below same names
  case h_2 opening =>
    rcases (ahead_eq_some_iff (by decide)).mp opening with ⟨left, rfl⟩
    have behind := (List.suffix_cons 'T' left).trans within
    rw [readReferenceType, endsTypeVariable_eq]
    apply (ends_advance_one (by decide) within).bind
    refine (ends_identifier rfl behind).bind_outcome fun name _ inside => ?_
    refine (ends_readChar (by decide) (inside.trans behind)).bind_outcome fun closing _ _ => ?_
    exact ends_pure_append_nil names
  case h_3 opening =>
    rcases (ahead_eq_some_iff (by decide)).mp opening with ⟨left, same⟩
    exact array_step within below same names
  case h_4 noClass noVariable noArray =>
    rw [readReferenceType]
    · exact ends_fail _
    · rintro left rfl
      exact noClass rfl
    · rintro left rfl
      exact noVariable rfl
    · rintro letter left rfl
      exact noArray rfl
    · rintro rfl
      exact noArray rfl

theorem argument_step (names : List String) :
    Ends text rest (argument (Utf8.encode text) names)
      (outcomeOf (placed text) (names ++ ·.classNames) (readTypeArgument rest)) := by
  have bound (left : List Char) (sign : Char) (same : rest = sign :: left) :
      Ends text left (referenceType (Utf8.encode text) names)
        (outcomeOf (placed text) (names ++ ·.classNames) (readReferenceType left)) :=
    (below left (same ▸ Nat.lt_succ_self _) (same ▸ List.suffix_cons sign left)).referenceType names
  rw [argument]
  apply (ends_peek within).bind
  split
  case h_1 wildcard =>
    rcases (ahead_eq_some_iff (by decide)).mp wildcard with ⟨left, rfl⟩
    rw [readTypeArgument]
    exact (ends_advance_one (by decide) within).bind (ends_pure_append_nil names)
  case h_2 plus =>
    rcases (ahead_eq_some_iff (by decide)).mp plus with ⟨left, rfl⟩
    rw [readTypeArgument]
    apply (ends_advance_one (by decide) within).bind
    exact (bound left '+' rfl).wrap fun _ => rfl
  case h_3 minus =>
    rcases (ahead_eq_some_iff (by decide)).mp minus with ⟨left, rfl⟩
    rw [readTypeArgument]
    apply (ends_advance_one (by decide) within).bind
    exact (bound left '-' rfl).wrap fun _ => rfl
  case h_4 noWildcard noPlus noMinus =>
    rw [readTypeArgument]
    · exact (referenceType_step within below names).wrap fun _ => rfl
    · rintro left rfl
      exact noWildcard rfl
    · rintro left rfl
      exact noPlus rfl
    · rintro left rfl
      exact noMinus rfl

theorem arguments_step (names : List String) :
    Ends text rest (arguments (Utf8.encode text) names)
      (outcomeOf (placed text) (names ++ argumentsNames ·) (readTypeArguments rest)) := by
  rw [arguments]
  apply (ends_peek within).bind
  split
  case h_1 closing =>
    rcases (ahead_eq_some_iff (by decide)).mp closing with ⟨left, rfl⟩
    rw [readTypeArguments]
    exact (ends_advance_one (by decide) within).bind (ends_pure_append_nil names)
  case h_2 byte noClosing ahead =>
    cases rest with
    | nil => cases ahead
    | cons first left =>
        rw [readTypeArguments]
        · apply ends_here.bind
          refine (argument_step within below names).bind_outcome fun argument _ behind => ?_
          apply ends_here.bind
          apply (ends_round within behind argument.shorter).bind
          apply ((below argument.rest argument.shorter behind).arguments _).wrap
          intro others
          exact congrArg (·, others.rest) (List.append_assoc names _ _).symm
        · rintro rfl
          cases ahead
          exact noClosing rfl
  case h_3 ended =>
    rw [Option.map_eq_none_iff, List.head?_eq_none_iff] at ended
    subst ended
    rw [readTypeArguments]
    exact ends_fail _

theorem MirroredAt.step : MirroredAt text rest :=
  ⟨referenceType_step within below, classSegment_step within below,
    innerClasses_step within below, arguments_step within below⟩

end Steps

/-- By induction on what is ahead: each step is followed by less. -/
theorem mirroredAt (ahead : List Char) (within : ahead <:+ text) : MirroredAt text ahead :=
  .step within fun shorter _ behind => mirroredAt shorter (behind.trans within)
termination_by ahead.length

/-! ## Parameters -/

theorem ends_interfaceBounds (within : rest <:+ text) (names : List String) :
    Ends text rest (interfaceBounds (Utf8.encode text) names)
      (outcomeOf (placed text) (names ++ ·.flatMap ReferenceType.classNames)
        (readInterfaceBounds rest)) := by
  induction rest using readInterfaceBounds.induct generalizing names with
  | case1 left induction =>
      have suffix : left <:+ ':' :: left := List.suffix_cons ':' left
      rw [interfaceBounds, readInterfaceBounds]
      apply (ends_peek within).bind
      rw [if_pos ((ahead_eq_some_iff (by decide)).mpr ⟨left, rfl⟩)]
      apply ends_here.bind
      apply (ends_advance_one (by decide) within).bind
      refine ((mirroredAt left (suffix.trans within)).referenceType []).bind_outcome
        fun bound _ behind => ?_
      have behind := behind.trans suffix
      apply ends_here.bind
      apply (ends_round within behind (Nat.lt_succ_of_lt bound.shorter)).bind
      apply (induction bound (behind.trans within) _).wrap
      intro others
      exact congrArg (·, others.rest) (List.append_assoc names bound.value.classNames _).symm
  | case2 rest noColon =>
      rw [interfaceBounds, readInterfaceBounds]
      · apply (ends_peek within).bind
        rw [if_neg fun colon => ?_]
        · exact ends_pure_append_nil names
        · rcases (ahead_eq_some_iff (by decide)).mp colon with ⟨left, rfl⟩
          exact noColon left rfl
      · exact noColon

theorem ends_classBound (within : rest <:+ text) :
    Ends text rest (classBound (Utf8.encode text))
      (outcomeOf (placed text) (fun _ => ()) (readClassBound rest)) := by
  have bound := (mirroredAt rest within).referenceType []
  rw [classBound]
  apply (ends_peek within).bind
  split
  case h_1 opening =>
    rcases (ahead_eq_some_iff (by decide)).mp opening with ⟨left, rfl⟩
    exact bound.bind_outcome fun _ _ _ => ends_pure ()
  case h_2 opening =>
    rcases (ahead_eq_some_iff (by decide)).mp opening with ⟨left, rfl⟩
    exact bound.bind_outcome fun _ _ _ => ends_pure ()
  case h_3 opening =>
    rcases (ahead_eq_some_iff (by decide)).mp opening with ⟨left, rfl⟩
    exact bound.bind_outcome fun _ _ _ => ends_pure ()
  case h_4 noClass noVariable noArray =>
    cases rest with
    | nil => exact ends_pure ()
    | cons first left =>
        rw [readClassBound, if_neg]
        · exact ends_pure ()
        · simp only [Bool.or_eq_true, beq_iff_eq, not_or]
          refine ⟨⟨?_, ?_⟩, ?_⟩
          · rintro rfl
            exact noClass rfl
          · rintro rfl
            exact noVariable rfl
          · rintro rfl
            exact noArray rfl

/-- What is found of a parameter. -/
def entry (parameter : Parameter) : String × List String :=
  (parameter.name, parameter.boundNames)

theorem ends_parameter (within : rest <:+ text) :
    Ends text rest (parameter (Utf8.encode text))
      (outcomeOf (placed text) entry (readParameter rest)) := by
  rw [readParameter, endsParameterName_eq]
  refine (ends_identifier rfl within).bind_outcome fun name _ behind => ?_
  have within := behind.trans within
  refine (ends_readChar (by decide) within).bind_outcome fun colon _ behind => ?_
  have within := behind.trans within
  refine (ends_classBound within).bind_outcome fun classBound _ behind => ?_
  exact (ends_interfaceBounds (behind.trans within) []).bind_outcome fun _ _ _ => ends_pure _

theorem ends_parameters (within : rest <:+ text) (found : List (String × List String)) :
    Ends text rest (parameters (Utf8.encode text) found)
      (outcomeOf (placed text) (found ++ ·.map entry) (readParameters rest)) := by
  induction rest using readParameters.induct generalizing found with
  | case1 rest induction =>
      rw [parameters, readParameters]
      apply ends_here.bind
      refine (ends_parameter within).bind_outcome fun parameter _ behind => ?_
      apply (ends_peek (behind.trans within)).bind
      by_cases closing : parameter.rest.head?.map leadByte = some '>'
      · rw [if_pos closing]
        split
        case h_1 left ahead =>
          have ends : Ends text ('>' :: left)
              (do advance 1; return found ++ [entry parameter.value])
              (.ok (found ++ [entry parameter.value], left)) :=
            (ends_advance_one (by decide) (ahead ▸ behind.trans within)).bind (ends_pure _)
          rw [← ahead] at ends
          exact ends
        case h_2 notClosed =>
          rcases (ahead_eq_some_iff (by decide)).mp closing with ⟨left, ahead⟩
          exact absurd ahead (notClosed left)
      · rw [if_neg closing]
        split
        case h_1 left ahead =>
          exact absurd ((ahead_eq_some_iff (by decide)).mpr ⟨left, ahead⟩) closing
        case h_2 notClosed =>
          apply ends_here.bind
          apply (ends_round within behind parameter.shorter).bind
          apply (induction parameter (behind.trans within) _).wrap
          intro others
          exact congrArg (·, others.rest) (List.append_assoc found [entry parameter.value] _).symm

theorem declared_entries (parameters : List Parameter) :
    declared (parameters.map entry) = declaredParameters parameters := by
  rw [declared, List.foldl_map]
  rfl

theorem finishes_readSection (text : List Char) :
    Finishes text (parse (Utf8.encode text))
      (((readSection text).map declaredParameters).mapError (placed text)) := by
  have within := List.suffix_refl text
  unfold readSection
  split
  case h_1 rest =>
    have ends : Ends ('<' :: rest) ('<' :: rest)
        (formalTypeParameters (Utf8.encode ('<' :: rest)))
        (outcomeOf (placed ('<' :: rest)) ([] ++ ·.map entry) (readParameters rest)) := by
      apply (ends_peek within).bind
      rw [if_pos ((ahead_eq_some_iff (by decide)).mpr ⟨rest, rfl⟩)]
      apply (ends_advance_one (by decide) within).bind
      exact ends_parameters (List.suffix_cons '<' rest) []
    cases read : readParameters rest with
    | error stop =>
        rw [read] at ends
        exact ends.bind_error.finishes
    | ok taken =>
        rw [read] at ends
        have whole : Ends ('<' :: rest) ('<' :: rest) (parse (Utf8.encode ('<' :: rest)))
            (.ok (declared (taken.value.map entry), taken.rest)) :=
          ends.bind (ends_pure _)
        rw [declared_entries] at whole
        exact whole.finishes
  case h_2 notOpened =>
    have ends : Ends text text (formalTypeParameters (Utf8.encode text)) (.ok ([], text)) := by
      apply (ends_peek within).bind
      rw [if_neg fun opening => ?_]
      · exact ends_pure []
      · rcases (ahead_eq_some_iff (by decide)).mp opening with ⟨left, same⟩
        exact notOpened left same
    have whole : Ends text text (parse (Utf8.encode text)) (.ok (declaredParameters [], text)) :=
      ends.bind (ends_pure _)
    exact whole.finishes

/-! ## The reader in use -/

def halt (error : SignatureError) : Halt := .fault error.fault.message error.position

theorem finishes_parse (signature : String) :
    Finishes signature.toList (parse (Utf8.encodeString signature))
      ((typeParameters signature).mapError halt) := by
  have same (result : Except Stop (List TypeParameter)) :
      (result.mapError (SignatureError.ofStop signature)).mapError halt =
        result.mapError (placed signature.toList) := by
    cases result <;> rfl
  rw [typeParameters, same]
  exact finishes_readSection signature.toList

end Ends

end Bytewise

end TypeTokenWrappers.Signature
