import TypeTokenWrappers.Proofs.Descriptor.Reader
import TypeTokenWrappers.Proofs.Text.Cursor

/-! # Descriptors, byte by byte

A reader of descriptors that keeps a position in the bytes. It ends where the reader of
characters ends, with the same answer, and all that it does on its way is sound. -/

namespace TypeTokenWrappers.Descriptor

/-- The bytes of a descriptor. What reads them is named as a method of theirs. -/
abbrev Bytewise := List UInt8

namespace Bytewise

open Cursor Utf8

/-- How many bytes stand in front of a character, if it occurs. -/
def offset? (char : Char) (text : List Char) : Option Nat :=
  if char ∈ text then some (Utf8.byteLength (text.takeWhile (· != char))) else none

/-- Goes on behind the letter of a class type. -/
def className (bytes : Bytewise) : CursorReader FieldType := do
  let start ← here
  let rest ← cut bytes start bytes.length
  match offset? ';' rest with
  | none => fail Fault.unterminatedClassType.message
  | some 0 => fail Fault.emptyClassName.message
  | some length => do
    advance (length + 1)
    return .classType (String.ofList (← cut bytes start (start + length)))

mutual
def fieldType (bytes : Bytewise) : CursorReader FieldType := do
  let before ← here
  let type ← bytes |>.fieldTypeBody
  record (.call before (← here))
  return type
partial_fixpoint

/-- Steps over the first byte, whatever it is, and goes on as it says. -/
def fieldTypeBody (bytes : Bytewise) : CursorReader FieldType := do
  match ← peek bytes with
  | none => fail Fault.unexpectedEnd.message
  | some '[' => do
    advance 1
    return .array (← bytes |>.fieldType)
  | some 'L' => do
    advance 1
    bytes |>.className
  | some tag => do
    advance 1
    match Primitive.ofLetter? tag with
    | some kind => return .primitive kind
    | none => fail s!"unexpected '{tag}'"
partial_fixpoint
end

/-- The arguments up to and including the closing parenthesis, in a loop. -/
def arguments (bytes : Bytewise) (found : List FieldType) : CursorReader (List FieldType) := do
  if (← peek bytes) = some ')' then
    expect bytes ')'
    return found
  else
    let before ← here
    let type ← bytes |>.fieldType
    record (.round before (← here))
    bytes |>.arguments (found ++ [type])
partial_fixpoint

def returnType (bytes : Bytewise) : CursorReader ReturnType := do
  if (← peek bytes) = some 'V' then
    advance 1
    return .void
  else return .value (← bytes |>.fieldType)

def complete (bytes : Bytewise) : CursorReader Unit := do
  if (← here) < bytes.length then fail Fault.trailingCharacters.message

/-- Reads the descriptor of a field. -/
def parseField (bytes : Bytewise) : CursorReader FieldType := do
  let type ← bytes |>.fieldType
  bytes |>.complete
  return type

/-- Reads the descriptor of a method. -/
def parseMethod (bytes : Bytewise) : CursorReader MethodDescriptor := do
  expect bytes '('
  let arguments ← bytes |>.arguments []
  let returnType ← bytes |>.returnType
  bytes |>.complete
  return ⟨arguments, returnType⟩

theorem fieldType_eq (bytes : Bytewise) : fieldType bytes = called (fieldTypeBody bytes) := by
  rw [fieldType]
  rfl

/-! ## Where it ends -/

section Ends

variable {text rest left : List Char}

/-- How a fault is told in a text. -/
def placed (text : List Char) (stop : Stop) : Halt :=
  .fault stop.fault.message (stop.position text)

theorem offset?_append {char : Char} {name : List Char} (outside : char ∉ name)
    (after : List Char) : offset? char (name ++ char :: after) = some (Utf8.byteLength name) := by
  have front : (name ++ char :: after).takeWhile (· != char) = name := by
    rw [List.takeWhile_append_of_pos]
    · simp
    · intro other member
      rw [bne_iff_ne]
      rintro rfl
      exact outside member
  rw [offset?, if_pos (by simp), front]

theorem readFieldType_unterminated (absent : ';' ∉ rest) :
    readFieldType ('L' :: rest) = .error ⟨.unterminatedClassType, rest⟩ := by
  rw [readFieldType]
  split
  case h_1 => rfl
  case h_2 head after behind =>
    rcases dropWhile_eq_cons_iff.mp behind with ⟨_, _, split⟩
    rw [split] at absent
    simp at absent

theorem readFieldType_unnamed (after : List Char) :
    readFieldType ('L' :: ';' :: after) = .error ⟨.emptyClassName, ';' :: after⟩ := by
  rw [readFieldType]
  rfl

theorem ends_className (within : rest <:+ text) :
    Ends text rest (className (Utf8.encode text))
      (outcomeOf (placed text) id (readFieldType ('L' :: rest))) := by
  apply ends_here.bind
  apply (ends_cut_rest within).bind
  by_cases member : ';' ∈ rest
  · rcases List.eq_append_cons_of_mem member with ⟨name, after, rfl, outside⟩
    rw [offset?_append outside]
    cases name with
    | nil =>
        rw [List.nil_append, readFieldType_unnamed]
        exact ends_fail _
    | cons first name =>
        rcases reads_classType.mpr ⟨first :: name, List.cons_ne_nil _ _, outside, rfl, rfl⟩ with
          ⟨taken, read, value, behind⟩
        rcases Nat.exists_eq_add_one.mpr (byteLength_pos (List.cons_ne_nil first name)) with
          ⟨length, size⟩
        have ahead : ';' :: after <:+ first :: name ++ ';' :: after := List.suffix_append _ _
        have closing := bytesBefore_append_left within
        have behindIt := bytesBefore_cons (by decide) (ahead.trans within)
        rw [size] at closing
        rw [read, outcomeOf_ok, value, behind, size]
        have moves : Ends text (first :: name ++ ';' :: after) (advance (length + 1 + 1))
            (.ok ((), after)) := by
          apply ends_advance ((List.suffix_cons ';' after).trans ahead)
          omega
        apply moves.bind
        rw [← closing]
        exact (ends_cut within).bind (ends_pure _)
  · rw [offset?, if_neg member, readFieldType_unterminated member]
    exact ends_fail _

/-- What the first byte says is what the first character says. -/
theorem ends_fieldTypeBody (within : rest <:+ text)
    (element : ∀ left, rest = '[' :: left → Ends text left (fieldType (Utf8.encode text))
      (outcomeOf (placed text) id (readFieldType left))) :
    Ends text rest (fieldTypeBody (Utf8.encode text))
      (outcomeOf (placed text) id (readFieldType rest)) := by
  rw [fieldTypeBody]
  apply (ends_peek within).bind
  split
  case h_1 ended =>
    rw [Option.map_eq_none_iff, List.head?_eq_none_iff] at ended
    subst ended
    exact ends_fail _
  case h_2 bracket =>
    rcases (ahead_eq_some_iff (by decide)).mp bracket with ⟨left, rfl⟩
    apply (ends_advance_one (by decide) within).bind
    exact (element left rfl).bind_outcome fun taken _ _ => ends_pure _
  case h_3 opening =>
    rcases (ahead_eq_some_iff (by decide)).mp opening with ⟨left, rfl⟩
    apply (ends_advance_one (by decide) within).bind
    exact ends_className ((List.suffix_cons 'L' left).trans within)
  case h_4 tag noBracket noOpening ahead =>
    cases rest with
    | nil => cases ahead
    | cons char left =>
        -- The byte is no bracket and no `L`, so the character is neither.
        cases ahead
        have noBracket : char ≠ '[' := by
          rintro rfl
          exact noBracket rfl
        have noOpening : char ≠ 'L' := by
          rintro rfl
          exact noOpening rfl
        rw [ofLetter?_leadByte, readFieldType]
        · cases kind : Primitive.ofLetter? char with
          | some kind' =>
              have ascii := letter_ascii kind'
              rw [← Primitive.letter_of_ofLetter? kind] at ascii
              exact (ends_advance_one ascii within).bind (ends_pure _)
          -- The byte that is stepped over may be the first of several; nothing is cut there.
          | none => exact ends_advance_fail 1 _
        · exact noBracket
        · exact noOpening

theorem ends_fieldType (within : rest <:+ text) :
    Ends text rest (fieldType (Utf8.encode text))
      (outcomeOf (placed text) id (readFieldType rest)) := by
  induction rest with
  | nil =>
      rw [fieldType_eq]
      exact (ends_fieldTypeBody within nofun).called within
  | cons char rest induction =>
      rw [fieldType_eq]
      apply (ends_fieldTypeBody within _).called within
      intro left same
      cases same
      exact induction ((List.suffix_cons _ _).trans within)

theorem ends_arguments (within : rest <:+ text) (found : List FieldType) :
    Ends text rest (arguments (Utf8.encode text) found)
      (outcomeOf (placed text) (found ++ ·) (readArguments rest)) := by
  induction rest using readArguments.induct generalizing found with
  | case1 left =>
      rw [arguments, readArguments]
      apply (ends_peek within).bind
      rw [if_pos ((ahead_eq_some_iff (by decide)).mpr ⟨left, rfl⟩)]
      exact (ends_expect (by decide) within).bind (ends_pure_append_nil found)
  | case2 rest noClosing induction =>
      rw [arguments, readArguments.eq_2 rest noClosing]
      apply (ends_peek within).bind
      rw [if_neg fun closing => ?_]
      · apply ends_here.bind
        refine (ends_fieldType within).bind_outcome fun type _ behind => ?_
        apply ends_here.bind
        apply (ends_round within behind type.shorter).bind
        apply (induction type (behind.trans within) _).wrap
        intro others
        exact congrArg (·, others.rest) (List.append_assoc found [type.value] others.value).symm
      · rcases (ahead_eq_some_iff (by decide)).mp closing with ⟨left, rfl⟩
        exact noClosing left rfl

theorem ends_returnType (within : rest <:+ text) :
    Ends text rest (returnType (Utf8.encode text))
      (outcomeOf (placed text) id (readReturnType rest)) := by
  rw [returnType]
  apply (ends_peek within).bind
  split
  case isTrue void =>
    rcases (ahead_eq_some_iff (by decide)).mp void with ⟨left, rfl⟩
    exact (ends_advance_one (by decide) within).bind (ends_pure _)
  case isFalse noVoid =>
    rw [readReturnType.eq_2]
    · exact (ends_fieldType within).bind_outcome fun type _ _ => ends_pure _
    · rintro left rfl
      exact noVoid rfl

theorem ends_complete (build : α → β) (taken : Taken α limit) (within : taken.rest <:+ text) :
    Ends text taken.rest (do complete (Utf8.encode text); return build taken.value)
      (lastOutcome (placed text) (build <$> Descriptor.complete taken)) := by
  rcases taken with ⟨value, left, shorter⟩
  have last : (Utf8.encode text).length = bytesBefore text [] := length_encode text
  cases left with
  | nil =>
      have ends : Ends text [] (complete (Utf8.encode text)) (.ok ((), [])) := by
        apply ends_here.bind
        rw [last, if_neg (Nat.lt_irrefl _)]
        exact ends_pure ()
      exact ends.bind (ends_pure (build value))
  | cons char left =>
      have ahead : bytesBefore text (char :: left) < bytesBefore text [] :=
        bytesBefore_lt within List.nil_suffix (Nat.succ_pos _)
      have ends : Ends text (char :: left) (complete (Utf8.encode text))
          (.error (placed text ⟨.trailingCharacters, char :: left⟩)) := by
        apply ends_here.bind
        rw [last, if_pos ahead]
        exact ends_fail _
      exact ends.bind_error

theorem ends_parseField (text : List Char) :
    Ends text text (parseField (Utf8.encode text))
      (lastOutcome (placed text) (readFieldType text >>= Descriptor.complete)) := by
  have within := List.suffix_refl text
  refine (ends_fieldType within).bind_outcome fun taken _ behind => ?_
  rw [← id_map (Descriptor.complete taken)]
  exact ends_complete id taken behind

/-- What is read of a method. -/
def readMethod : (text : List Char) → Except Stop MethodDescriptor
  | '(' :: rest => do
    let arguments ← readArguments rest
    let returnType ← readReturnType arguments.rest
    return ⟨arguments.value, ← Descriptor.complete returnType⟩
  | text => .error ⟨.expectedParenthesis, text⟩

theorem ends_parseMethod (text : List Char) :
    Ends text text (parseMethod (Utf8.encode text))
      (lastOutcome (placed text) (readMethod text)) := by
  have within := List.suffix_refl text
  unfold readMethod
  split
  case h_1 rest =>
    have behind : rest <:+ '(' :: rest := List.suffix_cons _ _
    apply (ends_expect (by decide) within).bind
    refine (ends_arguments behind []).bind_outcome fun arguments _ inside => ?_
    have inside := inside.trans behind
    refine (ends_returnType inside).bind_outcome fun returnType _ last => ?_
    rw [← map_eq_pure_bind]
    exact ends_complete _ returnType (last.trans inside)
  case h_2 noParenthesis =>
    apply Ends.bind_error
    exact ends_expect_error (by decide) within noParenthesis

/-! ## The readers in use -/

def halt (error : DescriptorError) : Halt := .fault error.fault.message error.position

theorem mapError_halt (descriptor : String) (result : Except Stop α) :
    (result.mapError (DescriptorError.ofStop descriptor)).mapError halt =
      result.mapError (placed descriptor.toList) := by
  cases result <;> rfl

theorem finishes_parseField (descriptor : String) :
    Finishes descriptor.toList (parseField (Utf8.encodeString descriptor))
      ((FieldType.parse descriptor).mapError halt) := by
  rw [FieldType.parse, mapError_halt, ← map_fst_lastOutcome]
  exact (ends_parseField descriptor.toList).finishes

theorem finishes_parseMethod (descriptor : String) :
    Finishes descriptor.toList (parseMethod (Utf8.encodeString descriptor))
      ((MethodDescriptor.parse descriptor).mapError halt) := by
  have same : MethodDescriptor.parse descriptor =
      (readMethod descriptor.toList).mapError (DescriptorError.ofStop descriptor) := by
    rw [MethodDescriptor.parse]
    unfold readMethod
    rfl
  rw [same, mapError_halt, ← map_fst_lastOutcome]
  exact (ends_parseMethod descriptor.toList).finishes

end Ends

end Bytewise

end TypeTokenWrappers.Descriptor
