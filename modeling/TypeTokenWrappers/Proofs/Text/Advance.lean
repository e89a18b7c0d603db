import TypeTokenWrappers.Proofs.Descriptor.Bytewise
import TypeTokenWrappers.Proofs.Signature.Bytewise

/-! # Readers of bytes get on

Wherever a call may begin, it ends, and if it succeeds, it ends further on in the text. This is
what makes the loops of both readers end. -/

namespace TypeTokenWrappers

namespace Cursor

/-- From every boundary between characters the reader ends, and if it finds something, then
behind where it began and within the text. -/
def Advances (text : List Char) (reader : CursorReader α) : Prop :=
  ∀ start : Cursor, Boundary text start.position →
    ∃ answer stop, reader.run.run start = some (answer, stop) ∧
      ∀ value, answer = .ok value →
        start.position < stop.position ∧ stop.position ≤ Utf8.byteLength text

/-- A reader gets on if it ends as a reader of characters does that takes something. -/
theorem advances_of_ends {text : List Char} {reader : CursorReader β} {place : ε → Halt}
    {meaning : α → β}
    (ends : ∀ rest, rest <:+ text → ∃ result : Except ε (Taken α rest.length),
      Ends text rest reader (outcomeOf place meaning result)) :
    Advances text reader := by
  rintro ⟨position, earlier⟩ ⟨front, ⟨rest, rfl⟩, boundary⟩
  have within : rest <:+ front ++ rest := List.suffix_append front rest
  have start : position = bytesBefore (front ++ rest) rest := by
    rw [bytesBefore_append, ← Utf8.byteLength_eq]
    exact boundary
  subst start
  rcases ends rest within with ⟨stop | taken, ends⟩
  · rcases ends with _ | runs
    rcases runs earlier with ⟨later, position, _, ran⟩
    exact ⟨_, _, ran, nofun⟩
  · rcases ends with ⟨behind, runs⟩
    rcases runs earlier with ⟨later, _, ran⟩
    refine ⟨_, _, ran, fun _ _ => ⟨?_, Nat.sub_le _ _⟩⟩
    exact bytesBefore_lt within behind taken.shorter

end Cursor

open Cursor

section Calls

variable (text : List Char) (names : List String)

theorem Descriptor.Bytewise.advances_fieldType :
    Advances text (fieldType (Utf8.encode text)) :=
  advances_of_ends fun rest within => ⟨readFieldType rest, ends_fieldType within⟩

namespace Signature.Bytewise

theorem advances_referenceType :
    Advances text (referenceType (Utf8.encode text) names) :=
  advances_of_ends fun rest within =>
    ⟨readReferenceType rest, (mirroredAt rest within).referenceType names⟩

theorem advances_classType : Advances text (classType (Utf8.encode text) names) := by
  apply advances_of_ends
  intro rest within
  by_cases opening : ∃ left, rest = 'L' :: left
  · rcases opening with ⟨left, same⟩
    refine ⟨readReferenceType rest, classType_step within ?_ same names⟩
    exact fun shorter _ behind => mirroredAt shorter (behind.trans within)
  · refine ⟨.error ⟨.expected 'L', rest⟩, ?_⟩
    rw [classType_eq]
    apply Ends.called within
    rw [classTypeBody]
    exact (ends_expect_error (by decide) within (not_exists.mp opening)).bind_error

theorem advances_typeArguments : Advances text (typeArguments (Utf8.encode text) names) := by
  apply advances_of_ends
  intro rest within
  by_cases opening : ∃ left, rest = '<' :: left
  · rcases opening with ⟨left, rfl⟩
    have mirrored := mirroredAt left ((List.suffix_cons '<' left).trans within)
    exact ⟨_, ends_typeArguments within mirrored names⟩
  · refine ⟨.error ⟨.expected '<', rest⟩, ?_⟩
    rw [typeArguments_eq]
    apply Ends.called within
    rw [typeArgumentsBody]
    exact (ends_expect_error (by decide) within (not_exists.mp opening)).bind_error

end Signature.Bytewise

end Calls

/-- Whatever the text, both readers of bytes end with the answer of the readers of characters.
On the way every call that succeeds and every round of a loop that goes on takes something, and
whatever is cut out begins and ends between characters. -/
theorem bytewise_readers_end (text : String) :
    Finishes text.toList (Signature.Bytewise.parse (Utf8.encodeString text))
        ((Signature.typeParameters text).mapError Signature.Bytewise.halt) ∧
      Finishes text.toList (Descriptor.Bytewise.parseMethod (Utf8.encodeString text))
        ((MethodDescriptor.parse text).mapError Descriptor.Bytewise.halt) ∧
      Finishes text.toList (Descriptor.Bytewise.parseField (Utf8.encodeString text))
        ((FieldType.parse text).mapError Descriptor.Bytewise.halt) ∧
      (∀ names,
        Advances text.toList
          (Signature.Bytewise.referenceType (Utf8.encodeString text) names) ∧
        Advances text.toList (Signature.Bytewise.classType (Utf8.encodeString text) names) ∧
        Advances text.toList
          (Signature.Bytewise.typeArguments (Utf8.encodeString text) names)) ∧
      Advances text.toList (Descriptor.Bytewise.fieldType (Utf8.encodeString text)) :=
  ⟨Signature.Bytewise.finishes_parse text,
    Descriptor.Bytewise.finishes_parseMethod text,
    Descriptor.Bytewise.finishes_parseField text,
    fun names =>
      ⟨Signature.Bytewise.advances_referenceType text.toList names,
        Signature.Bytewise.advances_classType text.toList names,
        Signature.Bytewise.advances_typeArguments text.toList names⟩,
    Descriptor.Bytewise.advances_fieldType text.toList⟩

end TypeTokenWrappers
