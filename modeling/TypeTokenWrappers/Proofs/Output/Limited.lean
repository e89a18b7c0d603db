import Mathlib.Tactic.Common
import TypeTokenWrappers.Output.SourceFile

/-! # A generated file in a sink with a limit

A sink holds the beginning of all that it was given, up to its limit, however the text was cut
into pieces. So what is written of a generated file is always a beginning of the whole file,
and writing goes on exactly up to the declaration that passes the limit. -/

namespace TypeTokenWrappers

namespace Sink

variable {α : Type} {room : Option Nat} {text : List α}

/-- Whether a sink with this much room takes all of a text. -/
def Fits (room : Option Nat) (text : List α) : Prop :=
  ∀ limit ∈ room, text.length ≤ limit

instance (room : Option Nat) (text : List α) : Decidable (Fits room text) :=
  inferInstanceAs (Decidable (∀ limit ∈ room, text.length ≤ limit))

theorem fits_none : Fits none text :=
  nofun

theorem fits_some_iff {limit : Nat} : Fits (some limit) text ↔ text.length ≤ limit := by
  simp [Fits]

/-- The sink with this much room after it was given a text. -/
def given (room : Option Nat) (text : List α) : Sink α :=
  match room with
  | none => ⟨text, none⟩
  | some limit => ⟨text.take limit, some (limit - text.length)⟩

theorem empty_eq_given (room : Option Nat) : (empty room : Sink α) = given room [] := by
  cases room <;> simp [empty, given]

theorem written_given_of_fits (fits : Fits room text) : (given room text).written = text := by
  cases room with
  | none => rfl
  | some limit => exact List.take_of_length_le (fits_some_iff.mp fits)

theorem Fits.of_append {behind : List α} (fits : Fits room (text ++ behind)) : Fits room text := by
  intro limit member
  have longer := fits limit member
  rw [List.length_append] at longer
  exact Nat.le_of_add_right_le longer

/-- A full sink takes nothing more. -/
theorem given_append_of_not_fits (full : ¬ Fits room text) (behind : List α) :
    given room (text ++ behind) = given room text := by
  cases room with
  | none => exact absurd fits_none full
  | some limit =>
      rw [fits_some_iff] at full
      have nothing : limit - (text ++ behind).length = limit - text.length := by
        rw [List.length_append]
        omega
      rw [given, given, nothing, List.take_append_of_le_length (by omega)]

theorem write_given (fits : Fits room text) (piece : List α) :
    (given room text).write piece =
      (decide (Fits room (text ++ piece)), given room (text ++ piece)) := by
  cases room with
  | none => simp [given, write, fits_none]
  | some limit =>
      rw [fits_some_iff] at fits
      have whole : text.take limit = text := List.take_of_length_le fits
      have part : (text ++ piece).take limit = text ++ piece.take (limit - text.length) := by
        rw [List.take_append, whole]
      have room : limit - text.length - piece.length = limit - (text ++ piece).length := by
        rw [List.length_append]
        omega
      have taken : piece.length ≤ limit - text.length ↔ Fits (some limit) (text ++ piece) := by
        rw [fits_some_iff, List.length_append]
        omega
      simp only [given, write, whole, part, room, taken]

/-- Pieces are taken like the text that they make up. -/
theorem writeAll_given (fits : Fits room text) (pieces : List (List α)) :
    (given room text).writeAll pieces =
      (decide (Fits room (text ++ pieces.flatten)), given room (text ++ pieces.flatten)) := by
  induction pieces generalizing text with
  | nil => simp [writeAll, fits]
  | cons piece others induction =>
      rw [writeAll, write_given fits, List.flatten_cons, ← List.append_assoc]
      by_cases taken : Fits room (text ++ piece)
      · simp only [taken, decide_true]
        exact induction taken
      · have full : ¬ Fits room (text ++ piece ++ others.flatten) := fun all => taken all.of_append
        simp only [taken, full, decide_false, given_append_of_not_fits taken]

end Sink

namespace SourceFile

open Sink (Fits given)

variable {room : Option Nat} {header : String} {earlier : List String}

/-- The declarations in front of the first error. -/
def leading : List (Except Error String) → List String
  | [] => []
  | .ok declaration :: others => declaration :: leading others
  | .error _ :: _ => []

theorem content_append (header : String) (earlier later : List String) :
    content header (earlier ++ later) = content header earlier ++ later.flatMap block := by
  simp [content]

/-- How writing these items ends behind a header that fits, if these declarations stand in
front of the first error. -/
structure Ends (room : Option Nat) (header : String) (declarations : List String)
    (items : List (Except Error String)) (written : Written) : Prop where
  sink : written.sink = given room (content header declarations)
  complete : Fits room (content header declarations) →
    items = declarations.map .ok ∧ written.result = .ok declarations.length ∧
        written.consumed = items.length ∨
      ∃ error later, items = declarations.map .ok ++ .error error :: later ∧
        written.result = .error error ∧ written.consumed = declarations.length + 1
  cut : ¬ Fits room (content header declarations) →
    written.result = .error full ∧ ∃ before declaration after,
      declarations = before ++ declaration :: after ∧ Fits room (content header before) ∧
        ¬ Fits room (content header (before ++ [declaration])) ∧
        written.consumed = before.length + 1

theorem content_concat (header : String) (earlier : List String) (declaration : String) :
    content header (earlier ++ [declaration]) =
      content header earlier ++ (pieces declaration).flatten := by
  rw [content_append, List.flatMap_singleton]
  rfl

/-- One more declaration, behind those that were written. -/
theorem ends_cut {declaration : String} (fits : Fits room (content header earlier))
    (passes : ¬ Fits room (content header (earlier ++ [declaration])))
    (others : List (Except Error String)) :
    Ends room header (earlier ++ declaration :: leading others)
      (earlier.map .ok ++ .ok declaration :: others)
      ⟨.error full, earlier.length + 1, given room (content header (earlier ++ [declaration]))⟩ := by
  have whole : content header (earlier ++ declaration :: leading others) =
      content header (earlier ++ [declaration]) ++ (leading others).flatMap block := by
    rw [← content_append, List.append_assoc, List.singleton_append]
  have longer : ¬ Fits room (content header (earlier ++ declaration :: leading others)) := by
    rw [whole]
    exact fun all => passes all.of_append
  refine ⟨?_, fun all => absurd all longer, fun _ => ⟨rfl, ?_⟩⟩
  · rw [whole, Sink.given_append_of_not_fits passes]
  · exact ⟨earlier, declaration, leading others, rfl, fits, passes, rfl⟩

theorem ends_writeBlocks (fits : Fits room (content header earlier))
    (items : List (Except Error String)) :
    Ends room header (earlier ++ leading items) (earlier.map .ok ++ items)
      (writeBlocks earlier.length (given room (content header earlier)) items) := by
  induction items generalizing earlier with
  | nil =>
      rw [leading, List.append_nil, List.append_nil]
      exact ⟨rfl, fun _ => .inl ⟨rfl, rfl, (List.length_map _).symm⟩, fun full => absurd fits full⟩
  | cons item others induction =>
      cases item with
      | error error =>
          rw [leading, List.append_nil]
          exact ⟨rfl, fun _ => .inr ⟨error, others, rfl, rfl, rfl⟩, fun full => absurd fits full⟩
      | ok declaration =>
          rw [leading, writeBlocks, Sink.writeAll_given fits, ← content_concat]
          by_cases taken : Fits room (content header (earlier ++ [declaration]))
          · have further := induction taken
            simp only [taken, decide_true]
            simpa using further
          · simp only [taken, decide_false]
            exact ends_cut fits taken others

theorem content_nil (header : String) : content header [] = Utf8.encodeString header := by
  simp [content]

/-- The header is the first piece. -/
theorem write_header (header : String) (room : Option Nat) :
    (Sink.empty room).write (Utf8.encodeString header) =
      (decide (Fits room (content header [])), given room (content header [])) := by
  rw [Sink.empty_eq_given, Sink.write_given (by simp [Fits]), List.nil_append, content_nil]

theorem ends_write (fits : Fits room (content header [])) (items : List (Except Error String)) :
    Ends room header (leading items) items (write header (.empty room) items) := by
  rw [write, write_header]
  simp only [fits, decide_true]
  exact ends_writeBlocks fits items

theorem write_of_not_fits (full : ¬ Fits room (content header []))
    (items : List (Except Error String)) :
    write header (.empty room) items =
      ⟨.error SourceFile.full, 0, given room (content header (leading items))⟩ := by
  have whole : content header (leading items) =
      content header [] ++ (leading items).flatMap block := content_append header [] _
  rw [write, write_header, whole, Sink.given_append_of_not_fits full]
  simp only [full, decide_false]

/-- What is in the sink is a beginning of the whole file, which has a block for each declaration
in front of the first error. If the whole file fits, all of it was written and the declarations
were counted, or the error came back and nothing behind it was asked for. If it does not fit, as
much as fits was written and the sink's error came back; the items asked for are those up to the
first declaration that passes the limit, and none if the header does. -/
theorem write_limited (header : String) (items : List (Except Error String))
    (room : Option Nat) :
    let declarations := leading items
    let whole := content header declarations
    let written := write header (.empty room) items
    ((∀ limit ∈ room, whole.length ≤ limit) → written.sink.written = whole ∧
      (items = declarations.map .ok ∧ written.result = .ok declarations.length ∧
          written.consumed = items.length ∨
        ∃ error later, items = declarations.map .ok ++ .error error :: later ∧
          written.result = .error error ∧ written.consumed = declarations.length + 1)) ∧
    ∀ limit ∈ room, limit < whole.length →
      written.sink.written = whole.take limit ∧ written.result = .error full ∧
      (limit < (Utf8.encodeString header).length ∧ written.consumed = 0 ∨
        ∃ before declaration after, declarations = before ++ declaration :: after ∧
          (content header before).length ≤ limit ∧
          limit < (content header (before ++ [declaration])).length ∧
          written.consumed = before.length + 1) := by
  intro declarations whole written
  by_cases taken : Fits room (content header [])
  · have ends : Ends room header declarations items written := ends_write taken items
    refine ⟨fun fits => ⟨?_, ends.complete fits⟩, ?_⟩
    · rw [ends.sink]
      exact Sink.written_given_of_fits fits
    · rintro limit rfl passes
      obtain ⟨result, before, declaration, after, split, fits, cut, consumed⟩ :=
        ends.cut (mt Sink.fits_some_iff.mp (Nat.not_le.mpr passes))
      rw [Sink.fits_some_iff] at fits cut
      refine ⟨?_, result, .inr ⟨before, declaration, after, split, fits, by omega, consumed⟩⟩
      rw [ends.sink]
      rfl
  · have refused : written = ⟨.error full, 0, given room whole⟩ := write_of_not_fits taken items
    have split : whole = content header [] ++ declarations.flatMap block :=
      content_append header [] _
    refine ⟨fun fits => absurd ?_ taken, ?_⟩
    · rw [split] at fits
      exact Fits.of_append fits
    · rintro limit rfl _
      rw [Sink.fits_some_iff, content_nil] at taken
      rw [refused]
      exact ⟨rfl, rfl, .inl ⟨by omega, rfl⟩⟩

/-- A declaration in front of an error. -/
def failingItems : List (Except Error String) :=
  [.ok "ab", .error (.config "missing")]

/-- A sink takes exactly the whole file, or all but its last newline. -/
theorem write_limited_failingItems :
    (content "H\n" ["ab"]).length = 6 ∧
    (write "H\n" (.empty (some 6)) failingItems).sink.written = content "H\n" ["ab"] ∧
    (write "H\n" (.empty (some 5)) failingItems).sink.written = (content "H\n" ["ab"]).take 5 ∧
    (write "H\n" (.empty (some 5)) failingItems).result = .error full := by
  have size : (content "H\n" ["ab"]).length = 6 := by decide +kernel
  have whole := (write_limited "H\n" failingItems (some 6)).1
    (by simp [failingItems, leading, size])
  have part := (write_limited "H\n" failingItems (some 5)).2 5 rfl
    (by simp [failingItems, leading, size])
  exact ⟨size, whole.1, part.1, part.2.1⟩

end SourceFile

end TypeTokenWrappers
