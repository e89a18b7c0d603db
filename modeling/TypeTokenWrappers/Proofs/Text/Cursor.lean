import TypeTokenWrappers.Proofs.Text.Boundary

/-! # Reading a text byte by byte

A reader of bytes moves a position by itself. Nothing keeps it from going on for ever, from
standing in the middle of a character or from cutting a text where that is not possible. It
writes down which calls succeed, which rounds of its loops go on and what it cuts out. -/

namespace TypeTokenWrappers

/-- What a reader of bytes does on its way, with the positions where it does so. -/
inductive CursorEvent where
  /-- A call that succeeds. -/
  | call (before after : Nat)
  /-- A round of a loop that goes on. -/
  | round (before after : Nat)
  /-- A piece of the text that is cut out. -/
  | cut (start stop : Nat)
deriving Repr

structure Cursor where
  position : Nat
  events : List CursorEvent
deriving Repr

/-- Why a reader of bytes gives up. -/
inductive Halt where
  | fault (message : String) (position : Nat)
  /-- A text was cut out of range or within a character. -/
  | broken
deriving Repr

/-- A reader of bytes; without an answer it goes on for ever. -/
abbrev CursorReader (α : Type) := ExceptT Halt (StateT Cursor Option) α

namespace Cursor

open Utf8
open Descriptor (leadByte)

def here : CursorReader Nat := return (← get).position

def advance (count : Nat) : CursorReader Unit :=
  modify fun cursor => { cursor with position := cursor.position + count }

def record (event : CursorEvent) : CursorReader Unit :=
  modify fun cursor => { cursor with events := cursor.events ++ [event] }

def fail (message : String) : CursorReader α := do
  throw (.fault message (← here))

/-- The byte that is ahead, as the character of that number. -/
def peek (bytes : List UInt8) : CursorReader (Option Char) :=
  return (bytes[(← get).position]?).map fun byte => Char.ofNat byte.toNat

def expect (bytes : List UInt8) (char : Char) : CursorReader Unit := do
  if (← peek bytes) = some char then advance 1
  else fail s!"expected '{char}'"

/-- The bytes from a position on. -/
def bytesFrom (bytes : List UInt8) (start : Nat) : CursorReader (List UInt8) :=
  if start ≤ bytes.length then return bytes.drop start else throw .broken

/-- Cuts a text out of the text that the bytes are. -/
def cut (bytes : List UInt8) (start stop : Nat) : CursorReader (List Char) := do
  record (.cut start stop)
  if start ≤ stop ∧ isBoundary bytes start ∧ isBoundary bytes stop then
    match Utf8.decode? ((bytes.take stop).drop start) with
    | some piece => return piece
    | none => throw .broken
  else throw .broken

/-- Writes down that a call succeeds. -/
def called (reader : CursorReader α) : CursorReader α := do
  let before ← here
  let value ← reader
  record (.call before (← here))
  return value

/-! ## What the events should be -/

/-- Calls take something and stay in the text, rounds take something, and texts are cut at the
boundaries of characters. -/
def Sound (text : List Char) : CursorEvent → Prop
  | .call before after => before < after ∧ after ≤ Utf8.byteLength text
  | .round before after => before < after
  | .cut start stop => start ≤ stop ∧ stop ≤ Utf8.byteLength text ∧ Boundary text start ∧
      Boundary text stop

/-- How a reader ends on the bytes of a text when `rest` is ahead: with a value, and the text
that is then ahead, or because it gives up. All that it does on its way is sound. -/
inductive Ends (text rest : List Char) (reader : CursorReader α) :
    Except Halt (α × List Char) → Prop
  | ok {value : α} {left : List Char} (behind : left <:+ rest)
      (runs : ∀ earlier, ∃ later, (∀ event ∈ later, Sound text event) ∧
        reader.run.run ⟨bytesBefore text rest, earlier⟩ =
          some (.ok value, ⟨bytesBefore text left, earlier ++ later⟩)) :
      Ends text rest reader (.ok (value, left))
  | error {halt : Halt}
      (runs : ∀ earlier, ∃ later position, (∀ event ∈ later, Sound text event) ∧
        reader.run.run ⟨bytesBefore text rest, earlier⟩ =
          some (.error halt, ⟨position, earlier ++ later⟩)) :
      Ends text rest reader (.error halt)

section Rules

variable {text rest left : List Char} {reader : CursorReader α} {value : α} {halt : Halt}
  {outcome : Except Halt (β × List Char)}

theorem ends_pure (value : α) : Ends text rest (pure value) (.ok (value, rest)) :=
  .ok (List.suffix_refl rest) fun earlier => ⟨[], nofun, by rw [List.append_nil]; rfl⟩

/-- Nothing is found behind what was found before. -/
theorem ends_pure_append_nil (found : List α) :
    Ends text rest (pure found) (.ok (found ++ [], rest)) := by
  rw [List.append_nil]
  exact ends_pure found

theorem run_bind_ok {following : α → CursorReader β} {start next : Cursor}
    (first : reader.run.run start = some (.ok value, next)) :
    (reader >>= following).run.run start = (following value).run.run next := by
  change (reader.run.run start).bind (fun (answer, cursor) =>
    StateT.run (ExceptT.bindCont following answer) cursor) = _
  rw [first]
  rfl

theorem run_bind_error {following : α → CursorReader β} {start next : Cursor}
    (first : reader.run.run start = some (.error halt, next)) :
    (reader >>= following).run.run start = some (.error halt, next) := by
  change (reader.run.run start).bind (fun (answer, cursor) =>
    StateT.run (ExceptT.bindCont following answer) cursor) = _
  rw [first]
  rfl

theorem Ends.bind {following : α → CursorReader β}
    (first : Ends text rest reader (.ok (value, left)))
    (second : Ends text left (following value) outcome) :
    Ends text rest (reader >>= following) outcome := by
  rcases first with ⟨behind, runs⟩
  cases second with
  | ok behind' runs' =>
      refine .ok (behind'.trans behind) fun earlier => ?_
      rcases runs earlier with ⟨later, sound, ran⟩
      rcases runs' (earlier ++ later) with ⟨last, sound', ran'⟩
      refine ⟨later ++ last, List.forall_mem_append.mpr ⟨sound, sound'⟩, ?_⟩
      rw [run_bind_ok ran, ran', List.append_assoc]
  | error runs' =>
      refine .error fun earlier => ?_
      rcases runs earlier with ⟨later, sound, ran⟩
      rcases runs' (earlier ++ later) with ⟨last, position, sound', ran'⟩
      refine ⟨later ++ last, position, List.forall_mem_append.mpr ⟨sound, sound'⟩, ?_⟩
      rw [run_bind_ok ran, ran', List.append_assoc]

theorem Ends.bind_error {following : α → CursorReader β}
    (first : Ends text rest reader (.error halt)) :
    Ends text rest (reader >>= following) (.error halt) := by
  rcases first with _ | runs
  refine .error fun earlier => ?_
  rcases runs earlier with ⟨later, position, sound, ran⟩
  exact ⟨later, position, sound, run_bind_error ran⟩

theorem ends_here : Ends text rest here (.ok (bytesBefore text rest, rest)) :=
  .ok (List.suffix_refl rest) fun earlier => ⟨[], nofun, by rw [List.append_nil]; rfl⟩

theorem ends_fail (message : String) :
    Ends text rest (fail message : CursorReader α)
      (.error (.fault message (bytesBefore text rest))) :=
  .error fun earlier => ⟨[], bytesBefore text rest, nofun, by rw [List.append_nil]; rfl⟩

theorem ends_record {event : CursorEvent} (sound : Sound text event) :
    Ends text rest (record event) (.ok ((), rest)) :=
  .ok (List.suffix_refl rest) fun _ => ⟨[event], List.forall_mem_singleton.mpr sound, rfl⟩

theorem ends_advance {count : Nat} (behind : left <:+ rest)
    (position : bytesBefore text rest + count = bytesBefore text left) :
    Ends text rest (advance count) (.ok ((), left)) :=
  .ok behind fun earlier => ⟨[], nofun, by rw [List.append_nil, ← position]; rfl⟩

end Rules

/-! ## What the steps do -/

section Steps

variable {text rest left : List Char} {char : Char}

theorem ends_peek (within : rest <:+ text) :
    Ends text rest (peek (Utf8.encode text)) (.ok (rest.head?.map leadByte, rest)) := by
  refine .ok (List.suffix_refl rest) fun earlier => ⟨[], nofun, ?_⟩
  have seen : ((Utf8.encode text)[bytesBefore text rest]?).map (fun byte => Char.ofNat byte.toNat) =
      rest.head?.map leadByte := by
    rw [getElem?_encode within]
    cases rest with
    | nil => rfl
    | cons char rest =>
        rcases exists_lead char with ⟨lead, others, group, _, first⟩
        rw [encode_cons, group, List.head?_cons, Option.map_some, first]
        rfl
  rw [← seen, List.append_nil]
  rfl

theorem ends_advance_one (ascii : char.toNat < 128) (within : char :: left <:+ text) :
    Ends text (char :: left) (advance 1) (.ok ((), left)) :=
  ends_advance (List.suffix_cons char left) (bytesBefore_cons ascii within).symm

theorem ends_expect (ascii : char.toNat < 128) (within : char :: left <:+ text) :
    Ends text (char :: left) (expect (Utf8.encode text) char) (.ok ((), left)) := by
  apply (ends_peek within).bind
  rw [if_pos ((ahead_eq_some_iff ascii).mpr ⟨left, rfl⟩)]
  exact ends_advance_one ascii within

theorem ends_expect_error (ascii : char.toNat < 128) (within : rest <:+ text)
    (other : ∀ left, rest ≠ char :: left) :
    Ends text rest (expect (Utf8.encode text) char)
      (.error (.fault s!"expected '{char}'" (bytesBefore text rest))) := by
  apply (ends_peek within).bind
  rw [if_neg]
  · exact ends_fail _
  · rw [ahead_eq_some_iff ascii, not_exists]
    exact other

theorem ends_bytesFrom (within : rest <:+ text) :
    Ends text rest (bytesFrom (Utf8.encode text) (bytesBefore text rest))
      (.ok (Utf8.encode rest, rest)) := by
  have inside : bytesBefore text rest ≤ (Utf8.encode text).length := by
    rw [length_encode]
    exact Nat.sub_le _ _
  rw [bytesFrom, if_pos inside, drop_encode within]
  exact ends_pure _

theorem ends_cut {piece : List Char} (within : piece ++ left <:+ text) :
    Ends text rest
      (cut (Utf8.encode text) (bytesBefore text (piece ++ left)) (bytesBefore text left))
      (.ok (piece, rest)) := by
  have behind : left <:+ text := (List.suffix_append piece left).trans within
  have ordered : bytesBefore text (piece ++ left) ≤ bytesBefore text left := by
    rw [bytesBefore_append_left within]
    exact Nat.le_add_right _ _
  have bytes : ((Utf8.encode text).take (bytesBefore text left)).drop
      (bytesBefore text (piece ++ left)) = Utf8.encode piece := by
    rw [List.drop_take, drop_encode within, bytesBefore_append_left within, Nat.add_sub_cancel_left,
      ← length_encode, encode_append]
    exact List.take_left
  have sound : Sound text (.cut (bytesBefore text (piece ++ left)) (bytesBefore text left)) :=
    ⟨ordered, Nat.sub_le _ _, boundary_bytesBefore within, boundary_bytesBefore behind⟩
  apply (ends_record sound).bind
  rw [if_pos ⟨ordered, isBoundary_bytesBefore within, isBoundary_bytesBefore behind⟩, bytes,
    Utf8.decode?_encode]
  exact ends_pure piece

/-- Cuts out all that is ahead. -/
theorem ends_cut_rest (within : rest <:+ text) :
    Ends text rest
      (cut (Utf8.encode text) (bytesBefore text rest) (Utf8.encode text).length)
      (.ok (rest, rest)) := by
  have last : (Utf8.encode text).length = bytesBefore text [] := length_encode text
  have whole : rest ++ [] = rest := List.append_nil rest
  have ends : Ends text rest
      (cut (Utf8.encode text) (bytesBefore text (rest ++ [])) (bytesBefore text []))
      (.ok (rest, rest)) :=
    ends_cut (whole.symm ▸ within)
  rwa [whole, ← last] at ends

/-- Stepping somewhere, into a character perhaps, where it then fails. -/
theorem ends_advance_fail (count : Nat) (message : String) :
    Ends text rest (advance count >>= fun _ => (fail message : CursorReader α))
      (.error (.fault message (bytesBefore text rest + count))) :=
  .error fun earlier => ⟨[], bytesBefore text rest + count, nofun, by rw [List.append_nil]; rfl⟩

end Steps

/-! ## Readers of characters -/

section Readers

variable {text rest left : List Char} {limit total : Nat} {place : ε → Halt}

/-- How a reader of bytes ends where a reader of characters ends with this: with the value and
the text ahead that are told of what that one found. -/
def told (place : ε → Halt) (tell : γ → δ × List Char) : Except ε γ → Except Halt (δ × List Char)
  | .ok found => .ok (tell found)
  | .error stop => .error (place stop)

def outcomeOf (place : ε → Halt) (meaning : α → β) :
    Except ε (Taken α limit) → Except Halt (β × List Char) :=
  told place fun taken => (meaning taken.value, taken.rest)

theorem outcomeOf_ok {meaning : α → β} (taken : Taken α limit) :
    outcomeOf place meaning (.ok taken) = .ok (meaning taken.value, taken.rest) :=
  rfl

/-- At the end of the text nothing is ahead. -/
def lastOutcome (place : ε → Halt) : Except ε α → Except Halt (α × List Char) :=
  told place fun value => (value, [])

theorem Ends.behind {reader : CursorReader β} {meaning : α → β} {taken : Taken α limit}
    (ends : Ends text rest reader (outcomeOf place meaning (.ok taken))) :
    taken.rest <:+ rest := by
  rcases ends with ⟨behind, _⟩
  exact behind

theorem Ends.bind_outcome {reader : CursorReader β} {following : β → CursorReader δ}
    {meaning : α → β} {tell : γ → δ × List Char} {first : Except ε (Taken α limit)}
    {second : Taken α limit → Except ε γ}
    (ends : Ends text rest reader (outcomeOf place meaning first))
    (goesOn : ∀ taken, first = .ok taken → taken.rest <:+ rest →
      Ends text taken.rest (following (meaning taken.value)) (told place tell (second taken))) :
    Ends text rest (reader >>= following) (told place tell (first >>= second)) := by
  cases first with
  | error stop => exact ends.bind_error
  | ok taken => exact ends.bind (goesOn taken rfl ends.behind)

/-- What is put around a result at last. -/
theorem told_wrap {meaning : α → β} {tell : γ → β × List Char} {result : Except ε (Taken α limit)}
    {wrap : Taken α limit → γ}
    (tell_eq : ∀ taken, tell (wrap taken) = (meaning taken.value, taken.rest)) :
    told place tell (result >>= fun taken => pure (wrap taken)) =
      outcomeOf place meaning result := by
  cases result with
  | error stop => rfl
  | ok taken => exact congrArg Except.ok (tell_eq taken)

theorem Ends.wrap {reader : CursorReader β} {meaning : α → β} {tell : γ → β × List Char}
    {result : Except ε (Taken α limit)} {wrap : Taken α limit → γ}
    (ends : Ends text rest reader (outcomeOf place meaning result))
    (tell_eq : ∀ taken, tell (wrap taken) = (meaning taken.value, taken.rest)) :
    Ends text rest reader (told place tell (result >>= fun taken => pure (wrap taken))) := by
  rwa [told_wrap tell_eq]

theorem Ends.unwrap {reader : CursorReader β} {meaning : α → β} {tell : γ → β × List Char}
    {result : Except ε (Taken α limit)} {wrap : Taken α limit → γ}
    (ends : Ends text rest reader
      (told place tell (result >>= fun taken => pure (wrap taken))))
    (tell_eq : ∀ taken, tell (wrap taken) = (meaning taken.value, taken.rest)) :
    Ends text rest reader (outcomeOf place meaning result) := by
  rwa [told_wrap tell_eq] at ends

theorem ends_round (within : rest <:+ text) (behind : left <:+ rest)
    (shorter : left.length < rest.length) :
    Ends text left (record (.round (bytesBefore text rest) (bytesBefore text left)))
      (.ok ((), left)) := by
  have sound : Sound text (.round (bytesBefore text rest) (bytesBefore text left)) :=
    bytesBefore_lt within behind shorter
  exact ends_record sound

theorem Ends.called {reader : CursorReader β} {meaning : α → β}
    {result : Except ε (Taken α rest.length)} (within : rest <:+ text)
    (ends : Ends text rest reader (outcomeOf place meaning result)) :
    Ends text rest (called reader) (outcomeOf place meaning result) := by
  apply ends_here.bind
  cases result with
  | error stop => exact ends.bind_error
  | ok taken =>
      apply ends.bind
      apply ends_here.bind
      have sound : Sound text (.call (bytesBefore text rest) (bytesBefore text taken.rest)) :=
        ⟨bytesBefore_lt within ends.behind taken.shorter, Nat.sub_le _ _⟩
      exact (ends_record sound).bind (ends_pure _)

/-- A reader of bytes ends with this answer on a text, and all that it does is sound. -/
def Finishes (text : List Char) (reader : CursorReader α) (answer : Except Halt α) : Prop :=
  ∃ cursor, reader.run.run ⟨0, []⟩ = some (answer, cursor) ∧
    ∀ event ∈ cursor.events, Sound text event

theorem Ends.finishes {reader : CursorReader α} {outcome : Except Halt (α × List Char)}
    (ends : Ends text text reader outcome) : Finishes text reader (outcome.map Prod.fst) := by
  have start : bytesBefore text text = 0 := Nat.sub_self _
  cases ends with
  | ok behind runs =>
      rcases runs [] with ⟨later, sound, ran⟩
      rw [start] at ran
      exact ⟨_, ran, sound⟩
  | error runs =>
      rcases runs [] with ⟨later, position, sound, ran⟩
      rw [start] at ran
      exact ⟨_, ran, sound⟩

theorem map_fst_lastOutcome (result : Except ε α) :
    (lastOutcome place result).map Prod.fst = result.mapError place := by
  cases result <;> rfl

end Readers

end Cursor

end TypeTokenWrappers
