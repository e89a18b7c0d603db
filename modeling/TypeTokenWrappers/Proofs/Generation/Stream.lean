import Mathlib.Data.List.Basic
import TypeTokenWrappers.Generation.Stream

/-! # What a stream gives, call by call

Opening an archive may do anything to the host and may give anything. For each call it
is told what it gives, how many archives are open by then, and that the host is as it is
when just those were opened, one after the other: nothing is opened ahead of time. -/

namespace TypeTokenWrappers.WrapperStream

/-! ## Outcomes -/

/-- The wrappers of each archive in front of the first one that fails. -/
def readable : (outcomes : List (Except Error (List Wrapper))) → List (List Wrapper)
  | .ok wrappers :: others => wrappers :: readable others
  | _ => []

def firstError? : (outcomes : List (Except Error (List Wrapper))) → Option Error
  | [] => none
  | .ok _ :: others => firstError? others
  | .error error :: _ => some error

/-- The items of archives with these outcomes: all wrappers in front of the first
failure, then the failure. -/
def itemsOf (outcomes : List (Except Error (List Wrapper))) : List (Except Error Wrapper) :=
  (readable outcomes).flatten.map .ok ++ (firstError? outcomes).toList.map .error

/-- How many archives are open after the call with this number, counted from 0. -/
def openAfter : (outcomes : List (Except Error (List Wrapper))) → (number : Nat) → Nat
  | [], _ => 0
  | .ok wrappers :: others, number =>
    if number < wrappers.length then 1 else openAfter others (number - wrappers.length) + 1
  | .error _ :: _, _ => 1

@[simp] theorem itemsOf_nil : itemsOf [] = [] := rfl

@[simp] theorem itemsOf_ok (wrappers : List Wrapper)
    (others : List (Except Error (List Wrapper))) :
    itemsOf (.ok wrappers :: others) = wrappers.map .ok ++ itemsOf others := by
  simp [itemsOf, readable, firstError?]

@[simp] theorem itemsOf_error (error : Error) (others : List (Except Error (List Wrapper))) :
    itemsOf (.error error :: others) = [.error error] := rfl

/-- While the wrappers of an archive are given, it is the last one that is open. -/
theorem openAfter_eq_of_within {outcomes : List (Except Error (List Wrapper))}
    {position number : Nat}
    (behind : ((readable outcomes).take position).flatten.length ≤ number)
    (within : number < ((readable outcomes).take (position + 1)).flatten.length) :
    openAfter outcomes number = position + 1 := by
  induction outcomes generalizing position number with
  | nil => simp [readable] at within
  | cons outcome others induction =>
      cases outcome with
      | error error => simp [readable] at within
      | ok wrappers =>
          cases position with
          | zero =>
              have inFirst : number < wrappers.length := by simpa [readable] using within
              simp [openAfter, inFirst]
          | succ position =>
              simp only [readable, List.take_succ_cons, List.flatten_cons,
                List.length_append] at behind within
              have pastFirst : ¬ number < wrappers.length := by omega
              have later := @induction position (number - wrappers.length) (by omega) (by omega)
              rw [openAfter, if_neg pastFirst, later]

/-- When all wrappers were given, all archives are open, up to the one that fails. -/
theorem openAfter_eq_of_behind {outcomes : List (Except Error (List Wrapper))} {number : Nat}
    (behind : (readable outcomes).flatten.length ≤ number) :
    openAfter outcomes number =
      if (firstError? outcomes).isSome then (readable outcomes).length + 1
      else outcomes.length := by
  induction outcomes generalizing number with
  | nil => rfl
  | cons outcome others induction =>
      cases outcome with
      | error error => rfl
      | ok wrappers =>
          simp only [readable, List.flatten_cons, List.length_append] at behind
          have pastFirst : ¬ number < wrappers.length := by omega
          rw [openAfter, if_neg pastFirst, induction (by omega), readable, firstError?,
            List.length_cons, List.length_cons]
          split
          · rfl
          · rfl

section Calls

variable {σ : Type} (scan : String → StateM σ (Except Error (List Wrapper)))

/-- What opening archives one after the other gives. -/
def outcomes : (archives : List String) → (host : σ) → List (Except Error (List Wrapper))
  | [], _ => []
  | archive :: others, host =>
    ((scan archive).run host).1 :: outcomes others ((scan archive).run host).2

@[simp] theorem length_outcomes (archives : List String) (host : σ) :
    (outcomes scan archives host).length = archives.length := by
  induction archives generalizing host with
  | nil => rfl
  | cons archive others induction => simp [outcomes, induction]

/-- The host after archives were opened one after the other. -/
def hostAfter (archives : List String) (host : σ) : σ :=
  archives.foldl (fun host archive => ((scan archive).run host).2) host

/-- What a call gives, and what it leaves. -/
structure Answer (σ : Type) where
  item : Option (Except Error Wrapper)
  stream : WrapperStream
  host : σ

def answer (stream : WrapperStream) (host : σ) : Answer σ :=
  let ((item, stream), host) := (next scan stream).run host
  ⟨item, stream, host⟩

/-- The answer to the call with this number, counted from 0, of a new stream. -/
def answerNumber (archives : List String) (host : σ) : (number : Nat) → Answer σ
  | 0 => answer scan (ofArchives archives) host
  | number + 1 =>
    let earlier := answerNumber archives host number
    answer scan earlier.stream earlier.host

/-! ## One call -/

/-- An item that is still to come, with the number of archives that are open and the
host when it is given. -/
structure Entry (σ : Type) where
  item : Except Error Wrapper
  scanned : Nat
  host : σ

/-- The items of archives that are not open yet. -/
def entries (scanned : Nat) : (archives : List String) → (host : σ) → List (Entry σ)
  | [], _ => []
  | archive :: others, host =>
    let (outcome, host) := (scan archive).run host
    match outcome with
    | .ok wrappers =>
      wrappers.map (⟨.ok ·, scanned + 1, host⟩) ++ entries (scanned + 1) others host
    | .error error => [⟨.error error, scanned + 1, host⟩]

/-- How many archives are open at the end, and the host then. -/
def ending (scanned : Nat) : (archives : List String) → (host : σ) → Nat × σ
  | [], host => (scanned, host)
  | archive :: others, host =>
    let (outcome, host) := (scan archive).run host
    match outcome with
    | .ok _ => ending (scanned + 1) others host
    | .error _ => (scanned + 1, host)

/-- All that a stream still has to give. -/
def remaining (stream : WrapperStream) (host : σ) : List (Entry σ) :=
  if stream.failed then []
  else stream.pending.map (⟨.ok ·, stream.scanned, host⟩) ++
    entries scan stream.scanned stream.archives host

def endingOf (stream : WrapperStream) (host : σ) : Nat × σ :=
  if stream.failed then (stream.scanned, host)
  else ending scan stream.scanned stream.archives host

/-- An answer gives the first of some entries and leaves the others. Without entries
it gives nothing. -/
structure Answer.Takes (given : Answer σ) (entries : List (Entry σ)) (ending : Nat × σ) : Prop where
  item : given.item = entries.head?.map Entry.item
  reached : (given.stream.scanned, given.host) =
    (entries.head?.map fun entry => (entry.scanned, entry.host)).getD ending
  others : remaining scan given.stream given.host = entries.tail
  ends : endingOf scan given.stream given.host = ending

theorem takes_open? (scanned : Nat) (archives : List String) (host : σ) :
    let ((item, stream), after) := (open? scan scanned archives).run host
    Answer.Takes scan ⟨item, stream, after⟩ (entries scan scanned archives host)
      (ending scan scanned archives host) := by
  induction archives generalizing scanned host with
  | nil => exact ⟨rfl, rfl, rfl, rfl⟩
  | cons archive others induction =>
      rw [open?, entries, ending, StateT.run_bind]
      rcases (scan archive).run host with ⟨outcome, after⟩
      match outcome with
      | .ok [] => exact induction (scanned + 1) after
      | .ok (wrapper :: pending) => exact ⟨rfl, rfl, rfl, rfl⟩
      | .error error => exact ⟨rfl, rfl, rfl, rfl⟩

theorem takes_answer (stream : WrapperStream) (host : σ) :
    (answer scan stream host).Takes scan (remaining scan stream host)
      (endingOf scan stream host) := by
  rcases stream with ⟨archives, pending, scanned, failed⟩
  cases failed with
  | true => exact ⟨rfl, rfl, rfl, rfl⟩
  | false =>
      cases pending with
      | cons wrapper pending => exact ⟨rfl, rfl, rfl, rfl⟩
      | nil => exact takes_open? scan scanned archives host

/-! ## All calls -/

theorem takes_answerNumber (archives : List String) (host : σ) (number : Nat) :
    (answerNumber scan archives host number).Takes scan
      ((entries scan 0 archives host).drop number) (ending scan 0 archives host) := by
  induction number with
  | zero => exact takes_answer scan (ofArchives archives) host
  | succ number induction =>
      have taken := takes_answer scan (answerNumber scan archives host number).stream
        (answerNumber scan archives host number).host
      rw [induction.others, induction.ends, List.tail_drop] at taken
      exact taken

theorem map_item_entries (scanned : Nat) (archives : List String) (host : σ) :
    (entries scan scanned archives host).map Entry.item =
      itemsOf (outcomes scan archives host) := by
  induction archives generalizing scanned host with
  | nil => rfl
  | cons archive others induction =>
      rw [entries, outcomes]
      rcases (scan archive).run host with ⟨outcome, after⟩
      cases outcome with
      | ok wrappers => simp [induction, Function.comp_def]
      | error error => rfl

theorem reached_entries (scanned : Nat) (archives : List String) (host : σ) (number : Nat) :
    ((entries scan scanned archives host)[number]?.map fun entry =>
        (entry.scanned, entry.host)).getD (ending scan scanned archives host) =
      let count := openAfter (outcomes scan archives host) number
      (scanned + count, hostAfter scan (archives.take count) host) := by
  induction archives generalizing scanned host number with
  | nil => rfl
  | cons archive others induction =>
      rw [entries, outcomes, ending]
      simp only [hostAfter]
      cases opened : (scan archive).run host with
      | mk outcome after =>
          cases outcome with
          | error error => cases number <;> simp [openAfter, opened]
          | ok wrappers =>
              dsimp only
              by_cases within : number < wrappers.length
              · rw [List.getElem?_append_left (by simpa using within)]
                simp [openAfter, within, opened]
              · have later := induction (scanned + 1) after (number - wrappers.length)
                rw [List.getElem?_append_right (by simpa using within), List.length_map, later]
                simp [openAfter, within, opened, hostAfter, Nat.add_assoc, Nat.add_comm 1]

/-- What the calls of a stream give, one after the other, are the wrappers of the archives
in front of the first one that fails, in order, then its failure, and then nothing any
more. While the wrappers of an archive are given, the host is as when this archive and
those in front of it were opened and no other. Behind them no more archives are open than
those up to the failing one; without a failure it is all of them. -/
theorem answerNumber_item (archives : List String) (host : σ) (number : Nat) :
    let found := outcomes scan archives host
    let given := answerNumber scan archives host number
    given.item = (itemsOf found)[number]? ∧
      given.host = hostAfter scan (archives.take given.stream.scanned) host ∧
      (∀ position, ((readable found).take position).flatten.length ≤ number →
        number < ((readable found).take (position + 1)).flatten.length →
        given.stream.scanned = position + 1) ∧
      ((readable found).flatten.length ≤ number → given.stream.scanned =
        if (firstError? found).isSome then (readable found).length + 1 else archives.length) := by
  intro found given
  have takes := takes_answerNumber scan archives host number
  have reached := takes.reached
  rw [List.head?_drop, reached_entries] at reached
  simp only [Prod.mk.injEq, Nat.zero_add] at reached
  have count : given.stream.scanned = openAfter found number := reached.1
  refine ⟨?_, ?_, ?_, ?_⟩
  · have item := takes.item
    rw [List.head?_drop, ← List.getElem?_map, map_item_entries] at item
    exact item
  · rw [count]
    exact reached.2
  · intro position behind within
    rw [count]
    exact openAfter_eq_of_within behind within
  · intro behind
    rw [count, openAfter_eq_of_behind behind, length_outcomes]

end Calls

end TypeTokenWrappers.WrapperStream
