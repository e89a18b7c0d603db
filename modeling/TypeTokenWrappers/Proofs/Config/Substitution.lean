import Mathlib.Data.List.Basic
import TypeTokenWrappers.Proofs.Config.Placeholder

/-! # Substitution in place

The placeholders of a value are replaced one after the other in the text that the earlier
replacements have left. This comes to the same as replacing each of them where it stands as long
as the text of a placeholder turns up nowhere else in between. -/

namespace TypeTokenWrappers.Config

namespace Placeholder

/-- A part of a value: a placeholder, or a character outside of all placeholders. -/
inductive Part where
  | plain (char : Char)
  | hole (placeholder : Placeholder)
deriving DecidableEq

namespace Part

def written : Part → List Char
  | plain char => [char]
  | hole placeholder => placeholder.written

def placeholder? : Part → Option Placeholder
  | plain _ => none
  | hole placeholder => some placeholder

end Part

/-- The parts of a text from left to right. `skip` characters still belong to the placeholder
found last. -/
def partsFrom (skip : Nat) : List Char → List Part
  | [] => []
  | char :: rest =>
    match skip with
    | skip + 1 => partsFrom skip rest
    | 0 =>
      match atFront? (char :: rest) with
      | some placeholder => .hole placeholder :: partsFrom (placeholder.written.length - 1) rest
      | none => .plain char :: partsFrom 0 rest

def parts (value : String) : List Part :=
  partsFrom 0 value.toList

theorem filterMap_partsFrom (skip : Nat) (text : List Char) :
    (partsFrom skip text).filterMap Part.placeholder? = findFrom skip text := by
  induction text generalizing skip with
  | nil => rfl
  | cons char rest induction =>
    cases skip with
    | succ skip => exact induction skip
    | zero =>
      rw [partsFrom, findFrom]
      cases atFront? (char :: rest) with
      | none => exact induction 0
      | some placeholder => exact congrArg _ (induction _)

theorem written_cons {placeholder : Placeholder} (proper : placeholder.Proper) :
    ∃ behind, placeholder.written = '$' :: behind := by
  rw [proper.written]
  cases placeholder.default <;> exact ⟨_, rfl⟩

/-- The parts of a text make it up. -/
theorem flatMap_written_partsFrom (skip : Nat) (text : List Char) :
    (partsFrom skip text).flatMap Part.written = text.drop skip := by
  induction text generalizing skip with
  | nil => cases skip <;> rfl
  | cons char rest induction =>
    cases skip with
    | succ skip => exact induction skip
    | zero =>
      rw [partsFrom]
      cases found : atFront? (char :: rest) with
      | none => exact congrArg (char :: ·) (induction 0)
      | some placeholder =>
        obtain ⟨proper, after, split⟩ := atFront?_eq_some_iff.mp found
        obtain ⟨behind, written⟩ := written_cons proper
        rw [written] at split
        cases split
        simp only [List.flatMap_cons, Part.written, induction, written]
        simp

theorem proper_of_mem_partsFrom {skip : Nat} {text : List Char} {placeholder : Placeholder}
    (member : .hole placeholder ∈ partsFrom skip text) : placeholder.Proper := by
  induction text generalizing skip with
  | nil => cases member
  | cons char rest induction =>
    cases skip with
    | succ skip => exact induction member
    | zero =>
      rw [partsFrom] at member
      cases found : atFront? (char :: rest) with
      | none =>
        rw [found] at member
        exact induction ((List.mem_cons.mp member).resolve_left nofun)
      | some first =>
        rw [found] at member
        rcases List.mem_cons.mp member with same | member
        · cases same
          exact (atFront?_eq_some_iff.mp found).1
        · exact induction member

/-- What a placeholder stands for, if it stands for anything. -/
def meaning (environment : Environment) (placeholder : Placeholder) : List Char :=
  (((environment placeholder.name).or placeholder.default).getD "").toList

namespace Part

variable (environment : Environment)

def filled : Part → List Char
  | plain char => [char]
  | hole placeholder => placeholder.meaning environment

/-- A part as it reads when these placeholders are replaced. -/
def shown (done : List Placeholder) : Part → List Char
  | plain char => [char]
  | hole placeholder =>
    if placeholder ∈ done then placeholder.meaning environment else placeholder.written

end Part

/-- Whether, once the placeholders `done` are replaced, the text of this one stands only where
the value has it and it is yet to be replaced. -/
def StandsAlone (environment : Environment) (parts : List Part) (done : List Placeholder)
    (placeholder : Placeholder) : Prop :=
  ∀ before after,
    parts.flatMap (Part.shown environment done) = before ++ placeholder.written ++ after →
      placeholder ∉ done ∧ ∃ front back, parts = front ++ .hole placeholder :: back ∧
        front.flatMap (Part.shown environment done) = before

section StandsAlone

variable {environment : Environment} {parts : List Part} {done : List Placeholder}
  {placeholder : Placeholder}

/-- Where the text of the placeholder begins within what a part shows. -/
theorem eq_hole_of_begins (alone : StandsAlone environment parts done placeholder)
    (nonempty : placeholder.written ≠ []) {front back : List Part} {part : Part}
    (split : parts = front ++ part :: back) {own rest : List Char}
    (shown : part.shown environment done = own ++ rest) (goesOn : rest ≠ [])
    (begins : placeholder.written <+: rest ++ back.flatMap (Part.shown environment done)) :
    part = .hole placeholder ∧ placeholder ∉ done := by
  obtain ⟨after, begins⟩ := begins
  have reads : parts.flatMap (Part.shown environment done) =
      front.flatMap (Part.shown environment done) ++ own ++ placeholder.written ++ after := by
    rw [split, List.flatMap_append, List.flatMap_cons, shown]
    simp only [List.append_assoc, begins]
  obtain ⟨fresh, before, behind, whole, same⟩ := alone _ _ reads
  refine ⟨?_, fresh⟩
  have shownHole : (Part.hole placeholder).shown environment done = placeholder.written :=
    if_neg fresh
  rcases List.append_eq_append_iff.mp (split.symm.trans whole) with
    ⟨between, rfl, tails⟩ | ⟨between, rfl, tails⟩
  · cases between with
    | nil => exact (List.cons.inj tails).1
    | cons first between =>
      -- The placeholder would stand behind the part in which its text begins.
      obtain ⟨rfl, -⟩ := List.cons.inj tails
      have lengths := congrArg List.length same
      have := List.length_pos_iff.mpr goesOn
      simp only [List.flatMap_append, List.flatMap_cons, List.length_append, shown] at lengths
      omega
  · cases between with
    | nil => exact (List.cons.inj tails).1.symm
    | cons first between =>
      -- The placeholder would stand in front of it.
      obtain ⟨rfl, -⟩ := List.cons.inj tails
      have lengths := congrArg List.length same
      have := List.length_pos_iff.mpr nonempty
      simp only [List.flatMap_append, List.flatMap_cons, List.length_append, shownHole] at lengths
      omega

theorem replaceFrom_length (pattern replacement text behind : List Char) :
    Pieces.replaceFrom pattern replacement text.length (text ++ behind) =
      Pieces.replaceFrom pattern replacement 0 behind := by
  induction text with
  | nil => rfl
  | cons char text induction => exact induction

theorem replace_append_pattern {pattern : List Char} (nonempty : pattern ≠ [])
    (replacement behind : List Char) :
    Pieces.replace pattern replacement (pattern ++ behind) =
      replacement ++ Pieces.replace pattern replacement behind := by
  cases pattern with
  | nil => exact absurd rfl nonempty
  | cons char pattern =>
    rw [Pieces.replace, List.cons_append, Pieces.replaceFrom, if_pos (by simp)]
    exact congrArg _ (replaceFrom_length _ _ pattern behind)

/-- A text is kept in which no occurrence begins. -/
theorem replace_append_of_nowhere {pattern front behind : List Char} (replacement : List Char)
    (nowhere : ∀ own rest, front = own ++ rest → rest ≠ [] → ¬ pattern <+: rest ++ behind) :
    Pieces.replace pattern replacement (front ++ behind) =
      front ++ Pieces.replace pattern replacement behind := by
  induction front with
  | nil => rfl
  | cons char front induction =>
    have here : pattern.isPrefixOf (char :: (front ++ behind)) = false := by
      rw [Bool.eq_false_iff, Ne, List.isPrefixOf_iff_prefix]
      exact nowhere [] (char :: front) rfl nofun
    have further := induction fun own rest split =>
      nowhere (char :: own) rest (congrArg (char :: ·) split)
    rw [Pieces.replace, List.cons_append, Pieces.replaceFrom, here]
    exact congrArg (char :: ·) further

/-- One replacement is made exactly where the placeholder stands. -/
theorem replace_shown (alone : StandsAlone environment parts done placeholder)
    (nonempty : placeholder.written ≠ []) {front back : List Part} (split : parts = front ++ back) :
    Pieces.replace placeholder.written (placeholder.meaning environment)
        (back.flatMap (Part.shown environment done)) =
      back.flatMap (Part.shown environment (done ++ [placeholder])) := by
  induction back generalizing front with
  | nil => rfl
  | cons part back induction =>
    have whole : parts = (front ++ [part]) ++ back := by simp [split]
    have further := induction whole
    simp only [List.flatMap_cons]
    by_cases here : part = .hole placeholder ∧ placeholder ∉ done
    · obtain ⟨rfl, fresh⟩ := here
      simp only [Part.shown, fresh, List.mem_append, List.mem_singleton, or_true, if_true, if_false]
      rw [replace_append_pattern nonempty, further]
    · have kept : part.shown environment (done ++ [placeholder]) = part.shown environment done := by
        cases part with
        | plain char => rfl
        | hole other =>
          have same : other ∈ done ++ [placeholder] ↔ other ∈ done := by
            rw [List.mem_append, List.mem_singleton, or_iff_left_iff_imp]
            rintro rfl
            exact Decidable.byContradiction fun fresh => here ⟨rfl, fresh⟩
          simp only [Part.shown, same]
      rw [replace_append_of_nowhere, further, kept]
      intro own rest shown goesOn begins
      exact here (eq_hole_of_begins alone nonempty split shown goesOn begins)

end StandsAlone

theorem resolve_of_resolves {environment : Environment} {placeholder : Placeholder}
    (resolves : environment placeholder.name ≠ none ∨ placeholder.default ≠ none) :
    placeholder.resolve environment = .ok (String.ofList (placeholder.meaning environment)) := by
  rw [resolve, meaning]
  cases set : environment placeholder.name with
  | some value => simp
  | none =>
    cases default : placeholder.default with
    | some default => simp
    | none => simp [set, default] at resolves

theorem replaceIn_of_resolves {environment : Environment} {placeholder : Placeholder}
    (resolves : environment placeholder.name ≠ none ∨ placeholder.default ≠ none)
    (text : List Char) :
    replaceIn environment text placeholder =
      .ok (Pieces.replace placeholder.written (placeholder.meaning environment) text) := by
  rw [replaceIn, resolve_of_resolves resolves]
  change Except.ok (Pieces.replace _ (String.ofList _).toList _) = _
  rw [String.toList_ofList]

end Placeholder

open Placeholder

/-- The value with each placeholder replaced where it stands. -/
def filled (environment : Environment) (value : String) : String :=
  String.ofList ((parts value).flatMap (Part.filled environment))

/-- Whether each placeholder, when its turn comes, stands only where the value has it. -/
def Undisturbed (environment : Environment) (value : String) : Prop :=
  ∀ done placeholder rest, findAll value = done ++ placeholder :: rest →
    StandsAlone environment (parts value) done placeholder

variable {environment : Environment} {value : String}

theorem mem_parts_of_mem_findAll {placeholder : Placeholder} :
    placeholder ∈ findAll value ↔ .hole placeholder ∈ parts value := by
  rw [findAll, ← filterMap_partsFrom, List.mem_filterMap, parts]
  constructor
  · rintro ⟨_ | other, member, same⟩ <;> cases same
    exact member
  · exact fun member => ⟨_, member, rfl⟩

theorem foldlM_replaceIn (resolves : ∀ placeholder ∈ findAll value,
      environment placeholder.name ≠ none ∨ placeholder.default ≠ none)
    (undisturbed : Undisturbed environment value) {done rest : List Placeholder}
    (split : findAll value = done ++ rest) :
    rest.foldlM (replaceIn environment)
        ((parts value).flatMap (Part.shown environment done)) =
      .ok ((parts value).flatMap (Part.shown environment (findAll value))) := by
  induction rest generalizing done with
  | nil =>
    rw [split, List.append_nil]
    rfl
  | cons placeholder rest induction =>
    have member : placeholder ∈ findAll value := by simp [split]
    have proper := proper_of_mem_partsFrom (mem_parts_of_mem_findAll.mp member)
    obtain ⟨behind, written⟩ := written_cons proper
    have replaced := replace_shown (undisturbed done placeholder rest split)
      (by simp [written]) (List.nil_append _).symm
    have whole : findAll value = (done ++ [placeholder]) ++ rest := by simp [split]
    rw [List.foldlM_cons, replaceIn_of_resolves (resolves placeholder member), replaced]
    exact induction whole

theorem foldlM_replaceIn_succeeds {placeholders : List Placeholder}
    (resolves : ∀ placeholder ∈ placeholders,
      environment placeholder.name ≠ none ∨ placeholder.default ≠ none) (text : List Char) :
    ∃ result, placeholders.foldlM (replaceIn environment) text = .ok result := by
  induction placeholders generalizing text with
  | nil => exact ⟨text, rfl⟩
  | cons placeholder placeholders induction =>
    have ⟨first, others⟩ := List.forall_mem_cons.mp resolves
    rw [List.foldlM_cons, replaceIn_of_resolves first]
    exact induction others _

theorem substitute_of_undisturbed (resolves : ∀ placeholder ∈ findAll value,
      environment placeholder.name ≠ none ∨ placeholder.default ≠ none)
    (undisturbed : Undisturbed environment value) :
    substitute environment value = .ok (filled environment value) := by
  have start : (parts value).flatMap (Part.shown environment []) = value.toList :=
    flatMap_written_partsFrom 0 value.toList
  have finish : (parts value).flatMap (Part.shown environment (findAll value)) =
      (parts value).flatMap (Part.filled environment) := by
    apply List.flatMap_congr
    rintro (char | placeholder) member
    · rfl
    · exact if_pos (mem_parts_of_mem_findAll.mpr member)
  have run := foldlM_replaceIn resolves undisturbed (List.nil_append _).symm
  rw [start, finish] at run
  rw [substitute, run]
  rfl

/-! ## Values that cannot be disturbed -/

theorem flatMap_eq_append_cons {parts : List Part} {shown : Part → List Char}
    {before after : List Char} {char : Char}
    (split : parts.flatMap shown = before ++ char :: after) :
    ∃ front part back own rest, parts = front ++ part :: back ∧
      shown part = own ++ char :: rest ∧ before = front.flatMap shown ++ own ∧
      after = rest ++ back.flatMap shown := by
  induction parts generalizing before with
  | nil => cases before <;> cases split
  | cons part parts induction =>
    rw [List.flatMap_cons] at split
    rcases List.append_eq_append_iff.mp split with ⟨own, rfl, others⟩ | ⟨own, here, others⟩
    · obtain ⟨front, first, back, part, rest, rfl, there, rfl, rfl⟩ := induction others
      refine ⟨_ :: front, first, back, part, rest, rfl, there, ?_, rfl⟩
      rw [List.flatMap_cons, List.append_assoc]
    · cases own with
      | nil =>
        -- The character is the first one behind this part.
        obtain ⟨front, first, back, own, rest, rfl, there, same, rfl⟩ := @induction [] others.symm
        refine ⟨part :: front, first, back, own, rest, rfl, there, ?_, rfl⟩
        rw [List.flatMap_cons, List.append_assoc, ← same, here, List.append_nil, List.append_nil]
      | cons head own =>
        obtain ⟨rfl, rfl⟩ := List.cons.inj others
        exact ⟨[], part, parts, before, own, rfl, here, rfl, rfl⟩

/-- Whether `$` stands in this part at most as the beginning of a placeholder. -/
def Opening (part : Part) : Prop :=
  ∀ own rest, part.written = own ++ '$' :: rest → own = [] ∧ ∃ placeholder, part = .hole placeholder

theorem opening_of_count {part : Part}
    (proper : ∀ placeholder, part = .hole placeholder → placeholder.Proper) :
    part.placeholder?.toList.length ≤ part.written.count '$' ∧
      (part.written.count '$' = part.placeholder?.toList.length → Opening part) := by
  cases part with
  | plain char =>
    refine ⟨Nat.zero_le _, fun none own rest split => ?_⟩
    have member : '$' ∈ (Part.plain char).written := by simp [split]
    exact absurd member (List.count_eq_zero.mp none)
  | hole placeholder =>
    obtain ⟨behind, written⟩ := written_cons (proper placeholder rfl)
    simp only [Part.written, written, List.count_cons_self, Part.placeholder?, Option.toList_some,
      List.length_singleton]
    refine ⟨by omega, fun one own rest split => ?_⟩
    have none : '$' ∉ behind := List.count_eq_zero.mp (by omega)
    rw [Part.written, written] at split
    cases own with
    | nil => exact ⟨rfl, placeholder, rfl⟩
    | cons first own =>
      obtain ⟨-, rfl⟩ := List.cons.inj split
      simp at none

/-- If a value has only as many `$` as placeholders, each of them begins one. -/
theorem opening_of_mem {parts : List Part}
    (proper : ∀ placeholder, .hole placeholder ∈ parts → placeholder.Proper) :
    (parts.filterMap Part.placeholder?).length ≤ (parts.flatMap Part.written).count '$' ∧
      ((parts.flatMap Part.written).count '$' = (parts.filterMap Part.placeholder?).length →
        ∀ part ∈ parts, Opening part) := by
  induction parts with
  | nil => exact ⟨Nat.le_refl 0, nofun⟩
  | cons part parts induction =>
    obtain ⟨least, only⟩ := opening_of_count fun placeholder same =>
      proper placeholder (same ▸ List.mem_cons_self)
    obtain ⟨leastBehind, onlyBehind⟩ := induction fun placeholder member =>
      proper placeholder (List.mem_cons_of_mem _ member)
    have length : ((part :: parts).filterMap Part.placeholder?).length =
        part.placeholder?.toList.length + (parts.filterMap Part.placeholder?).length := by
      cases part with
      | plain char => exact (Nat.zero_add _).symm
      | hole placeholder => exact Nat.add_comm ..
    rw [length, List.flatMap_cons, List.count_append]
    exact ⟨by omega,
      fun same => List.forall_mem_cons.mpr ⟨only (by omega), onlyBehind (by omega)⟩⟩

theorem proper_of_mem_findAll {placeholder : Placeholder} (member : placeholder ∈ findAll value) :
    placeholder.Proper :=
  proper_of_mem_partsFrom (mem_parts_of_mem_findAll.mp member)

/-- Placeholders do not get into each other's way if `$` stands only where they begin and none
is replaced by a text with `$`. -/
theorem undisturbed_of_count
    (opening : value.toList.count '$' = (findAll value).length)
    (plain : ∀ placeholder ∈ findAll value, '$' ∉ placeholder.meaning environment) :
    Undisturbed environment value := by
  intro done placeholder rest split before after reads
  have opens : ∀ part ∈ parts value, Opening part := by
    have text : (parts value).flatMap Part.written = value.toList :=
      flatMap_written_partsFrom 0 value.toList
    have holes : (parts value).filterMap Part.placeholder? = findAll value :=
      filterMap_partsFrom 0 value.toList
    rw [← text, ← holes] at opening
    exact (opening_of_mem fun _ => proper_of_mem_partsFrom).2 opening
  have member : placeholder ∈ findAll value := by simp [split]
  have proper := proper_of_mem_findAll member
  obtain ⟨behind, written⟩ := written_cons proper
  have begins : (parts value).flatMap (Part.shown environment done) =
      before ++ '$' :: (behind ++ after) := by simpa [written] using reads
  obtain ⟨front, part, back, own, shownRest, whole, shown, rfl, others⟩ :=
    flatMap_eq_append_cons begins
  have partMember : part ∈ parts value := by simp [whole]
  -- The text can begin only in a part that is shown as it is written.
  have asWritten : part.written = own ++ '$' :: shownRest ∧
      ∀ other, part = .hole other → other ∉ done := by
    cases part with
    | plain char => exact ⟨shown, nofun⟩
    | hole other =>
      by_cases replaced : other ∈ done
      · rw [Part.shown, if_pos replaced] at shown
        have dollar : '$' ∈ other.meaning environment := by simp [shown]
        exact absurd dollar (plain other (mem_parts_of_mem_findAll.mpr partMember))
      · rw [Part.shown, if_neg replaced] at shown
        exact ⟨shown, fun _ same => by cases same; exact replaced⟩
  obtain ⟨rfl, other, rfl⟩ := opens part partMember own shownRest asWritten.1
  have fresh := asWritten.2 other rfl
  have sameFront : other.written ++ back.flatMap (Part.shown environment done) =
      placeholder.written ++ after := by
    have otherWritten : other.written = '$' :: shownRest := asWritten.1
    rw [otherWritten, written, List.cons_append, List.cons_append, others]
  have same : other = placeholder := by
    have one := atFront?_of_proper (proper_of_mem_findAll (mem_parts_of_mem_findAll.mpr partMember))
      (back.flatMap (Part.shown environment done))
    rw [sameFront, atFront?_of_proper proper] at one
    exact (Option.some.inj one).symm
  subst same
  exact ⟨fresh, front, back, whole, (List.append_nil _).symm⟩

/-- Substitution succeeds if each placeholder stands for something, and replaces each where it
stands unless the text of one turns up elsewhere in between. That cannot happen while every `$`
begins a placeholder and none comes in. -/
theorem substitute_eq_filled (resolves : ∀ placeholder ∈ findAll value,
      environment placeholder.name ≠ none ∨ placeholder.default ≠ none) :
    (∃ result, substitute environment value = .ok result) ∧
      (Undisturbed environment value →
        substitute environment value = .ok (filled environment value)) ∧
      (value.toList.count '$' = (findAll value).length →
        (∀ placeholder ∈ findAll value, '$' ∉ placeholder.meaning environment) →
        substitute environment value = .ok (filled environment value)) := by
  refine ⟨?_, substitute_of_undisturbed resolves, fun opening plain =>
    substitute_of_undisturbed resolves (undisturbed_of_count opening plain)⟩
  obtain ⟨text, run⟩ := foldlM_replaceIn_succeeds resolves value.toList
  exact ⟨String.ofList text, by rw [substitute, run]; rfl⟩

/-- A value whose second placeholder keeps its default, because its variable is not set. -/
theorem substitute_eq_filled_home :
    let environment := Environment.ofList [("HOME", "/root")]
    let value := "$\x7bHOME\x7d/$\x7bOUT:-build\x7d/x.kt"
    (∀ placeholder ∈ findAll value,
        environment placeholder.name ≠ none ∨ placeholder.default ≠ none) ∧
      value.toList.count '$' = (findAll value).length ∧
      (∀ placeholder ∈ findAll value, '$' ∉ placeholder.meaning environment) ∧
      substitute environment value = .ok "/root/build/x.kt" := by
  have resolves : ∀ placeholder ∈ findAll "$\x7bHOME\x7d/$\x7bOUT:-build\x7d/x.kt",
      Environment.ofList [("HOME", "/root")] placeholder.name ≠ none ∨
        placeholder.default ≠ none := by decide +kernel
  have opening : "$\x7bHOME\x7d/$\x7bOUT:-build\x7d/x.kt".toList.count '$' =
      (findAll "$\x7bHOME\x7d/$\x7bOUT:-build\x7d/x.kt").length := by decide +kernel
  have plain : ∀ placeholder ∈ findAll "$\x7bHOME\x7d/$\x7bOUT:-build\x7d/x.kt",
      '$' ∉ placeholder.meaning (Environment.ofList [("HOME", "/root")]) := by decide +kernel
  have reads : filled (Environment.ofList [("HOME", "/root")])
      "$\x7bHOME\x7d/$\x7bOUT:-build\x7d/x.kt" = "/root/build/x.kt" := by decide +kernel
  have filledIn := (substitute_eq_filled resolves).2.2 opening plain
  exact ⟨resolves, opening, plain, filledIn.trans (congrArg Except.ok reads)⟩

/-- A placeholder stands at the beginning of the other one's default. When it is replaced, the
other one is no longer found. -/
theorem substitute_ne_filled :
    let environment := Environment.ofList [("A", "a"), ("B", "b")]
    let value := "$\x7bA\x7d/$\x7bB:-$\x7bA\x7d\x7d"
    (∀ placeholder ∈ findAll value,
        environment placeholder.name ≠ none ∨ placeholder.default ≠ none) ∧
      filled environment value = "a/b\x7d" ∧
      substitute environment value = .ok "a/$\x7bB:-a\x7d" := by
  decide +kernel

end TypeTokenWrappers.Config
