import Mathlib.Algebra.Group.Nat.Defs
import Mathlib.Data.List.Forall2
import Mathlib.Data.List.Induction
import TypeTokenWrappers.ClassFile.Layout

/-! # Readers that follow a layout

A layout tells which bytes spell which values. A reader follows it if it succeeds
on just the bytes that the layout allows, whatever stands behind them, and stops
where they end. Each reader gets one law of this kind, and the law of a sequence
of readers is made of theirs. -/

namespace TypeTokenWrappers.ClassFile

abbrev Layout (α : Type) := List UInt8 → α → Prop

namespace Layout

/-- Nothing is read, and the value is this one. -/
def nothing (value : α) : Layout α := fun bytes found => bytes = [] ∧ found = value

/-- The bytes of a value. -/
def spelled (bytesOf : α → List UInt8) : Layout α := fun bytes value => bytes = bytesOf value

/-- One layout behind another one, which decides about it. -/
def andThen (first : Layout α) (second : α → Layout β) : Layout β := fun bytes value =>
  ∃ middle front back, first front middle ∧ second middle back value ∧ bytes = front ++ back

/-- The bytes of raw parts that fit and mean the value. -/
def formed (Fits : ρ → Prop) (bytesOf : ρ → List UInt8) (meaning? : ρ → Option α) : Layout α :=
  fun bytes value => ∃ raw, Fits raw ∧ meaning? raw = some value ∧ bytes = bytesOf raw

end Layout

/-- All raw parts have a meaning if and only if there are as many values, each the
meaning of its part. -/
theorem mapM_eq_some_iff {meaning? : ρ → Option α} {raws : List ρ} {values : List α} :
    raws.mapM meaning? = some values ↔
      List.Forall₂ (fun raw value => meaning? raw = some value) raws values := by
  induction raws generalizing values with
  | nil => simp [eq_comm]
  | cons raw raws induction =>
      rw [List.mapM_cons, List.forall₂_cons_left_iff]
      simp only [Option.bind_eq_bind, Option.bind_eq_some_iff, Option.pure_def,
        Option.some.injEq, induction]
      simp only [eq_comm, exists_and_left]

namespace ByteReader

def Follows (reader : ByteReader α) (layout : Layout α) : Prop :=
  ∀ cursor value next, reader cursor = .ok (value, next) ↔
    ∃ bytes, layout bytes value ∧ cursor.rest = bytes ++ next.rest ∧
      next.offset = cursor.offset + bytes.length

theorem bind_eq_ok_iff {reader : ByteReader α} {following : α → ByteReader β}
    {cursor next : Cursor} {value : β} :
    (reader >>= following) cursor = .ok (value, next) ↔ ∃ middle between,
      reader cursor = .ok (middle, between) ∧
        following middle between = .ok (value, next) := by
  change (reader cursor >>= fun result => following result.1 result.2) = _ ↔ _
  cases reader cursor with
  | error error => simp [bind, Except.bind]
  | ok result => simp [bind, Except.bind, Prod.ext_iff]

theorem bind_of_ok {reader : ByteReader α} {following : α → ByteReader β} {cursor next : Cursor}
    {value : α} (read : reader cursor = .ok (value, next)) :
    (reader >>= following) cursor = following value next := by
  change (reader cursor >>= fun result => following result.1 result.2) = _
  rw [read]
  rfl

theorem bind_of_error {reader : ByteReader α} {following : α → ByteReader β} {cursor : Cursor}
    {error : ClassFormatError} (fails : reader cursor = .error error) :
    (reader >>= following) cursor = .error error := by
  change (reader cursor >>= fun result => following result.1 result.2) = _
  rw [fails]
  rfl

namespace Follows

variable {reader : ByteReader α} {layout : Layout α}

theorem congr {other : Layout α} (follows : reader.Follows layout)
    (same : ∀ bytes value, layout bytes value ↔ other bytes value) :
    reader.Follows other := by
  intro cursor value next
  rw [follows cursor value next]
  exact exists_congr fun bytes => and_congr_left' (same bytes value)

theorem pure (value : α) : Follows (Pure.pure value) (.nothing value) := by
  intro cursor found next
  change Except.ok (value, cursor) = _ ↔ _
  constructor
  · intro equal
    cases equal
    exact ⟨[], ⟨rfl, rfl⟩, rfl, rfl⟩
  · rintro ⟨_, ⟨rfl, rfl⟩, rest, offset⟩
    cases cursor
    cases next
    simp_all

theorem fail (fault : Fault) : Follows (ByteReader.fail fault : ByteReader α) fun _ _ => False := by
  intro cursor value next
  simp [ByteReader.fail]

theorem failAt (fault : Fault) (offset : Nat) :
    Follows (ByteReader.failAt fault offset : ByteReader α) fun _ _ => False := by
  intro cursor value next
  simp [ByteReader.failAt]

theorem bind {following : α → ByteReader β} {second : α → Layout β}
    (follows : reader.Follows layout)
    (continues : ∀ value, (following value).Follows (second value)) :
    Follows (reader >>= following) (layout.andThen second) := by
  intro cursor value next
  rw [bind_eq_ok_iff]
  constructor
  · rintro ⟨middle, between, first, rest⟩
    rcases (follows cursor middle between).mp first with ⟨front, inFront, split, passed⟩
    rcases (continues middle between value next).mp rest with ⟨back, behind, tail, ended⟩
    refine ⟨front ++ back, ⟨middle, front, back, inFront, behind, rfl⟩, ?_, ?_⟩
    · rw [split, tail, List.append_assoc]
    · rw [ended, passed, List.length_append, Nat.add_assoc]
  · rintro ⟨_, ⟨middle, front, back, inFront, behind, rfl⟩, split, ended⟩
    refine ⟨middle, ⟨back ++ next.rest, cursor.offset + front.length⟩, ?_, ?_⟩
    · apply (follows _ _ _).mpr
      exact ⟨front, inFront, by rw [split, List.append_assoc], rfl⟩
    · apply (continues middle _ _ _).mpr
      exact ⟨back, behind, rfl, by rw [ended, List.length_append, Nat.add_assoc]⟩

/-- The offset is not part of what a layout allows. -/
theorem withOffset {following : Nat → ByteReader β} {layout : Layout β}
    (continues : ∀ offset, (following offset).Follows layout) :
    Follows (ByteReader.offset >>= following) layout := by
  intro cursor value next
  exact continues cursor.offset cursor value next

/-- A reader reads the bytes that its layout allows, whatever stands behind them. -/
theorem read (follows : reader.Follows layout) {bytes : List UInt8} {value : α}
    (allowed : layout bytes value) (rest : List UInt8) (offset : Nat) :
    reader ⟨bytes ++ rest, offset⟩ = .ok (value, ⟨rest, offset + bytes.length⟩) :=
  (follows _ _ _).mpr ⟨bytes, allowed, rfl, rfl⟩

end Follows

/-! ## Numbers -/

theorem bigEndian_append (bytes : List UInt8) (byte : UInt8) :
    bigEndian (bytes ++ [byte]) = bigEndian bytes * 256 + byte.toNat := by
  rw [bigEndian, List.foldl_append]
  rfl

theorem bigEndian_lt (bytes : List UInt8) : bigEndian bytes < 256 ^ bytes.length := by
  induction bytes using List.reverseRecOn with
  | nil => exact Nat.one_pos
  | append_singleton bytes byte induction =>
      have small := byte.toNat_lt
      rw [bigEndian_append, List.length_append, List.length_singleton, Nat.pow_succ]
      omega

end ByteReader

open ByteReader

@[simp] theorem length_bytesOfNumber (count value : Nat) :
    (bytesOfNumber count value).length = count := by
  induction count generalizing value with
  | zero => rfl
  | succ count induction =>
      rw [bytesOfNumber, List.length_append, induction, List.length_singleton]

theorem bytesOfNumber_bigEndian (bytes : List UInt8) :
    bytesOfNumber bytes.length (bigEndian bytes) = bytes := by
  induction bytes using List.reverseRecOn with
  | nil => rfl
  | append_singleton bytes byte induction =>
      have small : byte.toNat < 256 := byte.toNat_lt
      have high : (bigEndian bytes * 256 + byte.toNat) / 256 = bigEndian bytes := by omega
      have low : (bigEndian bytes * 256 + byte.toNat) % 256 = byte.toNat := by omega
      rw [bigEndian_append, List.length_append, List.length_singleton, bytesOfNumber, high,
        low, induction, UInt8.ofNat_toNat]

theorem bigEndian_bytesOfNumber {count value : Nat} (small : value < 256 ^ count) :
    bigEndian (bytesOfNumber count value) = value := by
  induction count generalizing value with
  | zero =>
      have zero : value = 0 := by omega
      rw [zero]
      rfl
  | succ count induction =>
      rw [Nat.pow_succ] at small
      have low : (UInt8.ofNat (value % 256)).toNat = value % 256 :=
        UInt8.toNat_ofNat_of_lt' (Nat.mod_lt value (by decide))
      rw [bytesOfNumber, bigEndian_append, induction (by omega), low]
      omega

/-- Bytes spell a number if and only if they are as many as its width and it is
the number they give. -/
theorem eq_bytesOfNumber_iff {count value : Nat} {bytes : List UInt8}
    (small : value < 256 ^ count) :
    bytes = bytesOfNumber count value ↔ bytes.length = count ∧ bigEndian bytes = value := by
  constructor
  · rintro rfl
    exact ⟨length_bytesOfNumber count value, bigEndian_bytesOfNumber small⟩
  · rintro ⟨rfl, rfl⟩
    exact (bytesOfNumber_bigEndian bytes).symm

@[simp] theorem length_bytesOfIndex (index : UInt16) : (bytesOfIndex index).length = 2 :=
  length_bytesOfNumber 2 index.toNat

theorem eq_bytesOfIndex_iff {bytes : List UInt8} {index : UInt16} :
    bytes = bytesOfIndex index ↔
      bytes.length = 2 ∧ UInt16.ofNat (bigEndian bytes) = index := by
  rw [bytesOfIndex, eq_bytesOfNumber_iff index.toNat_lt]
  refine and_congr_right fun two => ?_
  have small : bigEndian bytes < UInt16.size := by
    have bound := bigEndian_lt bytes
    rwa [two] at bound
  constructor
  · intro number
    rw [number, UInt16.ofNat_toNat]
  · rintro rfl
    exact (UInt16.toNat_ofNat_of_lt' small).symm

namespace ByteReader

/-! ## Single reads -/

theorem follows_take (count : Nat) :
    Follows (take count) fun bytes value => bytes = value ∧ value.length = count := by
  intro cursor value next
  rw [take]
  split
  case isTrue enough =>
    constructor
    · intro equal
      cases equal
      refine ⟨_, ⟨rfl, enough⟩, (List.take_append_drop count cursor.rest).symm, ?_⟩
      rw [enough]
    · rintro ⟨bytes, ⟨rfl, rfl⟩, split, ended⟩
      cases next
      simp_all
  case isFalse short =>
    constructor
    · intro impossible
      cases impossible
    · rintro ⟨bytes, ⟨rfl, rfl⟩, split, _⟩
      rw [split] at short
      simp at short

theorem follows_skip (count : Nat) :
    Follows (skip count) fun bytes _ => bytes.length = count := by
  refine ((follows_take count).bind fun _ => .pure ()).congr ?_
  intro bytes value
  simp [Layout.andThen, Layout.nothing]

/-- A number of fixed width is read as the bytes that spell it. -/
theorem follows_number {count : Nat} {ofNat : Nat → α} {toNat : α → Nat}
    (ofNat_toNat : ∀ value, ofNat (toNat value) = value)
    (toNat_ofNat : ∀ number < 256 ^ count, toNat (ofNat number) = number)
    (toNat_lt : ∀ value, toNat value < 256 ^ count) :
    Follows (do return ofNat (bigEndian (← take count)))
      (.spelled fun value => bytesOfNumber count (toNat value)) := by
  refine ((follows_take count).bind fun _ => .pure _).congr ?_
  intro bytes value
  rw [Layout.spelled, eq_bytesOfNumber_iff (toNat_lt value)]
  constructor
  · rintro ⟨_, front, _, ⟨rfl, rfl⟩, ⟨rfl, rfl⟩, rfl⟩
    rw [List.append_nil, toNat_ofNat _ (bigEndian_lt front)]
    exact ⟨rfl, rfl⟩
  · rintro ⟨rfl, number⟩
    refine ⟨bytes, bytes, [], ⟨rfl, rfl⟩, ⟨rfl, ?_⟩, (List.append_nil bytes).symm⟩
    rw [number, ofNat_toNat]

theorem follows_u1 : Follows u1 (.spelled fun value => [value]) := by
  refine (follows_number (fun _ => UInt8.ofNat_toNat)
    (fun _ small => UInt8.toNat_ofNat_of_lt' small) UInt8.toNat_lt).congr ?_
  intro bytes value
  have low : value.toNat % 256 = value.toNat := Nat.mod_eq_of_lt value.toNat_lt
  rw [Layout.spelled, Layout.spelled, bytesOfNumber, bytesOfNumber, low, UInt8.ofNat_toNat]
  rfl

theorem follows_u2 : Follows u2 (.spelled bytesOfIndex) :=
  follows_number (fun _ => UInt16.ofNat_toNat)
    (fun _ small => UInt16.toNat_ofNat_of_lt' small) UInt16.toNat_lt

theorem follows_u4 : Follows u4 (.spelled fun value => bytesOfNumber 4 value.toNat) :=
  follows_number (fun _ => UInt32.ofNat_toNat)
    (fun _ small => UInt32.toNat_ofNat_of_lt' small) UInt32.toNat_lt

/-! ## Tables -/

theorem Follows.times {item : ByteReader α} {Fits : ρ → Prop} {bytesOf : ρ → List UInt8}
    {meaning? : ρ → Option α} (follows : item.Follows (.formed Fits bytesOf meaning?))
    (count : Nat) :
    Follows (ByteReader.times count item) (.formed
      (fun raws => raws.length = count ∧ ∀ raw ∈ raws, Fits raw)
      (List.flatMap bytesOf) (List.mapM meaning?)) := by
  induction count with
  | zero =>
      refine (Follows.pure []).congr ?_
      intro bytes values
      simp [Layout.nothing, Layout.formed, and_comm, eq_comm]
  | succ count induction =>
      refine (follows.bind fun first => induction.bind fun others =>
        .pure (first :: others)).congr ?_
      intro bytes values
      constructor
      · rintro ⟨first, _, _, ⟨raw, fits, meaning, rfl⟩, ⟨others, _, _,
          ⟨raws, ⟨length, allFit⟩, meanings, rfl⟩, ⟨rfl, rfl⟩, rfl⟩, rfl⟩
        rw [mapM_eq_some_iff] at meanings
        refine ⟨raw :: raws, ⟨?_, ?_⟩, ?_, ?_⟩
        · rw [List.length_cons, length]
        · exact List.forall_mem_cons.mpr ⟨fits, allFit⟩
        · exact mapM_eq_some_iff.mpr (.cons meaning meanings)
        · rw [List.flatMap_cons, List.append_nil]
      · rintro ⟨raws, ⟨length, allFit⟩, meanings, rfl⟩
        rw [mapM_eq_some_iff] at meanings
        cases meanings with
        | nil => cases length
        | @cons raw first raws others meaning meanings =>
            have fits := List.forall_mem_cons.mp allFit
            refine ⟨first, _, _, ⟨raw, fits.1, meaning, rfl⟩, ⟨others, _, _,
              ⟨raws, ⟨Nat.succ.inj length, fits.2⟩, mapM_eq_some_iff.mpr meanings, rfl⟩,
              ⟨rfl, rfl⟩, rfl⟩, ?_⟩
            rw [List.flatMap_cons, List.append_nil]

theorem Follows.table {item : ByteReader α} {Fits : ρ → Prop} {bytesOf : ρ → List UInt8}
    {meaning? : ρ → Option α} (follows : item.Follows (.formed Fits bytesOf meaning?)) :
    Follows (ByteReader.table item) (.formed
      (fun raws => raws.length < 0x10000 ∧ ∀ raw ∈ raws, Fits raw)
      (bytesOfTable bytesOf) (List.mapM meaning?)) := by
  refine (follows_u2.bind fun count => follows.times count.toNat).congr ?_
  intro bytes value
  constructor
  · rintro ⟨count, _, _, rfl, ⟨raws, ⟨length, allFit⟩, meanings, rfl⟩, rfl⟩
    refine ⟨raws, ⟨?_, allFit⟩, meanings, ?_⟩
    · rw [length]
      exact count.toNat_lt
    · rw [bytesOfTable, length]
      rfl
  · rintro ⟨raws, ⟨bound, allFit⟩, meanings, rfl⟩
    have length : (UInt16.ofNat raws.length).toNat = raws.length :=
      UInt16.toNat_ofNat_of_lt' bound
    refine ⟨UInt16.ofNat raws.length, _, _, rfl, ⟨raws, ⟨length.symm, allFit⟩, meanings, rfl⟩, ?_⟩
    rw [bytesOfTable, bytesOfIndex, length]

end ByteReader

end TypeTokenWrappers.ClassFile
