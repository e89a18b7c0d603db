import TypeTokenWrappers.Proofs.ClassFile.AddedText

/-! # Class files that are cut off

No reader looks behind the bytes that it takes. So a class file ends with its last part,
whatever stands behind it, and one that is cut off before fails in a single way: it runs
out of bytes. -/

namespace TypeTokenWrappers.ClassFile

namespace Cursor

variable {cursor : Cursor} {more : List UInt8}

/-- The offset at which the bytes end. -/
def finish (cursor : Cursor) : Nat :=
  cursor.offset + cursor.rest.length

/-- The same place, with more bytes at the end. -/
def followedBy (cursor : Cursor) (more : List UInt8) : Cursor :=
  ⟨cursor.rest ++ more, cursor.offset⟩

theorem rest_followedBy : (cursor.followedBy more).rest = cursor.rest ++ more := rfl

theorem offset_le_finish (cursor : Cursor) : cursor.offset ≤ cursor.finish :=
  Nat.le_add_right _ _

end Cursor

namespace ByteReader

/-- Whether a reader goes by the bytes in front of it alone, where these end at `finish`.
What it reads it reads with more bytes behind as well, and so it fails, unless it fails for
want of bytes. It stays within the bytes, also when it tells where it fails. -/
structure Steady (finish : Nat) (reader : ByteReader α) : Prop where
  reads : ∀ cursor value next, cursor.finish = finish → reader cursor = .ok (value, next) →
    next.finish = finish ∧
      ∀ more, reader (cursor.followedBy more) = .ok (value, next.followedBy more)
  fails : ∀ cursor error, cursor.finish = finish → reader cursor = .error error →
    error.offset ≤ finish ∧ (error.fault = .unexpectedEnd ∨
      ∀ more, reader (cursor.followedBy more) = .error error)

variable {finish : Nat} {reader : ByteReader α}

theorem steady_pure (value : α) : Steady finish (pure value : ByteReader α) := by
  constructor
  · intro cursor found next ends read
    cases read
    exact ⟨ends, fun more => rfl⟩
  · intro cursor error ends failed
    cases failed

theorem steady_fail (fault : Fault) : Steady finish (fail fault : ByteReader α) := by
  constructor
  · intro cursor value next ends read
    cases read
  · intro cursor error ends failed
    cases failed
    exact ⟨ends ▸ cursor.offset_le_finish, .inr fun more => rfl⟩

theorem steady_failAt (fault : Fault) {offset : Nat} (within : offset ≤ finish) :
    Steady finish (failAt fault offset : ByteReader α) := by
  constructor
  · intro cursor value next ends read
    cases read
  · intro cursor error ends failed
    cases failed
    exact ⟨within, .inr fun more => rfl⟩

theorem steady_take (count : Nat) : Steady finish (take count) := by
  constructor
  · intro cursor value next ends read
    rcases (follows_take count cursor value next).mp read with ⟨bytes, ⟨rfl, rfl⟩, split, passed⟩
    constructor
    · rw [← ends, Cursor.finish, Cursor.finish, split, passed, List.length_append, Nat.add_assoc]
    · intro more
      apply (follows_take _ _ _ _).mpr
      refine ⟨bytes, ⟨rfl, rfl⟩, ?_, passed⟩
      rw [Cursor.rest_followedBy, split, List.append_assoc]
      rfl
  · intro cursor error ends failed
    rw [take] at failed
    split at failed
    · cases failed
    · cases failed
      exact ⟨ends ▸ cursor.offset_le_finish, .inl rfl⟩

theorem bind_eq_error_iff {following : α → ByteReader β} {cursor : Cursor}
    {error : ClassFormatError} :
    (reader >>= following) cursor = .error error ↔ reader cursor = .error error ∨
      ∃ middle between, reader cursor = .ok (middle, between) ∧
        following middle between = .error error := by
  change (reader cursor >>= fun result => following result.1 result.2) = _ ↔ _
  cases reader cursor with
  | error other => simp [bind, Except.bind]
  | ok result => simp [bind, Except.bind, Prod.ext_iff]

theorem Steady.bind {following : α → ByteReader β} (first : reader.Steady finish)
    (second : ∀ value, (following value).Steady finish) : Steady finish (reader >>= following) := by
  constructor
  · intro cursor value next ends read
    rcases bind_eq_ok_iff.mp read with ⟨middle, between, readFirst, readSecond⟩
    rcases first.reads cursor middle between ends readFirst with ⟨ends, steady⟩
    rcases (second middle).reads between value next ends readSecond with ⟨ends, steadySecond⟩
    refine ⟨ends, fun more => ?_⟩
    rw [bind_of_ok (steady more), steadySecond more]
  · intro cursor error ends failed
    rcases bind_eq_error_iff.mp failed with failed | ⟨middle, between, readFirst, failed⟩
    · rcases first.fails cursor error ends failed with ⟨within, steady⟩
      exact ⟨within, steady.imp_right fun steady more => bind_of_error (steady more)⟩
    · rcases first.reads cursor middle between ends readFirst with ⟨ends, steady⟩
      rcases (second middle).fails between error ends failed with ⟨within, steadySecond⟩
      refine ⟨within, steadySecond.imp_right fun steadySecond more => ?_⟩
      rw [bind_of_ok (steady more), steadySecond more]

/-- An offset lies within the bytes when it is taken down. -/
theorem steady_withOffset {following : Nat → ByteReader α}
    (continues : ∀ offset ≤ finish, (following offset).Steady finish) :
    Steady finish (offset >>= following) := by
  constructor
  · intro cursor value next ends read
    exact (continues _ (ends ▸ cursor.offset_le_finish)).reads cursor value next ends read
  · intro cursor error ends failed
    exact (continues _ (ends ▸ cursor.offset_le_finish)).fails cursor error ends failed

theorem Steady.times (steady : reader.Steady finish) (count : Nat) :
    Steady finish (ByteReader.times count reader) := by
  induction count with
  | zero => exact steady_pure []
  | succ count induction =>
      apply steady.bind
      intro first
      exact induction.bind fun others => steady_pure _

theorem steady_skip (count : Nat) : Steady finish (skip count) :=
  (steady_take count).bind fun _ => steady_pure ()

theorem steady_u1 : Steady finish u1 :=
  (steady_take 1).bind fun _ => steady_pure _

theorem steady_u2 : Steady finish u2 :=
  (steady_take 2).bind fun _ => steady_pure _

theorem steady_u4 : Steady finish u4 :=
  (steady_take 4).bind fun _ => steady_pure _

theorem Steady.table (steady : reader.Steady finish) : Steady finish (ByteReader.table reader) :=
  steady_u2.bind fun count => steady.times count.toNat

end ByteReader

open ByteReader

/-! ## The parts of a class -/

variable {finish : Nat} {pool : ConstantPool}

theorem steady_readConstant : Steady finish readConstant := by
  apply steady_withOffset
  intro start within
  apply steady_u1.bind
  intro tag
  split
  case h_1 => exact steady_failAt _ within
  case h_2 =>
    apply steady_u2.bind
    intro length
    apply (steady_take length.toNat).bind
    intro bytes
    split
    · exact steady_failAt _ within
    · exact steady_pure _
  case h_3 => exact steady_u2.bind fun _ => steady_pure _
  case h_4 => exact (steady_skip _).bind fun _ => steady_pure _
  case h_5 => exact (steady_skip 8).bind fun _ => steady_pure _

theorem steady_readConstants (second : Bool) (remaining : Nat) :
    Steady finish (readConstants second remaining) := by
  induction remaining generalizing second with
  | zero => exact steady_pure []
  | succ remaining induction =>
      rw [readConstants]
      split
      · exact (induction false).bind fun _ => steady_pure _
      · apply steady_readConstant.bind
        intro read
        exact (induction read.2).bind fun _ => steady_pure _

theorem steady_readConstantPool : Steady finish readConstantPool :=
  steady_u2.bind fun _ => (steady_readConstants false _).bind fun _ => steady_pure _

theorem ConstantPool.steady_text (index : UInt16) : Steady finish (pool.text index) := by
  rw [ConstantPool.text]
  split
  · exact steady_pure _
  · exact steady_fail _

theorem ConstantPool.steady_className (index : UInt16) : Steady finish (pool.className index) := by
  rw [ConstantPool.className]
  split
  · exact ConstantPool.steady_text _
  · exact steady_fail _

theorem steady_readText : Steady finish (readText pool) :=
  steady_u2.bind ConstantPool.steady_text

theorem steady_readClassName : Steady finish (readClassName pool) :=
  steady_u2.bind ConstantPool.steady_className

theorem steady_readSuperName : Steady finish (readSuperName pool) := by
  apply steady_u2.bind
  intro index
  split
  · exact steady_pure none
  · exact (ConstantPool.steady_className index).bind fun _ => steady_pure _

theorem steady_skipAttribute : Steady finish skipAttribute :=
  (steady_skip 2).bind fun _ => steady_u4.bind fun length => steady_skip length.toNat

theorem steady_readAttribute : Steady finish (readAttribute pool) := by
  apply steady_u2.bind
  intro nameIndex
  apply (ConstantPool.steady_text nameIndex).bind
  intro name
  apply steady_u4.bind
  intro length
  split
  · exact steady_u2.bind fun index => (ConstantPool.steady_text index).bind fun _ => steady_pure _
  · exact (steady_skip length.toNat).bind fun _ => steady_pure none

theorem steady_readSignature : Steady finish (readSignature pool) :=
  steady_readAttribute.table.bind fun _ => steady_pure _

theorem steady_skipField : Steady finish skipField :=
  (steady_skip 6).bind fun _ => steady_skipAttribute.table.bind fun _ => steady_pure ()

theorem steady_readMethod : Steady finish (readMethod pool) :=
  steady_u2.bind fun _ => steady_readText.bind fun _ => steady_readText.bind fun _ =>
    steady_readSignature.bind fun _ => steady_pure _

theorem steady_readMagic : Steady finish readMagic := by
  apply steady_u4.bind
  intro found
  split
  · exact steady_pure ()
  · exact steady_failAt _ (Nat.zero_le finish)

theorem steady_readClass : Steady finish readClass :=
  steady_readMagic.bind fun _ => steady_u2.bind fun _ => steady_u2.bind fun _ =>
    steady_readConstantPool.bind fun _ => steady_u2.bind fun _ => steady_readClassName.bind fun _ =>
    steady_readSuperName.bind fun _ => steady_readClassName.table.bind fun _ =>
    steady_skipField.table.bind fun _ => steady_readMethod.table.bind fun _ =>
    steady_readSignature.bind fun _ => steady_pure _

/-! ## Whole files -/

theorem ofBytes_eq_error_iff {bytes : List UInt8} {error : ClassFormatError} :
    CompiledClass.ofBytes bytes = .error error ↔ readClass ⟨bytes, 0⟩ = .error error := by
  change Except.map Prod.fst (readClass ⟨bytes, 0⟩) = _ ↔ _
  cases readClass ⟨bytes, 0⟩ <;> simp [Except.map]

theorem finish_start (bytes : List UInt8) : Cursor.finish ⟨bytes, 0⟩ = bytes.length :=
  Nat.zero_add bytes.length

/-- A fault other than a want of bytes stays whatever is put behind the bytes. -/
theorem fails_of_ofBytes_error {bytes : List UInt8} {error : ClassFormatError}
    (refused : CompiledClass.ofBytes bytes = .error error) :
    error.offset ≤ bytes.length ∧ (error.fault = .unexpectedEnd ∨
      ∀ more, CompiledClass.ofBytes (bytes ++ more) = .error error) := by
  have failed := ofBytes_eq_error_iff.mp refused
  rcases steady_readClass.fails _ error (finish_start bytes) failed with ⟨within, steady⟩
  exact ⟨within, steady.imp_right fun steady more => ofBytes_eq_error_iff.mpr (steady more)⟩

/-- No class file is the beginning of another one. -/
theorem length_le_of_ofBytes_take {raw : RawClass} (fits : raw.Fits) {cut : Nat}
    {compiled : CompiledClass}
    (accepted : CompiledClass.ofBytes (raw.bytes.take cut) = .ok compiled) :
    raw.bytes.length ≤ cut := by
  rcases ofBytes_eq_ok_iff.mp accepted with ⟨other, behind, otherFits, meaning, split⟩
  have whole : raw.bytes ++ [] = other.bytes ++ (behind ++ raw.bytes.drop cut) := by
    rw [List.append_nil, ← List.append_assoc, ← split, List.take_append_drop]
  have same : raw = other := (unambiguous_class fits otherFits whole).1
  have longer := congrArg List.length split
  rw [← same, List.length_take, List.length_append] at longer
  omega

/-- The bytes of a class file that is read end somewhere, so that nothing behind this place
matters and every cut in front of it is told as an unexpected end, not behind the cut. In a
file that is refused for any reason, the place that is told lies within the file. -/
theorem ofBytes_delimited (bytes : List UInt8) :
    (∀ compiled, CompiledClass.ofBytes bytes = .ok compiled →
      ∃ length ≤ bytes.length,
        (∀ rest, CompiledClass.ofBytes (bytes.take length ++ rest) = .ok compiled) ∧
        ∀ cut < length, ∃ error, CompiledClass.ofBytes (bytes.take cut) = .error error ∧
          error.fault.message = "unexpected end of class file" ∧ error.offset ≤ cut) ∧
    ∀ error, CompiledClass.ofBytes bytes = .error error → error.offset ≤ bytes.length := by
  refine ⟨?_, fun error refused => (fails_of_ofBytes_error refused).1⟩
  intro compiled accepted
  rcases ofBytes_eq_ok_iff.mp accepted with ⟨raw, trailing, fits, meaning, rfl⟩
  have reads (rest : List UInt8) : CompiledClass.ofBytes (raw.bytes ++ rest) = .ok compiled :=
    ofBytes_eq_ok_iff.mpr ⟨raw, rest, fits, meaning, rfl⟩
  refine ⟨raw.bytes.length, ?_, ?_, ?_⟩
  · rw [List.length_append]
    exact Nat.le_add_right _ _
  · rw [List.take_left]
    exact reads
  · intro cut before
    rw [List.take_append_of_le_length before.le]
    cases refused : CompiledClass.ofBytes (raw.bytes.take cut) with
    | ok other => exact absurd (length_le_of_ofBytes_take fits refused) (Nat.not_le.mpr before)
    | error error =>
        rcases fails_of_ofBytes_error refused with ⟨within, ends | steady⟩
        · refine ⟨error, rfl, ?_, within.trans (List.length_take_le cut _)⟩
          rw [ends]
          rfl
        -- The rest of the class put back behind the cut, the fault would still be there.
        · have again := steady (raw.bytes.drop cut)
          have whole := reads []
          rw [List.take_append_drop] at again
          rw [List.append_nil, again] at whole
          cases whole

theorem ofBytes_delimited_bareClass :
    (∃ length ≤ (bareClass.bytes ++ [0xCA]).length,
      (∀ rest, CompiledClass.ofBytes ((bareClass.bytes ++ [0xCA]).take length ++ rest) =
        .ok ⟨⟨52, 0, 1, "A", none, none, []⟩, []⟩) ∧
      ∀ cut < length, ∃ error,
        CompiledClass.ofBytes ((bareClass.bytes ++ [0xCA]).take cut) = .error error ∧
        error.fault.message = "unexpected end of class file" ∧ error.offset ≤ cut) ∧
    CompiledClass.ofBytes [0xCA, 0xFE, 0xBA, 0xBE, 0, 0, 0, 52, 0, 2, 99] =
      .error ⟨.invalidTag 99, 10⟩ ∧
    10 ≤ [0xCA, 0xFE, 0xBA, 0xBE, 0, 0, 0, 52, 0, 2, 99].length := by
  have accepted : CompiledClass.ofBytes (bareClass.bytes ++ [0xCA]) =
      .ok ⟨⟨52, 0, 1, "A", none, none, []⟩, []⟩ := by
    decide +kernel
  have refused : CompiledClass.ofBytes [0xCA, 0xFE, 0xBA, 0xBE, 0, 0, 0, 52, 0, 2, 99] =
      .error ⟨.invalidTag 99, 10⟩ := by
    decide +kernel
  exact ⟨(ofBytes_delimited (bareClass.bytes ++ [0xCA])).1 _ accepted, refused,
    (ofBytes_delimited [0xCA, 0xFE, 0xBA, 0xBE, 0, 0, 0, 52, 0, 2, 99]).2 _ refused⟩

end TypeTokenWrappers.ClassFile
