import TypeTokenWrappers.Proofs.ClassFile.RoundTrip
import TypeTokenWrappers.Proofs.ClassFile.Unambiguous
import TypeTokenWrappers.Wrapper.Selection

/-! # A further text constant

A text constant at the end of the pool, to which nothing refers, changes nothing, if its
units are those of a text. Units with a surrogate that has no partner are legal in a class
file, but are refused here, and with them the whole class. -/

namespace TypeTokenWrappers.ClassFile

open ByteReader

namespace RawClass

/-- The class with a text constant more at the end of its pool. -/
def addText (raw : RawClass) (content : List UInt8) : RawClass :=
  { raw with
    constantCount := raw.constantCount + 1
    constants := raw.constants ++ [.text content] }

end RawClass

/-! ## Look-ups that find more -/

section Extension

variable {text? more? : UInt16 → Option String}
  (extension : ∀ index value, text? index = some value → more? index = some value)
include extension

theorem signature?_extend (item : RawAttribute) (signature : Option String)
    (found : item.signature? text? = some signature) :
    item.signature? more? = some signature := by
  rw [RawAttribute.signature?, Option.bind_eq_bind, Option.bind_eq_some_iff] at found ⊢
  rcases found with ⟨name, named, found⟩
  refine ⟨name, extension _ _ named, ?_⟩
  rw [signatureOf?] at found ⊢
  split
  case isTrue signs =>
    rw [if_pos signs, Option.map_eq_some_iff] at found
    rcases found with ⟨text, atIndex, rfl⟩
    rw [extension _ _ atIndex, Option.map_some]
  case isFalse other =>
    rw [if_neg other] at found
    exact found

theorem lastSignature?_extend (attributes : List RawAttribute) (signature : Option String)
    (found : lastSignature? text? attributes = some signature) :
    lastSignature? more? attributes = some signature := by
  rw [lastSignature?, Option.bind_eq_bind, Option.bind_eq_some_iff] at found ⊢
  rcases found with ⟨signatures, each, last⟩
  rw [mapM_eq_some_iff] at each
  exact ⟨signatures, mapM_eq_some_iff.mpr (each.imp (signature?_extend extension)), last⟩

theorem method?_extend (member : RawMember) (method : CompiledMethod)
    (found : member.method? text? = some method) : member.method? more? = some method := by
  rw [method?_eq_some_iff] at found ⊢
  rcases found with ⟨access, name, descriptor, signature⟩
  exact ⟨access, extension _ _ name, extension _ _ descriptor,
    lastSignature?_extend extension _ _ signature⟩

end Extension

/-! ## The text can be read -/

section Readable

variable {raw : RawClass} {content : List UInt8}

theorem totalWidth_append (constants others : List RawConstant) :
    totalWidth (constants ++ others) = totalWidth constants + totalWidth others := by
  induction constants with
  | nil => exact (Nat.zero_add _).symm
  | cons raw constants induction =>
      rw [List.cons_append, totalWidth, totalWidth, induction, Nat.add_assoc]

theorem constant?_addText (index : UInt16) (constant : RawConstant)
    (found : raw.constant? index = some constant) :
    (raw.addText content).constant? index = some constant := by
  rw [constant?_eq_some_iff] at found ⊢
  rcases found with ⟨before, after, split, position⟩
  refine ⟨before, after ++ [.text content], ?_, position⟩
  rw [RawClass.addText, split, List.append_assoc, List.cons_append]

theorem text?_addText (index : UInt16) (value : String) (found : raw.text? index = some value) :
    (raw.addText content).text? index = some value := by
  rw [RawClass.text?, Option.bind_eq_some_iff] at found ⊢
  rcases found with ⟨constant, named, read⟩
  exact ⟨constant, constant?_addText index constant named, read⟩

theorem className?_addText (index : UInt16) (name : String)
    (found : raw.className? index = some name) :
    (raw.addText content).className? index = some name := by
  simp only [RawClass.className?, Option.bind_eq_some_iff] at found ⊢
  rcases found with ⟨nameIndex, ⟨constant, named, refers⟩, read⟩
  exact ⟨nameIndex, ⟨constant, constant?_addText index constant named, refers⟩,
    text?_addText nameIndex name read⟩

theorem superName?_addText (index : UInt16) (superName : Option String)
    (found : superName? raw.className? index = some superName) :
    superName? (raw.addText content).className? index = some superName := by
  rw [superName?] at found ⊢
  split
  case isTrue absent =>
    rw [if_pos absent] at found
    exact found
  case isFalse present =>
    rw [if_neg present, Option.map_eq_some_iff] at found
    rcases found with ⟨name, named, rfl⟩
    rw [className?_addText index name named, Option.map_some]

theorem compiled?_addText {compiled : CompiledClass} (meaning : raw.compiled? = some compiled)
    (readable : (ModifiedUtf8.decode? content).isSome) :
    (raw.addText content).compiled? = some compiled := by
  rw [compiled?_eq_some_iff] at meaning ⊢
  rcases meaning with ⟨allReadable, minor, major, access, name, superName, interfaces, methods,
    signature⟩
  rw [mapM_eq_some_iff] at interfaces methods
  refine ⟨?_, minor, major, access, className?_addText _ _ name, superName?_addText _ _ superName,
    mapM_eq_some_iff.mpr (interfaces.imp className?_addText),
    mapM_eq_some_iff.mpr (methods.imp (method?_extend text?_addText)),
    lastSignature?_extend text?_addText _ _ signature⟩
  rw [RawClass.addText, List.all_append, allReadable, Bool.true_and, List.all_cons, List.all_nil,
    Bool.and_true]
  exact readable

theorem toNat_constantCount_addText (room : raw.constantCount.toNat < 65535) :
    (raw.addText content).constantCount.toNat = raw.constantCount.toNat + 1 := by
  have small : raw.constantCount.toNat + 1 < 2 ^ 16 := Nat.succ_lt_succ room
  rw [RawClass.addText, UInt16.toNat_add]
  exact Nat.mod_eq_of_lt small

/-- Constants that end within the count fill it exactly. -/
theorem Fill.exact {count : Nat} {constants : List RawConstant} (fill : Fill count constants)
    (within : totalWidth constants < count) : totalWidth constants + 1 = count := by
  rcases fill with filled | ⟨beyond, _⟩ <;> omega

theorem fits_addText (fits : raw.Fits) (within : totalWidth raw.constants < raw.constantCount.toNat)
    (room : raw.constantCount.toNat < 65535) (short : content.length < 0x10000) :
    (raw.addText content).Fits := by
  refine ⟨?_, .inl ?_, fits.interfaces, fits.fields, fits.methods, fits.attributes⟩
  · exact List.forall_mem_append.mpr ⟨fits.constants, List.forall_mem_singleton.mpr short⟩
  · rw [toNat_constantCount_addText room, Nat.add_sub_cancel, ← fits.count.exact within,
      RawClass.addText, totalWidth_append]
    rfl

end Readable

/-! ## The text cannot be read -/

section Unreadable

theorem readConstant_of_unreadable {content : List UInt8} (short : content.length < 0x10000)
    (unreadable : ModifiedUtf8.decode? content = none) (rest : List UInt8) (offset : Nat) :
    readConstant ⟨(RawConstant.text content).bytes ++ rest, offset⟩ =
      .error ⟨.invalidText, offset⟩ := by
  rw [readConstant_text short, textOf, unreadable]
  rfl

/-- Readable constants are passed over until the reader fails behind them. -/
theorem readConstants_of_error {error : ClassFormatError} {rest : List UInt8} {remaining : Nat}
    (constants : List RawConstant) (fit : ∀ raw ∈ constants, raw.Fits)
    (readable : constants.all RawConstant.readable = true) (offset : Nat)
    (fails : readConstants false remaining
      ⟨rest, offset + (constants.flatMap RawConstant.bytes).length⟩ = .error error) :
    readConstants false (totalWidth constants + remaining)
      ⟨constants.flatMap RawConstant.bytes ++ rest, offset⟩ = .error error := by
  induction constants generalizing offset with
  | nil =>
      rw [totalWidth, Nat.zero_add]
      exact fails
  | cons raw constants induction =>
      rw [List.forall_mem_cons] at fit
      rw [List.all_cons, Bool.and_eq_true, readable_eq raw] at readable
      rcases Option.isSome_iff_exists.mp readable.1 with ⟨constant, kept⟩
      have found : raw.read? = some (constant, raw.wide) := by
        rw [RawConstant.read?, kept, Option.map_some]
      have others : readConstants false (totalWidth constants + remaining)
          ⟨constants.flatMap RawConstant.bytes ++ rest, offset + raw.bytes.length⟩ =
          .error error := by
        apply induction fit.2 readable.2
        rw [Nat.add_assoc, ← List.length_append]
        exact fails
      have first := follows_readConstant.read ⟨raw, fit.1, found, rfl⟩
        (constants.flatMap RawConstant.bytes ++ rest) offset
      rw [List.flatMap_cons, List.append_assoc, totalWidth, RawConstant.width]
      cases wide : raw.wide with
      | false =>
          rw [wide] at first
          rw [if_neg Bool.false_ne_true, Nat.add_assoc, Nat.add_comm 1, readConstants,
            if_neg Bool.false_ne_true, bind_of_ok first]
          exact bind_of_error others
      | true =>
          rw [wide] at first
          rw [if_pos rfl, Nat.add_assoc, Nat.add_comm 2, readConstants,
            if_neg Bool.false_ne_true, bind_of_ok first]
          exact bind_of_error (bind_of_error others)

/-- A pool that cannot be read makes the class unreadable. -/
theorem readClass_of_pool_error {error : ClassFormatError} (minorVersion majorVersion : UInt16)
    (rest : List UInt8) (fails : readConstantPool ⟨rest, 8⟩ = .error error) :
    readClass ⟨[0xCA, 0xFE, 0xBA, 0xBE] ++
      (bytesOfIndex minorVersion ++ (bytesOfIndex majorVersion ++ rest)), 0⟩ = .error error := by
  have magic (rest : List UInt8) :
      readMagic ⟨[0xCA, 0xFE, 0xBA, 0xBE] ++ rest, 0⟩ = .ok ((), ⟨rest, 4⟩) :=
    follows_readMagic.read rfl rest 0
  rw [readClass, bind_of_ok (magic _), bind_of_ok (follows_u2.read rfl _ _),
    bind_of_ok (follows_u2.read rfl _ _)]
  exact bind_of_error fails

variable {raw : RawClass} {content : List UInt8}

theorem ofBytes_addText_of_unreadable (fits : raw.Fits)
    (readable : raw.constants.all RawConstant.readable = true)
    (within : totalWidth raw.constants < raw.constantCount.toNat)
    (room : raw.constantCount.toNat < 65535) (short : content.length < 0x10000)
    (unreadable : ModifiedUtf8.decode? content = none) (trailing : List UInt8) :
    CompiledClass.ofBytes ((raw.addText content).bytes ++ trailing) =
      .error ⟨.invalidText, 10 + (raw.constants.flatMap RawConstant.bytes).length⟩ := by
  have count : (raw.constantCount + 1).toNat - 1 = totalWidth raw.constants + 1 := by
    change (raw.addText content).constantCount.toNat - 1 = _
    rw [toNat_constantCount_addText room, Nat.add_sub_cancel, fits.count.exact within]
  have pool (behind : List UInt8) :
      readConstantPool ⟨bytesOfIndex (raw.constantCount + 1) ++
        (raw.constants.flatMap RawConstant.bytes ++
          ((RawConstant.text content).bytes ++ behind)), 8⟩ =
        .error ⟨.invalidText, 10 + (raw.constants.flatMap RawConstant.bytes).length⟩ := by
    rw [readConstantPool, bind_of_ok (follows_u2.read rfl _ _), count]
    apply bind_of_error
    apply readConstants_of_error _ fits.constants readable
    exact bind_of_error (readConstant_of_unreadable short unreadable behind _)
  rw [CompiledClass.ofBytes, RawClass.bytes]
  simp only [RawClass.addText, List.flatMap_append, List.flatMap_singleton, List.append_assoc]
  rw [StateT.run, readClass_of_pool_error _ _ _ (pool _)]
  rfl

end Unreadable

/-! ## Both cases -/

theorem compiled?_of_ofBytes {raw : RawClass} {trailing : List UInt8} {compiled : CompiledClass}
    (fits : raw.Fits) (accepted : CompiledClass.ofBytes (raw.bytes ++ trailing) = .ok compiled) :
    raw.compiled? = some compiled := by
  rcases ofBytes_eq_ok_iff.mp accepted with ⟨other, behind, otherFits, meaning, same⟩
  rw [(unambiguous_class fits otherFits same).1, meaning]

/-- A class that is read, and whose constants end within their count, is read as before
with a text constant more, if its units are those of a text. Otherwise the class is
refused at the place of that constant. -/
theorem ofBytes_addText (raw : RawClass) (fits : raw.Fits)
    (within : totalWidth raw.constants < raw.constantCount.toNat)
    (room : raw.constantCount.toNat < 65535) (trailing : List UInt8) (compiled : CompiledClass)
    (accepted : CompiledClass.ofBytes (raw.bytes ++ trailing) = .ok compiled)
    (units : List UInt16) (short : (ModifiedUtf8.encodeUnits units).length ≤ 65535)
    (rules : Config.Scan) (entry : String) :
    let grown := (raw.addText (ModifiedUtf8.encodeUnits units)).bytes ++ trailing
    let refusal : ClassFormatError :=
      ⟨.invalidText, 10 + (raw.constants.flatMap RawConstant.bytes).length⟩
    ((∃ text, units = Utf16.encode text) →
      CompiledClass.ofBytes grown = .ok compiled ∧ Wrapper.ofRecord rules ⟨entry, grown⟩ =
        Wrapper.ofRecord rules ⟨entry, raw.bytes ++ trailing⟩) ∧
    ((¬ ∃ text, units = Utf16.encode text) →
      CompiledClass.ofBytes grown = .error refusal ∧ Wrapper.ofRecord rules ⟨entry, grown⟩ =
        .error (.classFormat entry refusal.message)) := by
  intro grown refusal
  have meaning := compiled?_of_ofBytes fits accepted
  have below : (ModifiedUtf8.encodeUnits units).length < 0x10000 := Nat.lt_succ_of_le short
  have decoded := ModifiedUtf8.decode?_encodeUnits units
  constructor
  · rintro ⟨text, rfl⟩
    rw [Utf16.decode?_encode] at decoded
    have same : CompiledClass.ofBytes grown = .ok compiled := by
      apply ofBytes_eq_ok_iff.mpr
      refine ⟨_, trailing, fits_addText fits within room below, ?_, rfl⟩
      exact compiled?_addText meaning (by rw [decoded]; rfl)
    refine ⟨same, ?_⟩
    rw [Wrapper.ofRecord, Wrapper.ofRecord, same, accepted]
  · intro spellsNothing
    have unreadable : ModifiedUtf8.decode? (ModifiedUtf8.encodeUnits units) = none := by
      rw [decoded, Option.eq_none_iff_forall_not_mem]
      intro text spelled
      exact spellsNothing ⟨text, Utf16.decode?_eq_some_iff.mp spelled⟩
    have refused : CompiledClass.ofBytes grown = .error refusal :=
      ofBytes_addText_of_unreadable fits (compiled?_eq_some_iff.mp meaning).1 within room below
        unreadable trailing
    refine ⟨refused, ?_⟩
    rw [Wrapper.ofRecord, refused]

/-- A class of no members, with its name as the only text. -/
def bareClass : RawClass where
  minorVersion := 0
  majorVersion := 52
  constantCount := 3
  constants := [.text [65], .classReference 1]
  access := 1
  nameIndex := 2
  superIndex := 0
  interfaces := []
  fields := []
  methods := []
  attributes := []

theorem ofBytes_bareClass_addText :
    CompiledClass.ofBytes bareClass.bytes = .ok ⟨⟨52, 0, 1, "A", none, none, []⟩, []⟩ ∧
      CompiledClass.ofBytes (bareClass.addText (ModifiedUtf8.encodeUnits [0xD83D, 0xDE00])).bytes =
        .ok ⟨⟨52, 0, 1, "A", none, none, []⟩, []⟩ := by
  have accepted : CompiledClass.ofBytes (bareClass.bytes ++ []) =
      .ok ⟨⟨52, 0, 1, "A", none, none, []⟩, []⟩ := by
    decide +kernel
  have grown := ofBytes_addText bareClass (by decide) (by decide) (by decide) [] _ accepted
    [0xD83D, 0xDE00] (by decide) {} "A.class"
  simp only [List.append_nil] at accepted grown
  exact ⟨accepted, (grown.1 ⟨['😀'], by decide⟩).1⟩

/-- A surrogate without a partner makes the whole class unreadable. -/
theorem ofBytes_addText_lone_surrogate :
    bareClass.Fits ∧ totalWidth bareClass.constants < bareClass.constantCount.toNat ∧
      CompiledClass.ofBytes bareClass.bytes = .ok ⟨⟨52, 0, 1, "A", none, none, []⟩, []⟩ ∧
      CompiledClass.ofBytes (bareClass.addText (ModifiedUtf8.encodeUnits [0xD800])).bytes =
        .error ⟨.invalidText, 17⟩ := by
  decide +kernel

end TypeTokenWrappers.ClassFile
