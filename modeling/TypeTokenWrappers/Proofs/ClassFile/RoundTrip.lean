import TypeTokenWrappers.Proofs.ClassFile.Description
import TypeTokenWrappers.Proofs.ClassFile.ModifiedUtf8

/-! # Class files are read as they are laid out

Both directions: what the layout allows is read as the class that it describes, and
whatever is read has been laid out like that. -/

namespace TypeTokenWrappers.ClassFile

theorem ofBytes_eq_ok_iff {bytes : List UInt8} {compiled : CompiledClass} :
    CompiledClass.ofBytes bytes = .ok compiled ↔
      ∃ (raw : RawClass) (trailing : List UInt8), raw.Fits ∧ raw.compiled? = some compiled ∧
        bytes = raw.bytes ++ trailing := by
  rw [CompiledClass.ofBytes]
  constructor
  · intro accepted
    cases run : readClass.run ⟨bytes, 0⟩ with
    | error error =>
        rw [run] at accepted
        cases accepted
    | ok result =>
        rw [run] at accepted
        cases accepted
        rcases (follows_readClass _ _ _).mp run with ⟨_, ⟨raw, fits, meaning, rfl⟩, split, _⟩
        exact ⟨raw, result.2.rest, fits, meaning, split⟩
  · rintro ⟨raw, trailing, fits, meaning, rfl⟩
    have run : readClass.run ⟨raw.bytes ++ trailing, 0⟩ =
        .ok (compiled, ⟨trailing, 0 + raw.bytes.length⟩) :=
      (follows_readClass _ _ _).mpr ⟨raw.bytes, ⟨raw, fits, meaning, rfl⟩, rfl, rfl⟩
    rw [run]
    rfl

/-! ## What is laid out is read -/

/-- The two ways of writing a text in a class file. -/
def Encodes (content : List UInt8) (text : String) : Prop :=
  content = ModifiedUtf8.encode text.toList ∨ content = Utf8.encode text.toList

theorem Encodes.decodes {content : List UInt8} {text : String} (encodes : Encodes content text) :
    Decodes content text := by
  rcases encodes with rfl | rfl
  · exact ModifiedUtf8.decode?_encode text.toList
  · exact ModifiedUtf8.decode?_utf8 text.toList

/-- An encoded text is decoded as what has been encoded and as nothing else. -/
theorem encodes_iff_decodes {content : List UInt8} (encoded : ∃ text, Encodes content text)
    {text : String} : Encodes content text ↔ Decodes content text := by
  constructor
  · exact Encodes.decodes
  · intro decodes
    rcases encoded with ⟨original, encodes⟩
    have same : original.toList = text.toList :=
      Option.some.inj (encodes.decodes.symm.trans decodes)
    rw [← String.toList_inj.mp same]
    exact encodes

theorem RawClass.textAt_encodes {raw : RawClass}
    (encoded : ∀ content, .text content ∈ raw.constants → ∃ text, Encodes content text) :
    raw.TextAt Encodes = raw.TextAt Decodes := by
  funext index text
  refine propext (exists_congr fun content => and_congr_right fun holds => ?_)
  exact encodes_iff_decodes (encoded content holds.mem)

theorem RawClass.readable_of_encodes {raw : RawClass}
    (encoded : ∀ content, .text content ∈ raw.constants → ∃ text, Encodes content text) :
    raw.constants.all RawConstant.readable = true := by
  rw [List.all_eq_true]
  intro constant member
  cases constant with
  | text content =>
      rcases encoded content member with ⟨text, encodes⟩
      rw [RawConstant.readable, encodes.decodes]
      rfl
  | classReference | other => rfl

/-- A class file is read as the class that it describes, whatever stands behind it,
and a walk over that class meets the header, each method in order, and the end. -/
theorem ofBytes_bytes_append (raw : RawClass) (fits : raw.Fits)
    (encoded : ∀ content, .text content ∈ raw.constants → ∃ text, Encodes content text)
    (resolves : raw.Resolves (raw.TextAt Encodes)) (trailing : List UInt8) :
    ∃ compiled, CompiledClass.ofBytes (raw.bytes ++ trailing) = .ok compiled ∧
      raw.Describes (raw.TextAt Encodes) compiled ∧
      compiled.events =
        .header compiled.header :: compiled.methods.map .method ++ [.finished] := by
  rcases resolves.exists_describes with ⟨compiled, describes⟩
  refine ⟨compiled, ?_, describes, rfl⟩
  rw [RawClass.textAt_encodes encoded] at resolves describes
  apply ofBytes_eq_ok_iff.mpr
  refine ⟨raw, trailing, fits, ?_, rfl⟩
  rw [compiled?_eq_some_iff_describes]
  exact ⟨RawClass.readable_of_encodes encoded, resolves, describes⟩

/-- A class with a wide constant, a field, and a method with a generic signature. -/
def sampleClass : RawClass where
  minorVersion := 0
  majorVersion := 52
  constantCount := 14
  constants := [.other .long [0, 0, 0, 0, 0, 0, 0, 7], .classReference 4, .text [65],
    .text [106, 47, 79], .classReference 5, .text [109], .text [40, 41, 86],
    .text [83, 105, 103, 110, 97, 116, 117, 114, 101], .text [0xC3, 0xA9],
    .other .string [0, 10], .classReference 10, .text [0xC0, 0x80]]
  access := 1
  nameIndex := 3
  superIndex := 6
  interfaces := [12]
  fields := [⟨1, 0, 0, [⟨0, [1, 2, 3]⟩]⟩]
  methods := [⟨1, 7, 8, [⟨10, [9]⟩, ⟨9, [0, 10]⟩]⟩]
  attributes := [⟨9, [0, 13]⟩]

theorem ofBytes_sampleClass :
    ∃ compiled, CompiledClass.ofBytes (sampleClass.bytes ++ [0xFF]) = .ok compiled ∧
      sampleClass.Describes (sampleClass.TextAt Encodes) compiled := by
  have text {index : UInt16} {content : List UInt8} (value : String)
      (found : sampleClass.constant? index = some (.text content))
      (encodes : Encodes content value) :
      ∃ value, sampleClass.TextAt Encodes index value :=
    ⟨value, content, constant?_eq_some_iff.mp found, encodes⟩
  have named {index nameIndex : UInt16} {content : List UInt8} (value : String)
      (found : sampleClass.constant? index = some (.classReference nameIndex))
      (name : sampleClass.constant? nameIndex = some (.text content))
      (encodes : Encodes content value) :
      ∃ value, sampleClass.ClassAt (sampleClass.TextAt Encodes) index value :=
    ⟨value, nameIndex, constant?_eq_some_iff.mp found, content, constant?_eq_some_iff.mp name,
      encodes⟩
  have signed {content : List UInt8} {index : UInt16} (same : content = bytesOfIndex index) :
      index = UInt16.ofNat (ByteReader.bigEndian content) :=
    (eq_bytesOfIndex_iff.mp same).2.symm
  have encoded : ∀ content, .text content ∈ sampleClass.constants →
      ∃ text, Encodes content text := by
    intro content member
    simp only [sampleClass, List.mem_cons, RawConstant.text.injEq, reduceCtorEq, false_or,
      List.not_mem_nil, or_false] at member
    rcases member with rfl | rfl | rfl | rfl | rfl | rfl | rfl
    · exact ⟨"A", .inl rfl⟩
    · exact ⟨"j/O", .inl rfl⟩
    · exact ⟨"m", .inl rfl⟩
    · exact ⟨"()V", .inl rfl⟩
    · exact ⟨"Signature", .inl rfl⟩
    · exact ⟨"é", .inr rfl⟩
    · exact ⟨"\x00", .inl rfl⟩
  have resolves : sampleClass.Resolves (sampleClass.TextAt Encodes) := by
    refine ⟨named "A" rfl rfl (.inl rfl), fun _ => named "j/O" rfl rfl (.inl rfl), ?_, ?_, ?_⟩
    · exact List.forall_mem_singleton.mpr (named "é" rfl rfl (.inr rfl))
    · refine List.forall_mem_singleton.mpr ⟨text "m" rfl (.inl rfl), text "()V" rfl (.inl rfl), ?_⟩
      refine List.forall_mem_cons.mpr ⟨⟨text "é" rfl (.inr rfl), ?_⟩,
        List.forall_mem_singleton.mpr ⟨text "Signature" rfl (.inl rfl), ?_⟩⟩
      · rintro index ⟨_, content⟩
        cases (eq_bytesOfIndex_iff.mp content).1
      · rintro index ⟨_, content⟩
        rw [signed content]
        exact text "é" rfl (.inr rfl)
    · refine List.forall_mem_singleton.mpr ⟨text "Signature" rfl (.inl rfl), ?_⟩
      rintro index ⟨_, content⟩
      rw [signed content]
      exact text "\x00" rfl (.inl rfl)
  rcases ofBytes_bytes_append sampleClass (by decide) encoded resolves [0xFF] with
    ⟨compiled, accepted, describes, _⟩
  exact ⟨compiled, accepted, describes⟩

/-! ## What is read has been laid out -/

/-- The numbers that no constant has. -/
inductive RawClass.NamesNothing (raw : RawClass) : UInt16 → Prop
  | zero : NamesNothing raw 0
  | second {index second : UInt16} {constant : RawConstant}
      (holds : Holds raw.constants index constant) (wide : constant.wide = true)
      (behind : second.toNat = index.toNat + 1) : NamesNothing raw second
  | beyond {index : UInt16} (outside : raw.constantCount ≤ index) : NamesNothing raw index

theorem Holds.not_namesNothing {raw : RawClass} (fits : raw.Fits) {index : UInt16}
    {constant : RawConstant} (holds : Holds raw.constants index constant) :
    ¬ raw.NamesNothing index := by
  intro nothing
  cases nothing with
  | zero => exact holds.ne_zero rfl
  | second first wide behind => exact first.not_second wide behind holds
  | beyond outside =>
      have within := holds.lt_count fits.count
      exact absurd (UInt16.le_iff_toNat_le.mp outside) (Nat.not_le.mpr within)

/-- Bytes that are read are those of a class that fits, and trailing ones. Each
number that is looked up names a constant of the right kind, and what is read are the
texts that are decoded there. -/
theorem exists_bytes_of_ofBytes (bytes : List UInt8) (compiled : CompiledClass)
    (accepted : CompiledClass.ofBytes bytes = .ok compiled) :
    ∃ (raw : RawClass) (trailing : List UInt8), bytes = raw.bytes ++ trailing ∧ raw.Fits ∧
      (∀ content, .text content ∈ raw.constants → ∃ text, Decodes content text) ∧
      raw.Resolves (raw.TextAt Decodes) ∧ raw.Describes (raw.TextAt Decodes) compiled ∧
      (∀ index text, raw.TextAt Decodes index text → ¬ raw.NamesNothing index ∧
        ∀ constant, Holds raw.constants index constant →
          ∃ content, constant = .text content) ∧
      (∀ index name, raw.ClassAt (raw.TextAt Decodes) index name → ¬ raw.NamesNothing index ∧
        ∀ constant, Holds raw.constants index constant →
          ∃ nameIndex, constant = .classReference nameIndex) := by
  rcases ofBytes_eq_ok_iff.mp accepted with ⟨raw, trailing, fits, meaning, rfl⟩
  rcases compiled?_eq_some_iff_describes.mp meaning with ⟨readable, resolves, describes⟩
  refine ⟨raw, trailing, rfl, fits, ?_, resolves, describes, ?_, ?_⟩
  · intro content member
    rcases Option.isSome_iff_exists.mp (List.all_eq_true.mp readable _ member) with ⟨text, decoded⟩
    exact ⟨String.ofList text, decoded.trans (by rw [String.toList_ofList])⟩
  · rintro index text ⟨content, holds, _⟩
    refine ⟨holds.not_namesNothing fits, fun constant other => ⟨content, ?_⟩⟩
    exact other.functional holds
  · rintro index name ⟨nameIndex, holds, _⟩
    refine ⟨holds.not_namesNothing fits, fun constant other => ⟨nameIndex, ?_⟩⟩
    exact other.functional holds

theorem exists_bytes_of_ofBytes_small :
    ∃ (raw : RawClass) (trailing : List UInt8), raw.Fits ∧
      raw.ClassAt (raw.TextAt Decodes) raw.nameIndex "A" ∧ raw.bytes ++ trailing =
        [0xCA, 0xFE, 0xBA, 0xBE, 0, 0, 0, 52, 0, 5, 1, 0, 1, 65, 7, 0, 1,
          5, 0, 0, 0, 0, 0, 0, 0, 0, 0, 1, 0, 2, 0, 0, 0, 0, 0, 0, 0, 0, 0, 0, 0xFF] := by
  have accepted : CompiledClass.ofBytes
      [0xCA, 0xFE, 0xBA, 0xBE, 0, 0, 0, 52, 0, 5, 1, 0, 1, 65, 7, 0, 1,
        5, 0, 0, 0, 0, 0, 0, 0, 0, 0, 1, 0, 2, 0, 0, 0, 0, 0, 0, 0, 0, 0, 0, 0xFF] =
      .ok ⟨⟨52, 0, 1, "A", none, none, []⟩, []⟩ := by
    decide +kernel
  rcases exists_bytes_of_ofBytes _ _ accepted with ⟨raw, trailing, split, fits, _, _, describes, _⟩
  exact ⟨raw, trailing, fits, describes.name, split.symm⟩

end TypeTokenWrappers.ClassFile
