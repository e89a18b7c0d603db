import Mathlib.Data.Option.Basic
import TypeTokenWrappers.ClassFile.Reader
import TypeTokenWrappers.Proofs.ClassFile.Pool

/-! # Reading class files

The reader of a class file follows its layout: it succeeds on the bytes of a raw
class that fits and means something, with any bytes behind them, and returns the
class that is meant. Each part of the reader has one law, from which the laws of
the parts around it are made. -/

namespace TypeTokenWrappers.ClassFile

open ByteReader

variable {pool : ConstantPool}

/-! ## Numbers that name something -/

namespace ConstantPool

theorem follows_text (index : UInt16) :
    Follows (pool.text index) fun bytes value => bytes = [] ∧ pool.text? index = some value := by
  rw [ConstantPool.text]
  split
  case h_1 text found =>
    refine (Follows.pure text).congr ?_
    intro bytes value
    simp [Layout.nothing, found, eq_comm]
  case h_2 missing =>
    refine (Follows.fail (.notText index)).congr ?_
    intro bytes value
    simp [missing]

theorem follows_className (index : UInt16) :
    Follows (pool.className index) fun bytes value =>
      bytes = [] ∧ pool.className? index = some value := by
  rw [ConstantPool.className]
  split
  case h_1 nameIndex found =>
    refine (follows_text nameIndex).congr ?_
    intro bytes value
    rw [ConstantPool.className?, found]
    rfl
  case h_2 missing =>
    refine (Follows.fail (.notClass index)).congr ?_
    intro bytes value
    simp [ConstantPool.className?, missing]

end ConstantPool

/-- A number is read, and looked up where it stands. -/
theorem follows_index {look : UInt16 → ByteReader α} {found? : UInt16 → Option α}
    (follows : ∀ index, (look index).Follows fun bytes value =>
      bytes = [] ∧ found? index = some value) :
    Follows (u2 >>= look) (.formed (fun _ => True) bytesOfIndex found?) := by
  refine (follows_u2.bind follows).congr ?_
  intro bytes value
  constructor
  · rintro ⟨index, _, _, rfl, ⟨rfl, found⟩, rfl⟩
    exact ⟨index, trivial, found, List.append_nil _⟩
  · rintro ⟨index, _, found, rfl⟩
    exact ⟨index, _, [], rfl, ⟨rfl, found⟩, (List.append_nil _).symm⟩

theorem follows_readText :
    Follows (readText pool) (.formed (fun _ => True) bytesOfIndex pool.text?) :=
  follows_index ConstantPool.follows_text

theorem follows_readClassName :
    Follows (readClassName pool) (.formed (fun _ => True) bytesOfIndex pool.className?) :=
  follows_index ConstantPool.follows_className

theorem follows_readSuperName :
    Follows (readSuperName pool)
      (.formed (fun _ => True) bytesOfIndex (superName? pool.className?)) := by
  refine follows_index fun index => ?_
  split
  case isTrue zero =>
    refine (Follows.pure none).congr ?_
    intro bytes value
    simp [Layout.nothing, superName?, zero, eq_comm]
  case isFalse other =>
    refine ((ConstantPool.follows_className index).bind fun name => .pure (some name)).congr ?_
    intro bytes value
    rw [superName?, if_neg other, Option.map_eq_some_iff]
    constructor
    · rintro ⟨name, _, _, ⟨rfl, found⟩, ⟨rfl, rfl⟩, rfl⟩
      exact ⟨rfl, name, found, rfl⟩
    · rintro ⟨rfl, name, found, rfl⟩
      exact ⟨name, [], [], ⟨rfl, found⟩, ⟨rfl, rfl⟩, rfl⟩

/-! ## Attributes -/

theorem follows_skipAttribute :
    Follows skipAttribute (.formed RawAttribute.Fits RawAttribute.bytes fun _ => some ()) := by
  refine ((follows_skip 2).bind fun _ => follows_u4.bind fun length =>
    follows_skip length.toNat).congr ?_
  intro bytes value
  constructor
  · rintro ⟨_, index, _, two, ⟨length, _, content, rfl, size, rfl⟩, rfl⟩
    refine ⟨⟨UInt16.ofNat (bigEndian index), content⟩, ?_, rfl, ?_⟩
    · rw [RawAttribute.Fits, size]
      exact length.toNat_lt
    · rw [RawAttribute.bytes, size, ← eq_bytesOfIndex_iff.mpr ⟨two, rfl⟩, List.append_assoc]
  · rintro ⟨item, fits, _, rfl⟩
    have size : (UInt32.ofNat item.content.length).toNat = item.content.length :=
      UInt32.toNat_ofNat_of_lt' fits
    refine ⟨(), _, _, length_bytesOfIndex item.nameIndex,
      ⟨UInt32.ofNat item.content.length, _, item.content, rfl, size.symm, rfl⟩, ?_⟩
    simp only [RawAttribute.bytes, size, List.append_assoc]

theorem follows_content (name : String) (length : UInt32) :
    Follows (if name = "Signature" ∧ length = 2 then do
        let index ← u2
        return some (← pool.text index)
      else do
        skip length.toNat
        return none) fun content value =>
      content.length = length.toNat ∧ signatureOf? pool.text? name content = some value := by
  split
  case isTrue signature =>
    rcases signature with ⟨signature, rfl⟩
    refine (follows_u2.bind fun index => (ConstantPool.follows_text index).bind fun text =>
      .pure (some text)).congr ?_
    intro content value
    constructor
    · rintro ⟨index, _, _, rfl, ⟨text, _, _, ⟨rfl, found⟩, ⟨rfl, rfl⟩, rfl⟩, rfl⟩
      rcases eq_bytesOfIndex_iff.mp (rfl : bytesOfIndex index = _) with ⟨two, number⟩
      rw [List.append_nil, List.append_nil, signatureOf?, if_pos ⟨signature, two⟩, number, found]
      exact ⟨two, rfl⟩
    · rintro ⟨two, found⟩
      rw [signatureOf?, if_pos ⟨signature, two⟩, Option.map_eq_some_iff] at found
      rcases found with ⟨text, found, rfl⟩
      exact ⟨_, content, [], eq_bytesOfIndex_iff.mpr ⟨two, rfl⟩,
        ⟨text, [], [], ⟨rfl, found⟩, ⟨rfl, rfl⟩, rfl⟩, (List.append_nil content).symm⟩
  case isFalse other =>
    refine ((follows_skip length.toNat).bind fun _ => .pure none).congr ?_
    intro content value
    have passed (size : content.length = length.toNat) :
        signatureOf? pool.text? name content = some none := by
      refine if_neg fun signature => other ⟨signature.1, UInt32.toNat_inj.mp ?_⟩
      rw [← size, signature.2]
      rfl
    constructor
    · rintro ⟨_, _, _, size, ⟨rfl, rfl⟩, rfl⟩
      rw [List.append_nil] at passed ⊢
      exact ⟨size, passed size⟩
    · rintro ⟨size, found⟩
      rw [passed size] at found
      cases found
      exact ⟨(), content, [], size, ⟨rfl, rfl⟩, (List.append_nil content).symm⟩

theorem follows_readAttribute :
    Follows (readAttribute pool)
      (.formed RawAttribute.Fits RawAttribute.bytes (RawAttribute.signature? pool.text?)) := by
  refine (follows_u2.bind fun nameIndex => (ConstantPool.follows_text nameIndex).bind fun name =>
    follows_u4.bind fun length => follows_content name length).congr ?_
  intro bytes value
  constructor
  · rintro ⟨nameIndex, _, _, rfl, ⟨name, _, _, ⟨rfl, found⟩, ⟨length, _, content, rfl,
      ⟨size, signature⟩, rfl⟩, rfl⟩, rfl⟩
    refine ⟨⟨nameIndex, content⟩, ?_, ?_, ?_⟩
    · rw [RawAttribute.Fits, size]
      exact length.toNat_lt
    · rw [RawAttribute.signature?, found]
      exact signature
    · rw [RawAttribute.bytes, size, List.append_assoc, List.nil_append]
  · rintro ⟨item, fits, meaning, rfl⟩
    have size : (UInt32.ofNat item.content.length).toNat = item.content.length :=
      UInt32.toNat_ofNat_of_lt' fits
    rcases Option.bind_eq_some_iff.mp meaning with ⟨name, found, signature⟩
    refine ⟨item.nameIndex, _, _, rfl, ⟨name, [], _, ⟨rfl, found⟩,
      ⟨UInt32.ofNat item.content.length, _, item.content, rfl, ⟨size.symm, signature⟩, rfl⟩,
      rfl⟩, ?_⟩
    simp only [RawAttribute.bytes, size, List.append_assoc, List.nil_append]

theorem follows_readSignature :
    Follows (readSignature pool)
      (.formed AttributesFit (bytesOfTable RawAttribute.bytes) (lastSignature? pool.text?)) := by
  refine (follows_readAttribute.table.bind fun signatures =>
    .pure (signatures.filterMap id).getLast?).congr ?_
  intro bytes value
  constructor
  · rintro ⟨signatures, _, _, ⟨attributes, fit, meaning, rfl⟩, ⟨rfl, rfl⟩, rfl⟩
    refine ⟨attributes, fit, ?_, List.append_nil _⟩
    rw [lastSignature?, meaning]
    rfl
  · rintro ⟨attributes, fit, meaning, rfl⟩
    rcases Option.bind_eq_some_iff.mp meaning with ⟨signatures, each, last⟩
    cases last
    exact ⟨signatures, _, [], ⟨attributes, fit, each, rfl⟩, ⟨rfl, rfl⟩,
      (List.append_nil _).symm⟩

/-! ## Members -/

theorem exists_indices {bytes : List UInt8} (six : bytes.length = 6) :
    ∃ first second third : UInt16,
      bytes = bytesOfIndex first ++ bytesOfIndex second ++ bytesOfIndex third := by
  have pair (high low : UInt8) :
      [high, low] = bytesOfIndex (UInt16.ofNat (bigEndian [high, low])) :=
    eq_bytesOfIndex_iff.mpr ⟨rfl, rfl⟩
  match bytes, six with
  | [a, b, c, d, e, f], _ =>
      refine ⟨UInt16.ofNat (bigEndian [a, b]), UInt16.ofNat (bigEndian [c, d]),
        UInt16.ofNat (bigEndian [e, f]), ?_⟩
      rw [← pair, ← pair, ← pair]
      rfl

theorem follows_skipField :
    Follows skipField (.formed (fun member => AttributesFit member.attributes)
      RawMember.bytes fun _ => some ()) := by
  refine ((follows_skip 6).bind fun _ => follows_skipAttribute.table.bind fun _ =>
    .pure ()).congr ?_
  intro bytes value
  constructor
  · rintro ⟨_, front, _, six, ⟨_, _, _, ⟨attributes, fit, _, rfl⟩, ⟨rfl, _⟩, rfl⟩, rfl⟩
    rcases exists_indices six with ⟨access, nameIndex, descriptorIndex, rfl⟩
    exact ⟨⟨access, nameIndex, descriptorIndex, attributes⟩, fit, rfl,
      congrArg _ (List.append_nil _)⟩
  · rintro ⟨member, fit, _, rfl⟩
    have passed : member.attributes.mapM (fun _ => some ()) =
        some (member.attributes.map fun _ => ()) := List.mapM_pure
    exact ⟨(), _, _, rfl, ⟨_, _, [], ⟨member.attributes, fit, passed, rfl⟩, ⟨rfl, rfl⟩, rfl⟩,
      congrArg _ (List.append_nil _).symm⟩

theorem method?_eq_some_iff {text? : UInt16 → Option String} {member : RawMember}
    {method : CompiledMethod} :
    member.method? text? = some method ↔
      member.access = method.access ∧ text? member.nameIndex = some method.name ∧
        text? member.descriptorIndex = some method.descriptor ∧
        lastSignature? text? member.attributes = some method.signature := by
  rw [RawMember.method?]
  cases method
  cases text? member.nameIndex <;> cases text? member.descriptorIndex <;>
    cases lastSignature? text? member.attributes <;> simp

theorem follows_readMethod :
    Follows (readMethod pool) (.formed (fun member => AttributesFit member.attributes)
      RawMember.bytes (RawMember.method? pool.text?)) := by
  refine (follows_u2.bind fun access => follows_readText.bind fun name =>
    follows_readText.bind fun descriptor => follows_readSignature.bind fun signature =>
    .pure (CompiledMethod.mk access name descriptor signature)).congr ?_
  intro bytes method
  simp only [Layout.formed, method?_eq_some_iff]
  constructor
  · rintro ⟨access, _, _, rfl, ⟨name, _, _, ⟨nameIndex, _, foundName, rfl⟩, ⟨descriptor, _, _,
      ⟨descriptorIndex, _, foundDescriptor, rfl⟩, ⟨signature, _, _,
      ⟨attributes, fit, meaning, rfl⟩, ⟨rfl, rfl⟩, rfl⟩, rfl⟩, rfl⟩, rfl⟩
    refine ⟨⟨access, nameIndex, descriptorIndex, attributes⟩, fit,
      ⟨rfl, foundName, foundDescriptor, meaning⟩, ?_⟩
    simp only [RawMember.bytes, List.append_assoc, List.append_nil]
  · rintro ⟨member, fit, ⟨access, foundName, foundDescriptor, meaning⟩, rfl⟩
    refine ⟨method.access, _, _, rfl, ⟨method.name, _, _, ⟨_, trivial, foundName, rfl⟩,
      ⟨method.descriptor, _, _, ⟨_, trivial, foundDescriptor, rfl⟩, ⟨method.signature, _, [],
      ⟨member.attributes, fit, meaning, rfl⟩, ⟨rfl, rfl⟩, rfl⟩, rfl⟩, rfl⟩, ?_⟩
    simp only [RawMember.bytes, access, List.append_assoc, List.append_nil]

/-! ## Classes -/

theorem follows_readMagic :
    Follows readMagic fun bytes _ => bytes = [0xCA, 0xFE, 0xBA, 0xBE] := by
  refine (follows_u4.bind fun found => (?_ : Follows _ fun bytes _ =>
    bytes = [] ∧ found = magic)).congr ?_
  · split
    case isTrue equal =>
      refine (Follows.pure ()).congr ?_
      intro bytes value
      simp [Layout.nothing, equal]
    case isFalse other =>
      refine (Follows.failAt (.badMagic found) 0).congr ?_
      intro bytes value
      simp [other]
  · intro bytes value
    constructor
    · rintro ⟨_, _, _, rfl, ⟨rfl, rfl⟩, rfl⟩
      decide
    · rintro rfl
      exact ⟨magic, _, [], rfl, ⟨rfl, rfl⟩, by decide⟩

theorem compiled?_eq_some_iff {raw : RawClass} {compiled : CompiledClass} :
    raw.compiled? = some compiled ↔
      raw.constants.all RawConstant.readable = true ∧
        raw.minorVersion = compiled.header.minorVersion ∧
        raw.majorVersion = compiled.header.majorVersion ∧
        raw.access = compiled.header.access ∧
        raw.className? raw.nameIndex = some compiled.header.name ∧
        superName? raw.className? raw.superIndex = some compiled.header.superName ∧
        raw.interfaces.mapM raw.className? = some compiled.header.interfaces ∧
        raw.methods.mapM (RawMember.method? raw.text?) = some compiled.methods ∧
        lastSignature? raw.text? raw.attributes = some compiled.header.signature := by
  rcases compiled with ⟨header, methods⟩
  constructor
  · intro meaning
    simp only [RawClass.compiled?, Option.bind_eq_bind, Option.bind_eq_some_iff,
      Option.guard_eq_some'] at meaning
    rcases meaning with ⟨_, readable, name, foundName, superName, foundSuper, interfaces,
      foundInterfaces, methods, foundMethods, signature, foundSignature, equal⟩
    cases equal
    exact ⟨readable, rfl, rfl, rfl, foundName, foundSuper, foundInterfaces, foundMethods,
      foundSignature⟩
  · rintro ⟨readable, minor, major, access, name, superName, interfaces, methods, signature⟩
    rw [RawClass.compiled?, guard, if_pos readable, name, superName, interfaces, methods,
      signature, minor, major, access]
    rfl

/-- The part behind the interfaces: fields, methods, attributes. -/
theorem follows_members (compiled : List CompiledMethod → Option String → CompiledClass) :
    Follows (do
        let _ ← table skipField
        let methods ← table (readMethod pool)
        let signature ← readSignature pool
        return compiled methods signature) fun bytes value =>
      ∃ fields members attributes methods signature,
        (MembersFit fields ∧ MembersFit members ∧ AttributesFit attributes) ∧
        members.mapM (RawMember.method? pool.text?) = some methods ∧
        lastSignature? pool.text? attributes = some signature ∧
        value = compiled methods signature ∧
        bytes = bytesOfTable RawMember.bytes fields ++ bytesOfTable RawMember.bytes members ++
          bytesOfTable RawAttribute.bytes attributes := by
  refine (follows_skipField.table.bind fun _ => follows_readMethod.table.bind fun methods =>
    follows_readSignature.bind fun signature => .pure (compiled methods signature)).congr ?_
  intro bytes value
  constructor
  · rintro ⟨_, _, _, ⟨fields, fieldsFit, _, rfl⟩, ⟨methods, _, _, ⟨members, membersFit,
      foundMethods, rfl⟩, ⟨signature, _, _, ⟨attributes, attributesFit, foundSignature, rfl⟩,
      ⟨rfl, built⟩, rfl⟩, rfl⟩, rfl⟩
    refine ⟨fields, members, attributes, methods, signature,
      ⟨fieldsFit, membersFit, attributesFit⟩, foundMethods, foundSignature, built, ?_⟩
    rw [List.append_nil, List.append_assoc]
  · rintro ⟨fields, members, attributes, methods, signature,
      ⟨fieldsFit, membersFit, attributesFit⟩, foundMethods, foundSignature, built, rfl⟩
    have passed : fields.mapM (fun _ => some ()) = some (fields.map fun _ => ()) :=
      List.mapM_pure
    refine ⟨_, _, _, ⟨fields, fieldsFit, passed, rfl⟩,
      ⟨methods, _, _, ⟨members, membersFit, foundMethods, rfl⟩,
      ⟨signature, _, [], ⟨attributes, attributesFit, foundSignature, rfl⟩, ⟨rfl, built⟩, rfl⟩,
      rfl⟩, ?_⟩
    rw [List.append_nil, List.append_assoc]

/-- The part behind the pool: the class itself and what it extends, then the members. -/
theorem follows_behindPool (minorVersion majorVersion : UInt16) :
    Follows (do
        let access ← u2
        let name ← readClassName pool
        let superName ← readSuperName pool
        let interfaces ← table (readClassName pool)
        let _ ← table skipField
        let methods ← table (readMethod pool)
        let signature ← readSignature pool
        return CompiledClass.mk
          ⟨majorVersion, minorVersion, access, name, signature, superName, interfaces⟩
          methods) fun bytes value =>
      ∃ nameIndex superIndex interfaces fields members attributes,
        (interfaces.length < 0x10000 ∧ MembersFit fields ∧ MembersFit members ∧
          AttributesFit attributes) ∧
        minorVersion = value.header.minorVersion ∧ majorVersion = value.header.majorVersion ∧
        pool.className? nameIndex = some value.header.name ∧
        superName? pool.className? superIndex = some value.header.superName ∧
        interfaces.mapM pool.className? = some value.header.interfaces ∧
        members.mapM (RawMember.method? pool.text?) = some value.methods ∧
        lastSignature? pool.text? attributes = some value.header.signature ∧
        bytes = bytesOfIndex value.header.access ++ bytesOfIndex nameIndex ++
          bytesOfIndex superIndex ++ bytesOfTable bytesOfIndex interfaces ++
          bytesOfTable RawMember.bytes fields ++ bytesOfTable RawMember.bytes members ++
          bytesOfTable RawAttribute.bytes attributes := by
  refine (follows_u2.bind fun access => follows_readClassName.bind fun name =>
    follows_readSuperName.bind fun superName => follows_readClassName.table.bind fun interfaces =>
    follows_members fun methods signature => CompiledClass.mk
      ⟨majorVersion, minorVersion, access, name, signature, superName, interfaces⟩
      methods).congr ?_
  intro bytes value
  constructor
  · rintro ⟨access, _, _, rfl, ⟨name, _, _, ⟨nameIndex, _, foundName, rfl⟩, ⟨superName, _, _,
      ⟨superIndex, _, foundSuper, rfl⟩, ⟨interfaces, _, _, ⟨interfaceIndices, interfacesFit,
      foundInterfaces, rfl⟩, ⟨fields, members, attributes, methods, signature, fit, foundMethods,
      foundSignature, rfl, rfl⟩, rfl⟩, rfl⟩, rfl⟩, rfl⟩
    refine ⟨nameIndex, superIndex, interfaceIndices, fields, members, attributes,
      ⟨interfacesFit.1, fit⟩, rfl, rfl, foundName, foundSuper, foundInterfaces, foundMethods,
      foundSignature, ?_⟩
    simp only [List.append_assoc]
  · rintro ⟨nameIndex, superIndex, interfaces, fields, members, attributes,
      ⟨interfacesFit, fit⟩, rfl, rfl, foundName, foundSuper, foundInterfaces, foundMethods,
      foundSignature, rfl⟩
    refine ⟨value.header.access, _, _, rfl, ⟨_, _, _, ⟨nameIndex, trivial, foundName, rfl⟩,
      ⟨_, _, _, ⟨superIndex, trivial, foundSuper, rfl⟩,
      ⟨_, _, _, ⟨interfaces, ⟨interfacesFit, fun _ _ => trivial⟩, foundInterfaces, rfl⟩,
      ⟨fields, members, attributes, _, _, fit, foundMethods, foundSignature, rfl, rfl⟩, rfl⟩,
      rfl⟩, rfl⟩, ?_⟩
    simp only [List.append_assoc]

theorem follows_readClass :
    Follows readClass (.formed RawClass.Fits RawClass.bytes RawClass.compiled?) := by
  refine (follows_readMagic.bind fun _ => follows_u2.bind fun minorVersion =>
    follows_u2.bind fun majorVersion => follows_readConstantPool.bind fun pool =>
    follows_behindPool minorVersion majorVersion).congr ?_
  intro bytes compiled
  simp only [Layout.formed, compiled?_eq_some_iff]
  constructor
  · rintro ⟨_, _, _, rfl, ⟨minorVersion, _, _, rfl, ⟨majorVersion, _, _, rfl, ⟨_, _, _,
      ⟨count, constants, fit, readable, fill, rfl, rfl⟩, ⟨nameIndex, superIndex, interfaces,
      fields, methods, attributes, fits, minor, major, foundName, foundSuper, foundInterfaces,
      foundMethods, foundSignature, rfl⟩, rfl⟩, rfl⟩, rfl⟩, rfl⟩
    let raw : RawClass := ⟨minorVersion, majorVersion, count, constants, compiled.header.access,
      nameIndex, superIndex, interfaces, fields, methods, attributes⟩
    have texts : (keptPool _ _).text? = raw.text? := ConstantPool.text?_pool fill
    have names : (keptPool _ _).className? = raw.className? := ConstantPool.className?_pool fill
    rw [names] at foundName foundSuper foundInterfaces
    rw [texts] at foundMethods foundSignature
    rcases fits with ⟨interfacesFit, fieldsFit, methodsFit, attributesFit⟩
    refine ⟨raw, ⟨fit, fill, interfacesFit, fieldsFit, methodsFit, attributesFit⟩,
      ⟨readable, minor, major, rfl, foundName, foundSuper, foundInterfaces, foundMethods,
        foundSignature⟩, ?_⟩
    simp only [RawClass.bytes, raw, List.append_assoc]
  · rintro ⟨raw, fits, ⟨readable, minor, major, access, name, superName, interfaces, methods,
      signature⟩, rfl⟩
    have texts : raw.pool.text? = raw.text? := ConstantPool.text?_pool fits.count
    have names : raw.pool.className? = raw.className? := ConstantPool.className?_pool fits.count
    rw [← names] at name superName interfaces
    rw [← texts] at methods signature
    refine ⟨(), _, _, rfl, ⟨raw.minorVersion, _, _, rfl, ⟨raw.majorVersion, _, _, rfl,
      ⟨raw.pool, _, _, ⟨raw.constantCount, raw.constants, fits.constants, readable, fits.count,
        rfl, rfl⟩,
      ⟨raw.nameIndex, raw.superIndex, raw.interfaces, raw.fields, raw.methods, raw.attributes,
        ⟨fits.interfaces, fits.fields, fits.methods, fits.attributes⟩, minor, major, name,
        superName, interfaces, methods, signature, rfl⟩, rfl⟩, rfl⟩, rfl⟩, ?_⟩
    simp only [RawClass.bytes, access, List.append_assoc]

end TypeTokenWrappers.ClassFile
