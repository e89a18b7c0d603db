import TypeTokenWrappers.Proofs.ClassFile.Numbering
import TypeTokenWrappers.Proofs.ClassFile.Reader

/-! # What the parts of a class describe

A class is described by the texts that its numbers name. Which bytes are taken to
spell which text is left open, so the same description serves for the texts that a
writer encodes and for those that the reader decodes. -/

namespace TypeTokenWrappers.ClassFile

/-! ## Attributes -/

section Attributes

variable (TextAt : UInt16 → String → Prop)

/-- A generic signature attribute: its name says so, and its content is one number. -/
def RawAttribute.Signs (item : RawAttribute) (index : UInt16) : Prop :=
  TextAt item.nameIndex "Signature" ∧ item.content = bytesOfIndex index

/-- Names of attributes are texts, and so are generic signatures. -/
def RawAttribute.Resolves (item : RawAttribute) : Prop :=
  (∃ name, TextAt item.nameIndex name) ∧
    ∀ index, item.Signs TextAt index → ∃ signature, TextAt index signature

/-- The last generic signature among attributes. -/
inductive LastSignature : List RawAttribute → Option String → Prop
  | absent {attributes : List RawAttribute}
      (unsigned : ∀ item ∈ attributes, ∀ index, ¬ item.Signs TextAt index) :
      LastSignature attributes none
  | present {before after : List RawAttribute} {item : RawAttribute} {index : UInt16}
      {signature : String} (signs : item.Signs TextAt index) (text : TextAt index signature)
      (unsigned : ∀ later ∈ after, ∀ index, ¬ later.Signs TextAt index) :
      LastSignature (before ++ item :: after) (some signature)

variable {TextAt}

theorem RawAttribute.Signs.functional {item : RawAttribute} {index other : UInt16}
    (signs : item.Signs TextAt index) (another : item.Signs TextAt other) : index = other := by
  rw [← (eq_bytesOfIndex_iff.mp signs.2).2, (eq_bytesOfIndex_iff.mp another.2).2]

theorem LastSignature.append_singleton_iff {attributes : List RawAttribute}
    {item : RawAttribute} {signature : Option String} :
    LastSignature TextAt (attributes ++ [item]) signature ↔
      (∃ index text, item.Signs TextAt index ∧ TextAt index text ∧ signature = some text) ∨
        (∀ index, ¬ item.Signs TextAt index) ∧ LastSignature TextAt attributes signature := by
  constructor
  · intro last
    generalize whole : attributes ++ [item] = items at last
    cases last with
    | absent unsigned =>
        subst whole
        refine .inr ⟨unsigned item (by simp), .absent fun earlier member => ?_⟩
        exact unsigned earlier (List.mem_append_left _ member)
    | @present before after signed index text signs found unsigned =>
        cases after using List.reverseRecOn with
        | nil =>
            rcases List.append_inj' whole rfl with ⟨_, same⟩
            cases same
            exact .inl ⟨index, text, signs, found, rfl⟩
        | append_singleton after final =>
            rw [← List.cons_append, ← List.append_assoc] at whole
            rcases List.append_inj' whole rfl with ⟨rfl, same⟩
            cases same
            refine .inr ⟨unsigned item (by simp), .present signs found fun later member => ?_⟩
            exact unsigned later (List.mem_append_left _ member)
  · rintro (⟨index, text, signs, found, rfl⟩ | ⟨unsigned, last⟩)
    · exact .present signs found (List.forall_mem_nil _)
    · cases last with
      | absent earlier =>
          refine .absent fun other member => ?_
          rcases List.mem_append.mp member with member | member
          · exact earlier other member
          · rw [List.mem_singleton.mp member]
            exact unsigned
      | present signs found later =>
          rw [List.append_assoc, List.cons_append]
          refine .present signs found fun other member => ?_
          rcases List.mem_append.mp member with member | member
          · exact later other member
          · rw [List.mem_singleton.mp member]
            exact unsigned

theorem LastSignature.exists_of_resolves {attributes : List RawAttribute}
    (resolve : ∀ item ∈ attributes, item.Resolves TextAt) :
    ∃ signature, LastSignature TextAt attributes signature := by
  induction attributes using List.reverseRecOn with
  | nil => exact ⟨none, .absent (List.forall_mem_nil _)⟩
  | append_singleton attributes item induction =>
      rw [List.forall_mem_append, List.forall_mem_singleton] at resolve
      rcases resolve with ⟨earlier, _, signed⟩
      simp only [append_singleton_iff]
      by_cases signs : ∃ index, item.Signs TextAt index
      · rcases signs with ⟨index, signs⟩
        rcases signed index signs with ⟨text, found⟩
        exact ⟨some text, .inl ⟨index, text, signs, found, rfl⟩⟩
      · rcases induction earlier with ⟨signature, last⟩
        exact ⟨signature, .inr ⟨not_exists.mp signs, last⟩⟩

end Attributes

section Lookup

variable {text? : UInt16 → Option String}

theorem signatureOf?_eq_some_iff {name : String} {content : List UInt8}
    {value : Option String} :
    signatureOf? text? name content = some value ↔
      (∃ index text, (name = "Signature" ∧ content = bytesOfIndex index) ∧
        text? index = some text ∧ value = some text) ∨
      (∀ index, ¬ (name = "Signature" ∧ content = bytesOfIndex index)) ∧ value = none := by
  rw [signatureOf?]
  split
  case isTrue signature =>
    have number : content = bytesOfIndex (UInt16.ofNat (ByteReader.bigEndian content)) :=
      eq_bytesOfIndex_iff.mpr ⟨signature.2, rfl⟩
    rw [Option.map_eq_some_iff]
    constructor
    · rintro ⟨text, found, rfl⟩
      exact .inl ⟨_, text, ⟨signature.1, number⟩, found, rfl⟩
    · rintro (⟨index, text, ⟨_, same⟩, found, rfl⟩ | ⟨unsigned, _⟩)
      · rw [(eq_bytesOfIndex_iff.mp same).2]
        exact ⟨text, found, rfl⟩
      · exact absurd ⟨signature.1, number⟩ (unsigned _)
  case isFalse other =>
    have unsigned (index : UInt16) : ¬ (name = "Signature" ∧ content = bytesOfIndex index) :=
      fun signs => other ⟨signs.1, (eq_bytesOfIndex_iff.mp signs.2).1⟩
    constructor
    · intro equal
      cases equal
      exact .inr ⟨unsigned, rfl⟩
    · rintro (⟨index, _, signs, _⟩ | ⟨_, rfl⟩)
      · exact absurd signs (unsigned index)
      · rfl

theorem signature?_eq_some_iff {item : RawAttribute} {value : Option String} :
    item.signature? text? = some value ↔
      (∃ name, text? item.nameIndex = some name) ∧
        ((∃ index text, item.Signs (text? · = some ·) index ∧ text? index = some text ∧
          value = some text) ∨
        (∀ index, ¬ item.Signs (text? · = some ·) index) ∧ value = none) := by
  rw [RawAttribute.signature?]
  cases named : text? item.nameIndex with
  | none => simp
  | some name =>
      have present : ∃ other, some name = some other := ⟨name, rfl⟩
      rw [Option.bind_eq_bind, Option.bind_some, signatureOf?_eq_some_iff, and_iff_right present]
      simp only [RawAttribute.Signs, named, Option.some.injEq]

theorem lastSignature?_append_singleton {attributes : List RawAttribute} {item : RawAttribute}
    {signature : Option String} :
    lastSignature? text? (attributes ++ [item]) = some signature ↔
      ∃ earlier own, lastSignature? text? attributes = some earlier ∧
        item.signature? text? = some own ∧ signature = own.or earlier := by
  rw [lastSignature?, lastSignature?, List.mapM_append, List.mapM_cons, List.mapM_nil]
  cases attributes.mapM (RawAttribute.signature? text?) with
  | none => simp
  | some values =>
      cases item.signature? text? with
      | none => simp
      | some value =>
          have last : ((values ++ [value]).filterMap id).getLast? =
              value.or (values.filterMap id).getLast? := by
            rw [List.filterMap_append, List.getLast?_append]
            cases value <;> rfl
          change some ((values ++ [value]).filterMap id).getLast? = _ ↔ ∃ earlier own,
            some (values.filterMap id).getLast? = some earlier ∧ some value = some own ∧ _
          simp only [last, Option.some.injEq, ↓existsAndEq, true_and, eq_comm]

theorem lastSignature?_eq_some_iff {attributes : List RawAttribute}
    {signature : Option String} :
    lastSignature? text? attributes = some signature ↔
      (∀ item ∈ attributes, item.Resolves (text? · = some ·)) ∧
        LastSignature (text? · = some ·) attributes signature := by
  induction attributes using List.reverseRecOn generalizing signature with
  | nil =>
      constructor
      · intro last
        cases last
        exact ⟨List.forall_mem_nil _, .absent (List.forall_mem_nil _)⟩
      · rintro ⟨_, last⟩
        generalize whole : [] = items at last
        cases last with
        | absent => rw [← whole]; rfl
        | present => simp at whole
  | append_singleton attributes item induction =>
      rw [lastSignature?_append_singleton, LastSignature.append_singleton_iff,
        List.forall_mem_append, List.forall_mem_singleton]
      simp only [signature?_eq_some_iff, induction]
      constructor
      · rintro ⟨earlier, own, ⟨resolve, last⟩, ⟨named, signed⟩, rfl⟩
        rcases signed with ⟨index, text, signs, found, rfl⟩ | ⟨unsigned, rfl⟩
        · refine ⟨⟨resolve, named, fun other another => ⟨text, ?_⟩⟩,
            .inl ⟨index, text, signs, found, rfl⟩⟩
          rw [RawAttribute.Signs.functional another signs]
          exact found
        · exact ⟨⟨resolve, named, fun index signs => absurd signs (unsigned index)⟩,
            .inr ⟨unsigned, last⟩⟩
      · rintro ⟨⟨resolve, named, _⟩, ⟨index, text, signs, found, rfl⟩ | ⟨unsigned, last⟩⟩
        · rcases LastSignature.exists_of_resolves resolve with ⟨earlier, last⟩
          exact ⟨earlier, some text, ⟨resolve, last⟩,
            ⟨named, .inl ⟨index, text, signs, found, rfl⟩⟩, rfl⟩
        · exact ⟨signature, none, ⟨resolve, last⟩, ⟨named, .inr ⟨unsigned, rfl⟩⟩, rfl⟩

end Lookup

/-! ## Members and classes -/

section Classes

/-- The number of a method's name, of its descriptor and the numbers of its
attributes name texts. -/
structure RawMember.Resolves (TextAt : UInt16 → String → Prop) (member : RawMember) : Prop where
  name : ∃ name, TextAt member.nameIndex name
  descriptor : ∃ descriptor, TextAt member.descriptorIndex descriptor
  attributes : ∀ item ∈ member.attributes, item.Resolves TextAt

structure RawMember.Describes (TextAt : UInt16 → String → Prop) (member : RawMember)
    (method : CompiledMethod) : Prop where
  access : member.access = method.access
  name : TextAt member.nameIndex method.name
  descriptor : TextAt member.descriptorIndex method.descriptor
  signature : LastSignature TextAt member.attributes method.signature

namespace RawClass

variable (raw : RawClass)

/-- A number names a text constant that spells this text. -/
def TextAt (Spells : List UInt8 → String → Prop) (index : UInt16) (text : String) : Prop :=
  ∃ content, Holds raw.constants index (.text content) ∧ Spells content text

variable (TextAt : UInt16 → String → Prop)

/-- A number names a class reference whose number names this text. -/
def ClassAt (index : UInt16) (name : String) : Prop :=
  ∃ nameIndex, Holds raw.constants index (.classReference nameIndex) ∧ TextAt nameIndex name

/-- Every number of the class names a constant of the kind that belongs there. -/
structure Resolves : Prop where
  name : ∃ name, raw.ClassAt TextAt raw.nameIndex name
  superName : raw.superIndex ≠ 0 → ∃ name, raw.ClassAt TextAt raw.superIndex name
  interfaces : ∀ index ∈ raw.interfaces, ∃ name, raw.ClassAt TextAt index name
  methods : ∀ member ∈ raw.methods, member.Resolves TextAt
  attributes : ∀ item ∈ raw.attributes, item.Resolves TextAt

structure Describes (compiled : CompiledClass) : Prop where
  minorVersion : raw.minorVersion = compiled.header.minorVersion
  majorVersion : raw.majorVersion = compiled.header.majorVersion
  access : raw.access = compiled.header.access
  name : raw.ClassAt TextAt raw.nameIndex compiled.header.name
  superName : match compiled.header.superName with
    | none => raw.superIndex = 0
    | some name => raw.ClassAt TextAt raw.superIndex name
  interfaces : List.Forall₂ (raw.ClassAt TextAt) raw.interfaces compiled.header.interfaces
  methods : List.Forall₂ (RawMember.Describes TextAt) raw.methods compiled.methods
  signature : LastSignature TextAt raw.attributes compiled.header.signature

end RawClass

/-- What the reader takes bytes to spell. -/
def Decodes (content : List UInt8) (text : String) : Prop :=
  ModifiedUtf8.decode? content = some text.toList

theorem text?_eq_some_iff {raw : RawClass} {index : UInt16} {text : String} :
    raw.text? index = some text ↔ raw.TextAt Decodes index text := by
  rw [RawClass.text?, Option.bind_eq_some_iff]
  simp only [constant?_eq_some_iff]
  constructor
  · rintro ⟨constant, holds, found⟩
    cases constant with
    | text content =>
        rcases Option.map_eq_some_iff.mp found with ⟨characters, decoded, rfl⟩
        exact ⟨content, holds, decoded.trans (by rw [String.toList_ofList])⟩
    | classReference | other => cases found
  · rintro ⟨content, holds, decodes⟩
    refine ⟨.text content, holds, ?_⟩
    rw [RawConstant.text?, decodes, Option.map_some, String.ofList_toList]

theorem className?_eq_some_iff {raw : RawClass} {index : UInt16} {name : String} :
    raw.className? index = some name ↔ raw.ClassAt (raw.TextAt Decodes) index name := by
  simp only [RawClass.className?, Option.bind_eq_some_iff, constant?_eq_some_iff,
    text?_eq_some_iff, RawClass.ClassAt]
  constructor
  · rintro ⟨nameIndex, ⟨constant, holds, found⟩, named⟩
    cases constant with
    | classReference =>
        cases found
        exact ⟨nameIndex, holds, named⟩
    | text | other => cases found
  · rintro ⟨nameIndex, holds, named⟩
    exact ⟨nameIndex, ⟨_, holds, rfl⟩, named⟩

theorem superName?_eq_some_iff {raw : RawClass} {superName : Option String} :
    superName? raw.className? raw.superIndex = some superName ↔
      match superName with
      | none => raw.superIndex = 0
      | some name => raw.ClassAt (raw.TextAt Decodes) raw.superIndex name := by
  rw [superName?]
  split
  case isTrue zero =>
    cases superName with
    | none => simp [zero]
    | some name =>
        simp only [Option.some.injEq, reduceCtorEq, false_iff]
        rintro ⟨_, holds, _⟩
        exact holds.ne_zero zero
  case isFalse other =>
    cases superName with
    | none => simp [other]
    | some name => simp [className?_eq_some_iff]

theorem method?_eq_some_iff_describes {text? : UInt16 → Option String} {member : RawMember}
    {method : CompiledMethod} :
    member.method? text? = some method ↔
      member.Resolves (text? · = some ·) ∧ member.Describes (text? · = some ·) method := by
  rw [method?_eq_some_iff, lastSignature?_eq_some_iff]
  constructor
  · rintro ⟨access, name, descriptor, resolve, signature⟩
    exact ⟨⟨⟨_, name⟩, ⟨_, descriptor⟩, resolve⟩, ⟨access, name, descriptor, signature⟩⟩
  · rintro ⟨resolves, describes⟩
    exact ⟨describes.access, describes.name, describes.descriptor, resolves.attributes,
      describes.signature⟩

/-- Every item is related to something if and only if all of them are related to a
list of things. -/
theorem exists_forall₂_iff {relation : α → β → Prop} {items : List α} :
    (∃ values, List.Forall₂ relation items values) ↔
      ∀ item ∈ items, ∃ value, relation item value := by
  induction items with
  | nil => simp
  | cons item items induction =>
      rw [List.forall_mem_cons, ← induction]
      constructor
      · rintro ⟨_, related⟩
        cases related with
        | cons first others => exact ⟨⟨_, first⟩, _, others⟩
      · rintro ⟨⟨value, first⟩, values, others⟩
        exact ⟨value :: values, .cons first others⟩

/-- The class that parts mean is the one that they describe, by the texts that the
reader decodes. -/
theorem compiled?_eq_some_iff_describes {raw : RawClass} {compiled : CompiledClass} :
    raw.compiled? = some compiled ↔
      raw.constants.all RawConstant.readable = true ∧ raw.Resolves (raw.TextAt Decodes) ∧
        raw.Describes (raw.TextAt Decodes) compiled := by
  have texts : (raw.text? · = some ·) = raw.TextAt Decodes := by
    funext index text
    exact propext text?_eq_some_iff
  rw [compiled?_eq_some_iff, superName?_eq_some_iff, className?_eq_some_iff,
    mapM_eq_some_iff, mapM_eq_some_iff, lastSignature?_eq_some_iff]
  simp only [className?_eq_some_iff, method?_eq_some_iff_describes, List.forall₂_and_left, texts]
  constructor
  · rintro ⟨readable, minor, major, access, name, superName, interfaces, ⟨methodsResolve, methods⟩,
      attributesResolve, signature⟩
    refine ⟨readable, ⟨⟨_, name⟩, ?_, ?_, methodsResolve, attributesResolve⟩,
      ⟨minor, major, access, name, superName, interfaces, methods, signature⟩⟩
    · intro present
      cases super : compiled.header.superName with
      | none =>
          rw [super] at superName
          exact absurd superName present
      | some name =>
          rw [super] at superName
          exact ⟨name, superName⟩
    · exact exists_forall₂_iff.mp ⟨_, interfaces⟩
  · rintro ⟨readable, resolves, describes⟩
    exact ⟨readable, describes.minorVersion, describes.majorVersion, describes.access,
      describes.name, describes.superName, describes.interfaces,
      ⟨resolves.methods, describes.methods⟩, resolves.attributes, describes.signature⟩

theorem RawMember.Resolves.exists_describes {TextAt : UInt16 → String → Prop}
    {member : RawMember} (resolves : member.Resolves TextAt) :
    ∃ method, member.Describes TextAt method := by
  rcases resolves.name with ⟨name, named⟩
  rcases resolves.descriptor with ⟨descriptor, described⟩
  rcases LastSignature.exists_of_resolves resolves.attributes with ⟨signature, signed⟩
  exact ⟨⟨member.access, name, descriptor, signature⟩, ⟨rfl, named, described, signed⟩⟩

/-- A class whose numbers name what they have to name describes a class. -/
theorem RawClass.Resolves.exists_describes {raw : RawClass}
    {TextAt : UInt16 → String → Prop} (resolves : raw.Resolves TextAt) :
    ∃ compiled, raw.Describes TextAt compiled := by
  have super : ∃ superName : Option String, match superName with
      | none => raw.superIndex = 0
      | some name => raw.ClassAt TextAt raw.superIndex name := by
    by_cases absent : raw.superIndex = 0
    · exact ⟨none, absent⟩
    · rcases resolves.superName absent with ⟨name, named⟩
      exact ⟨some name, named⟩
  rcases resolves.name with ⟨name, named⟩
  rcases super with ⟨superName, super⟩
  rcases exists_forall₂_iff.mpr resolves.interfaces with ⟨interfaces, implemented⟩
  rcases exists_forall₂_iff.mpr fun member inside =>
    (resolves.methods member inside).exists_describes with ⟨methods, described⟩
  rcases LastSignature.exists_of_resolves resolves.attributes with ⟨signature, signed⟩
  exact ⟨⟨⟨raw.majorVersion, raw.minorVersion, raw.access, name, signature, superName,
    interfaces⟩, methods⟩, ⟨rfl, rfl, rfl, named, super, implemented, described, signed⟩⟩

end Classes

end TypeTokenWrappers.ClassFile
