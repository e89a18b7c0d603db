import TypeTokenWrappers.Proofs.ClassFile.ByteReader

/-! # Reading the constant pool

The pool that is read holds the meaning of each raw constant at its number, so a
look-up in it finds what the raw constants say. -/

namespace TypeTokenWrappers.ClassFile

open ByteReader

/-! ## One constant -/

namespace ConstantKind

def shape (kind : ConstantKind) : ConstantShape :=
  if kind.wide then .wide else .plain kind.size

theorem ofTag?_tag (kind : ConstantKind) : ConstantShape.ofTag? kind.tag = some kind.shape := by
  cases kind <;> rfl

theorem shape_ne_text (kind : ConstantKind) : kind.shape ≠ .text := by
  cases kind <;> decide

theorem shape_ne_classReference (kind : ConstantKind) : kind.shape ≠ .classReference := by
  cases kind <;> decide

theorem shape_eq_plain_iff {kind : ConstantKind} {size : Nat} :
    kind.shape = .plain size ↔ kind.size = size ∧ kind.wide = false := by
  cases kind <;> simp [shape, wide, ConstantKind.size]

theorem shape_eq_wide_iff {kind : ConstantKind} :
    kind.shape = .wide ↔ kind.size = 8 ∧ kind.wide = true := by
  cases kind <;> simp [shape, wide, size]

/-- Every tag that is known is that of a text, of a class reference or of a kind. -/
theorem cases_of_ofTag? {tag : UInt8} {shape : ConstantShape}
    (found : ConstantShape.ofTag? tag = some shape) :
    shape = .text ∧ tag = 1 ∨ shape = .classReference ∧ tag = 7 ∨
      ∃ kind : ConstantKind, kind.tag = tag ∧ kind.shape = shape := by
  unfold ConstantShape.ofTag? at found
  split at found <;> cases found
  · exact .inl ⟨rfl, rfl⟩
  · exact .inr (.inl ⟨rfl, rfl⟩)
  · exact .inr (.inr ⟨.integer, rfl, rfl⟩)
  · exact .inr (.inr ⟨.float, rfl, rfl⟩)
  · exact .inr (.inr ⟨.long, rfl, rfl⟩)
  · exact .inr (.inr ⟨.double, rfl, rfl⟩)
  · exact .inr (.inr ⟨.string, rfl, rfl⟩)
  · exact .inr (.inr ⟨.methodType, rfl, rfl⟩)
  · exact .inr (.inr ⟨.moduleReference, rfl, rfl⟩)
  · exact .inr (.inr ⟨.packageReference, rfl, rfl⟩)
  · exact .inr (.inr ⟨.methodHandle, rfl, rfl⟩)
  · exact .inr (.inr ⟨.fieldReference, rfl, rfl⟩)
  · exact .inr (.inr ⟨.methodReference, rfl, rfl⟩)
  · exact .inr (.inr ⟨.interfaceMethodReference, rfl, rfl⟩)
  · exact .inr (.inr ⟨.nameAndType, rfl, rfl⟩)
  · exact .inr (.inr ⟨.dynamic, rfl, rfl⟩)
  · exact .inr (.inr ⟨.invokeDynamic, rfl, rfl⟩)

end ConstantKind

namespace RawConstant

def tag : RawConstant → UInt8
  | .text _ => 1
  | .classReference _ => 7
  | .other kind _ => kind.tag

def shape : RawConstant → ConstantShape
  | .text _ => .text
  | .classReference _ => .classReference
  | .other kind _ => kind.shape

def body : RawConstant → List UInt8
  | .text content => bytesOfNumber 2 content.length ++ content
  | .classReference nameIndex => bytesOfIndex nameIndex
  | .other _ content => content

/-- The constant that is kept of a raw one, if its text can be read. -/
def kept? : RawConstant → Option Constant
  | .text content => (ModifiedUtf8.decode? content).map fun text => .text (String.ofList text)
  | .classReference nameIndex => some (.classReference nameIndex)
  | .other _ _ => some .other

/-- The kept constant, and whether it takes a second number. -/
def read? (raw : RawConstant) : Option (Constant × Bool) :=
  raw.kept?.map fun constant => (constant, raw.wide)

theorem bytes_eq (raw : RawConstant) : raw.bytes = raw.tag :: raw.body := by
  cases raw <;> rfl

theorem ofTag?_tag (raw : RawConstant) : ConstantShape.ofTag? raw.tag = some raw.shape := by
  cases raw with
  | text => rfl
  | classReference => rfl
  | other kind => exact kind.ofTag?_tag

theorem shape_eq {raw : RawConstant} {shape : ConstantShape}
    (found : ConstantShape.ofTag? raw.tag = some shape) : raw.shape = shape :=
  Option.some.inj (raw.ofTag?_tag.symm.trans found)

end RawConstant

/-- What may stand behind a tag. -/
def bodyLayout (tag : UInt8) : Layout (Constant × Bool) := fun bytes value =>
  ∃ raw : RawConstant, raw.Fits ∧ raw.tag = tag ∧ raw.read? = some value ∧ bytes = raw.body

/-- What a text constant holds behind its length. -/
def textLayout (content : List UInt8) : Layout (Constant × Bool) := fun bytes value =>
  bytes = [] ∧ (RawConstant.text content).read? = some value

theorem follows_textBehind (content : List UInt8) (start : Nat) :
    Follows (match ModifiedUtf8.decode? content with
      | none => ByteReader.failAt .invalidText start
      | some text => return (Constant.text (String.ofList text), false))
      (textLayout content) := by
  split
  case h_1 broken =>
    refine (Follows.failAt .invalidText start).congr ?_
    intro bytes value
    simp [textLayout, RawConstant.read?, RawConstant.kept?, broken]
  case h_2 text decoded =>
    refine (Follows.pure _).congr ?_
    intro bytes value
    simp [textLayout, RawConstant.read?, RawConstant.kept?, decoded, Layout.nothing,
      RawConstant.wide, eq_comm]

theorem follows_text {tag : UInt8} (found : ConstantShape.ofTag? tag = some .text)
    (start : Nat) :
    Follows (do
      let length ← u2
      let bytes ← take length.toNat
      match ModifiedUtf8.decode? bytes with
      | none => ByteReader.failAt .invalidText start
      | some text => return (Constant.text (String.ofList text), false)) (bodyLayout tag) := by
  refine (follows_u2.bind fun length => (follows_take length.toNat).bind
    fun content => follows_textBehind content start).congr ?_
  intro bytes value
  constructor
  · rintro ⟨length, _, _, rfl, ⟨content, _, _, ⟨rfl, size⟩, ⟨rfl, read⟩, rfl⟩, rfl⟩
    refine ⟨.text _, ?_, ?_, read, ?_⟩
    · rw [RawConstant.Fits, size]
      exact length.toNat_lt
    · rcases ConstantKind.cases_of_ofTag? found with ⟨_, rfl⟩ | ⟨other, _⟩ | ⟨kind, _, other⟩
      · rfl
      · cases other
      · exact absurd other kind.shape_ne_text
    · rw [RawConstant.body, size, List.append_nil]
      rfl
  · rintro ⟨raw, fits, rfl, read, rfl⟩
    have shape := RawConstant.shape_eq found
    cases raw with
    | text content =>
        have length : (UInt16.ofNat content.length).toNat = content.length :=
          UInt16.toNat_ofNat_of_lt' fits
        refine ⟨_, _, _, rfl, ⟨content, _, _, ⟨rfl, length.symm⟩, ⟨rfl, read⟩, rfl⟩, ?_⟩
        rw [RawConstant.body, bytesOfIndex, length, List.append_nil]
    | classReference => cases shape
    | other kind => exact absurd shape kind.shape_ne_text

/-- What the content of a text constant that begins at this offset spells, by a way to decode
it. -/
def textOf (decode : List UInt8 → Option (List Char)) (content : List UInt8) (offset : Nat) :
    Except ClassFormatError String :=
  match decode content with
  | none => .error ⟨.invalidText, offset⟩
  | some text => .ok (String.ofList text)

theorem readConstant_text {content : List UInt8} (short : content.length < 0x10000)
    (rest : List UInt8) (offset : Nat) :
    readConstant ⟨(RawConstant.text content).bytes ++ rest, offset⟩ =
      (textOf ModifiedUtf8.decode? content offset).map fun text =>
        ((.text text, false), ⟨rest, offset + (RawConstant.text content).bytes.length⟩) := by
  have length : (UInt16.ofNat content.length).toNat = content.length :=
    UInt16.toNat_ofNat_of_lt' short
  have bytes : (RawConstant.text content).bytes =
      [1] ++ (bytesOfIndex (UInt16.ofNat content.length) ++ content) := by
    rw [bytesOfIndex, length]
    rfl
  have start : ByteReader.offset
      ⟨(RawConstant.text content).bytes ++ rest, offset⟩ = .ok (offset, ⟨_, offset⟩) := rfl
  rw [readConstant, bind_of_ok start, bytes]
  simp only [List.append_assoc]
  rw [bind_of_ok (follows_u1.read rfl _ _)]
  change (u2 >>= _) _ = _
  rw [bind_of_ok (follows_u2.read rfl _ _), length,
    bind_of_ok ((follows_take content.length).read ⟨rfl, rfl⟩ _ _), textOf]
  cases ModifiedUtf8.decode? content with
  | none => rfl
  | some text =>
      simp only [List.length_append, ← Nat.add_assoc]
      rfl

theorem follows_classReference {tag : UInt8}
    (found : ConstantShape.ofTag? tag = some .classReference) :
    Follows (do return (Constant.classReference (← u2), false)) (bodyLayout tag) := by
  refine (follows_u2.bind fun nameIndex => .pure _).congr ?_
  intro bytes value
  constructor
  · rintro ⟨nameIndex, _, _, rfl, ⟨rfl, rfl⟩, rfl⟩
    refine ⟨.classReference nameIndex, trivial, ?_, rfl, List.append_nil _⟩
    rcases ConstantKind.cases_of_ofTag? found with ⟨other, _⟩ | ⟨_, rfl⟩ | ⟨kind, _, other⟩
    · cases other
    · rfl
    · exact absurd other kind.shape_ne_classReference
  · rintro ⟨raw, fits, rfl, read, rfl⟩
    have shape := RawConstant.shape_eq found
    cases raw with
    | text => cases shape
    | classReference nameIndex =>
        cases read
        exact ⟨nameIndex, _, [], rfl, ⟨rfl, rfl⟩, (List.append_nil _).symm⟩
    | other kind => exact absurd shape kind.shape_ne_classReference

theorem follows_other {tag : UInt8} {shape : ConstantShape} {size : Nat} {second : Bool}
    (found : ConstantShape.ofTag? tag = some shape)
    (same : ∀ kind : ConstantKind, kind.shape = shape ↔ kind.size = size ∧ kind.wide = second)
    (notText : shape ≠ .text) (notClass : shape ≠ .classReference) :
    Follows (do
      skip size
      return (Constant.other, second)) (bodyLayout tag) := by
  refine ((follows_skip size).bind fun _ => .pure _).congr ?_
  intro bytes value
  constructor
  · rintro ⟨_, content, _, rfl, ⟨rfl, rfl⟩, rfl⟩
    rcases ConstantKind.cases_of_ofTag? found with ⟨text, _⟩ | ⟨reference, _⟩ | ⟨kind, tag, shape⟩
    · exact absurd text notText
    · exact absurd reference notClass
    · rcases (same kind).mp shape with ⟨size, wide⟩
      refine ⟨.other kind content, size.symm, tag, ?_, List.append_nil content⟩
      rw [← wide]
      rfl
  · rintro ⟨raw, fits, rfl, read, rfl⟩
    have shape := RawConstant.shape_eq found
    cases raw with
    | text => exact absurd shape.symm notText
    | classReference => exact absurd shape.symm notClass
    | other kind content =>
        rcases (same kind).mp shape with ⟨size, wide⟩
        cases read
        exact ⟨(), content, [], fits.trans size, ⟨rfl, congrArg _ wide⟩,
          (List.append_nil content).symm⟩

theorem follows_readConstant :
    Follows readConstant (.formed RawConstant.Fits RawConstant.bytes RawConstant.read?) := by
  refine (Follows.withOffset fun start => follows_u1.bind fun tag =>
    (?_ : Follows _ (bodyLayout tag))).congr ?_
  · split
    case h_1 unknown =>
      refine (Follows.failAt (.invalidTag tag) start).congr ?_
      intro bytes value
      constructor
      · exact False.elim
      · rintro ⟨raw, _, rfl, _, _⟩
        rw [raw.ofTag?_tag] at unknown
        cases unknown
    case h_2 found => exact follows_text found start
    case h_3 found => exact follows_classReference found
    case h_4 found =>
      exact follows_other found (fun _ => ConstantKind.shape_eq_plain_iff) nofun nofun
    case h_5 found =>
      exact follows_other found (fun _ => ConstantKind.shape_eq_wide_iff) nofun nofun
  · intro bytes value
    constructor
    · rintro ⟨tag, _, body, rfl, ⟨raw, fits, rfl, read, rfl⟩, rfl⟩
      exact ⟨raw, fits, read, raw.bytes_eq.symm⟩
    · rintro ⟨raw, fits, read, rfl⟩
      exact ⟨raw.tag, [raw.tag], raw.body, rfl, ⟨raw, fits, rfl, read, rfl⟩, raw.bytes_eq⟩

/-! ## All constants -/

/-- The numbers that constants take, behind a second number if one is left over. -/
def slots (second : Bool) (constants : List RawConstant) : List (Option RawConstant) :=
  (if second then [none] else []) ++ constants.flatMap RawConstant.numbers

theorem slots_cons (raw : RawConstant) (constants : List RawConstant) :
    slots false (raw :: constants) = some raw :: slots raw.wide constants := by
  cases raw <;> rfl

/-- Whether slots fill the numbers that remain. A slot that names nothing may be
one too many at the end. -/
def Covers (remaining : Nat) (slots : List (Option RawConstant)) : Prop :=
  slots.length = remaining ∨ slots.length = remaining + 1 ∧ slots.getLast? = some none

theorem covers_cons {remaining : Nat} {slot : Option RawConstant}
    {slots : List (Option RawConstant)} :
    Covers (remaining + 1) (slot :: slots) ↔ Covers remaining slots := by
  cases slots <;> simp [Covers, eq_comm]

theorem eq_nil_of_covers_zero {second : Bool} {constants : List RawConstant}
    (covers : Covers 0 (slots second constants)) : constants = [] := by
  cases constants with
  | nil => rfl
  | cons raw constants =>
      cases second with
      | false =>
          rw [slots_cons] at covers
          rcases covers with none | ⟨single, last⟩
          · cases none
          · rw [List.length_cons, Nat.add_right_cancel_iff, List.length_eq_zero_iff] at single
            rw [single] at last
            cases last
      | true =>
          have front : slots true (raw :: constants) = none :: slots false (raw :: constants) := rfl
          rw [front, slots_cons] at covers
          simp [Covers] at covers

/-- What is kept of the first numbers. -/
def keptPool (count : Nat) (slots : List (Option RawConstant)) : ConstantPool :=
  (slots.take count).map fun slot => slot.bind RawConstant.kept?

def poolLayout (second : Bool) (remaining : Nat) : Layout ConstantPool := fun bytes pool =>
  ∃ constants : List RawConstant,
    (∀ raw ∈ constants, raw.Fits) ∧ (∀ raw ∈ constants, raw.kept?.isSome) ∧
      Covers remaining (slots second constants) ∧
      pool = keptPool remaining (slots second constants) ∧
      bytes = constants.flatMap RawConstant.bytes

theorem poolLayout_zero {second : Bool} {bytes : List UInt8} {pool : ConstantPool} :
    poolLayout second 0 bytes pool ↔ bytes = [] ∧ pool = [] := by
  constructor
  · rintro ⟨constants, _, _, covers, rfl, rfl⟩
    rw [eq_nil_of_covers_zero covers]
    exact ⟨rfl, rfl⟩
  · rintro ⟨rfl, rfl⟩
    refine ⟨[], List.forall_mem_nil _, List.forall_mem_nil _, ?_, rfl, rfl⟩
    cases second with
    | false => exact .inl rfl
    | true => exact .inr ⟨rfl, rfl⟩

theorem poolLayout_second {remaining : Nat} {bytes : List UInt8} {pool : ConstantPool} :
    poolLayout true (remaining + 1) bytes pool ↔
      ∃ others, poolLayout false remaining bytes others ∧ pool = none :: others := by
  have front (constants) : slots true constants = none :: slots false constants := rfl
  constructor
  · rintro ⟨constants, fit, kept, covers, rfl, rfl⟩
    rw [front, covers_cons] at covers
    exact ⟨_, ⟨constants, fit, kept, covers, rfl, rfl⟩, rfl⟩
  · rintro ⟨_, ⟨constants, fit, kept, covers, rfl, rfl⟩, rfl⟩
    exact ⟨constants, fit, kept, covers_cons.mpr covers, rfl, rfl⟩

theorem poolLayout_first {remaining : Nat} {bytes : List UInt8} {pool : ConstantPool} :
    poolLayout false (remaining + 1) bytes pool ↔
      ∃ (raw : RawConstant) (constant : Constant) (others : ConstantPool) (back : List UInt8),
      raw.Fits ∧ raw.kept? = some constant ∧
        poolLayout raw.wide remaining back others ∧
        pool = some constant :: others ∧ bytes = raw.bytes ++ back := by
  constructor
  · rintro ⟨constants, fit, kept, covers, rfl, rfl⟩
    cases constants with
    | nil => simp [slots, Covers] at covers
    | cons raw constants =>
        rcases List.forall_mem_cons.mp fit with ⟨fits, fit⟩
        rcases List.forall_mem_cons.mp kept with ⟨found, kept⟩
        rcases Option.isSome_iff_exists.mp found with ⟨constant, found⟩
        rw [slots_cons, covers_cons] at covers
        refine ⟨raw, constant, _, _, fits, found,
          ⟨constants, fit, kept, covers, rfl, rfl⟩, ?_, rfl⟩
        rw [slots_cons, ← found]
        rfl
  · rintro ⟨raw, constant, _, _, fits, found, ⟨constants, fit, kept, covers, rfl, rfl⟩,
      rfl, rfl⟩
    refine ⟨raw :: constants, List.forall_mem_cons.mpr ⟨fits, fit⟩,
      List.forall_mem_cons.mpr ⟨?_, kept⟩, ?_, ?_, rfl⟩
    · rw [found]
      rfl
    · rw [slots_cons]
      exact covers_cons.mpr covers
    · rw [slots_cons, ← found]
      rfl

theorem follows_readConstants (second : Bool) (remaining : Nat) :
    Follows (readConstants second remaining) (poolLayout second remaining) := by
  -- A wide constant leaves its second number to the next round, so the law is shown
  -- with and without one left over.
  induction remaining generalizing second with
  | zero =>
      refine (Follows.pure []).congr ?_
      intro bytes pool
      exact poolLayout_zero.symm
  | succ remaining induction =>
      cases second with
      | true =>
          refine ((induction false).bind fun others => .pure (none :: others)).congr ?_
          intro bytes pool
          rw [poolLayout_second]
          constructor
          · rintro ⟨others, _, _, follows, ⟨rfl, rfl⟩, rfl⟩
            rw [List.append_nil]
            exact ⟨others, follows, rfl⟩
          · rintro ⟨others, follows, rfl⟩
            exact ⟨others, bytes, [], follows, ⟨rfl, rfl⟩, (List.append_nil bytes).symm⟩
      | false =>
          refine (follows_readConstant.bind fun first => (induction first.2).bind fun others =>
            .pure (some first.1 :: others)).congr ?_
          intro bytes pool
          rw [poolLayout_first]
          constructor
          · rintro ⟨_, _, _, ⟨raw, fits, read, rfl⟩,
              ⟨others, _, _, follows, ⟨rfl, rfl⟩, rfl⟩, rfl⟩
            rcases Option.map_eq_some_iff.mp read with ⟨constant, found, rfl⟩
            rw [List.append_nil]
            exact ⟨raw, constant, others, _, fits, found, follows, rfl, rfl⟩
          · rintro ⟨raw, constant, others, back, fits, found, follows, rfl, rfl⟩
            have read : raw.read? = some (constant, raw.wide) := by
              rw [RawConstant.read?, found]
              rfl
            exact ⟨_, _, _, ⟨raw, fits, read, rfl⟩, ⟨others, back, [], follows, ⟨rfl, rfl⟩,
              (List.append_nil back).symm⟩, rfl⟩

/-! ## The pool -/

theorem readable_eq (raw : RawConstant) : raw.readable = raw.kept?.isSome := by
  cases raw <;> simp [RawConstant.readable, RawConstant.kept?]

theorem numbered_eq (constants : List RawConstant) :
    numbered constants = none :: slots false constants := rfl

theorem slots_append_singleton (constants : List RawConstant) (last : RawConstant) :
    slots false (constants ++ [last]) = slots false constants ++ last.numbers := by
  simp [slots]

theorem length_slots (constants : List RawConstant) :
    (slots false constants).length = totalWidth constants := by
  induction constants with
  | nil => rfl
  | cons raw constants induction =>
      have widths : totalWidth (raw :: constants) = raw.width + totalWidth constants := rfl
      rw [slots_cons, List.length_cons, widths, RawConstant.width, ← induction]
      cases raw.wide <;> simp [slots] <;> omega

theorem getLast?_slots (constants : List RawConstant) :
    (slots false constants).getLast? = some none ↔ constants.getLast?.any RawConstant.wide := by
  induction constants using List.reverseRecOn with
  | nil => simp [slots]
  | append_singleton constants last =>
      rw [slots_append_singleton, RawConstant.numbers]
      cases wide : last.wide <;> simp [wide]

theorem fill_iff (count : Nat) (constants : List RawConstant) :
    Fill count constants ↔ Covers (count - 1) (slots false constants) := by
  rw [Fill, Covers, length_slots, getLast?_slots]

theorem follows_readConstantPool :
    Follows readConstantPool fun bytes pool => ∃ (count : UInt16) (constants : List RawConstant),
      (∀ raw ∈ constants, raw.Fits) ∧ constants.all RawConstant.readable = true ∧
        Fill count.toNat constants ∧ pool = keptPool (max count.toNat 1) (numbered constants) ∧
        bytes = bytesOfIndex count ++ constants.flatMap RawConstant.bytes := by
  refine (follows_u2.bind fun count => (follows_readConstants false (count.toNat - 1)).bind
    fun constants => .pure (none :: constants)).congr ?_
  intro bytes pool
  have kept (count : Nat) (constants : List RawConstant) :
      keptPool (max count 1) (numbered constants) =
        none :: keptPool (count - 1) (slots false constants) := by
    have positive : max count 1 = count - 1 + 1 := by omega
    rw [positive]
    rfl
  simp only [fill_iff, kept, List.all_eq_true, readable_eq]
  constructor
  · rintro ⟨count, _, _, rfl, ⟨_, _, _, ⟨constants, fit, readable, covers, rfl, rfl⟩, ⟨rfl, rfl⟩,
      rfl⟩, rfl⟩
    rw [List.append_nil]
    exact ⟨count, constants, fit, readable, covers, rfl, rfl⟩
  · rintro ⟨count, constants, fit, readable, covers, rfl, rfl⟩
    exact ⟨count, _, _, rfl, ⟨_, _, [], ⟨constants, fit, readable, covers, rfl, rfl⟩, ⟨rfl, rfl⟩,
      (List.append_nil _).symm⟩, rfl⟩

/-! ## Look-ups -/

/-- Numbers that are not below the count name nothing. -/
theorem join_getElem?_numbered_eq_none {count : Nat} {constants : List RawConstant}
    (fill : Fill count constants) {number : Nat} (beyond : max count 1 ≤ number) :
    (numbered constants)[number]?.join = none := by
  have length : (numbered constants).length = (slots false constants).length + 1 := rfl
  rcases Nat.lt_or_ge number (numbered constants).length with within | outside
  · rcases (fill_iff count constants).mp fill with filled | ⟨excess, last⟩
    · omega
    · have position : number = (slots false constants).length - 1 + 1 := by omega
      rw [numbered_eq, position, List.getElem?_cons_succ, ← List.getLast?_eq_getElem?, last]
      rfl
  · rw [List.getElem?_eq_none outside]
    rfl

/-- A number finds in the kept pool what it names among the raw constants. -/
theorem join_getElem?_keptPool {count : Nat} {constants : List RawConstant}
    (fill : Fill count constants) (number : Nat) :
    (keptPool (max count 1) (numbered constants))[number]?.join =
      (numbered constants)[number]?.join.bind RawConstant.kept? := by
  rw [keptPool, List.getElem?_map, List.getElem?_take]
  split
  case isTrue =>
    cases (numbered constants)[number]? <;> rfl
  case isFalse beyond =>
    rw [join_getElem?_numbered_eq_none fill (by omega)]
    rfl

/-- What is kept of the constants of a class. -/
def RawClass.pool (raw : RawClass) : ConstantPool :=
  keptPool (max raw.constantCount.toNat 1) (numbered raw.constants)

namespace RawConstant

theorem kept?_eq_text_iff {raw : RawConstant} {value : String} :
    raw.kept? = some (.text value) ↔ raw.text? = some value := by
  cases raw <;> simp [kept?, text?]

theorem kept?_eq_classReference_iff {raw : RawConstant} {nameIndex : UInt16} :
    raw.kept? = some (.classReference nameIndex) ↔ raw.nameIndex? = some nameIndex := by
  cases raw <;> simp [kept?, nameIndex?]

end RawConstant

namespace ConstantPool

/-- The name behind a class reference. -/
def className? (pool : ConstantPool) (index : UInt16) : Option String :=
  (pool.classNameIndex? index).bind pool.text?

theorem text?_eq_some_iff {pool : ConstantPool} {index : UInt16} {value : String} :
    pool.text? index = some value ↔ pool[index.toNat]?.join = some (.text value) := by
  rw [Option.join_eq_some_iff, text?]
  split
  case h_1 found => simp [found]
  case h_2 other =>
    constructor
    · intro impossible
      cases impossible
    · intro found
      exact absurd found (other value)

theorem classNameIndex?_eq_some_iff {pool : ConstantPool} {index nameIndex : UInt16} :
    pool.classNameIndex? index = some nameIndex ↔
      pool[index.toNat]?.join = some (.classReference nameIndex) := by
  rw [Option.join_eq_some_iff, classNameIndex?]
  split
  case h_1 found => simp [found]
  case h_2 other =>
    constructor
    · intro impossible
      cases impossible
    · intro found
      exact absurd found (other nameIndex)

variable {raw : RawClass} (fill : Fill raw.constantCount.toNat raw.constants)
include fill

/-- The pool gives what it keeps of the constant that an index names. -/
theorem join_getElem?_pool (index : UInt16) :
    raw.pool[index.toNat]?.join = (raw.constant? index).bind RawConstant.kept? :=
  join_getElem?_keptPool fill index.toNat

theorem text?_pool : raw.pool.text? = raw.text? := by
  funext index
  ext value
  rw [text?_eq_some_iff, join_getElem?_pool fill, RawClass.text?, Option.bind_eq_some_iff,
    Option.bind_eq_some_iff]
  simp only [RawConstant.kept?_eq_text_iff]

theorem classNameIndex?_pool (index : UInt16) :
    raw.pool.classNameIndex? index = (raw.constant? index).bind RawConstant.nameIndex? := by
  ext nameIndex
  rw [classNameIndex?_eq_some_iff, join_getElem?_pool fill, Option.bind_eq_some_iff,
    Option.bind_eq_some_iff]
  simp only [RawConstant.kept?_eq_classReference_iff]

theorem className?_pool : raw.pool.className? = raw.className? := by
  funext index
  rw [className?, classNameIndex?_pool fill, text?_pool fill]
  rfl

end ConstantPool

end TypeTokenWrappers.ClassFile
