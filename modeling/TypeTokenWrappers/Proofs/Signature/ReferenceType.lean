import TypeTokenWrappers.Proofs.Signature.Identifier

/-! # Reading reference types

Reference types, class segments and type arguments are read by readers that call
each other. Each of them finds exactly what the text in front of it prints; this is
shown for all of them at once, by the length of the text. -/

namespace TypeTokenWrappers.Signature

open Taken

/-! ## Types that can be read back -/

mutual
def ReferenceType.Readable : ReferenceType → Prop
  | .classType outer inner => outer.Readable ∧ InnerReadable inner
  | .typeVariable name => Named endsTypeVariable name
  | .primitiveArray _ => True
  | .array element => element.Readable

def ClassSegment.Readable : ClassSegment → Prop
  | .plain name => Named endsClassName name
  | .parameterized name arguments => Named endsClassName name ∧ ArgumentsReadable arguments

def TypeArgument.Readable : TypeArgument → Prop
  | .wildcard => True
  | .bounded _ bound => bound.Readable

def InnerReadable : List ClassSegment → Prop
  | [] => True
  | segment :: others => segment.Readable ∧ InnerReadable others

def ArgumentsReadable : List TypeArgument → Prop
  | [] => True
  | argument :: others => argument.Readable ∧ ArgumentsReadable others
end

/-! ## Printed types in front of other text -/

namespace ReferenceType

variable (rest : List Char)

theorem text_classType_append (outer : ClassSegment) (inner : List ClassSegment) :
    (classType outer inner).text ++ rest =
      'L' :: (outer.text ++ (innerText inner ++ ';' :: rest)) := by
  simp [text]

theorem text_typeVariable_append (name : String) :
    (typeVariable name).text ++ rest = 'T' :: (name.toList ++ ';' :: rest) := by
  simp [text]

end ReferenceType

theorem ClassSegment.text_parameterized_append (rest : List Char) (name : String)
    (arguments : List TypeArgument) : (parameterized name arguments).text ++ rest =
      name.toList ++ '<' :: (argumentsText arguments ++ '>' :: rest) := by
  simp [text]

theorem innerText_cons_append (rest : List Char) (segment : ClassSegment)
    (others : List ClassSegment) :
    innerText (segment :: others) ++ rest = '.' :: (segment.text ++ (innerText others ++ rest)) := by
  simp [innerText]

def Opens (char : Char) : Prop :=
  char = 'L' ∨ char = 'T' ∨ char = '['

theorem ReferenceType.exists_text_eq_cons (type : ReferenceType) :
    ∃ first others, type.text = first :: others ∧ Opens first := by
  cases type with
  | classType => exact ⟨_, _, rfl, .inl rfl⟩
  | typeVariable => exact ⟨_, _, rfl, .inr (.inl rfl)⟩
  | primitiveArray => exact ⟨_, _, rfl, .inr (.inr rfl)⟩
  | array => exact ⟨_, _, rfl, .inr (.inr rfl)⟩

instance (char : Char) : Decidable (Opens char) :=
  inferInstanceAs (Decidable (_ ∨ _ ∨ _))

theorem ReferenceType.cons_ne_text_append {char : Char} (other : ¬ Opens char)
    (type : ReferenceType) (text rest : List Char) : char :: text ≠ type.text ++ rest := by
  rcases type.exists_text_eq_cons with ⟨first, _, begins, opens⟩
  rw [begins]
  intro whole
  cases whole
  exact other opens

theorem TypeArgument.closing_ne_text_append (argument : TypeArgument) (text rest : List Char) :
    '>' :: text ≠ argument.text ++ rest := by
  intro whole
  cases argument with
  | wildcard => cases whole
  | bounded variance bound =>
      cases variance with
      | covariant => cases whole
      | contravariant => cases whole
      | invariant => exact bound.cons_ne_text_append (by decide) text rest whole

theorem Variance.text_injective : Function.Injective Variance.text := by
  intro left right same
  cases left <;> cases right <;> first | rfl | cases same

/-- A text that begins with the sign of a variance is that of an argument with the sign. -/
theorem TypeArgument.readable_signed_iff {variance : Variance} {sign : Char}
    (signed : variance.text = [sign]) {argument : TypeArgument} {text rest : List Char} :
    (∃ bound : ReferenceType, (bound.Readable ∧ text = bound.text ++ rest) ∧
        argument = .bounded variance bound) ↔
      argument.Readable ∧ sign :: text = argument.text ++ rest := by
  have apart : sign ≠ '*' ∧ ¬ Opens sign := by
    cases variance with
    | covariant => cases signed; decide
    | contravariant => cases signed; decide
    | invariant => cases signed
  constructor
  · rintro ⟨bound, ⟨readable, rfl⟩, rfl⟩
    refine ⟨readable, ?_⟩
    rw [TypeArgument.text, signed]
    rfl
  · rintro ⟨readable, whole⟩
    cases argument with
    | wildcard => exact absurd (List.cons.inj whole).1 apart.1
    | bounded other bound =>
        have same (equal : other.text = [sign]) : other = variance :=
          Variance.text_injective (equal.trans signed.symm)
        cases other with
        | covariant =>
            cases whole
            exact ⟨bound, ⟨readable, rfl⟩, same rfl ▸ rfl⟩
        | contravariant =>
            cases whole
            exact ⟨bound, ⟨readable, rfl⟩, same rfl ▸ rfl⟩
        | invariant => exact absurd whole (bound.cons_ne_text_append apart.2 _ _)

theorem Opens.ofLetter?_eq_none {char : Char} (opens : Opens char) :
    Primitive.ofLetter? char = none := by
  rcases opens with rfl | rfl | rfl <;> rfl

/-- What has to follow a class segment: without arguments, its name has to end. -/
def ClassSegment.Precedes (rest : List Char) : ClassSegment → Prop
  | .plain _ => ∃ next others, rest = next :: others ∧ (next = '.' ∨ next = ';')
  | .parameterized _ _ => True

theorem ClassSegment.precedes_innerText (segment : ClassSegment) (inner : List ClassSegment)
    (rest : List Char) : segment.Precedes (innerText inner ++ ';' :: rest) := by
  cases segment with
  | parameterized => trivial
  | plain =>
      cases inner with
      | nil => exact ⟨';', rest, rfl, .inr rfl⟩
      | cons first inner => exact ⟨'.', _, rfl, .inl rfl⟩

theorem endsClassName_iff {char : Char} :
    endsClassName char = true ↔ char = '<' ∨ char = '.' ∨ char = ';' := by
  simp [endsClassName, or_assoc]

/-! ## The readers -/

/-- What the readers find in texts shorter than `limit`. -/
structure Laws (limit : Nat) : Prop where
  referenceType {text rest : List Char} (short : text.length < limit) (type : ReferenceType) :
    Reads (readReferenceType text) type rest ↔ type.Readable ∧ text = type.text ++ rest
  classSegment {text rest : List Char} (short : text.length < limit) (segment : ClassSegment) :
    Reads (readClassSegment text) segment rest ↔
      segment.Readable ∧ text = segment.text ++ rest ∧ segment.Precedes rest
  innerSegments {text rest : List Char} (short : text.length < limit)
    (inner : List ClassSegment) :
    Reads (readInnerSegments text) inner rest ↔
      InnerReadable inner ∧ text = innerText inner ++ ';' :: rest
  typeArguments {text rest : List Char} (short : text.length < limit)
    (arguments : List TypeArgument) :
    Reads (readTypeArguments text) arguments rest ↔
      ArgumentsReadable arguments ∧ text = argumentsText arguments ++ '>' :: rest

namespace Laws

variable {text rest : List Char}

theorem classType_step (laws : Laws ('L' :: text).length) (type : ReferenceType) :
    (∃ outer middle inner, Reads (readClassSegment text) outer middle ∧
        Reads (readInnerSegments middle) inner rest ∧ type = .classType outer inner) ↔
      type.Readable ∧ 'L' :: text = type.text ++ rest := by
  have shorter : text.length < ('L' :: text).length := Nat.lt_succ_self _
  constructor
  · rintro ⟨outer, middle, inner, front, back, rfl⟩
    have before := Nat.lt_trans front.length_lt shorter
    rcases (laws.classSegment shorter outer).mp front with ⟨readable, rfl, _⟩
    rcases (laws.innerSegments before inner).mp back with ⟨innerReadable, rfl⟩
    exact ⟨⟨readable, innerReadable⟩, (ReferenceType.text_classType_append ..).symm⟩
  · rintro ⟨readable, whole⟩
    cases type with
    | classType outer inner =>
        rw [ReferenceType.text_classType_append] at whole
        cases whole
        have front := (laws.classSegment shorter outer).mpr
          ⟨readable.1, rfl, outer.precedes_innerText inner rest⟩
        have back := (laws.innerSegments (Nat.lt_trans front.length_lt shorter) inner).mpr
          ⟨readable.2, rfl⟩
        exact ⟨outer, _, inner, front, back, rfl⟩
    | typeVariable => cases whole
    | primitiveArray => cases whole
    | array => cases whole

theorem primitiveArray_step {letter : Char} {element : Primitive}
    (found : Primitive.ofLetter? letter = some element) (type : ReferenceType) :
    (ReferenceType.primitiveArray element = type ∧ text = rest) ↔
      type.Readable ∧ '[' :: letter :: text = type.text ++ rest := by
  constructor
  · rintro ⟨rfl, rfl⟩
    refine ⟨trivial, ?_⟩
    rw [Primitive.letter_of_ofLetter? found]
    rfl
  · rintro ⟨_, whole⟩
    cases type with
    | primitiveArray other =>
        cases whole
        rw [Primitive.ofLetter?_letter] at found
        cases found
        exact ⟨rfl, rfl⟩
    | array element =>
        rcases element.exists_text_eq_cons with ⟨first, _, begins, opens⟩
        rw [ReferenceType.text, begins] at whole
        cases whole
        rw [opens.ofLetter?_eq_none] at found
        cases found
    | classType => cases whole
    | typeVariable => cases whole

theorem array_step {letter : Char}
    (laws : Laws ('[' :: letter :: text).length) (unknown : Primitive.ofLetter? letter = none)
    (type : ReferenceType) :
    (∃ element, Reads (readReferenceType (letter :: text)) element rest ∧
        type = .array element) ↔
      type.Readable ∧ '[' :: letter :: text = type.text ++ rest := by
  have shorter : (letter :: text).length < ('[' :: letter :: text).length := Nat.lt_succ_self _
  constructor
  · rintro ⟨element, reads, rfl⟩
    rcases (laws.referenceType shorter element).mp reads with ⟨readable, whole⟩
    rw [whole]
    exact ⟨readable, rfl⟩
  · rintro ⟨readable, whole⟩
    cases type with
    | array element =>
        have inside := (List.cons.inj whole).2
        exact ⟨element, (laws.referenceType shorter element).mpr ⟨readable, inside⟩, rfl⟩
    | primitiveArray other =>
        cases whole
        rw [Primitive.ofLetter?_letter] at unknown
        cases unknown
    | classType => cases whole
    | typeVariable => cases whole

variable (laws : Laws text.length)
include laws

theorem classSegment_step (segment : ClassSegment) :
    Reads (readClassSegment text) segment rest ↔
      segment.Readable ∧ text = segment.text ++ rest ∧ segment.Precedes rest := by
  rw [readClassSegment.eq_def, reads_then_iff]
  constructor
  · rintro ⟨name, found, reads⟩
    rcases reads_readIdentifier.mp ⟨name, found, rfl, rfl⟩ with ⟨named, whole, ended⟩
    split at reads
    case h_1 behind ahead =>
      rcases (reads_map_iff (ClassSegment.parameterized name.value) (fun _ => rfl)
        fun _ => rfl).mp reads with ⟨arguments, inside, rfl⟩
      have shorter : behind.length < text.length := by
        have bound := name.shorter
        rw [ahead] at bound
        exact Nat.lt_of_succ_lt bound
      rcases (laws.typeArguments shorter arguments).mp inside with ⟨readable, following⟩
      refine ⟨⟨named, readable⟩, ?_, trivial⟩
      rw [ClassSegment.text_parameterized_append, ← following, ← ahead]
      exact whole
    case h_2 plain =>
      -- The name ends in front of something, and that is not the opening bracket.
      rcases reads_ok_iff.mp reads with ⟨rfl, rfl⟩
      refine ⟨named, whole, ?_⟩
      rcases ended with ⟨next, others, ahead, ends⟩
      rcases endsClassName_iff.mp ends with rfl | ends
      · exact absurd ahead (plain others)
      · exact ⟨next, others, ahead, ends⟩
  · rintro ⟨readable, whole, precedes⟩
    cases segment with
    | plain name =>
        rcases precedes with ⟨next, others, rfl, ends⟩
        have ended : Ended endsClassName (next :: others) :=
          ⟨next, others, rfl, endsClassName_iff.mpr (.inr ends)⟩
        rcases reads_readIdentifier.mpr ⟨readable, whole, ended⟩ with ⟨taken, found, rfl, behind⟩
        refine ⟨taken, found, ?_⟩
        split
        case h_1 ahead =>
          rw [behind] at ahead
          cases ahead
          rcases ends with impossible | impossible <;> cases impossible
        case h_2 => exact reads_ok_iff.mpr ⟨rfl, behind⟩
    | parameterized name arguments =>
        rw [ClassSegment.text_parameterized_append] at whole
        have ended : Ended endsClassName ('<' :: (argumentsText arguments ++ '>' :: rest)) :=
          ⟨'<', _, rfl, rfl⟩
        rcases reads_readIdentifier.mpr ⟨readable.1, whole, ended⟩ with
          ⟨taken, found, rfl, behind⟩
        refine ⟨taken, found, ?_⟩
        split
        case h_1 next ahead =>
          have bound := taken.shorter
          rw [ahead] at bound
          rw [ahead] at behind
          cases behind
          refine (reads_map_iff (ClassSegment.parameterized taken.value) (fun _ => rfl)
            fun _ => rfl).mpr ⟨arguments, ?_, rfl⟩
          exact (laws.typeArguments (Nat.lt_of_succ_lt bound) arguments).mpr ⟨readable.2, rfl⟩
        case h_2 plain => exact absurd behind (plain _)

theorem referenceType_step (type : ReferenceType) :
    Reads (readReferenceType text) type rest ↔ type.Readable ∧ text = type.text ++ rest := by
  rw [readReferenceType.eq_def]
  split
  case h_1 text =>
    refine Iff.trans (reads_bind_iff ReferenceType.classType (fun _ _ => rfl) fun _ _ => rfl) ?_
    exact classType_step laws type
  case h_2 text =>
    refine Iff.trans (reads_bind_iff (fun name (_ : Unit) => ReferenceType.typeVariable name)
      (fun _ _ => rfl) fun _ _ => rfl) ?_
    constructor
    · rintro ⟨name, middle, _, front, back, rfl⟩
      rcases reads_readIdentifier.mp front with ⟨named, rfl, _⟩
      rw [reads_readChar.mp back]
      exact ⟨named, (ReferenceType.text_typeVariable_append ..).symm⟩
    · rintro ⟨readable, whole⟩
      cases type with
      | typeVariable name =>
          rw [ReferenceType.text_typeVariable_append] at whole
          cases whole
          exact ⟨name, ';' :: rest, (), reads_readIdentifier.mpr ⟨readable, rfl, ';', rest, rfl, rfl⟩,
            reads_readChar.mpr rfl, rfl⟩
      | classType => cases whole
      | primitiveArray => cases whole
      | array => cases whole
  case h_3 letter text =>
    split
    case h_1 element found => exact Iff.trans reads_ok_iff (primitiveArray_step found type)
    case h_2 unknown =>
      refine Iff.trans (reads_map_iff ReferenceType.array (fun _ => rfl) fun _ => rfl) ?_
      exact array_step laws unknown type
  case h_4 =>
    refine iff_of_false not_reads_error ?_
    rintro ⟨_, whole⟩
    cases type with
    | array element =>
        rcases element.exists_text_eq_cons with ⟨first, _, begins, _⟩
        rw [ReferenceType.text, begins] at whole
        cases whole
    | classType => cases whole
    | typeVariable => cases whole
    | primitiveArray => cases whole
  case h_5 notClass notVariable notArray notLast =>
    refine iff_of_false not_reads_error ?_
    rintro ⟨_, whole⟩
    cases type with
    | classType => exact notClass _ whole
    | typeVariable => exact notVariable _ whole
    | primitiveArray => exact notArray _ _ whole
    | array element =>
        rcases element.exists_text_eq_cons with ⟨first, _, begins, _⟩
        rw [ReferenceType.text, begins] at whole
        exact notArray _ _ whole

theorem innerSegments_step (inner : List ClassSegment) :
    Reads (readInnerSegments text) inner rest ↔
      InnerReadable inner ∧ text = innerText inner ++ ';' :: rest := by
  rw [readInnerSegments.eq_def]
  split
  case h_1 text =>
    have shorter : text.length < ('.' :: text).length := Nat.lt_succ_self _
    refine Iff.trans (reads_bind_iff List.cons (fun _ _ => rfl) fun _ _ => rfl) ?_
    constructor
    · rintro ⟨segment, middle, others, front, back, rfl⟩
      have before := Nat.lt_trans front.length_lt shorter
      rcases (laws.classSegment shorter segment).mp front with ⟨readable, rfl, _⟩
      rcases (laws.innerSegments before others).mp back with ⟨innerReadable, rfl⟩
      exact ⟨⟨readable, innerReadable⟩, (innerText_cons_append ..).symm⟩
    · rintro ⟨readable, whole⟩
      cases inner with
      | nil => cases whole
      | cons segment others =>
          rw [innerText_cons_append] at whole
          cases whole
          have front := (laws.classSegment shorter segment).mpr
            ⟨readable.1, rfl, segment.precedes_innerText others rest⟩
          have back := (laws.innerSegments (Nat.lt_trans front.length_lt shorter) others).mpr
            ⟨readable.2, rfl⟩
          exact ⟨segment, _, others, front, back, rfl⟩
  case h_2 other =>
    refine Iff.trans (reads_map_iff (fun _ : Unit => []) (fun _ => rfl) fun _ => rfl) ?_
    simp only [reads_readChar]
    constructor
    · rintro ⟨_, whole, rfl⟩
      exact ⟨trivial, whole⟩
    · rintro ⟨_, whole⟩
      cases inner with
      | nil => exact ⟨(), whole, rfl⟩
      | cons => exact absurd whole (other _)

theorem typeArgument_step (argument : TypeArgument) :
    Reads (readTypeArgument text) argument rest ↔
      argument.Readable ∧ text = argument.text ++ rest := by
  rw [readTypeArgument.eq_def]
  split
  case h_1 text =>
    rw [reads_ok_iff]
    constructor
    · rintro ⟨rfl, rfl⟩
      exact ⟨trivial, rfl⟩
    · rintro ⟨_, whole⟩
      cases argument with
      | wildcard => exact ⟨rfl, (List.cons.inj whole).2⟩
      | bounded variance bound =>
          cases variance with
          | covariant => cases whole
          | contravariant => cases whole
          | invariant => exact absurd whole (bound.cons_ne_text_append (by decide) _ _)
  case h_2 text =>
    refine Iff.trans (reads_map_iff (TypeArgument.bounded .covariant) (fun _ => rfl)
      fun _ => rfl) ?_
    simp only [laws.referenceType (Nat.lt_succ_self _)]
    exact TypeArgument.readable_signed_iff rfl
  case h_3 text =>
    refine Iff.trans (reads_map_iff (TypeArgument.bounded .contravariant) (fun _ => rfl)
      fun _ => rfl) ?_
    simp only [laws.referenceType (Nat.lt_succ_self _)]
    exact TypeArgument.readable_signed_iff rfl
  case h_4 notWildcard notCovariant notContravariant =>
    refine Iff.trans (reads_map_iff (TypeArgument.bounded .invariant) (fun _ => rfl)
      fun _ => rfl) ?_
    simp only [laws.referenceType_step]
    constructor
    · rintro ⟨bound, read, rfl⟩
      exact read
    · rintro ⟨readable, whole⟩
      cases argument with
      | wildcard => exact absurd whole (notWildcard _)
      | bounded variance bound =>
          cases variance with
          | covariant => exact absurd whole (notCovariant _)
          | contravariant => exact absurd whole (notContravariant _)
          | invariant => exact ⟨bound, ⟨readable, whole⟩, rfl⟩

theorem typeArguments_step (arguments : List TypeArgument) :
    Reads (readTypeArguments text) arguments rest ↔
      ArgumentsReadable arguments ∧ text = argumentsText arguments ++ '>' :: rest := by
  rw [readTypeArguments.eq_def]
  split
  case h_1 =>
    refine iff_of_false not_reads_error ?_
    rintro ⟨_, whole⟩
    simp at whole
  case h_2 text =>
    rw [reads_ok_iff]
    constructor
    · rintro ⟨rfl, rfl⟩
      exact ⟨trivial, rfl⟩
    · rintro ⟨_, whole⟩
      cases arguments with
      | nil => exact ⟨rfl, (List.cons.inj whole).2⟩
      | cons argument others =>
          rw [argumentsText, List.append_assoc] at whole
          exact absurd whole (argument.closing_ne_text_append _ _)
  case h_3 first text unclosed =>
    refine Iff.trans (reads_bind_iff List.cons (fun _ _ => rfl) fun _ _ => rfl) ?_
    constructor
    · rintro ⟨argument, middle, others, front, back, rfl⟩
      rcases (laws.typeArgument_step argument).mp front with ⟨readable, whole⟩
      rcases (laws.typeArguments front.length_lt others).mp back with ⟨othersReadable, rfl⟩
      refine ⟨⟨readable, othersReadable⟩, ?_⟩
      rw [whole, argumentsText, List.append_assoc]
    · rintro ⟨readable, whole⟩
      cases arguments with
      | nil => exact absurd (List.cons.inj whole).1 unclosed
      | cons argument others =>
          rw [argumentsText, List.append_assoc] at whole
          have front := (laws.typeArgument_step argument).mpr ⟨readable.1, whole⟩
          have back := (laws.typeArguments front.length_lt others).mpr ⟨readable.2, rfl⟩
          exact ⟨argument, _, others, front, back, rfl⟩

end Laws

theorem laws (limit : Nat) : Laws limit := by
  -- Each reader hands on what is left of its text, which is shorter in every cycle.
  induction limit with
  | zero => exact ⟨nofun, nofun, nofun, nofun⟩
  | succ limit induction =>
      have within {text : List Char} (short : text.length < limit + 1) : Laws text.length := by
        have fewer {other : List Char} (shorter : other.length < text.length) :
            other.length < limit := Nat.lt_of_lt_of_le shorter (Nat.le_of_lt_succ short)
        exact ⟨fun shorter => induction.referenceType (fewer shorter),
          fun shorter => induction.classSegment (fewer shorter),
          fun shorter => induction.innerSegments (fewer shorter),
          fun shorter => induction.typeArguments (fewer shorter)⟩
      exact ⟨fun short => (within short).referenceType_step,
        fun short => (within short).classSegment_step,
        fun short => (within short).innerSegments_step,
        fun short => (within short).typeArguments_step⟩

/-- A reference type is read from what it prints, whatever follows, and only from that. -/
theorem reads_readReferenceType {text rest : List Char} {type : ReferenceType} :
    Reads (readReferenceType text) type rest ↔ type.Readable ∧ text = type.text ++ rest :=
  (laws (text.length + 1)).referenceType (Nat.lt_succ_self _) type

theorem reads_readClassSegment {text rest : List Char} {segment : ClassSegment} :
    Reads (readClassSegment text) segment rest ↔
      segment.Readable ∧ text = segment.text ++ rest ∧ segment.Precedes rest :=
  (laws (text.length + 1)).classSegment (Nat.lt_succ_self _) segment

theorem reads_readTypeArgument {text rest : List Char} {argument : TypeArgument} :
    Reads (readTypeArgument text) argument rest ↔
      argument.Readable ∧ text = argument.text ++ rest :=
  (laws text.length).typeArgument_step argument

end TypeTokenWrappers.Signature
