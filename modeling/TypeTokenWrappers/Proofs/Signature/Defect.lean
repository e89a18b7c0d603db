import TypeTokenWrappers.Proofs.Signature.Section

/-! # Where a fault is found

A reader stops at a fault because the text goes on as no section does. Up to there the
text is faultless: whatever was begun can still be completed. This is shown for each
reader by what it reads, and carried outwards to the section. -/

namespace TypeTokenWrappers.Signature

open Taken

/-- Whether the text in front of `rest` begins what is printed for something readable. -/
def Begun (Readable : α → Prop) (print : α → List Char) (text rest : List Char) : Prop :=
  ∃ front value back, text = front ++ rest ∧ Readable value ∧ print value = front ++ back

/-- Whether the text in front of a fault, should there be one, begins something readable. -/
def Faultless (Readable : α → Prop) (print : α → List Char) (text : List Char)
    (result : Except Stop β) : Prop :=
  ∀ stop, result = .error stop → Begun Readable print text stop.rest

/-! ## Faults in what is read step by step -/

section Steps

variable {Readable : α → Prop} {print : α → List Char} {text : List Char}

theorem begun_start (value : α) (readable : Readable value) : Begun Readable print text text :=
  ⟨[], value, print value, rfl, readable, rfl⟩

theorem faultless_ok (value : β) : Faultless Readable print text (.ok value) :=
  nofun

theorem faultless_error {fault : Fault} {rest : List Char}
    (begun : Begun Readable print text rest) :
    Faultless Readable print text (.error ⟨fault, rest⟩ : Except Stop β) := by
  intro stop equal
  cases equal
  exact begun

theorem Faultless.bind {first : Except Stop β} {second : β → Except Stop γ}
    (faultless : Faultless Readable print text first)
    (continues : ∀ middle, first = .ok middle → Faultless Readable print text (second middle)) :
    Faultless Readable print text (first >>= second) := by
  intro stop failed
  cases found : first with
  | error earlier =>
      rw [found] at failed
      cases failed
      exact faultless stop found
  | ok middle =>
      rw [found] at failed
      exact continues middle found stop failed

/-- A part of something, with what stands in front of it. -/
theorem Faultless.within {result : Except Stop β} {Whole : γ → Prop} {printWhole : γ → List Char}
    {whole : List Char} (faultless : Faultless Readable print text result) (front : List Char)
    (split : whole = front ++ text)
    (complete : ∀ value, Readable value →
      ∃ completed tail, Whole completed ∧ printWhole completed = front ++ (print value ++ tail)) :
    Faultless Whole printWhole whole result := by
  intro stop failed
  rcases faultless stop failed with ⟨begun, value, back, inside, readable, printed⟩
  rcases complete value readable with ⟨completed, tail, wholeReadable, completedText⟩
  refine ⟨front ++ begun, completed, back ++ tail, ?_, wholeReadable, ?_⟩
  · rw [split, inside, List.append_assoc]
  · simp only [completedText, printed, List.append_assoc]

/-- A part of something that has no further part. -/
theorem Faultless.last {result : Except Stop β} {wrap : β → δ}
    (faultless : Faultless Readable print text result) :
    Faultless Readable print text (result >>= fun value => pure (wrap value)) :=
  faultless.bind fun _ _ => faultless_ok _

end Steps

/-! ## Names and single characters -/

/-- Whatever is wrong with a name is found at its beginning. -/
theorem faultless_readIdentifier {ends : Char → Bool} {text : List Char}
    (inside : ends 'T' = false) :
    Faultless (Named ends) String.toList text (readIdentifier ends text) := by
  have named : Named ends "T" := by simp [Named, inside]
  rw [readIdentifier.eq_def]
  split
  case h_1 => exact faultless_error (begun_start _ named)
  case h_2 first rest =>
    split
    case isTrue => exact faultless_error (begun_start _ named)
    case isFalse =>
      split
      case h_1 => exact faultless_ok _
      case h_2 => exact faultless_error (begun_start _ named)

theorem faultless_readChar (char : Char) (text : List Char) :
    Faultless (fun _ : Unit => True) (fun _ => [char]) text (readChar char text) := by
  rw [readChar.eq_def]
  split
  case h_1 => exact faultless_error (begun_start () trivial)
  case h_2 first rest =>
    split
    case isTrue => exact faultless_ok _
    case isFalse => exact faultless_error (begun_start () trivial)

/-! ## Reference types -/

/-- The readers of reference types, given this text, stop behind faultless text. -/
structure FaultlessAt (text : List Char) : Prop where
  referenceType :
    Faultless ReferenceType.Readable ReferenceType.text text (readReferenceType text)
  classSegment : Faultless ClassSegment.Readable ClassSegment.text text (readClassSegment text)
  innerSegments :
    Faultless InnerReadable (fun inner => innerText inner ++ [';']) text (readInnerSegments text)
  typeArguments :
    Faultless ArgumentsReadable (fun arguments => argumentsText arguments ++ ['>']) text
      (readTypeArguments text)

namespace FaultlessAt

variable {text : List Char}
  (below : ∀ shorter : List Char, shorter.length < text.length → FaultlessAt shorter)
include below

theorem referenceType_step :
    Faultless ReferenceType.Readable ReferenceType.text text (readReferenceType text) := by
  rw [readReferenceType.eq_def]
  split
  case h_1 text =>
    have shorter : text.length < ('L' :: text).length := Nat.lt_succ_self _
    apply Faultless.bind
    · apply (below text shorter).classSegment.within ['L'] rfl
      intro segment readable
      exact ⟨.classType segment [], [';'], ⟨readable, trivial⟩,
        by simp [ReferenceType.text, innerText]⟩
    · intro outer found
      rcases reads_readClassSegment.mp ⟨_, found, rfl, rfl⟩ with ⟨readable, whole, _⟩
      apply Faultless.last
      apply (below _ (Nat.lt_trans outer.shorter shorter)).innerSegments.within
        ('L' :: outer.value.text) (congrArg ('L' :: ·) whole)
      intro inner innerReadable
      exact ⟨.classType outer.value inner, [], ⟨readable, innerReadable⟩,
        by simp [ReferenceType.text]⟩
  case h_2 text =>
    apply Faultless.bind
    · apply (faultless_readIdentifier rfl).within ['T'] rfl
      intro name named
      exact ⟨.typeVariable name, [';'], named, by simp [ReferenceType.text]⟩
    · intro name found
      rcases reads_readIdentifier.mp ⟨name, found, rfl, rfl⟩ with ⟨named, whole, _⟩
      apply Faultless.last
      apply (faultless_readChar ';' name.rest).within ('T' :: name.value.toList)
        (congrArg ('T' :: ·) whole)
      intro _ _
      exact ⟨.typeVariable name.value, [], named, by simp [ReferenceType.text]⟩
  case h_3 letter text =>
    split
    case h_1 => exact faultless_ok _
    case h_2 =>
      apply Faultless.last
      apply (below _ (Nat.lt_succ_self _)).referenceType.within ['['] rfl
      intro element readable
      exact ⟨.array element, [], readable, by simp [ReferenceType.text]⟩
  case h_4 =>
    exact faultless_error ⟨['['], .primitiveArray .int, ['I'], rfl, trivial, rfl⟩
  case h_5 =>
    exact faultless_error (begun_start (.primitiveArray .int) trivial)

theorem classSegment_step :
    Faultless ClassSegment.Readable ClassSegment.text text (readClassSegment text) := by
  rw [readClassSegment.eq_def]
  apply Faultless.bind
  · apply (faultless_readIdentifier rfl).within [] rfl
    intro name named
    exact ⟨.plain name, [], named, by simp [ClassSegment.text]⟩
  · intro name found
    rcases reads_readIdentifier.mp ⟨name, found, rfl, rfl⟩ with ⟨named, whole, _⟩
    split
    case h_1 rest ahead =>
      have shorter : rest.length < text.length := by
        have bound := name.shorter
        rw [ahead] at bound
        exact Nat.lt_of_succ_lt bound
      apply Faultless.last
      apply (below rest shorter).typeArguments.within (name.value.toList ++ ['<'])
      · rw [ahead] at whole
        simpa using whole
      · intro arguments readable
        exact ⟨.parameterized name.value arguments, [], ⟨named, readable⟩,
          by simp [ClassSegment.text]⟩
    case h_2 => exact faultless_ok _

theorem innerSegments_step :
    Faultless InnerReadable (fun inner => innerText inner ++ [';']) text
      (readInnerSegments text) := by
  rw [readInnerSegments.eq_def]
  split
  case h_1 text =>
    have shorter : text.length < ('.' :: text).length := Nat.lt_succ_self _
    apply Faultless.bind
    · apply (below text shorter).classSegment.within ['.'] rfl
      intro segment readable
      exact ⟨[segment], [';'], ⟨readable, trivial⟩, by simp [innerText]⟩
    · intro segment found
      rcases reads_readClassSegment.mp ⟨_, found, rfl, rfl⟩ with ⟨readable, whole, _⟩
      apply Faultless.last
      apply (below _ (Nat.lt_trans segment.shorter shorter)).innerSegments.within
        ('.' :: segment.value.text) (congrArg ('.' :: ·) whole)
      intro others othersReadable
      exact ⟨segment.value :: others, [], ⟨readable, othersReadable⟩, by simp [innerText]⟩
  case h_2 =>
    apply Faultless.last
    apply (faultless_readChar ';' _).within [] rfl
    intro _ _
    exact ⟨[], [], trivial, by simp [innerText]⟩

theorem typeArgument_step :
    Faultless TypeArgument.Readable TypeArgument.text text (readTypeArgument text) := by
  rw [readTypeArgument.eq_def]
  split
  case h_1 => exact faultless_ok _
  case h_2 =>
    apply Faultless.last
    apply (below _ (Nat.lt_succ_self _)).referenceType.within ['+'] rfl
    intro bound readable
    exact ⟨.bounded .covariant bound, [], readable, by simp [TypeArgument.text, Variance.text]⟩
  case h_3 =>
    apply Faultless.last
    apply (below _ (Nat.lt_succ_self _)).referenceType.within ['-'] rfl
    intro bound readable
    exact ⟨.bounded .contravariant bound, [], readable, by simp [TypeArgument.text, Variance.text]⟩
  case h_4 =>
    apply Faultless.last
    apply (referenceType_step below).within [] rfl
    intro bound readable
    exact ⟨.bounded .invariant bound, [], readable, by simp [TypeArgument.text, Variance.text]⟩

theorem typeArguments_step :
    Faultless ArgumentsReadable (fun arguments => argumentsText arguments ++ ['>']) text
      (readTypeArguments text) := by
  rw [readTypeArguments.eq_def]
  split
  case h_1 => exact faultless_error (begun_start [] trivial)
  case h_2 => exact faultless_ok _
  case h_3 first text _ =>
    apply Faultless.bind
    · apply (typeArgument_step below).within [] rfl
      intro argument readable
      exact ⟨[argument], ['>'], ⟨readable, trivial⟩, by simp [argumentsText]⟩
    · intro argument found
      rcases reads_readTypeArgument.mp ⟨argument, found, rfl, rfl⟩ with ⟨readable, whole⟩
      apply Faultless.last
      apply (below _ argument.shorter).typeArguments.within argument.value.text whole
      intro others othersReadable
      exact ⟨argument.value :: others, [], ⟨readable, othersReadable⟩, by simp [argumentsText]⟩

theorem of_below : FaultlessAt text :=
  ⟨referenceType_step below, classSegment_step below, innerSegments_step below,
    typeArguments_step below⟩

end FaultlessAt

theorem faultlessAt (text : List Char) : FaultlessAt text :=
  -- Each reader hands on what is left of its text, which is shorter in every cycle.
  .of_below fun shorter _ => faultlessAt shorter
termination_by text.length

theorem faultless_readReferenceType (text : List Char) :
    Faultless ReferenceType.Readable ReferenceType.text text (readReferenceType text) :=
  (faultlessAt text).referenceType

/-! ## Parameters -/

theorem faultless_readClassBound (text : List Char) :
    Faultless (fun bound : Option ReferenceType => ∀ type ∈ bound, type.Readable)
      (fun bound => (bound.map ReferenceType.text).getD []) text (readClassBound text) := by
  rw [readClassBound.eq_def]
  split
  case h_1 first rest =>
    split
    case isTrue =>
      apply Faultless.last
      apply (faultless_readReferenceType (first :: rest)).within [] rfl
      intro type readable
      refine ⟨some type, [], ?_, by simp⟩
      intro _ member
      cases member
      exact readable
    case isFalse => exact faultless_ok _
  case h_2 => exact faultless_ok _

theorem faultless_readInterfaceBounds (text : List Char) :
    Faultless (fun bounds : List ReferenceType => ∀ bound ∈ bounds, bound.Readable)
      (fun bounds => bounds.flatMap fun bound => ':' :: bound.text) text
      (readInterfaceBounds text) := by
  induction text using readInterfaceBounds.induct with
  | case1 text induction =>
      rw [readInterfaceBounds]
      apply Faultless.bind
      · apply (faultless_readReferenceType text).within [':'] rfl
        intro bound readable
        exact ⟨[bound], [], List.forall_mem_singleton.mpr readable, by simp⟩
      · intro bound found
        rcases reads_readReferenceType.mp ⟨bound, found, rfl, rfl⟩ with ⟨readable, whole⟩
        apply Faultless.last
        apply (induction bound).within (':' :: bound.value.text) (congrArg (':' :: ·) whole)
        intro others othersReadable
        exact ⟨bound.value :: others, [], List.forall_mem_cons.mpr ⟨readable, othersReadable⟩,
          by simp⟩
  | case2 text other =>
      rw [readInterfaceBounds.eq_2 text other]
      exact faultless_ok _

theorem Parameter.Readable.of_named {name : String} (named : Named endsParameterName name) :
    Parameter.Readable ⟨name, none, []⟩ where
  name := named
  classBound _ member := absurd member (Option.not_mem_none _)
  interfaceBounds := List.forall_mem_nil _

theorem faultless_readParameter (text : List Char) :
    Faultless Parameter.Readable Parameter.text text (readParameter text) := by
  rw [readParameter]
  apply Faultless.bind
  · apply (faultless_readIdentifier rfl).within [] rfl
    intro name named
    exact ⟨⟨name, none, []⟩, [':'], .of_named named, by simp [Parameter.text]⟩
  · intro name found
    rcases reads_readIdentifier.mp ⟨name, found, rfl, rfl⟩ with ⟨named, whole, _⟩
    apply Faultless.bind
    · apply (faultless_readChar ':' name.rest).within name.value.toList whole
      intro _ _
      exact ⟨⟨name.value, none, []⟩, [], .of_named named, by simp [Parameter.text]⟩
    · intro colon foundColon
      have behindName := reads_readChar.mp ⟨colon, foundColon, rfl, rfl⟩
      rw [behindName] at whole
      apply Faultless.bind
      · apply (faultless_readClassBound colon.rest).within (name.value.toList ++ [':'])
        · simpa using whole
        · intro bound readable
          exact ⟨⟨name.value, bound, []⟩, [], ⟨named, readable, List.forall_mem_nil _⟩,
            by simp [Parameter.text]⟩
      · intro classBound foundBound
        rcases reads_readClassBound.mp ⟨classBound, foundBound, rfl, rfl⟩ with
          ⟨readable, behindColon, _⟩
        rw [behindColon] at whole
        apply Faultless.last
        apply (faultless_readInterfaceBounds classBound.rest).within
          (name.value.toList ++ ':' :: (classBound.value.map ReferenceType.text).getD [])
        · simpa using whole
        · intro bounds boundsReadable
          exact ⟨⟨name.value, classBound.value, bounds⟩, [], ⟨named, readable, boundsReadable⟩,
            by simp [Parameter.text]⟩

/-! ## The section -/

/-- What is printed behind the opening `<` of a section. -/
def sectionBody (parameters : List Parameter) : List Char :=
  parameters.flatMap Parameter.text ++ ['>']

theorem sectionBody_cons (parameter : Parameter) (others : List Parameter) :
    sectionBody (parameter :: others) = parameter.text ++ sectionBody others := by
  simp [sectionBody]

/-- What begins behind a parameter goes on from it, as it begins with the same character. -/
theorem begun_behind {parameter : Parameter} {middle rest : List Char}
    (readable : parameter.Readable) (ends : parameter.EndsAt middle)
    (unclosed : middle.head? ≠ some '>')
    (begun : Begun SectionReadable sectionBody middle rest) :
    Begun SectionReadable sectionBody (parameter.text ++ middle) rest := by
  rcases begun with ⟨front, others, back, rfl, othersReadable, printed⟩
  cases front with
  | nil =>
      -- Nothing of a next parameter is there, so the section may end here.
      exact ⟨parameter.text, [parameter], ['>'], rfl,
        sectionReadable_singleton_iff.mpr readable, sectionBody_cons parameter []⟩
  | cons char front =>
      cases others with
      | nil => exact absurd rfl othersReadable.nonempty
      | cons next others =>
          have nextReadable := othersReadable.readable next (List.mem_cons_self ..)
          have begins : next.text.head? = some char := by
            have whole := congrArg List.head? printed
            rw [sectionBody_cons, next.head?_text_append] at whole
            exact whole
          have before : parameter.Before next := by
            constructor
            · rw [← nextReadable.head?_text, begins]
              exact unclosed
            · exact ends.congr begins.symm
          refine ⟨parameter.text ++ char :: front, parameter :: next :: others, back, ?_,
            sectionReadable_cons_iff.mpr ⟨readable, before, othersReadable⟩, ?_⟩
          · rw [List.append_assoc]
          · rw [sectionBody_cons, printed, List.append_assoc]

theorem faultless_readParameters (text : List Char) :
    Faultless SectionReadable sectionBody text (readParameters text) := by
  induction text using readParameters.induct with
  | case1 text induction =>
      rw [readParameters.eq_def]
      apply Faultless.bind
      · apply (faultless_readParameter text).within [] rfl
        intro parameter readable
        exact ⟨[parameter], ['>'], sectionReadable_singleton_iff.mpr readable,
          sectionBody_cons parameter []⟩
      · intro parameter found
        rcases reads_readParameter.mp ⟨parameter, found, rfl, rfl⟩ with ⟨readable, whole, ends⟩
        split
        case h_1 => exact faultless_ok _
        case h_2 notClosing =>
          apply Faultless.last
          intro stop failed
          have unclosed : parameter.rest.head? ≠ some '>' := by
            intro closing
            rcases List.head?_eq_some_iff.mp closing with ⟨behind, ahead⟩
            exact notClosing behind ahead
          have begun := begun_behind readable ends unclosed (induction parameter stop failed)
          rw [← whole] at begun
          exact begun

theorem faultless_readSection (text : List Char) :
    Faultless SectionReadable sectionText text (readSection text) := by
  rw [readSection.eq_def]
  split
  case h_1 rest =>
    change Faultless SectionReadable sectionText ('<' :: rest)
      (readParameters rest >>= fun parameters => pure parameters.value)
    apply Faultless.last
    apply (faultless_readParameters rest).within ['<'] rfl
    intro parameters readable
    exact ⟨parameters, [], readable, by simp [sectionText, sectionBody]⟩
  case h_2 => exact faultless_ok _

theorem exists_stop_of_typeParameters_error {signature : String} {error : SignatureError}
    (failed : typeParameters signature = .error error) :
    ∃ stop, readSection signature.toList = .error stop ∧
      error = SignatureError.ofStop signature stop := by
  rw [typeParameters] at failed
  cases found : readSection signature.toList with
  | error stop =>
      rw [found] at failed
      cases failed
      exact ⟨stop, rfl, rfl⟩
  | ok parameters =>
      rw [found] at failed
      cases failed

/-- An error names the signature and a place between two of its characters. The text in
front of that place can be continued to a signature that is read. -/
theorem typeParameters_error_continues {signature : String} {error : SignatureError}
    (failed : typeParameters signature = .error error) :
    error.signature = signature ∧ error.position ≤ signature.utf8ByteSize ∧
      String.Pos.Raw.IsValid signature ⟨error.position⟩ ∧
      ∃ front rest continuation declared, signature = front ++ rest ∧
        front.utf8ByteSize = error.position ∧
        typeParameters (front ++ continuation) = .ok declared := by
  rcases exists_stop_of_typeParameters_error failed with ⟨stop, stopped, rfl⟩
  rcases faultless_readSection signature.toList stop stopped with
    ⟨front, parameters, back, whole, readable, printed⟩
  have split : signature = String.ofList front ++ String.ofList stop.rest := by
    rw [← String.ofList_append, ← whole, String.ofList_toList]
  have position : (String.ofList front).utf8ByteSize =
      (SignatureError.ofStop signature stop).position := by
    rw [SignatureError.ofStop, whole, bytesBefore_append]
  refine ⟨rfl, ?_, ?_, ?_⟩
  · rw [← position, split, String.utf8ByteSize_append]
    exact Nat.le_add_right _ _
  · rw [String.Pos.Raw.isValid_iff_exists_append, ← position]
    exact ⟨_, _, split, rfl⟩
  · refine ⟨_, _, String.ofList back, declaredParameters parameters, split, position, ?_⟩
    apply typeParameters_eq_ok_iff.mpr
    refine .inr ⟨parameters, [], readable, ?_, rfl⟩
    rw [← String.ofList_append, String.toList_ofList, List.append_nil, printed]

/-- A wildcard argument whose bound is a primitive type, behind a name of two bytes. -/
def unboundedSignature : String :=
  "<É::La<+I>;>()V"

theorem typeParameters_error_continues_unboundedSignature :
    typeParameters unboundedSignature =
      .error ⟨unboundedSignature, .expectedReferenceType, 9⟩ ∧
    9 ≤ unboundedSignature.utf8ByteSize ∧
    String.Pos.Raw.IsValid unboundedSignature ⟨9⟩ ∧
    ∃ front rest continuation declared, unboundedSignature = front ++ rest ∧
      front.utf8ByteSize = 9 ∧ typeParameters (front ++ continuation) = .ok declared := by
  have stopped : readSection unboundedSignature.toList =
      .error ⟨.expectedReferenceType, "I>;>()V".toList⟩ := by cbv
  have position : bytesBefore unboundedSignature.toList "I>;>()V".toList = 9 := by decide +kernel
  have failed : typeParameters unboundedSignature =
      .error ⟨unboundedSignature, .expectedReferenceType, 9⟩ := by
    rw [typeParameters, stopped, ← position]
    rfl
  exact ⟨failed, (typeParameters_error_continues failed).2⟩

end TypeTokenWrappers.Signature
