import TypeTokenWrappers.Text.Taken

/-! # What the steps of a reader take

A step is described by the value it finds and the text it leaves; the bound that it
carries does not matter for that. Sequences of steps are described by their parts. -/

namespace TypeTokenWrappers

/-- Placing an error elsewhere changes no result. -/
theorem mapError_eq_ok_iff {result : Except ε α} {place : ε → δ} {value : α} :
    result.mapError place = .ok value ↔ result = .ok value := by
  cases result with
  | error stop =>
      constructor
      · intro impossible
        cases impossible
      · intro impossible
        cases impossible
  | ok found =>
      constructor
      · intro equal
        cases equal
        rfl
      · intro equal
        cases equal
        rfl

theorem bind_ok_iff {first : Except ε α} {second : α → Except ε β} {value : β} :
    (first >>= second) = .ok value ↔ ∃ middle, first = .ok middle ∧ second middle = .ok value := by
  cases first with
  | error stop =>
      constructor
      · intro impossible
        cases impossible
      · rintro ⟨_, impossible, _⟩
        cases impossible
  | ok middle =>
      constructor
      · intro equal
        exact ⟨middle, rfl, equal⟩
      · rintro ⟨_, equal, continues⟩
        cases equal
        exact continues

theorem map_ok_iff {result : Except ε α} {transform : α → β} {value : β} :
    result.map transform = .ok value ↔ ∃ found, result = .ok found ∧ transform found = value := by
  cases result with
  | error stop =>
      refine iff_of_false (fun impossible => nomatch impossible) ?_
      rintro ⟨_, impossible, _⟩
      cases impossible
  | ok found =>
      constructor
      · intro equal
        cases equal
        exact ⟨found, rfl, rfl⟩
      · rintro ⟨_, equal, rfl⟩
        cases equal
        rfl

namespace Taken

def Reads (result : Except ε (Taken α limit)) (value : α) (rest : List Char) : Prop :=
  ∃ taken, result = .ok taken ∧ taken.value = value ∧ taken.rest = rest

variable {limit total : Nat} {value : γ} {rest : List Char}

theorem reads_ok_iff {taken : Taken γ limit} :
    Reads (.ok taken : Except ε (Taken γ limit)) value rest ↔
      taken.value = value ∧ taken.rest = rest := by
  constructor
  · rintro ⟨_, equal, result⟩
    cases equal
    exact result
  · intro result
    exact ⟨taken, rfl, result⟩

theorem not_reads_error {stop : ε} :
    ¬ Reads (.error stop : Except ε (Taken γ limit)) value rest := by
  rintro ⟨_, impossible, _⟩
  cases impossible

theorem Reads.unique {result : Except ε (Taken γ limit)} {other : γ} {behind : List Char}
    (first : Reads result value rest) (second : Reads result other behind) :
    value = other ∧ rest = behind := by
  rcases first with ⟨taken, rfl, rfl, rfl⟩
  exact reads_ok_iff.mp second

/-- A reader finds what was laid out in front of other text, and stops where that begins. So
a text is laid out in one way only. -/
theorem eq_of_layout {read : (text : List Char) → Except ε (Taken α text.length)}
    {Readable : α → Prop} {layout : α → List Char → List Char}
    (reads : ∀ {text rest value}, Reads (read text) value rest ↔
      Readable value ∧ text = layout value rest)
    {first second : α} {front back : List Char} (firstReadable : Readable first)
    (secondReadable : Readable second) (same : layout first front = layout second back) :
    first = second ∧ front = back := by
  have readsFirst : Reads (read (layout first front)) first front :=
    reads.mpr ⟨firstReadable, rfl⟩
  have readsSecond := reads.mpr ⟨secondReadable, same⟩
  exact readsFirst.unique readsSecond

theorem Reads.length_lt {result : Except ε (Taken γ limit)} (reads : Reads result value rest) :
    rest.length < limit := by
  rcases reads with ⟨taken, _, _, rfl⟩
  exact taken.shorter

theorem reads_then_iff {first : Except ε α} {second : α → Except ε (Taken γ total)} :
    Reads (first >>= second) value rest ↔
      ∃ middle, first = .ok middle ∧ Reads (second middle) value rest := by
  cases first with
  | error stop =>
      refine iff_of_false not_reads_error ?_
      rintro ⟨_, impossible, _⟩
      cases impossible
  | ok middle =>
      constructor
      · intro reads
        exact ⟨middle, rfl, reads⟩
      · rintro ⟨_, equal, reads⟩
        cases equal
        exact reads

theorem reads_map_iff {result : Except ε (Taken α limit)}
    {wrap : Taken α limit → Taken γ total} (transform : α → γ)
    (value_eq : ∀ taken, (wrap taken).value = transform taken.value)
    (rest_eq : ∀ taken, (wrap taken).rest = taken.rest) :
    Reads (result >>= fun taken => pure (wrap taken)) value rest ↔
      ∃ found, Reads result found rest ∧ value = transform found := by
  rw [reads_then_iff]
  constructor
  · rintro ⟨taken, found, _, equal, rfl, rfl⟩
    cases equal
    exact ⟨taken.value, ⟨taken, found, rfl, (rest_eq taken).symm⟩, value_eq taken⟩
  · rintro ⟨_, ⟨taken, found, rfl, rfl⟩, rfl⟩
    exact ⟨taken, found, wrap taken, rfl, value_eq taken, rest_eq taken⟩

theorem reads_bind_iff {bound : List Char → Nat} {first : Except ε (Taken α limit)}
    {second : (text : List Char) → Except ε (Taken β (bound text))}
    {wrap : (taken : Taken α limit) → Taken β (bound taken.rest) → Taken γ total}
    (combine : α → β → γ)
    (value_eq : ∀ taken behind, (wrap taken behind).value = combine taken.value behind.value)
    (rest_eq : ∀ taken behind, (wrap taken behind).rest = behind.rest) :
    Reads (first >>= fun taken => second taken.rest >>= fun behind =>
        pure (wrap taken behind)) value rest ↔
      ∃ front middle back, Reads first front middle ∧ Reads (second middle) back rest ∧
        value = combine front back := by
  rw [reads_then_iff]
  constructor
  · rintro ⟨taken, found, reads⟩
    rcases (reads_map_iff _ (value_eq taken) (rest_eq taken)).mp reads with ⟨back, behind, equal⟩
    exact ⟨taken.value, taken.rest, back, ⟨taken, found, rfl, rfl⟩, behind, equal⟩
  · rintro ⟨_, _, back, ⟨taken, found, rfl, rfl⟩, behind, equal⟩
    refine ⟨taken, found, ?_⟩
    exact (reads_map_iff _ (value_eq taken) (rest_eq taken)).mpr ⟨back, behind, equal⟩

end Taken

/-! ## Positions -/

theorem Utf8.byteLength_append (front rest : List Char) :
    byteLength (front ++ rest) = byteLength front + byteLength rest := by
  induction front with
  | nil => simp [byteLength]
  | cons first front induction => simp [byteLength, induction, Nat.add_assoc]

theorem Utf8.byteLength_eq (text : List Char) :
    byteLength text = (String.ofList text).utf8ByteSize := by
  induction text with
  | nil => rfl
  | cons first rest induction =>
      rw [byteLength, induction, String.ofList_cons, String.utf8ByteSize_append,
        String.utf8ByteSize_singleton]

/-- A position counts the bytes of the text in front of it. -/
theorem bytesBefore_append (front rest : List Char) :
    bytesBefore (front ++ rest) rest = (String.ofList front).utf8ByteSize := by
  rw [bytesBefore, Utf8.byteLength_append, Nat.add_sub_cancel, Utf8.byteLength_eq]

end TypeTokenWrappers
