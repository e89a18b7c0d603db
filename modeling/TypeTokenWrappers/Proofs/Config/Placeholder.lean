import TypeTokenWrappers.Config.Placeholder

/-! # Where placeholders stand

A placeholder is found exactly where one is written, and a text in which none is
written is left alone. -/

namespace TypeTokenWrappers.Config

namespace Placeholder

/-- How a placeholder of this name and default is written. -/
def spelling (name : List Char) (default : Option (List Char)) : List Char :=
  match default with
  | none => ['$', '\x7b'] ++ name ++ ['\x7d']
  | some default => ['$', '\x7b'] ++ name ++ [':', '-'] ++ default ++ ['\x7d']

/-- A placeholder that is written as its name and default require. The name is not
empty and goes as far as it can; the default may be empty. -/
structure Proper (placeholder : Placeholder) : Prop where
  nonempty : placeholder.name ≠ ""
  name : ∀ char ∈ placeholder.name.toList, char ≠ '\x7d' ∧ char ≠ ':'
  default : ∀ value ∈ placeholder.default, '\x7d' ∉ value.toList
  written : placeholder.written =
    spelling placeholder.name.toList (placeholder.default.map String.toList)

theorem takeWhile_before {ends : Char → Bool} {front behind : List Char} {char : Char}
    (within : ∀ char ∈ front, ends char = false) (stop : ends char = true) :
    (front ++ char :: behind).takeWhile (!ends ·) = front := by
  rw [List.takeWhile_append_of_pos (by simpa using within),
    List.takeWhile_cons_of_neg (by simpa using stop), List.append_nil]

theorem dropWhile_before {ends : Char → Bool} {front behind : List Char} {char : Char}
    (within : ∀ char ∈ front, ends char = false) (stop : ends char = true) :
    (front ++ char :: behind).dropWhile (!ends ·) = char :: behind := by
  rw [List.dropWhile_append_of_pos (by simpa using within),
    List.dropWhile_cons_of_neg (by simpa using stop)]

theorem endsName_eq_false_iff {char : Char} :
    endsName char = false ↔ char ≠ '\x7d' ∧ char ≠ ':' := by
  simp [endsName]

theorem endsDefault_eq_false_iff {char : Char} : endsDefault char = false ↔ char ≠ '\x7d' := by
  simp [endsDefault]

theorem atFront?_of_proper {placeholder : Placeholder} (proper : placeholder.Proper)
    (after : List Char) : atFront? (placeholder.written ++ after) = some placeholder := by
  rcases placeholder with ⟨name, default, written⟩
  have written : written = spelling name.toList (default.map String.toList) := proper.written
  subst written
  have chars : name.toList ≠ [] := mt String.toList_eq_nil_iff.mp proper.nonempty
  have nameGoesOn : ∀ char ∈ name.toList, endsName char = false :=
    fun char member => endsName_eq_false_iff.mpr (proper.name char member)
  cases default with
  | none =>
      have split : spelling name.toList none ++ after =
          '$' :: '\x7b' :: (name.toList ++ '\x7d' :: after) := by
        simp [spelling]
      simp only [Option.map_none, split]
      rw [atFront?, ofBody?, takeWhile_before nameGoesOn rfl, dropWhile_before nameGoesOn rfl,
        if_neg chars, String.ofList_toList]
      rfl
  | some default =>
      have defaultGoesOn : ∀ char ∈ default.toList, endsDefault char = false := by
        intro char member
        apply endsDefault_eq_false_iff.mpr
        rintro rfl
        exact proper.default default rfl member
      have split : spelling name.toList (some default.toList) ++ after =
          '$' :: '\x7b' :: (name.toList ++ ':' :: '-' :: (default.toList ++ '\x7d' :: after)) := by
        simp [spelling]
      have front : (default.toList ++ '\x7d' :: after).takeWhile (!endsDefault ·) =
          default.toList := takeWhile_before defaultGoesOn rfl
      have back : (default.toList ++ '\x7d' :: after).dropWhile (!endsDefault ·) =
          '\x7d' :: after := dropWhile_before defaultGoesOn rfl
      simp only [Option.map_some, split]
      rw [atFront?, ofBody?, takeWhile_before nameGoesOn rfl, dropWhile_before nameGoesOn rfl,
        if_neg chars]
      simp only [front, back, String.ofList_toList]
      rfl

theorem dropWhile_eq_cons {ends : Char → Bool} {text behind : List Char} {char : Char}
    (rest : text.dropWhile (!ends ·) = char :: behind) :
    text = text.takeWhile (!ends ·) ++ char :: behind ∧ ends char = true ∧
      ∀ char ∈ text.takeWhile (!ends ·), ends char = false := by
  refine ⟨?_, ?_, ?_⟩
  · rw [← rest, List.takeWhile_append_dropWhile]
  · have stop := List.head?_dropWhile_not (!ends ·) text
    rw [rest] at stop
    simpa using stop
  · intro char member
    simpa using List.all_eq_true.mp List.all_takeWhile char member

theorem proper_of_ofBody? {body : List Char} {placeholder : Placeholder}
    (found : ofBody? body = some placeholder) :
    placeholder.Proper ∧ ∃ after, '$' :: '\x7b' :: body = placeholder.written ++ after := by
  rw [ofBody?] at found
  split at found
  case isTrue => cases found
  case isFalse nonempty =>
    have named : String.ofList (body.takeWhile (!endsName ·)) ≠ "" := by
      simpa using nonempty
    split at found
    case h_1 after behind =>
      rcases dropWhile_eq_cons behind with ⟨whole, _, within⟩
      cases found
      refine ⟨⟨named, ?_, ?_, ?_⟩, after, ?_⟩
      · intro char member
        rw [String.toList_ofList] at member
        exact endsName_eq_false_iff.mp (within char member)
      · rintro value ⟨⟩
      · simp [spelling]
      · conv => lhs; rw [whole]
        simp
    case h_2 rest behind =>
      split at found
      case h_1 => cases found
      case h_2 stop after atEnd =>
        rcases dropWhile_eq_cons behind with ⟨whole, _, within⟩
        rcases dropWhile_eq_cons atEnd with ⟨wholeDefault, stops, withinDefault⟩
        have close : stop = '\x7d' := of_decide_eq_true stops
        cases found
        refine ⟨⟨named, ?_, ?_, ?_⟩, after, ?_⟩
        · intro char member
          rw [String.toList_ofList] at member
          exact endsName_eq_false_iff.mp (within char member)
        · rintro value ⟨⟩ member
          rw [String.toList_ofList] at member
          exact endsDefault_eq_false_iff.mp (withinDefault _ member) rfl
        · simp [spelling]
        · conv => lhs; rw [whole, wholeDefault, close]
          simp
    case h_3 => cases found

theorem atFront?_eq_some_iff {text : List Char} {placeholder : Placeholder} :
    atFront? text = some placeholder ↔
      placeholder.Proper ∧ ∃ after, text = placeholder.written ++ after := by
  constructor
  · intro found
    unfold atFront? at found
    split at found
    · exact proper_of_ofBody? found
    · cases found
  · rintro ⟨proper, after, rfl⟩
    exact atFront?_of_proper proper after

/-- Whether the placeholder is written somewhere in the text. -/
def Occurs (placeholder : Placeholder) (text : List Char) : Prop :=
  placeholder.Proper ∧ ∃ before after, text = before ++ placeholder.written ++ after

theorem findFrom_zero_eq_nil_iff {text : List Char} :
    findFrom 0 text = [] ↔ ∀ behind, behind <:+ text → atFront? behind = none := by
  induction text with
  | nil =>
      refine iff_of_true rfl ?_
      intro behind suffix
      rw [List.suffix_nil.mp suffix]
      rfl
  | cons char text induction =>
      simp only [List.suffix_cons_iff, forall_eq_or_imp, ← induction]
      rw [findFrom]
      cases atFront? (char :: text) <;> simp

/-- Nothing is found if and only if no placeholder is written anywhere. -/
theorem findAll_eq_nil_iff {value : String} :
    findAll value = [] ↔ ∀ placeholder : Placeholder, ¬ placeholder.Occurs value.toList := by
  rw [findAll, findFrom_zero_eq_nil_iff]
  constructor
  · rintro nowhere placeholder ⟨proper, before, after, split⟩
    rw [List.append_assoc] at split
    have front := nowhere _ ⟨before, split.symm⟩
    rw [atFront?_of_proper proper] at front
    cases front
  · rintro nowhere behind ⟨before, split⟩
    rw [Option.eq_none_iff_forall_ne_some]
    intro placeholder found
    rcases atFront?_eq_some_iff.mp found with ⟨proper, after, rfl⟩
    exact nowhere placeholder ⟨proper, before, after, by rw [List.append_assoc, split]⟩

end Placeholder

theorem substitute_of_findAll_eq_nil {value : String} (environment : Environment)
    (none : Placeholder.findAll value = []) : substitute environment value = .ok value := by
  rw [substitute, none]
  exact congrArg Except.ok String.ofList_toList

end TypeTokenWrappers.Config
