import Mathlib.Data.List.TakeWhile
import TypeTokenWrappers.Proofs.Files.Path

/-! # The file name of a path

The file name is the last component of a path, unless that is `..`; separators and `.`
components behind it do not count. So it is the same for all spellings of one path. -/

namespace TypeTokenWrappers

namespace Pieces

variable {α : Type} {separator : α}

theorem join_cons (piece : List α) (others : List (List α)) :
    join separator (piece :: others) = piece ++ others.flatMap (separator :: ·) := by
  induction others generalizing piece with
  | nil => simp [join]
  | cons second others induction =>
      change piece ++ separator :: join separator (second :: others) = _
      rw [induction, List.flatMap_cons, List.cons_append]

theorem join_append_cons (first piece : List α) (front others : List (List α)) :
    join separator (first :: front ++ piece :: others) =
      join separator (first :: front) ++ separator :: join separator (piece :: others) := by
  rw [List.cons_append, join_cons, join_cons, join_cons, List.flatMap_append, List.flatMap_cons,
    List.append_assoc, List.cons_append]

end Pieces

namespace Path

/-- What a directory can name one of its entries. -/
def IsName (name : String) : Prop :=
  name ≠ "" ∧ '/' ∉ name.toList ∧ name ≠ "." ∧ name ≠ ".."

/-- Whether a path ends in this name, but for separators and `.` components behind it. -/
def EndsIn (path name : String) : Prop :=
  ∃ front trailing, path.toList = front ++ name.toList ++ List.flatMap ('/' :: ·) trailing ∧
    (front = [] ∨ front.getLast? = some '/') ∧ IsName name ∧
    ∀ piece ∈ trailing, piece = [] ∨ piece = ['.']

variable {path name : String}

theorem significant_eq_false_iff {piece : List Char} :
    significant piece = false ↔ piece = [] ∨ piece = ['.'] := by
  rw [significant, Bool.and_eq_false_iff, bne_eq_false_iff_eq, bne_eq_false_iff_eq]

theorem isName_iff :
    IsName name ↔ significant name.toList ∧ '/' ∉ name.toList ∧ name.toList ≠ ['.', '.'] := by
  have empty : name = "" ↔ name.toList = [] := String.toList_inj.symm
  have here : name = "." ↔ name.toList = ['.'] := String.toList_inj.symm
  have parent : name = ".." ↔ name.toList = ['.', '.'] := String.toList_inj.symm
  rw [IsName, significant, Bool.and_eq_true, bne_iff_ne, bne_iff_ne]
  simp only [ne_eq, empty, here, parent]
  constructor
  · rintro ⟨filled, free, noHere, noParent⟩
    exact ⟨⟨filled, noHere⟩, free, noParent⟩
  · rintro ⟨⟨filled, noHere⟩, free, noParent⟩
    exact ⟨filled, free, noHere, noParent⟩

/-- The beginning of a path has no significant piece. -/
theorem filter_cut_splitHead (path : List Char) :
    (Pieces.cut '/' (splitHead path).2).filter significant = pieces path := by
  rcases splitHead_eq path with ⟨rest, rfl⟩ | rfl | ⟨rest, rfl⟩ | ⟨whole, _⟩
  · exact (pieces_slash rest).symm
  · rfl
  · rw [pieces_here_slash]
    exact pieces_slash rest
  · rw [whole, pieces]

/-- The name that a piece is, if it is one. -/
def nameOfPiece? (piece : List Char) : Option String :=
  if piece = ['.', '.'] then none else some (String.ofList piece)

theorem fileName?_eq (path : String) :
    fileName? path = (pieces path.toList).getLast?.bind nameOfPiece? := by
  have last : (pieces path.toList).getLast? =
      ((reversedPieces path.toList).dropWhile (!significant ·)).head? := by
    rw [← filter_cut_splitHead, List.getLast?_filter, List.find?_eq_head?_dropWhile_not]
    rfl
  rw [fileName?, last]
  cases (reversedPieces path.toList).dropWhile (!significant ·) <;> rfl

theorem getLast?_pieces_of_trailing {front piece : List Char} {trailing : List (List Char)}
    (begins : front = [] ∨ front.getLast? = some '/') (filled : significant piece)
    (free : '/' ∉ piece) (nothing : ∀ other ∈ trailing, other = [] ∨ other = ['.']) :
    (pieces (front ++ piece ++ List.flatMap ('/' :: ·) trailing)).getLast? = some piece := by
  have freeOthers : ∀ other ∈ piece :: trailing, '/' ∉ other := by
    intro other member
    rcases List.mem_cons.mp member with rfl | member
    · exact free
    · rcases nothing other member with rfl | rfl <;> decide
  have dropped : trailing.filter significant = [] := by
    rw [List.filter_eq_nil_iff]
    intro other member
    rw [significant_eq_false_iff.mpr (nothing other member)]
    exact Bool.false_ne_true
  have behind : pieces (piece ++ List.flatMap ('/' :: ·) trailing) = [piece] := by
    rw [← Pieces.join_cons, pieces_join freeOthers, List.filter_cons_of_pos filled, dropped]
  rcases begins with rfl | slash
  · rw [List.nil_append, behind, List.getLast?_singleton]
  · rcases List.getLast?_eq_some_iff.mp slash with ⟨front, rfl⟩
    rw [List.append_assoc, List.append_assoc, List.singleton_append, pieces, Pieces.cut_append,
      List.filter_append]
    change (_ ++ pieces _).getLast? = _
    rw [behind, List.getLast?_concat]

theorem exists_trailing_of_getLast?_pieces {text piece : List Char}
    (last : (pieces text).getLast? = some piece) :
    ∃ front trailing, text = front ++ piece ++ List.flatMap ('/' :: ·) trailing ∧
      (front = [] ∨ front.getLast? = some '/') ∧ significant piece ∧ '/' ∉ piece ∧
      ∀ other ∈ trailing, other = [] ∨ other = ['.'] := by
  rw [pieces, List.getLast?_filter, List.find?_eq_some_iff_append] at last
  rcases last with ⟨found, behind, ahead, reversed, nothing⟩
  have split : Pieces.cut '/' text = ahead.reverse ++ piece :: behind.reverse := by
    rw [← List.reverse_inj, reversed]
    simp
  have member : piece ∈ Pieces.cut '/' text := by
    rw [split]
    exact List.mem_append_right _ List.mem_cons_self
  have whole := Pieces.join_cut '/' text
  rw [split] at whole
  have nothing' : ∀ other ∈ behind.reverse, other = [] ∨ other = ['.'] := by
    intro other inside
    have fails := nothing other (List.mem_reverse.mp inside)
    rw [Bool.not_eq_true'] at fails
    exact significant_eq_false_iff.mp fails
  have free := Pieces.notMem_of_mem_cut member
  cases front : ahead.reverse with
  | nil =>
      rw [front, List.nil_append, Pieces.join_cons] at whole
      exact ⟨[], behind.reverse, whole.symm, .inl rfl, found, free, nothing'⟩
  | cons first others =>
      rw [front, Pieces.join_append_cons, Pieces.join_cons piece] at whole
      refine ⟨Pieces.join '/' (first :: others) ++ ['/'], behind.reverse, ?_,
        .inr List.getLast?_concat, found, free, nothing'⟩
      rw [← whole, List.append_assoc, List.append_assoc, List.singleton_append]

theorem fileName?_eq_some_iff : fileName? path = some name ↔ EndsIn path name := by
  rw [fileName?_eq, Option.bind_eq_some_iff]
  constructor
  · rintro ⟨piece, last, named⟩
    rw [nameOfPiece?] at named
    split at named
    · cases named
    · next noParent =>
      cases named
      rcases exists_trailing_of_getLast?_pieces last with
        ⟨front, trailing, whole, begins, found, free, nothing⟩
      refine ⟨front, trailing, ?_, begins, isName_iff.mpr ?_, nothing⟩
      · rw [String.toList_ofList, whole]
      · rw [String.toList_ofList]
        exact ⟨found, free, noParent⟩
  · rintro ⟨front, trailing, whole, begins, isName, nothing⟩
    rcases isName_iff.mp isName with ⟨found, free, noParent⟩
    refine ⟨name.toList, ?_, ?_⟩
    · rw [whole]
      exact getLast?_pieces_of_trailing begins found free nothing
    · rw [nameOfPiece?, if_neg noParent, String.ofList_toList]

/-! ## Spellings of one path -/

theorem components_eq (path : String) :
    ∃ beginning, components path = beginning ++ (pieces path.toList).map componentOfPiece ∧
      (beginning = [.root] ∨ beginning = [.here] ∨ beginning = []) := by
  rw [← filter_cut_splitHead, components]
  dsimp only
  split
  · exact ⟨_, rfl, .inl rfl⟩
  · exact ⟨_, rfl, .inr (.inl rfl)⟩
  · exact ⟨_, rfl, .inr (.inr rfl)⟩

/-- The name that a component is, if it is one. -/
def Component.name? : Component → Option String
  | .name name => some name
  | .root | .here | .parent => none

theorem name?_componentOfPiece (piece : List Char) :
    (componentOfPiece piece).name? = nameOfPiece? piece := by
  rw [componentOfPiece, nameOfPiece?]
  split <;> rfl

theorem fileName?_eq_components (path : String) :
    fileName? path = (components path).getLast?.bind Component.name? := by
  rcases components_eq path with ⟨beginning, parts, kinds⟩
  rw [fileName?_eq, parts, List.getLast?_append, List.getLast?_map]
  cases (pieces path.toList).getLast? with
  | none => rcases kinds with rfl | rfl | rfl <;> rfl
  | some piece => exact (name?_componentOfPiece piece).symm

/-- All spellings of one path have the same file name. -/
theorem fileName?_congr {other : String} (same : components path = components other) :
    fileName? path = fileName? other := by
  rw [fileName?_eq_components, same, ← fileName?_eq_components]

example : fileName? "lib//gradle.jar/./" = some "gradle.jar" := by decide +kernel

/-! ## Paths below a directory -/

/-- The path of a place as seen from a directory. -/
def below (directory : String) (place : List String) : String :=
  place.foldl join directory

theorem pieces_append_slash (front behind : List Char) :
    pieces (front ++ '/' :: behind) = pieces front ++ pieces behind := by
  rw [pieces, Pieces.cut_append, List.filter_append, pieces, pieces]

theorem isAbsolute_eq_false (isName : IsName name) : isAbsolute name = false := by
  rw [isAbsolute, beq_eq_false_iff_ne]
  exact fun slash => isName.2.1 (List.mem_of_head? slash)

theorem pieces_join_name (directory : String) (isName : IsName name) :
    pieces (join directory name).toList = pieces directory.toList ++ [name.toList] := by
  rcases isName_iff.mp isName with ⟨filled, free, _⟩
  have own : pieces name.toList = [name.toList] := by
    rw [pieces, Pieces.cut_of_notMem free, List.filter_cons_of_pos filled, List.filter_nil]
  rw [join, isAbsolute_eq_false isName, if_neg Bool.false_ne_true]
  split
  case isTrue ends =>
    rw [String.toList_append]
    rcases (Bool.or_eq_true ..).mp ends with empty | slash
    · rw [of_decide_eq_true empty]
      exact own
    · rcases List.getLast?_eq_some_iff.mp (of_decide_eq_true slash) with ⟨front, whole⟩
      rw [whole, List.append_assoc, List.singleton_append, pieces_append_slash,
        pieces_append_slash, own]
      exact congrArg (· ++ _) (List.append_nil _).symm
  case isFalse =>
    rw [String.toList_append, String.toList_append, List.append_assoc]
    exact (pieces_append_slash _ _).trans (congrArg _ own)

theorem fst_splitHead_append {front : List Char} (filled : front ≠ []) (noHere : front ≠ ['.'])
    (rest : List Char) : (splitHead (front ++ rest)).1 = (splitHead front).1 := by
  rcases splitHead_eq front with ⟨behind, rfl⟩ | rfl | ⟨behind, rfl⟩ | ⟨whole, relative⟩
  · rfl
  · exact absurd rfl noHere
  · rfl
  · cases front with
    | nil => exact absurd rfl filled
    | cons first others =>
        rcases splitHead_eq (first :: others ++ rest) with
          ⟨behind, same⟩ | same | ⟨behind, same⟩ | ⟨whole', _⟩
        · cases same
          exact absurd rfl relative
        · cases others <;> cases same
          exact absurd rfl noHere
        · cases others with
          | nil =>
              cases same
              exact absurd rfl noHere
          | cons second others =>
              cases same
              cases whole
        · rw [whole, whole']

theorem fst_splitHead_join (directory : String) (isName : IsName name) :
    (splitHead (join directory name).toList).1 = (splitHead directory.toList).1 := by
  by_cases empty : directory = ""
  · subst empty
    have alone : join "" name = name := by
      rw [join, isAbsolute_eq_false isName]
      exact String.empty_append
    rw [alone]
    rcases isName_iff.mp isName with ⟨filled, free, _⟩
    rcases splitHead_eq name.toList with ⟨rest, same⟩ | same | ⟨rest, same⟩ | ⟨whole, _⟩
    · exact absurd (same ▸ List.mem_cons_self) free
    · rw [same] at filled
      cases filled
    · exact absurd (same ▸ List.mem_cons_of_mem _ List.mem_cons_self) free
    · rw [whole]
      rfl
  · by_cases here : directory = "."
    · subst here
      have joined : join "." name = "./" ++ name := by
        rw [join, isAbsolute_eq_false isName]
        rfl
      rw [joined, String.toList_append]
      rfl
    · have filled : directory.toList ≠ [] := fun none => empty (String.toList_inj.mp none)
      have noHere : directory.toList ≠ ['.'] := fun dot => here (String.toList_inj.mp dot)
      rw [join, isAbsolute_eq_false isName, if_neg Bool.false_ne_true]
      split
      · rw [String.toList_append, fst_splitHead_append filled noHere]
      · rw [String.append_assoc, String.toList_append, fst_splitHead_append filled noHere]

theorem components_join (directory : String) (isName : IsName name) :
    components (join directory name) = components directory ++ [.name name] := by
  have noParent := (isName_iff.mp isName).2.2
  have own : componentOfPiece name.toList = .name name := by
    rw [componentOfPiece, if_neg noParent, String.ofList_toList]
  rw [components, components]
  dsimp only
  rw [filter_cut_splitHead, filter_cut_splitHead, fst_splitHead_join directory isName,
    pieces_join_name directory isName, List.map_append, List.map_singleton, own,
    List.append_assoc]

/-- The components of a place below a directory are the names on the way to it. -/
theorem components_below (directory : String) {place : List String}
    (names : ∀ name ∈ place, IsName name) :
    components (below directory place) = components directory ++ place.map .name := by
  induction place generalizing directory with
  | nil => exact (List.append_nil _).symm
  | cons name place induction =>
      rw [List.forall_mem_cons] at names
      rw [below, List.foldl_cons]
      change components (below _ place) = _
      rw [induction _ names.2, components_join directory names.1, List.append_assoc]
      rfl

theorem fileName?_below (directory : String) {place : List String}
    (names : ∀ name ∈ place, IsName name) (last : place.getLast? = some name) :
    fileName? (below directory place) = some name := by
  rw [fileName?_eq_components, components_below directory names, List.getLast?_append,
    List.getLast?_map, last]
  rfl

/-! ## Extensions -/

/-- The extension that a name has. -/
def extensionOf? (name : List Char) : Option String :=
  match (Pieces.cut '.' name).reverse with
  | [] | [_] => none
  | [_, []] => none
  | extension :: _ => some (String.ofList extension)

theorem extension?_eq (path : String) :
    extension? path = (fileName? path).bind fun name => extensionOf? name.toList := rfl

theorem extensionOf?_append {stem extension : List Char} (filled : stem ≠ [])
    (free : '.' ∉ extension) :
    extensionOf? (stem ++ '.' :: extension) = some (String.ofList extension) := by
  have pieces : (Pieces.cut '.' (stem ++ '.' :: extension)).reverse =
      extension :: (Pieces.cut '.' stem).reverse := by
    rw [Pieces.cut_append, Pieces.cut_of_notMem free, List.reverse_append]
    rfl
  have whole := Pieces.join_cut '.' stem
  rw [extensionOf?, pieces]
  rcases split : (Pieces.cut '.' stem).reverse with _ | ⟨piece, _ | ⟨second, others⟩⟩
  · exact absurd (List.reverse_eq_nil_iff.mp split) (Pieces.cut_ne_nil '.' stem)
  · rw [List.reverse_eq_iff.mp split] at whole
    cases piece with
    | nil => exact absurd whole.symm filled
    | cons => rfl
  · cases piece <;> rfl

theorem exists_stem_of_extensionOf? {name : List Char} {extension : String}
    (found : extensionOf? name = some extension) :
    ∃ stem, stem ≠ [] ∧ name = stem ++ '.' :: extension.toList := by
  have whole := Pieces.join_cut '.' name
  rw [extensionOf?] at found
  rcases split : (Pieces.cut '.' name).reverse with _ | ⟨last, _ | ⟨piece, others⟩⟩
  · rw [split] at found
    cases found
  · rw [split] at found
    cases found
  · have more : ¬ (piece = [] ∧ others = []) := by
      rintro ⟨rfl, rfl⟩
      rw [split] at found
      cases found
    have extensionIs : String.ofList last = extension := by
      rw [split] at found
      cases piece <;> cases others <;> cases found <;> rfl
    rcases List.exists_cons_of_ne_nil (List.reverse_ne_nil_iff.mpr (List.cons_ne_nil piece others))
      with ⟨first, front, ahead⟩
    rw [List.reverse_eq_iff.mp split, List.reverse_cons, ahead, Pieces.join_append_cons] at whole
    refine ⟨Pieces.join '.' (first :: front), ?_, ?_⟩
    · rw [Pieces.join_cons]
      intro nothing
      rcases List.append_eq_nil_iff.mp nothing with ⟨rfl, none⟩
      cases front with
      | nil =>
          cases List.reverse_eq_iff.mp ahead
          exact more ⟨rfl, rfl⟩
      | cons => cases none
    · rw [← extensionIs, String.toList_ofList]
      exact whole.symm

theorem extension?_eq_some_iff {extension : String} (free : '.' ∉ extension.toList) :
    extension? path = some extension ↔
      ∃ stem, stem ≠ "" ∧ fileName? path = some (stem ++ "." ++ extension) := by
  rw [extension?_eq, Option.bind_eq_some_iff]
  constructor
  · rintro ⟨name, named, found⟩
    rcases exists_stem_of_extensionOf? found with ⟨stem, filled, whole⟩
    refine ⟨String.ofList stem, ?_, ?_⟩
    · intro empty
      exact filled (String.ofList_eq_empty_iff.mp empty)
    · rw [named, Option.some_inj, ← String.toList_inj, whole, String.toList_append,
        String.toList_append, String.toList_ofList, List.append_assoc]
      rfl
  · rintro ⟨stem, filled, named⟩
    refine ⟨_, named, ?_⟩
    rw [String.toList_append, String.toList_append, List.append_assoc]
    have split := extensionOf?_append (fun none => filled (String.toList_inj.mp none)) free
    rw [String.ofList_toList] at split
    exact split

end Path

end TypeTokenWrappers
