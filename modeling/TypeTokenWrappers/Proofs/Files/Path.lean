import TypeTokenWrappers.Files.Path

/-! # The pieces of paths

Only the significant pieces of a path lead anywhere. Those of a path above another are the
first ones of the other. -/

namespace TypeTokenWrappers

namespace Pieces

variable {α : Type} [DecidableEq α] {separator : α}

theorem cut_cons_self (rest : List α) :
    cut separator (separator :: rest) = [] :: cut separator rest :=
  if_pos rfl

theorem cut_append (front behind : List α) :
    cut separator (front ++ separator :: behind) = cut separator front ++ cut separator behind := by
  induction front with
  | nil => exact cut_cons_self behind
  | cons item front induction =>
    rw [List.cons_append, cut, cut, induction]
    cases pieces : cut separator front with
    | nil => exact absurd pieces (cut_ne_nil separator front)
    | cons first others =>
      split <;> rfl

theorem cut_of_notMem {text : List α} (free : separator ∉ text) : cut separator text = [text] := by
  induction text with
  | nil => rfl
  | cons item text induction =>
    rw [List.mem_cons, not_or] at free
    rw [cut, if_neg (Ne.symm free.1), induction free.2]

theorem notMem_of_mem_cut {text piece : List α} (member : piece ∈ cut separator text) :
    separator ∉ piece := by
  induction text generalizing piece with
  | nil =>
    rw [List.mem_singleton.mp member]
    exact List.not_mem_nil
  | cons item text induction =>
    rw [cut] at member
    split at member
    · rcases List.mem_cons.mp member with rfl | member
      · exact List.not_mem_nil
      · exact induction member
    · next different =>
      split at member
      · next empty => exact absurd empty (cut_ne_nil separator text)
      · next first others pieces =>
        rw [pieces] at induction
        rcases List.mem_cons.mp member with rfl | member
        · have free := induction List.mem_cons_self
          simp [free, Ne.symm different]
        · exact induction (List.mem_cons_of_mem first member)

theorem cut_join {pieces : List (List α)} (nonempty : pieces ≠ [])
    (free : ∀ piece ∈ pieces, separator ∉ piece) :
    cut separator (join separator pieces) = pieces := by
  induction pieces with
  | nil => exact absurd rfl nonempty
  | cons piece pieces induction =>
    obtain ⟨here, others⟩ := List.forall_mem_cons.mp free
    cases pieces with
    | nil => exact cut_of_notMem here
    | cons second pieces =>
      rw [join, cut_append, cut_of_notMem here, induction (List.cons_ne_nil _ _) others]
      · rfl
      · exact List.cons_ne_nil _ _

end Pieces

namespace Path

/-- The pieces of a path that lead somewhere. -/
def pieces (path : List Char) : List (List Char) :=
  (Pieces.cut '/' path).filter significant

theorem pieces_slash (path : List Char) : pieces ('/' :: path) = pieces path := by
  rw [pieces, Pieces.cut_cons_self]
  rfl

theorem pieces_here_slash (path : List Char) : pieces ('.' :: '/' :: path) = pieces path := by
  have split : Pieces.cut '/' ('.' :: '/' :: path) = ['.'] :: Pieces.cut '/' path :=
    Pieces.cut_append ['.'] path
  rw [pieces, split]
  rfl

theorem pieces_join {parts : List (List Char)} (free : ∀ piece ∈ parts, '/' ∉ piece) :
    pieces (Pieces.join '/' parts) = parts.filter significant := by
  cases parts with
  | nil => rfl
  | cons first others => rw [pieces, Pieces.cut_join (List.cons_ne_nil first others) free]

/-- Whether a text is left of a path with this head and these pieces behind it, when components
are taken from the end. -/
def LeftOf (head : List Char) (parts : List (List Char)) (text : List Char) : Prop :=
  (text = [] ∧ head = ['.']) ∨ ∃ front, front <+: parts ∧
    (∀ last ∈ front.getLast?, significant last) ∧ text = head ++ Pieces.join '/' front

theorem LeftOf.longer {head text : List Char} {parts more : List (List Char)}
    (left : LeftOf head parts text) (longer : parts <+: more) : LeftOf head more text :=
  left.imp_right fun ⟨front, first, last, same⟩ => ⟨front, first.trans longer, last, same⟩

theorem leftOf_of_mem_shortened {head text : List Char} {reversed : List (List Char)}
    (member : text ∈ shortened head reversed) : LeftOf head reversed.reverse text := by
  induction reversed with
  | nil =>
    rw [shortened] at member
    split at member
    · next here => exact .inl ⟨List.mem_singleton.mp member, here⟩
    · cases member
  | cons piece others induction =>
    have whole : others.reverse <+: (piece :: others).reverse := by simp
    rw [shortened] at member
    split at member
    · rcases List.mem_cons.mp member with rfl | member
      · refine .inr ⟨(others.dropWhile (!significant ·)).reverse, ?_, ?_, rfl⟩
        · have dropped : (others.dropWhile (!significant ·)).reverse <+: others.reverse :=
            List.reverse_prefix.mpr (List.dropWhile_suffix _)
          exact dropped.trans whole
        · intro last found
          rw [List.getLast?_reverse] at found
          have stop := List.head?_dropWhile_not (!significant ·) others
          rw [Option.mem_def.mp found] at stop
          simpa using stop
      · exact (induction member).longer whole
    · exact (induction member).longer whole

theorem join_append (front behind : List (List Char)) (nonempty : front ≠ []) :
    ∃ rest, Pieces.join '/' (front ++ behind) = Pieces.join '/' front ++ rest := by
  induction front with
  | nil => exact absurd rfl nonempty
  | cons first others induction =>
    cases others with
    | nil =>
      cases behind with
      | nil => exact ⟨[], by simp⟩
      | cons second behind => exact ⟨_, rfl⟩
    | cons second others =>
      obtain ⟨rest, same⟩ := induction nofun
      refine ⟨rest, ?_⟩
      change first ++ '/' :: Pieces.join '/' (second :: others ++ behind) =
        first ++ '/' :: Pieces.join '/' (second :: others) ++ rest
      rw [same, List.append_assoc, List.cons_append]

theorem join_of_first {path : List Char} {front : List (List Char)}
    (first : front <+: Pieces.cut '/' path) : Pieces.join '/' front <+: path := by
  cases front with
  | nil => exact List.nil_prefix
  | cons piece front =>
    obtain ⟨behind, whole⟩ := first
    obtain ⟨rest, same⟩ := join_append (piece :: front) behind nofun
    rw [whole, Pieces.join_cut] at same
    exact ⟨rest, same.symm⟩

theorem splitHead_eq (path : List Char) :
    (∃ rest, path = '/' :: rest) ∨ path = ['.'] ∨ (∃ rest, path = '.' :: '/' :: rest) ∨
      splitHead path = ([], path) ∧ path.head? ≠ some '/' := by
  unfold splitHead
  split
  · exact .inl ⟨_, rfl⟩
  · exact .inr (.inl rfl)
  · exact .inr (.inr (.inl ⟨_, rfl⟩))
  · next no _ _ =>
    refine .inr (.inr (.inr ⟨rfl, fun slash => ?_⟩))
    obtain ⟨rest, rfl⟩ := List.head?_eq_some_iff.mp slash
    exact no rest rfl

/-- The pieces of what is left of a path are the first ones of those of the path. -/
theorem LeftOf.pieces {path text : List Char}
    (left : LeftOf (splitHead path).1 (Pieces.cut '/' (splitHead path).2) text) :
    (text.head? == some '/') = (path.head? == some '/') ∧
      Path.pieces text <+: Path.pieces path := by
  rcases left with ⟨rfl, here⟩ | ⟨front, first, last, rfl⟩
  · refine ⟨?_, by simp [Path.pieces, Pieces.cut, significant]⟩
    rcases splitHead_eq path with ⟨rest, rfl⟩ | rfl | ⟨rest, rfl⟩ | ⟨whole, relative⟩
    · cases here
    · rfl
    · rfl
    · rw [whole] at here
      cases here
  · have free : ∀ piece ∈ front, '/' ∉ piece :=
      fun piece member => Pieces.notMem_of_mem_cut (first.subset member)
    have kept := first.filter significant
    rcases splitHead_eq path with ⟨rest, rfl⟩ | rfl | ⟨rest, rfl⟩ | ⟨whole, relative⟩
    · refine ⟨rfl, ?_⟩
      change Path.pieces ('/' :: Pieces.join '/' front) <+: _
      rw [pieces_slash, pieces_slash, pieces_join free]
      exact kept
    · -- The only piece behind the dot is empty, and so is what is left of it.
      have none : front = [] := by
        rcases List.prefix_cons_iff.mp first with rfl | ⟨others, rfl, more⟩
        · rfl
        · cases List.prefix_nil.mp more
          cases last [] rfl
      subst none
      exact ⟨rfl, kept⟩
    · refine ⟨rfl, ?_⟩
      rw [pieces_here_slash]
      rcases List.prefix_cons_iff.mp (Pieces.cut_cons_self rest ▸ first) with
        rfl | ⟨others, rfl, more⟩
      · exact kept
      · cases others with
        | nil => cases last [] rfl
        | cons second others =>
          change Path.pieces ('.' :: '/' :: Pieces.join '/' (second :: others)) <+: _
          rw [pieces_here_slash, pieces_join (List.forall_mem_cons.mp free).2]
          exact more.filter significant
    · rw [whole] at first kept ⊢
      rw [List.nil_append, pieces_join free]
      refine ⟨?_, kept⟩
      obtain ⟨behind, same⟩ := join_of_first first
      rw [beq_eq_false_iff_ne.mpr relative, beq_eq_false_iff_ne]
      intro slash
      change _ = path at same
      rw [← same, List.head?_append, slash] at relative
      exact relative rfl

/-- What stands above a path begins where the path begins, and its pieces are the first ones of
those of the path. -/
theorem above_path {above path : String} (member : above ∈ parents path) :
    isAbsolute above = isAbsolute path ∧ pieces above.toList <+: pieces path.toList := by
  obtain ⟨text, kept, rfl⟩ := List.mem_map.mp member
  have left := leftOf_of_mem_shortened kept
  rw [reversedPieces.eq_def, List.reverse_reverse] at left
  rw [isAbsolute, isAbsolute, String.toList_ofList]
  exact left.pieces

/-- The last piece of a file in a directory is its name. -/
theorem cut_join_name (directory : String) {name : String} (free : '/' ∉ name.toList) :
    ∃ front, Pieces.cut '/' (join directory name).toList = front ++ [name.toList] := by
  have last (text : List Char) :
      Pieces.cut '/' (text ++ '/' :: name.toList) = Pieces.cut '/' text ++ [name.toList] := by
    rw [Pieces.cut_append, Pieces.cut_of_notMem free]
  have relative : isAbsolute name = false := by
    rw [isAbsolute, beq_eq_false_iff_ne]
    exact fun slash => free (List.mem_of_head? slash)
  rw [join, relative, if_neg Bool.false_ne_true]
  split
  · next ends =>
    rw [String.toList_append]
    rcases (Bool.or_eq_true ..).mp ends with empty | slash
    · rw [of_decide_eq_true empty]
      exact ⟨[], Pieces.cut_of_notMem free⟩
    · obtain ⟨front, whole⟩ := List.getLast?_eq_some_iff.mp (of_decide_eq_true slash)
      rw [whole, List.append_assoc]
      exact ⟨_, last front⟩
  · rw [String.toList_append, String.toList_append, List.append_assoc]
    exact ⟨_, last directory.toList⟩

end Path

end TypeTokenWrappers
