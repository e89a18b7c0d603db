import TypeTokenWrappers.Proofs.Files.Path
import TypeTokenWrappers.Proofs.Files.World

/-! # The way of a path

The places that a path passes, whatever stands there. A walk by the path goes this way as far
as it goes; so it is the same on two hosts that have the same directories and files on it. -/

namespace TypeTokenWrappers.World

variable {root later : FileTree (List UInt8)} {world : World} {directory place : List String}
  {path : String}

/-- Where a piece leads from a place, if one can go on from there. -/
def moved (place : List String) (piece : List Char) : List String :=
  if !Path.significant piece then place
  else if piece = ['.', '.'] then place.dropLast
  else place ++ [String.ofList piece]

/-- The places that are passed by these pieces, the first of them first. -/
def wayFrom (place : List String) : (pieces : List (List Char)) → List (List String)
  | [] => [place]
  | piece :: pieces => place :: wayFrom (moved place piece) pieces

/-- Where a path begins that is taken from a working directory. -/
def startIn (directory : List String) (path : String) : List String :=
  if Path.isAbsolute path then [] else directory

def way (directory : List String) (path : String) : List (List String) :=
  wayFrom (startIn directory path) (Pieces.cut '/' path.toList)

/-- The place at the end of the way. -/
def goal (directory : List String) (path : String) : List String :=
  (Pieces.cut '/' path.toList).foldl moved (startIn directory path)

theorem moved_of_not_significant {piece : List Char} (nothing : Path.significant piece = false) :
    moved place piece = place := by
  rw [moved, nothing]
  rfl

theorem mem_wayFrom_self (place : List String) (pieces : List (List Char)) :
    place ∈ wayFrom place pieces := by
  cases pieces <;> exact List.mem_cons_self

theorem foldl_moved_mem_wayFrom (place : List String) (pieces : List (List Char)) :
    pieces.foldl moved place ∈ wayFrom place pieces := by
  induction pieces generalizing place with
  | nil => exact List.mem_cons_self
  | cons piece pieces induction => exact List.mem_cons_of_mem _ (induction (moved place piece))

theorem goal_mem_way (directory : List String) (path : String) :
    goal directory path ∈ way directory path :=
  foldl_moved_mem_wayFrom _ _

theorem wayFrom_subset_append (place : List String) (front behind : List (List Char)) :
    wayFrom place front ⊆ wayFrom place (front ++ behind) := by
  induction front generalizing place with
  | nil => exact List.cons_subset.mpr ⟨mem_wayFrom_self place behind, List.nil_subset _⟩
  | cons piece front induction => exact List.cons_subset_cons _ (induction (moved place piece))

/-- Only the significant pieces make the way. -/
theorem mem_wayFrom_filter {other : List String} {pieces : List (List Char)} :
    other ∈ wayFrom place (pieces.filter Path.significant) ↔ other ∈ wayFrom place pieces := by
  induction pieces generalizing place with
  | nil => rfl
  | cons piece pieces induction =>
    cases leads : Path.significant piece with
    | true =>
      rw [List.filter_cons_of_pos leads, wayFrom, wayFrom, List.mem_cons, List.mem_cons, induction]
    | false =>
      rw [List.filter_cons_of_neg (by simp [leads]), wayFrom, moved_of_not_significant leads,
        List.mem_cons, induction]
      exact ⟨.inr, fun member => member.elim (· ▸ mem_wayFrom_self place pieces) id⟩

/-- The way to what stands above a path is the beginning of the way of the path. -/
theorem way_above {above : String} (member : above ∈ Path.ancestors path) :
    way directory above ⊆ way directory path := by
  rcases List.mem_cons.mp member with rfl | member
  · exact List.Subset.refl _
  · obtain ⟨begins, behind, pieces⟩ := Path.above_path member
    intro place passed
    rw [way, startIn, begins, ← mem_wayFrom_filter] at passed
    rw [way, ← mem_wayFrom_filter]
    change place ∈ wayFrom _ (Path.pieces path.toList)
    rw [← pieces]
    exact wayFrom_subset_append _ _ _ passed

theorem way_append {behind : String} (filled : path ≠ "") (rest : List Char)
    (slash : behind.toList = '/' :: rest) :
    way directory path ⊆ way directory (path ++ behind) := by
  have begins : Path.isAbsolute (path ++ behind) = Path.isAbsolute path := by
    rw [Path.isAbsolute, Path.isAbsolute, String.toList_append]
    cases whole : path.toList with
    | nil => exact absurd (String.toList_eq_nil_iff.mp whole) filled
    | cons first others => rfl
  rw [way, way, startIn, startIn, begins, String.toList_append, slash, Pieces.cut_append]
  exact wayFrom_subset_append _ _ _

/-! ## Going the way -/

theorem eq_moved_of_step {piece : List Char} {next : List String}
    (goes : step root place piece = .ok next) : next = moved place piece := by
  have stands := isFileAt?_of_step goes
  rw [step_eq, stands] at goes
  change stepWithin place piece = _ at goes
  rw [stepWithin] at goes
  rw [moved]
  split at goes
  · next nothing =>
    rw [if_pos nothing]
    exact (Except.ok.inj goes).symm
  · next significant =>
    rw [if_neg significant]
    split at goes
    · next up =>
      rw [if_pos up]
      exact (Except.ok.inj goes).symm
    · next down =>
      rw [if_neg down]
      split at goes
      · cases goes
      · exact (Except.ok.inj goes).symm

theorem eq_foldl_moved_of_walk {pieces : List (List Char)} {last : List String}
    (goes : walk root place pieces = .ok last) : last = pieces.foldl moved place := by
  induction pieces generalizing place with
  | nil => exact (Except.ok.inj goes).symm
  | cons piece pieces induction =>
    rw [walk, List.foldlM_cons] at goes
    obtain ⟨next, first, others⟩ := bind_ok_iff.mp goes
    rw [List.foldl_cons, ← eq_moved_of_step first]
    exact induction others

theorem walk_congr_way {pieces : List (List Char)}
    (same : ∀ passed ∈ wayFrom place pieces, isFileAt? root passed = isFileAt? later passed) :
    walk root place pieces = walk later place pieces := by
  induction pieces generalizing place with
  | nil => rfl
  | cons piece pieces induction =>
    have ⟨here, others⟩ := List.forall_mem_cons.mp same
    rw [walk, walk, List.foldlM_cons, List.foldlM_cons, step_congr here]
    cases first : step later place piece with
    | error cause => rfl
    | ok next =>
      rw [eq_moved_of_step first]
      exact induction others

theorem eq_of_checkPath {text : List Char} (checked : checkPath path = .ok text) :
    text = path.toList := by
  unfold checkPath at checked
  split at checked
  · cases checked
  · split at checked
    · cases checked
    · split at checked
      · cases checked
      · exact (Except.ok.inj checked).symm

theorem eq_goal_of_locate (leads : world.locate path = .ok place) :
    place = goal world.directory path := by
  obtain ⟨text, checked, goes⟩ := locate_eq_ok_iff.mp leads
  rw [eq_of_checkPath checked] at goes
  exact eq_foldl_moved_of_walk goes

/-! ## Paths that name something in a directory -/

/-- The last piece that is not empty, which a path that is to be made is split at. -/
theorem split_at_last {parts front : List (List Char)} {last : List Char}
    (reversed : parts.reverse.dropWhile (· = []) = last :: front) :
    last ≠ [] ∧ ∃ empty, parts = front.reverse ++ last :: empty ∧ ∀ piece ∈ empty, piece = [] := by
  constructor
  · have stop := List.head?_dropWhile_not (· = []) parts.reverse
    rw [reversed] at stop
    simpa using stop
  · refine ⟨(parts.reverse.takeWhile (· = [])).reverse, ?_, ?_⟩
    · have whole := congrArg List.reverse
        (List.takeWhile_append_dropWhile (p := (· = [])) (l := parts.reverse))
      rw [reversed, List.reverse_reverse, List.reverse_append, List.reverse_cons,
        List.append_assoc] at whole
      exact whole.symm
    · intro piece member
      simpa using List.all_eq_true.mp List.all_takeWhile piece (List.mem_reverse.mp member)

theorem foldl_moved_empty {empty : List (List Char)} (none : ∀ piece ∈ empty, piece = [])
    (place : List String) : empty.foldl moved place = place := by
  induction empty with
  | nil => rfl
  | cons piece empty induction =>
    have ⟨here, others⟩ := List.forall_mem_cons.mp none
    rw [List.foldl_cons, moved_of_not_significant (by rw [here]; rfl)]
    exact induction others

/-- What is named by a path that is to be made stands at the end of its way. -/
theorem goal_of_target {name : String} {slash : Bool}
    (aimed : world.target path = .ok (.name place name slash)) :
    goal world.directory path = place ++ [name] := by
  obtain ⟨text, checked, found⟩ := target_eq_ok_iff.mp aimed
  rw [eq_of_checkPath checked] at found
  split at found
  case h_1 => cases found
  case h_2 last front reversed =>
    obtain ⟨_, goes, -, found⟩ := found
    split at found
    · cases found
    · next other =>
      cases found
      rw [not_or] at other
      obtain ⟨filled, empty, split, none⟩ := split_at_last reversed
      have significant : Path.significant last = true := by
        rw [Path.significant, bne_iff_ne.mpr filled, bne_iff_ne.mpr other.1]
        rfl
      rw [goal, split, List.foldl_append, List.foldl_cons, foldl_moved_empty none, moved,
        significant, Bool.not_true, if_neg Bool.false_ne_true, if_neg other.2]
      exact congrArg (· ++ _) (eq_foldl_moved_of_walk goes).symm

/-- The name of a file in a directory is at the end of its way. -/
theorem getLast?_goal_join (place : List String) (directory : String) {name : String}
    (free : '/' ∉ name.toList) (significant : Path.significant name.toList)
    (down : name.toList ≠ ['.', '.']) :
    (goal place (Path.join directory name)).getLast? = some name := by
  obtain ⟨front, pieces⟩ := Path.cut_join_name directory free
  rw [goal, pieces, List.foldl_append, List.foldl_cons, List.foldl_nil, moved,
    significant, if_neg (by simp), if_neg down, List.getLast?_concat, String.ofList_toList]

end TypeTokenWrappers.World
