/-! # Pieces of a text

Cutting a text at a separator, putting the pieces together again, and replacing
one text by another wherever it occurs. -/

namespace TypeTokenWrappers.Pieces

variable {α : Type} [DecidableEq α]

/-- The pieces between separators. There is always at least one. -/
def cut (separator : α) : List α → List (List α)
  | [] => [[]]
  | item :: rest =>
    if item = separator then [] :: cut separator rest
    else match cut separator rest with
      | [] => [[item]]
      | first :: others => (item :: first) :: others

def join {α : Type} (separator : α) : List (List α) → List α
  | [] => []
  | [piece] => piece
  | piece :: others => piece ++ separator :: join separator others

theorem cut_ne_nil (separator : α) (text : List α) : cut separator text ≠ [] := by
  cases text with
  | nil => simp [cut]
  | cons char rest =>
    unfold cut
    split
    · simp
    · split <;> simp

@[simp] theorem join_cut (separator : α) (text : List α) :
    join separator (cut separator text) = text := by
  induction text with
  | nil => rfl
  | cons char rest induction =>
    unfold cut
    split
    · next equal =>
      subst equal
      cases pieces : cut char rest with
      | nil => exact absurd pieces (cut_ne_nil char rest)
      | cons first others => simp [join, ← pieces, induction]
    · split
      · next empty => exact absurd empty (cut_ne_nil separator rest)
      · next first others pieces =>
        rw [pieces] at induction
        rw [← induction]
        cases others <;> simp [join]

def dropBeginning? : (beginning text : List α) → Option (List α)
  | [], text => some text
  | _ :: _, [] => none
  | char :: beginning, first :: text =>
    if char = first then dropBeginning? beginning text else none

def occursIn (pattern : List α) : (text : List α) → Bool
  | [] => pattern = []
  | item :: rest => pattern.isPrefixOf (item :: rest) || occursIn pattern rest

/-- Replaces each occurrence of `pattern`, from left to right and without
overlaps. `skip` characters still belong to the occurrence just replaced. -/
def replaceFrom (pattern replacement : List Char) (skip : Nat) : List Char → List Char
  | [] => []
  | char :: rest =>
    match skip with
    | skip + 1 => replaceFrom pattern replacement skip rest
    | 0 =>
      if pattern.isPrefixOf (char :: rest) then
        replacement ++ replaceFrom pattern replacement (pattern.length - 1) rest
      else char :: replaceFrom pattern replacement 0 rest

def replace (pattern replacement text : List Char) : List Char :=
  replaceFrom pattern replacement 0 text

end TypeTokenWrappers.Pieces
