import TypeTokenWrappers.Text.Utf8

/-! # Steps of a reader

A reader of a text takes a piece from its front. `Taken` pairs what the piece
means with the text behind it, and bounds the length of that text, which makes
recursive readers end. A step that takes at least one character promises
`Taken α text.length`; an optional step, which may take nothing, promises
`Taken α (text.length + 1)`. -/

namespace TypeTokenWrappers

structure Taken (α : Type) (limit : Nat) where
  value : α
  rest : List Char
  shorter : rest.length < limit

namespace Taken

def nothing (value : α) (text : List Char) : Taken α (text.length + 1) :=
  ⟨value, text, Nat.lt_succ_self _⟩

def one (value : α) (first : Char) (rest : List Char) : Taken α (first :: rest).length :=
  ⟨value, rest, Nat.lt_succ_self _⟩

def upTo (count : Nat) (value : α) (text : List Char) : Taken α (text.length + 1) :=
  ⟨value, text.drop count, by simp only [List.length_drop]; omega⟩

def some? (count : Nat) (value : α) (text : List Char) : Option (Taken α text.length) :=
  if fits : 0 < count ∧ count ≤ text.length then
    some ⟨value, text.drop count, by simp only [List.length_drop]; omega⟩
  else none

variable {limit : Nat}

def map (transform : α → β) (taken : Taken α limit) : Taken β limit :=
  ⟨transform taken.value, taken.rest, taken.shorter⟩

/-- A step counts as an optional one. -/
def optional (taken : Taken α limit) : Taken α (limit + 1) :=
  ⟨taken.value, taken.rest, Nat.lt_succ_of_lt taken.shorter⟩

/-! What is taken by a sequence of steps. The value is that of the last one. -/

def behind (first : Char) {rest : List Char} (taken : Taken α rest.length) :
    Taken α (first :: rest).length :=
  taken.optional

def behindMaybe (first : Char) {rest : List Char} (taken : Taken α (rest.length + 1)) :
    Taken α (first :: rest).length :=
  taken

def andThen (earlier : Taken α limit) (taken : Taken β earlier.rest.length) : Taken β limit :=
  ⟨taken.value, taken.rest, Nat.lt_trans taken.shorter earlier.shorter⟩

def andMaybe (earlier : Taken α limit) (taken : Taken β (earlier.rest.length + 1)) :
    Taken β limit :=
  ⟨taken.value, taken.rest, Nat.lt_of_lt_of_le taken.shorter earlier.shorter⟩

def maybeThen (earlier : Taken α (limit + 1)) (taken : Taken β earlier.rest.length) :
    Taken β limit :=
  ⟨taken.value, taken.rest,
    Nat.lt_of_lt_of_le taken.shorter (Nat.le_of_lt_succ earlier.shorter)⟩

/-- An optional step, and an optional step behind the character that is ahead. -/
def nextMaybe (earlier : Taken α (limit + 1)) {first : Char} {rest : List Char}
    (ahead : earlier.rest = first :: rest) (taken : Taken β (rest.length + 1)) : Taken β limit :=
  ⟨taken.value, taken.rest, by
    have bound := earlier.shorter
    rw [ahead] at bound
    exact Nat.lt_of_lt_of_le taken.shorter (Nat.le_of_lt_succ bound)⟩

def next (earlier : Taken α (limit + 1)) {first : Char} {rest : List Char}
    (ahead : earlier.rest = first :: rest) (value : β) : Taken β limit :=
  earlier.nextMaybe ahead (.nothing value rest)

/-- Takes the characters in front of the first one at which `ends` holds, if there
is one. -/
def before? (ends : Char → Bool) :
    (text : List Char) → Option (Taken (List Char) (text.length + 1))
  | [] => none
  | first :: rest =>
    if ends first then some (.nothing [] (first :: rest))
    else (before? ends rest).map fun others =>
      ((others.map (first :: ·)).behindMaybe first).optional

end Taken

/-- The number of bytes in front of `rest`, which is an end piece of `text`. -/
def bytesBefore (text rest : List Char) : Nat :=
  Utf8.byteLength text - Utf8.byteLength rest

end TypeTokenWrappers
