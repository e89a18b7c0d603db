import TypeTokenWrappers.Wrapper.Archive

/-! # The stream of wrappers

A stream goes through archives one at a time and opens the next one only when
all wrappers of those before it were taken. The first failure is given out once
and ends the stream. What opening an archive gives is left to an action `scan`. -/

namespace TypeTokenWrappers

structure WrapperStream where
  archives : List String
  /-- The wrappers of the archive opened last that were not taken yet. -/
  pending : List Wrapper
  scanned : Nat
  failed : Bool
deriving DecidableEq, Repr

namespace WrapperStream

def ofArchives (archives : List String) : WrapperStream :=
  ⟨archives, [], 0, false⟩

variable {m : Type → Type} [Monad m]

/-- Opens archives until one of them has a wrapper or fails. -/
def open? (scan : String → m (Except Error (List Wrapper))) (scanned : Nat) :
    (archives : List String) → m (Option (Except Error Wrapper) × WrapperStream)
  | [] => return (none, ⟨[], [], scanned, false⟩)
  | archive :: others => do
    match ← scan archive with
    | .ok [] => open? scan (scanned + 1) others
    | .ok (wrapper :: pending) =>
      return (some (.ok wrapper), ⟨others, pending, scanned + 1, false⟩)
    | .error error => return (some (.error error), ⟨others, [], scanned + 1, true⟩)

/-- Takes the next item. There is none at the end and after a failure. -/
def next (scan : String → m (Except Error (List Wrapper))) (stream : WrapperStream) :
    m (Option (Except Error Wrapper) × WrapperStream) :=
  if stream.failed then return (none, stream)
  else match stream.pending with
    | wrapper :: pending => return (some (.ok wrapper), { stream with pending })
    | [] => open? scan stream.scanned stream.archives

def items (scan : String → m (Except Error (List Wrapper))) :
    (archives : List String) → m (List (Except Error Wrapper))
  | [] => return []
  | archive :: others => do
    match ← scan archive with
    | .ok wrappers =>
      let rest ← items scan others
      return wrappers.map .ok ++ rest
    | .error error => return [.error error]

end WrapperStream

def allOrFirstError : List (Except ε α) → Except ε (List α)
  | [] => .ok []
  | .ok value :: others => (allOrFirstError others).map (value :: ·)
  | .error error :: _ => .error error

end TypeTokenWrappers
