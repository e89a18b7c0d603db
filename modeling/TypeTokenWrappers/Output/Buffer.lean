/-! # Buffers

A file is written in large parts. Small pieces are held back in a buffer until
one does not fit any more. What was passed on, followed by what is held, is
always everything that was written, in order (`contents_write`). -/

namespace TypeTokenWrappers

structure Buffer where
  passed : List UInt8
  held : List UInt8
deriving DecidableEq, Repr

namespace Buffer

def capacity : Nat := 8192

def holding (held : List UInt8) : Buffer :=
  ⟨[], held⟩

def contents (buffer : Buffer) : List UInt8 :=
  buffer.passed ++ buffer.held

def flush (buffer : Buffer) : Buffer :=
  ⟨buffer.contents, []⟩

/-- Passes on what is held if a piece of this size does not fit behind it. -/
def makeRoom (buffer : Buffer) (size : Nat) : Buffer :=
  if buffer.held.length + size ≤ capacity then buffer else buffer.flush

/-- Takes a piece. One that fills a buffer alone is passed on at once. -/
def write (buffer : Buffer) (piece : List UInt8) : Buffer :=
  let ready := buffer.makeRoom piece.length
  if piece.length < capacity then { ready with held := ready.held ++ piece }
  else ⟨ready.contents ++ piece, []⟩

def writeAll (buffer : Buffer) (pieces : List (List UInt8)) : Buffer :=
  pieces.foldl write buffer

@[simp] theorem contents_holding (held : List UInt8) : (holding held).contents = held := rfl

@[simp] theorem contents_flush (buffer : Buffer) : buffer.flush.contents = buffer.contents := by
  simp [flush, contents]

@[simp] theorem contents_makeRoom (buffer : Buffer) (size : Nat) :
    (buffer.makeRoom size).contents = buffer.contents := by
  unfold makeRoom
  split
  · rfl
  · exact contents_flush buffer

@[simp] theorem contents_write (buffer : Buffer) (piece : List UInt8) :
    (buffer.write piece).contents = buffer.contents ++ piece := by
  rw [← contents_makeRoom buffer piece.length]
  unfold write
  split
  · simp [contents]
  · simp [contents]

@[simp] theorem contents_writeAll (buffer : Buffer) (pieces : List (List UInt8)) :
    (buffer.writeAll pieces).contents = buffer.contents ++ pieces.flatten := by
  induction pieces generalizing buffer with
  | nil => simp [writeAll]
  | cons piece pieces ih =>
    have step := ih (buffer.write piece)
    simp only [writeAll, List.foldl_cons] at step ⊢
    rw [step, contents_write, List.flatten_cons, List.append_assoc]

end Buffer

end TypeTokenWrappers
