import TypeTokenWrappers.Error
import TypeTokenWrappers.Text.Utf8

/-! # The generated file

A fixed header, and then the declarations in order, each between newlines. What
was written before an error stays written. -/

namespace TypeTokenWrappers

/-! A sink takes pieces one after the other until it is full. Of a piece that
does not fit it keeps the beginning. -/

structure Sink (α : Type) where
  written : List α
  room : Option Nat
deriving DecidableEq, Repr

namespace Sink

def empty (room : Option Nat) : Sink α :=
  ⟨[], room⟩

/-- Whether a piece fits, and the sink after as much of it as fits. -/
def write (piece : List α) (sink : Sink α) : Bool × Sink α :=
  match sink.room with
  | none => (true, { sink with written := sink.written ++ piece })
  | some room =>
    (piece.length ≤ room, ⟨sink.written ++ piece.take room, some (room - piece.length)⟩)

def writeAll : (pieces : List (List α)) → Sink α → Bool × Sink α
  | [], sink => (true, sink)
  | piece :: others, sink =>
    match sink.write piece with
    | (true, after) => writeAll others after
    | (false, after) => (false, after)

end Sink

namespace SourceFile

def header (package : String) : String :=
  "// This file is generated. Do not edit.\n\n" ++
    "@file:Suppress(\"nothing_to_inline\", \"unused\")\n\n" ++
    "package " ++ package ++ "\n"

def pieces (declaration : String) : List (List UInt8) :=
  [Utf8.encodeString "\n", Utf8.encodeString declaration, Utf8.encodeString "\n"]

def block (declaration : String) : List UInt8 :=
  (pieces declaration).flatten

def content (header : String) (declarations : List String) : List UInt8 :=
  Utf8.encodeString header ++ declarations.flatMap block

def full : Error := .io (.other "failed to write whole buffer")

structure Written where
  result : Except Error Nat
  /-- How many items were asked for. -/
  consumed : Nat
  sink : Sink UInt8

/-- Writes declarations piece by piece until the items end, one of them is an
error, or the sink is full. `count` declarations were written before. -/
def writeBlocks (count : Nat) (sink : Sink UInt8) : List (Except Error String) → Written
  | [] => ⟨.ok count, count, sink⟩
  | .error error :: _ => ⟨.error error, count + 1, sink⟩
  | .ok declaration :: others =>
    match sink.writeAll (pieces declaration) with
    | (true, after) => writeBlocks (count + 1) after others
    | (false, after) => ⟨.error full, count + 1, after⟩

def write (header : String) (sink : Sink UInt8) (items : List (Except Error String)) : Written :=
  match sink.write (Utf8.encodeString header) with
  | (true, after) => writeBlocks 0 after items
  | (false, after) => ⟨.error full, 0, after⟩

end SourceFile

end TypeTokenWrappers
