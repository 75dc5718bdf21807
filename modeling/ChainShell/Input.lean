/-
This file reads lines from standard input through a buffer of fixed size.
-/

import ChainShell.System
import ChainShell.Text.Cluster

namespace ChainShell

/-- The number of bytes that one read asks for. -/
def inputBufferSize : Nat := 8192

/-- What the next read from standard input gives. -/
inductive InputLine where
  | ended
  /-- The bytes of the line are no UTF-8 text. -/
  | invalid
  /-- A backspace cut a character in two. -/
  | torn
  | line (text : String)
  deriving DecidableEq, Repr

/-- The last bytes of a text are erased. The text is in reverse. There is no answer when the cut
lies inside a character. -/
def eraseBytes? : Nat → List Char → Option (List Char)
  | 0, typed => some typed
  | _ + 1, [] => none
  | count + 1, char :: rest =>
    if char.utf8Size ≤ count + 1 then eraseBytes? (count + 1 - char.utf8Size) rest else none

/-- The size of a cluster in bytes is kept in one byte. -/
def clusterSize (cluster : List Char) : Nat :=
  (cluster.foldl (fun size char => size + char.utf8Size) 0) % 256

/-- A backspace takes back the bytes of the cluster in front of it that is not yet taken back. The
typed text is in reverse, and the sizes of its clusters are on a stack. -/
def applyBackspaces (typed : List Char) (sizes : List Nat) :
    List (List Char) → Option (List Char)
  | [] => some typed.reverse
  | ['\x08'] :: rest =>
    match sizes with
    | [] => applyBackspaces typed [] rest
    | size :: others =>
      match eraseBytes? size typed with
      | none => none
      | some left => applyBackspaces left others rest
  | cluster :: rest =>
    applyBackspaces (cluster.reverse ++ typed) (clusterSize cluster :: sizes) rest

/-- A line loses its newline and a carriage return in front of the newline. -/
def withoutLineEnd (text : List Char) : List Char :=
  match text.reverse with
  | '\n' :: '\r' :: rest => rest.reverse
  | '\n' :: rest => rest.reverse
  | _ => text

def InputLine.ofBytes (bytes : List UInt8) : InputLine :=
  match String.fromUTF8? ⟨bytes.toArray⟩ with
  | none => .invalid
  | some text =>
    match applyBackspaces [] [] (clusters (withoutLineEnd text.toList)) with
    | none => .torn
    | some typed => .line (String.ofList typed)

/-- The bytes of the next line, its newline included. Without a newline in the buffer another
part of the input is read. -/
def readLineBytes {σ : Type} [OperatingSystem σ] :
    Nat → List UInt8 → List UInt8 → σ → List UInt8 × List UInt8 × σ
  | 0, collected, pending, system => (collected, pending, system)
  | fuel + 1, collected, pending, system =>
    match pending.span (· != 10) with
    | (line, newline :: rest) => (collected ++ line ++ [newline], rest, system)
    | (line, []) =>
      match OperatingSystem.readInput system inputBufferSize with
      | ([], after) => (collected ++ line, [], after)
      | (bytes, after) => readLineBytes fuel (collected ++ line) bytes after

/-- One line is read, together with what stays in the buffer. -/
def readInputLine {σ : Type} [OperatingSystem σ] (fuel : Nat) (pending : List UInt8)
    (system : σ) : InputLine × List UInt8 × σ :=
  let (bytes, left, after) := readLineBytes fuel [] pending system
  (if bytes.isEmpty then .ended else .ofBytes bytes, left, after)

end ChainShell
