/-
This file splits a line into the commands that `;`, `&&` and `||` join.
-/

import ChainShell.Line.Scan
import ChainShell.Status
import ChainShell.Text.WhiteSpace

namespace ChainShell

/-- The operator stands in front of a command. -/
inductive Operator where
  /-- The first command of a line has no operator in front of it. -/
  | first
  /-- A semicolon runs the next command in any case. -/
  | sequence
  /-- A double ampersand runs the next command only after the code zero. -/
  | andThen
  /-- A double bar runs the next command only after another code. -/
  | orElse
  deriving DecidableEq, Repr

/-- After a creation failure only a semicolon resumes the line. -/
def Operator.permits (operator : Operator) (last : Status) : Bool :=
  match operator, last with
  | .first, _ | .sequence, _ => true
  | _, .creationFailed => false
  | .andThen, .exited code => code == 0
  | .orElse, .exited code => code != 0

/-- One command of a line, not yet split into words. -/
structure Segment where
  operator : Operator
  text : String
  deriving DecidableEq, Repr

/-- The white space in front of a command does not belong to it. -/
def Segment.ofText (operator : Operator) (text : List Char) : Segment :=
  ⟨operator, String.ofList (trimStart text)⟩

def Segment.isBlank (segment : Segment) : Bool :=
  (trim segment.text.toList).isEmpty

/-- A boundary starts at a bare character. A doubled sign needs its second half directly
behind it, and a single ampersand or bar is ordinary text. -/
def boundary (role : Role) (char : Char) (following : Option Char) : Option Operator :=
  if role = .bare then
    if char = ';' then some .sequence
    else if char = '&' && following == some '&' then some .andThen
    else if char = '|' && following == some '|' then some .orElse
    else none
  else
    none

/-- The byte offsets of one command, together with the operator in front of it. -/
structure Span where
  operator : Operator
  start : Nat
  stop : Nat
  deriving DecidableEq, Repr

/-- The text of the line from the first offset up to the second. -/
def Span.raw (line : String) (span : Span) : String :=
  String.Pos.Raw.extract line ⟨span.start⟩ ⟨span.stop⟩

def Span.segment (line : String) (span : Span) : Segment :=
  .ofText span.operator (span.raw line).toList

/-- The open command starts at the given offset, and the next character stands at the given
position. A semicolon takes one byte and a doubled sign two. The last command ends with the
line. -/
def spansFrom (length : Nat) : Operator → Nat → Mode → Nat → List Char → List Span
  | operator, start, _, _, [] => [⟨operator, start, length⟩]
  | operator, start, mode, position, char :: rest =>
    let (following, role) := mode.step char rest.head?
    match boundary role char (following.peekBare rest) with
    | none => spansFrom length operator start following (position + char.utf8Size) rest
    | some .sequence =>
      ⟨operator, start, position⟩ ::
        spansFrom length .sequence (position + 1) following (position + char.utf8Size) rest
    | some doubled =>
      match rest with
      | [] => [⟨operator, start, position⟩, ⟨doubled, position + 2, length⟩]
      | second :: rest =>
        ⟨operator, start, position⟩ ::
          spansFrom length doubled (position + 2) (following.step second rest.head?).1
            (position + char.utf8Size + second.utf8Size) rest

def chainSpans (line : String) : List Span :=
  spansFrom line.utf8ByteSize .first 0 .initial 0 line.toList

/-- The line is cut at every operator that is neither quoted nor escaped. The result has at
least one segment, and segments may be blank. -/
def splitChain (line : String) : List Segment :=
  (chainSpans line).map (Span.segment line)

end ChainShell
