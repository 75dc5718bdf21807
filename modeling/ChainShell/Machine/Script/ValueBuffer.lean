/-
This file shortens lists of values by patterns. The values stand in a buffer, each with a zero
behind it, and the pattern stands behind them. A plain text of the first value follows if marks
had to be taken out of it.
-/

import ChainShell.Machine.Script.Pattern

namespace ChainShell

/-- The mark of a byte that means itself. -/
def escapeMark : Char := '\x81'

/-- Bytes that could be taken for a mark get one, and in quotes also those of patterns. -/
def needsMark (isQuoted : Bool) (char : Char) : Bool :=
  (0x81 ≤ char.toNat && char.toNat ≤ 0x88) ||
    (isQuoted && (isMarkedInQuotes char || char == '\\'))

def storedText (isQuoted : Bool) (text : List Char) : List Char :=
  text.flatMap fun char => if needsMark isQuoted char then [escapeMark, char] else [char]

def storedValues (isQuoted : Bool) (values : List (List Char)) : List Char :=
  List.intercalate ['\x00'] (values.map (storedText isQuoted))

/-- Bytes without their marks. -/
def withoutMarks : List Char → List Char
  | [] => []
  | [char] => [char]
  | char :: next :: rest =>
    if char = escapeMark then next :: withoutMarks rest else char :: withoutMarks (next :: rest)

/-- The values behind stored bytes. -/
def valuesOfStored (stored : List Char) : List (List Char) :=
  (stored.splitOn '\x00').map withoutMarks

/-- The bytes of a pattern. -/
def storedPattern (field : Field) : List Char :=
  field.flatMap fun item =>
    if item.isQuoted && (isMarkedInQuotes item.char || item.char == '\\') then ['\\', item.char]
    else [item.char]

structure ValueBuffer where
  bytes : Array Char
  patternStart : Nat
  /-- Where the text is that is matched from its start, and where it ends. -/
  textStart : Nat
  textEnd : Nat

namespace ValueBuffer

/-- The first value is copied without marks if it has any. -/
def ofValues (isQuoted : Bool) (first : List Char) (others : List (List Char))
    (pattern : Field) : ValueBuffer :=
  let values := storedValues isQuoted (first :: others) ++ ['\x00']
  let known := values ++ storedPattern pattern ++ ['\x00']
  if first.any (needsMark isQuoted) then
    { bytes := (known ++ first ++ ['\x00']).toArray
      patternStart := values.length
      textStart := known.length
      textEnd := known.length + first.length }
  else
    { bytes := known.toArray
      patternStart := values.length
      textStart := 0
      textEnd := values.length - 1 }

/-- The bytes up to the next zero. -/
def textAt (bytes : Array Char) (start : Nat) : List Char :=
  (bytes.toList.drop start).takeWhile (· != '\x00')

/-- A text matches, either from the place of reading on or up to it. There the buffer is cut, so
that a pattern which stands there is cut too. -/
def matchesAt (buffer : ValueBuffer) (fromStart : Bool) (place : Nat) : Bool :=
  let bytes := if fromStart then buffer.bytes.setIfInBounds place '\x00' else buffer.bytes
  let text := textAt bytes (if fromStart then buffer.textStart else place)
  (Field.ofText false (textAt bytes buffer.patternStart)).pattern.matches text

/-- The number of marks in front of a place. -/
def marksBefore (buffer : ValueBuffer) (place : Nat) : Nat :=
  ((buffer.bytes.toList.take place).reverse.takeWhile (· == escapeMark)).length

/-- The last place at which the text matches. The place in the values and the place of reading go
back together, but only the first skips marks. -/
def findLast? (buffer : ValueBuffer) (fromStart : Bool) :
    Nat → Nat → Nat → Nat → Option Nat
  | 0, _, _, _ => none
  | fuel + 1, place, reading, marks =>
    if buffer.matchesAt fromStart reading then
      some place
    else
      match place with
      | 0 => none
      | before + 1 =>
        let count := if marks = 0 then buffer.marksBefore before else marks - 1
        if count % 2 = 0 then
          buffer.findLast? fromStart fuel before (reading - 1) count
        else
          match before with
          | 0 => none
          | earlier + 1 => buffer.findLast? fromStart fuel earlier (reading - 1) (count - 1)

/-- The bytes of the values without the part that the pattern takes off. -/
def trim? (buffer : ValueBuffer) (fromStart : Bool) : Option (List Char) :=
  let last := buffer.patternStart - 1
  let values := buffer.bytes.toList.take last
  (buffer.findLast? fromStart (last + 1) last buffer.textEnd 0).map
    (if fromStart then values.drop else values.take)

end ValueBuffer

/-- A list of values without what a pattern takes off at one end. The shortest part at the start
and the longest part at the end are looked for in the first value only. -/
def trimValues (isQuoted atEnd isLongest : Bool) (pattern : Field) :
    List (List Char) → List (List Char)
  | [] => []
  | [text] => [(pattern.pattern.trim? atEnd isLongest text).getD text]
  | first :: others =>
    if atEnd = isLongest then
      match pattern.pattern.trim? atEnd isLongest first with
      | some kept => kept :: (if atEnd then [] else others)
      | none => first :: others
    else
      match (ValueBuffer.ofValues isQuoted first others pattern).trim? isLongest with
      | some stored => valuesOfStored stored
      | none => first :: others

end ChainShell
