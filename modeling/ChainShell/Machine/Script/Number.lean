/-
This file reads integers from text.
-/

import ChainShell.Text.Octets

namespace ChainShell

def isSpaceChar (char : Char) : Bool :=
  char == ' ' || (0x09 ≤ char.toNat && char.toNat ≤ 0x0D)

/-- The value of a digit. Letters count from ten on. -/
def digitValue (char : Char) : Nat :=
  if char.isDigit then char.toNat - '0'.toNat
  else if 'a' ≤ char && char ≤ 'z' then char.toNat - 'a'.toNat + 10
  else if 'A' ≤ char && char ≤ 'Z' then char.toNat - 'A'.toNat + 10
  else 99

def isDigitIn (base : Nat) (char : Char) : Bool :=
  digitValue char < base

def digitsValue (base : Nat) (digits : List Char) : Nat :=
  digits.foldl (fun value digit => base * value + digitValue digit) 0

def largestInteger : Int := 0x7FFFFFFFFFFFFFFF

def smallestInteger : Int := -0x8000000000000000

/-- Integers have sixty-four bits. -/
def wrapInteger (value : Int) : Int :=
  Int.bmod value 0x10000000000000000

/-- The digits as a number of thirty-two bits. A number too large for them wraps around. -/
def shortInteger (digits : List Char) : Int :=
  Int.bmod (min (digitsValue 10 digits : Int) largestInteger) 0x100000000

/-- A number at the start of a text, the text behind it, and whether it was too large. -/
structure ScannedInteger where
  value : Int
  rest : List Char
  isTooLarge : Bool

/-- The base of a number that may have a mark for it, and its digits. -/
def markedBase (text : List Char) : Nat × List Char :=
  match text with
  | '0' :: mark :: digit :: rest =>
    if (mark == 'x' || mark == 'X') && isDigitIn 16 digit then (16, digit :: rest)
    else if (mark == 'b' || mark == 'B') && isDigitIn 2 digit then (2, digit :: rest)
    else (8, text)
  | '0' :: _ => (8, text)
  | _ => (10, text)

/-- The sign and the size of a number at the start of a text, and the text behind it. -/
structure ScannedSize where
  isNegative : Bool
  size : Nat
  rest : List Char

/-- Space and a sign may stand in front of the digits. -/
def scanSize (allowsMarks : Bool) (text : List Char) : Option ScannedSize :=
  let trimmed := text.dropWhile isSpaceChar
  let (isNegative, unsigned) :=
    match trimmed with
    | '-' :: rest => (true, rest)
    | '+' :: rest => (false, rest)
    | _ => (false, trimmed)
  let (base, digits) := if allowsMarks then markedBase unsigned else (10, unsigned)
  let taken := digits.takeWhile (isDigitIn base)
  if taken.isEmpty then none
  else some ⟨isNegative, digitsValue base taken, digits.dropWhile (isDigitIn base)⟩

/-- A number that does not fit becomes the nearest one that does. -/
def scanInteger (allowsMarks : Bool) (text : List Char) : Option ScannedInteger :=
  (scanSize allowsMarks text).map fun scanned =>
    let value : Int := if scanned.isNegative then -(scanned.size : Int) else scanned.size
    if largestInteger < value then ⟨largestInteger, scanned.rest, true⟩
    else if value < smallestInteger then ⟨smallestInteger, scanned.rest, true⟩
    else ⟨value, scanned.rest, false⟩

/-- A number without a sign takes one bit more. A negative number wraps around. -/
def scanUnsigned (allowsMarks : Bool) (text : List Char) : Option ScannedInteger :=
  (scanSize allowsMarks text).map fun scanned =>
    if 0x10000000000000000 ≤ scanned.size then ⟨0xFFFFFFFFFFFFFFFF, scanned.rest, true⟩
    else
      ⟨if scanned.isNegative then -(scanned.size : Int) else scanned.size, scanned.rest, false⟩

def illegalNumber (text : Octets) : String :=
  "Illegal number: " ++ text

/-- The whole text must be a number, with space around it. -/
def wholeInteger (text : Octets) : Except String Int :=
  match scanInteger false text.toList with
  | none => .error (illegalNumber text)
  | some scanned =>
    if scanned.isTooLarge || !(scanned.rest.all isSpaceChar) then .error (illegalNumber text)
    else .ok scanned.value

/-- The value of a variable in an expression. A blank text counts as zero. -/
def variableInteger (text : Octets) : Except String Int :=
  match scanInteger true text.toList with
  | none => if text.toList.all isSpaceChar then .ok 0 else .error (illegalNumber text)
  | some scanned =>
    if scanned.isTooLarge || !(scanned.rest.all isSpaceChar) then .error (illegalNumber text)
    else .ok scanned.value

/-- Counts and codes are not negative and have thirty-one bits. -/
def smallNumber (text : Octets) : Except String Nat :=
  match wholeInteger text with
  | .error message => .error message
  | .ok value =>
    if value < 0 || 0x7FFFFFFF < value then .error (illegalNumber text) else .ok value.toNat

end ChainShell
