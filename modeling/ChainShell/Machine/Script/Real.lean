/-
This file holds the real numbers of scripts. A real number has fifty-three binary digits, and is
read and written through exact fractions.
-/

import ChainShell.Machine.Script.Number

namespace ChainShell

/-- A finite number is an integer times a power of two. -/
inductive RealNumber where
  | finite (isNegative : Bool) (mantissa : Nat) (exponent : Int)
  | infinite (isNegative : Bool)
  | notNumber (isNegative : Bool)
  deriving DecidableEq, Repr

def tenTo (count : Nat) : Nat := Nat.pow 10 count

def twoTo (count : Nat) : Nat := Nat.shiftLeft 1 count

/-- The nearest integer. A half goes to the even neighbour. -/
def roundQuotient (numerator denominator : Nat) : Nat :=
  let quotient := numerator / denominator
  let twice := 2 * (numerator % denominator)
  if denominator < twice || (twice = denominator && quotient % 2 = 1) then quotient + 1
  else quotient

/-- The smallest mantissa of a number with all its digits. -/
def leastFullMantissa : Nat := 0x10000000000000

def leastExponent : Int := -1074

def greatestExponent : Int := 971

/-- A fraction that is multiplied by a power of two. -/
def scaledFraction (numerator denominator : Nat) (shift : Int) : Nat × Nat :=
  match shift with
  | .ofNat count => (numerator * twoTo count, denominator)
  | .negSucc count => (numerator, denominator * twoTo (count + 1))

/-- The exponent at which the fraction has a mantissa of full length, or the least one. -/
def fittingExponent (numerator denominator : Nat) : Int :=
  let estimate : Int := (numerator.log2 : Int) - denominator.log2 - 52
  let (top, bottom) := scaledFraction numerator denominator (-estimate)
  max leastExponent (if top / bottom < leastFullMantissa then estimate - 1 else estimate)

/-- The real number nearest to a fraction, and whether the fraction is out of range. -/
def nearestReal (isNegative : Bool) (numerator denominator : Nat) : RealNumber × Bool :=
  if numerator = 0 then (.finite isNegative 0 leastExponent, false)
  else
    let exponent := fittingExponent numerator denominator
    let (top, bottom) := scaledFraction numerator denominator (-exponent)
    let rounded := roundQuotient top bottom
    let (mantissa, power) :=
      if rounded = 2 * leastFullMantissa then (leastFullMantissa, exponent + 1)
      else (rounded, exponent)
    if greatestExponent < power then (.infinite isNegative, true)
    else
      (.finite isNegative mantissa power, mantissa < leastFullMantissa && top % bottom ≠ 0)

/-- A real number at the start of a text, and the text behind it. -/
structure ScannedReal where
  value : RealNumber
  rest : List Char
  isOutOfRange : Bool := false

/-- The digits around a point, the number of those behind it, and the text behind them. -/
def scanDigits (base : Nat) (text : List Char) : List Char × Nat × List Char :=
  let whole := text.takeWhile (isDigitIn base)
  match text.drop whole.length with
  | '.' :: behind =>
    let fraction := behind.takeWhile (isDigitIn base)
    if whole.isEmpty && fraction.isEmpty then ([], 0, text)
    else (whole ++ fraction, fraction.length, behind.drop fraction.length)
  | following => (whole, 0, following)

/-- An exponent counts only if it has digits. -/
def scanExponent (marks : List Char) (text : List Char) : Int × List Char :=
  match text with
  | mark :: behind =>
    let (isNegative, unsigned) :=
      match behind with
      | '-' :: rest => (true, rest)
      | '+' :: rest => (false, rest)
      | _ => (false, behind)
    let digits := unsigned.takeWhile Char.isDigit
    if marks.contains mark && !digits.isEmpty then
      let size : Int := digitsValue 10 digits
      (if isNegative then -size else size, unsigned.drop digits.length)
    else
      (0, text)
  | [] => (0, [])

/-- No number with a decimal exponent beyond this one is in range. -/
def decimalReach : Int := 400

/-- The number with the digits and a power of ten. -/
def decimalReal (isNegative : Bool) (digits : List Char) (exponent : Int) : RealNumber × Bool :=
  let significant := digits.dropWhile (· == '0')
  let order := exponent + significant.length
  if significant.isEmpty then nearestReal isNegative 0 1
  else if decimalReach < order then (.infinite isNegative, true)
  else if order < -decimalReach then (.finite isNegative 0 leastExponent, true)
  else
    let value := digitsValue 10 significant
    match exponent with
    | .ofNat count => nearestReal isNegative (value * tenTo count) 1
    | .negSucc count => nearestReal isNegative value (tenTo (count + 1))

/-- No number with a binary exponent beyond this one is in range. -/
def binaryReach : Int := 2000

/-- The number with hexadecimal digits and a power of two. -/
def binaryReal (isNegative : Bool) (digits : List Char) (exponent : Int) : RealNumber × Bool :=
  let significant := digits.dropWhile (· == '0')
  let order := exponent + 4 * significant.length
  if significant.isEmpty then nearestReal isNegative 0 1
  else if binaryReach < order then (.infinite isNegative, true)
  else if order < -binaryReach then (.finite isNegative 0 leastExponent, true)
  else
    let (top, bottom) := scaledFraction (digitsValue 16 significant) 1 exponent
    nearestReal isNegative top bottom

/-- The text behind a word, without regard to case. -/
def behindWord? (word : String) (text : List Char) : Option (List Char) :=
  if (text.take word.length).map Char.toLower = word.toList then some (text.drop word.length)
  else none

/-- The text behind a remark in parentheses, if there is one. -/
def behindRemark (text : List Char) : List Char :=
  match text with
  | '(' :: inner =>
    match inner.dropWhile fun char => char.isAlphanum || char == '_' with
    | ')' :: rest => rest
    | _ => text
  | _ => text

def scanUnsignedReal (isNegative : Bool) (text : List Char) : Option ScannedReal :=
  let ofPair (pair : RealNumber × Bool) (rest : List Char) : ScannedReal :=
    ⟨pair.1, rest, pair.2⟩
  let decimal : Option ScannedReal :=
    match scanDigits 10 text with
    | ([], _, _) => none
    | (digits, places, behind) =>
      let (power, rest) := scanExponent ['e', 'E'] behind
      some (ofPair (decimalReal isNegative digits (power - places)) rest)
  match behindWord? "infinity" text, behindWord? "inf" text, behindWord? "nan" text with
  | some rest, _, _ => some ⟨.infinite isNegative, rest, false⟩
  | none, some rest, _ => some ⟨.infinite isNegative, rest, false⟩
  | none, none, some rest => some ⟨.notNumber isNegative, behindRemark rest, false⟩
  | none, none, none =>
    match behindWord? "0x" text with
    | none => decimal
    | some hexadecimal =>
      match scanDigits 16 hexadecimal with
      | ([], _, _) => decimal
      | (digits, places, behind) =>
        let (power, rest) := scanExponent ['p', 'P'] behind
        some (ofPair (binaryReal isNegative digits (power - 4 * places)) rest)

/-- Space and a sign may stand in front of a number. -/
def scanReal (text : List Char) : Option ScannedReal :=
  match text.dropWhile isSpaceChar with
  | '-' :: rest => scanUnsignedReal true rest
  | '+' :: rest => scanUnsignedReal false rest
  | rest => scanUnsignedReal false rest

/-- A number as a fraction. -/
def exactFraction (mantissa : Nat) (exponent : Int) : Nat × Nat :=
  scaledFraction mantissa 1 exponent

/-- The digits in front of the point and the given number of digits behind it. -/
def fixedDigits (mantissa : Nat) (exponent : Int) (places : Nat) : List Char × List Char :=
  let (top, bottom) := exactFraction mantissa exponent
  let digits := Nat.toDigits 10 (roundQuotient (top * tenTo places) bottom)
  let padded := List.replicate (places + 1 - digits.length) '0' ++ digits
  (padded.take (padded.length - places), padded.drop (padded.length - places))

/-- The power of ten of the first digit that is not zero. -/
def decimalOrder (top bottom : Nat) : Int :=
  if bottom ≤ top then ((Nat.toDigits 10 (top / bottom)).length : Int) - 1
  else
    let count := (Nat.toDigits 10 (bottom / top)).length
    if bottom ≤ top * tenTo (count - 1) then 1 - (count : Int) else -(count : Int)

/-- One digit in front of the point, the given number of digits behind it, and the power of ten. -/
def scientificDigits (mantissa : Nat) (exponent : Int) (places : Nat) :
    Char × List Char × Int :=
  if mantissa = 0 then ('0', List.replicate places '0', 0)
  else
    let (top, bottom) := exactFraction mantissa exponent
    let order := decimalOrder top bottom
    let rounded :=
      match (places : Int) - order with
      | .ofNat count => roundQuotient (top * tenTo count) bottom
      | .negSucc count => roundQuotient top (bottom * tenTo (count + 1))
    let digits := Nat.toDigits 10 rounded
    (digits.headD '0', (digits.drop 1).take places,
      if places + 1 < digits.length then order + 1 else order)

/-- An exponent has a sign and at least the given number of digits. -/
def exponentText (mark : Char) (least : Nat) (exponent : Int) : List Char :=
  let digits := Nat.toDigits 10 exponent.natAbs
  mark :: (if exponent < 0 then '-' else '+') ::
    (List.replicate (least - digits.length) '0' ++ digits)

/-- A point stands in front of digits, or by itself where that is asked for. -/
def pointedText (keepsPoint : Bool) (digits : List Char) : List Char :=
  if digits.isEmpty && !keepsPoint then [] else '.' :: digits

def withoutTrailingZeros (digits : List Char) : List Char :=
  (digits.reverse.dropWhile (· == '0')).reverse

def fixedText (keepsPoint : Bool) (mantissa : Nat) (exponent : Int) (places : Nat) :
    List Char :=
  let (whole, fraction) := fixedDigits mantissa exponent places
  whole ++ pointedText keepsPoint fraction

def scientificText (keepsPoint : Bool) (mantissa : Nat) (exponent : Int) (places : Nat) :
    List Char :=
  let (first, fraction, order) := scientificDigits mantissa exponent places
  first :: pointedText keepsPoint fraction ++ exponentText 'e' 2 order

/-- The shorter of both notations. Zeros at the end are kept only where that is asked for. -/
def generalText (keepsZeros : Bool) (mantissa : Nat) (exponent : Int) (digits : Nat) :
    List Char :=
  let places := digits - 1
  let (first, fraction, order) := scientificDigits mantissa exponent places
  let kept (text : List Char) : List Char :=
    pointedText keepsZeros (if keepsZeros then text else withoutTrailingZeros text)
  if -4 ≤ order && order ≤ places then
    let (whole, behind) := fixedDigits mantissa exponent ((places : Int) - order).toNat
    whole ++ kept behind
  else
    first :: kept fraction ++ exponentText 'e' 2 order

/-- The number of hexadecimal digits behind the first binary digit. -/
def hexadecimalPlaces : Nat := 13

/-- Hexadecimal digits with a power of two. The mark in front of them is not part of the text. -/
def hexadecimalText (keepsPoint : Bool) (mantissa : Nat) (exponent : Int) (places : Option Nat) :
    List Char :=
  let order :=
    if mantissa = 0 then 0
    else if mantissa < leastFullMantissa then -1022
    else exponent + 52
  let wanted := places.getD hexadecimalPlaces
  let cut := hexadecimalPlaces - wanted
  let rounded := roundQuotient mantissa (twoTo (4 * cut))
  let digits := Nat.toDigits 16 rounded
  let shown := hexadecimalPlaces - cut
  let padded := List.replicate (shown + 1 - digits.length) '0' ++ digits
  let fraction := padded.drop (padded.length - shown) ++ List.replicate (wanted - shown) '0'
  padded.take (padded.length - shown) ++
    pointedText keepsPoint (if places.isSome then fraction else withoutTrailingZeros fraction) ++
    exponentText 'p' 1 order

end ChainShell
