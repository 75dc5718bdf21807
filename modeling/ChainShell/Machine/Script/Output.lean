/-
This file holds the texts that `echo` and `printf` write in a script.
-/

import ChainShell.Machine.Script.Real

namespace ChainShell

def isOctal (char : Char) : Bool :=
  '0' ≤ char && char ≤ '7'

/-- The byte that a letter behind a backslash stands for. -/
def escapeLetter? : Char → Option Char
  | '\\' => some '\\'
  | 'a' => some '\x07'
  | 'b' => some '\x08'
  | 'e' => some '\x1b'
  | 'f' => some '\x0c'
  | 'n' => some '\n'
  | 'r' => some '\r'
  | 't' => some '\t'
  | 'v' => some '\x0b'
  | _ => none

/-- The byte behind a backslash and the text behind it. Up to three octal digits give one byte, and
a backslash without a meaning stands for itself. -/
def readEscape (text : List Char) : Char × List Char :=
  match text with
  | [] => ('\\', [])
  | letter :: rest =>
    match escapeLetter? letter with
    | some char => (char, rest)
    | none =>
      let digits := (text.take 3).takeWhile isOctal
      if digits.isEmpty then ('\\', text)
      else (Char.ofNat (digitsValue 8 digits % 256), text.drop digits.length)

/-- The escapes in an argument. An octal number may have a further zero in front. The answer tells
whether `\c` stopped the output. -/
def argumentEscapes : Nat → List Char → List Char × Bool
  | 0, _ => ([], false)
  | _ + 1, [] => ([], false)
  | fuel + 1, '\\' :: rest =>
    match rest with
    | 'c' :: _ => ([], true)
    | '0' :: digit :: following =>
      let (char, left) := readEscape (if isOctal digit then digit :: following else rest)
      let (others, isStopped) := argumentEscapes fuel left
      (char :: others, isStopped)
    | _ =>
      let (char, left) := readEscape rest
      let (others, isStopped) := argumentEscapes fuel left
      (char :: others, isStopped)
  | fuel + 1, char :: rest =>
    let (others, isStopped) := argumentEscapes fuel rest
    (char :: others, isStopped)

def escapedArgument (argument : Octets) : List Char × Bool :=
  argumentEscapes (argument.length + 1) argument.toList

/-- The arguments with spaces between them. -/
def echoWords : List Octets → List Char × Bool
  | [] => ([], false)
  | argument :: rest =>
    match escapedArgument argument with
    | (text, true) => (text, true)
    | (text, false) =>
      if rest.isEmpty then (text, false)
      else
        let (others, isStopped) := echoWords rest
        (text ++ ' ' :: others, isStopped)

/-- A leading `-n` suppresses the newline. -/
def scriptEcho (arguments : List Octets) : Octets :=
  let (hasNewline, words) :=
    match arguments with
    | "-n" :: rest => (false, rest)
    | _ => (true, arguments)
  let (text, isStopped) := echoWords words
  String.ofList text ++ if hasNewline && !isStopped then "\n" else ""

/-- A conversion of `printf` with its flags. -/
structure Conversion where
  flags : List Char
  width : Option Int
  precision : Option Int
  letter : Char
  /-- The text of the conversion in the format. -/
  source : List Char

/-- The output so far, the arguments left, and the messages. -/
structure Printing where
  output : List Char := []
  arguments : List Octets
  messages : List Octets := []
  isStopped : Bool := false
  fault : Option Octets := none

def Printing.emit (printing : Printing) (text : List Char) : Printing :=
  { printing with output := printing.output ++ text }

def Printing.takeArgument (printing : Printing) : Option Octets × Printing :=
  (printing.arguments.head?, { printing with arguments := printing.arguments.drop 1 })

def Printing.warn (printing : Printing) (text : Octets) : Printing :=
  { printing with messages := printing.messages ++ [text] }

/-- The number of an argument. A quote asks for the byte behind it. -/
def Printing.takeNumber (isSigned : Bool) (printing : Printing) : Int × Printing :=
  match printing.takeArgument with
  | (none, after) => (0, after)
  | (some argument, after) =>
    match argument.toList with
    | [] => (0, after)
    | '"' :: rest | '\'' :: rest => ((rest.headD '\x00').toNat, after)
    | chars =>
      match if isSigned then scanInteger true chars else scanUnsigned true chars with
      | none => (0, after.warn (argument ++ ": expected numeric value"))
      | some scanned =>
        (scanned.value,
          if !scanned.rest.isEmpty then after.warn (argument ++ ": not completely converted")
          else if scanned.isTooLarge then
            after.warn (argument ++ ": Numerical result out of range")
          else after)

/-- The real number of an argument. -/
def Printing.takeReal (printing : Printing) : RealNumber × Printing :=
  let ofNumber (number : Nat) : RealNumber := (nearestReal false number 1).1
  match printing.takeArgument with
  | (none, after) => (ofNumber 0, after)
  | (some argument, after) =>
    match argument.toList with
    | [] => (ofNumber 0, after)
    | '"' :: rest | '\'' :: rest => (ofNumber (rest.headD '\x00').toNat, after)
    | chars =>
      match scanReal chars with
      | none => (ofNumber 0, after.warn (argument ++ ": expected numeric value"))
      | some scanned =>
        (scanned.value,
          if !scanned.rest.isEmpty then after.warn (argument ++ ": not completely converted")
          else if scanned.isOutOfRange then
            after.warn (argument ++ ": Numerical result out of range")
          else after)

/-- A text is filled up to its width. -/
def Conversion.pad (conversion : Conversion) (text : List Char) : List Char :=
  let width := conversion.width.getD 0
  let fill := List.replicate (width.natAbs - text.length) ' '
  if conversion.flags.contains '-' || width < 0 then text ++ fill else fill ++ text

/-- A precision limits the bytes of a text. -/
def Conversion.text (conversion : Conversion) (text : List Char) : List Char :=
  conversion.pad (match conversion.precision with
    | some limit => if limit < 0 then text else text.take limit.toNat
    | none => text)

def digitsIn (base : Nat) (value : Nat) : List Char :=
  Nat.toDigits base value

/-- A number has its sign or mark in front, and zeros up to its precision or width. -/
def Conversion.number (conversion : Conversion) (mark digits : List Char) : List Char :=
  let least := (conversion.precision.filter (0 ≤ ·)).map Int.toNat
  let shown := if least = some 0 && digits = ['0'] then [] else digits
  let full := List.replicate (least.getD 1 - shown.length) '0' ++ shown
  let width := (conversion.width.getD 0).natAbs
  let isZeroFilled := conversion.flags.contains '0' && !conversion.flags.contains '-' &&
    least.isNone && 0 ≤ conversion.width.getD 0
  if isZeroFilled then
    mark ++ List.replicate (width - mark.length - full.length) '0' ++ full
  else
    conversion.pad (mark ++ full)

/-- A sign, or what stands in its place. -/
def Conversion.signMark (conversion : Conversion) (isNegative : Bool) : List Char :=
  if isNegative then ['-']
  else if conversion.flags.contains '+' then ['+']
  else if conversion.flags.contains ' ' then [' ']
  else []

def Conversion.signed (conversion : Conversion) (value : Int) : List Char :=
  conversion.number (conversion.signMark (value < 0)) (digitsIn 10 value.natAbs)

def Conversion.unsigned (conversion : Conversion) (value : Int) : List Char :=
  let bits := (value % 0x10000000000000000).toNat
  let hasMark := conversion.flags.contains '#' && bits ≠ 0
  match conversion.letter with
  | 'o' =>
    let digits := digitsIn 8 bits
    conversion.number [] (if hasMark then '0' :: digits else digits)
  | 'x' => conversion.number (if hasMark then ['0', 'x'] else []) (digitsIn 16 bits)
  | 'X' =>
    conversion.number (if hasMark then ['0', 'X'] else []) ((digitsIn 16 bits).map Char.toUpper)
  | _ => conversion.number [] (digitsIn 10 bits)

/-- Zeros fill the width between the mark in front and the digits. -/
def Conversion.fillWithZeros (conversion : Conversion) (mark text : List Char) : List Char :=
  let width := conversion.width.getD 0
  if conversion.flags.contains '0' && !conversion.flags.contains '-' && 0 ≤ width then
    mark ++ List.replicate (width.toNat - mark.length - text.length) '0' ++ text
  else
    conversion.pad (mark ++ text)

/-- The letter decides on the notation. Its upper case asks for upper case. -/
def Conversion.real (conversion : Conversion) (value : RealNumber) : List Char :=
  let places := (conversion.precision.filter (0 ≤ ·)).map Int.toNat
  let keepsPoint := conversion.flags.contains '#'
  let sign := conversion.signMark
  let whole :=
    match value with
    | .infinite isNegative => conversion.pad (sign isNegative ++ ['i', 'n', 'f'])
    | .notNumber isNegative => conversion.pad (sign isNegative ++ ['n', 'a', 'n'])
    | .finite isNegative mantissa exponent =>
      match conversion.letter.toLower with
      | 'f' =>
        conversion.fillWithZeros (sign isNegative)
          (fixedText keepsPoint mantissa exponent (places.getD 6))
      | 'e' =>
        conversion.fillWithZeros (sign isNegative)
          (scientificText keepsPoint mantissa exponent (places.getD 6))
      | 'g' =>
        conversion.fillWithZeros (sign isNegative)
          (generalText keepsPoint mantissa exponent (max 1 (places.getD 6)))
      | _ =>
        conversion.fillWithZeros (sign isNegative ++ ['0', 'x'])
          (hexadecimalText keepsPoint mantissa exponent places)
  if conversion.letter.isUpper then whole.map Char.toUpper else whole

/-- One conversion takes at most one argument. -/
def Printing.convert (printing : Printing) (conversion : Conversion) : Printing :=
  match conversion.letter with
  | 's' =>
    let (argument, after) := printing.takeArgument
    after.emit (conversion.text (argument.getD "").toList)
  | 'b' =>
    let (argument, after) := printing.takeArgument
    let (text, isStopped) := escapedArgument (argument.getD "")
    { after.emit (conversion.text text) with isStopped := isStopped }
  | 'c' =>
    let (argument, after) := printing.takeArgument
    after.emit (conversion.pad [(argument.getD "").toList.headD '\x00'])
  | 'd' | 'i' =>
    let (value, after) := printing.takeNumber true
    after.emit (conversion.signed value)
  | 'o' | 'u' | 'x' | 'X' =>
    let (value, after) := printing.takeNumber false
    after.emit (conversion.unsigned value)
  | 'a' | 'A' | 'e' | 'E' | 'f' | 'F' | 'g' | 'G' =>
    let (value, after) := printing.takeReal
    after.emit (conversion.real value)
  | _ =>
    { printing with
      fault := some (String.ofList conversion.source ++ ": invalid directive") }

/-- A width or precision is written as digits or taken from an argument. -/
def takeSize (format : List Char) (printing : Printing) : Option Int × List Char × Printing :=
  match format with
  | '*' :: rest =>
    let (value, after) := printing.takeNumber true
    (some (Int.bmod value 0x100000000), rest, after)
  | _ =>
    let digits := format.takeWhile Char.isDigit
    (if digits.isEmpty then none else some (digitsValue 10 digits),
      format.drop digits.length, printing)

/-- The conversion behind a percent sign and the format behind it. -/
def readConversion (format : List Char) (printing : Printing) :
    Option Conversion × List Char × Printing :=
  let flags := format.takeWhile fun char => ['#', '-', '+', ' ', '0'].contains char
  let (width, afterWidth, first) := takeSize (format.drop flags.length) printing
  let (precision, afterPrecision, second) :=
    match afterWidth with
    | '.' :: rest =>
      let (size, following, after) := takeSize rest first
      (some (size.getD 0), following, after)
    | _ => (none, afterWidth, first)
  match afterPrecision with
  | [] => (none, [], second)
  | letter :: rest =>
    (some ⟨flags, width, precision, letter,
      '%' :: format.take (format.length - rest.length)⟩, rest, second)

/-- The greatest width and precision. -/
def largestSize : Int := 0x7fffffff

/-- A conversion that asks for more bytes than can be counted. -/
def Conversion.isOversize (conversion : Conversion) : Bool :=
  largestSize < (conversion.width.getD 0).natAbs || largestSize < conversion.precision.getD 0

/-- A conversion that asks for too many bytes takes its argument and fails. -/
def Printing.convertSized (printing : Printing) (conversion : Conversion) : Printing :=
  if conversion.isOversize then
    let converted := printing.convert { conversion with width := none, precision := none }
    { converted with
      output := printing.output
      fault := converted.fault.or (some "xvsnprintf failed") }
  else
    printing.convert conversion

/-- One pass over the format. -/
def printfPass : Nat → List Char → Printing → Printing
  | 0, _, printing => printing
  | _ + 1, [], printing => printing
  | fuel + 1, '\\' :: rest, printing =>
    let (char, left) := readEscape rest
    printfPass fuel left (printing.emit [char])
  | fuel + 1, '%' :: '%' :: rest, printing => printfPass fuel rest (printing.emit ['%'])
  | fuel + 1, '%' :: rest, printing =>
    match readConversion rest printing with
    | (none, _, after) => { after with fault := some "missing format character" }
    | (some conversion, following, after) =>
      let converted := after.convertSized conversion
      if converted.isStopped || converted.fault.isSome then converted
      else printfPass fuel following converted
  | fuel + 1, char :: rest, printing => printfPass fuel rest (printing.emit [char])

/-- The format is used again while arguments are left and it takes some. -/
def printfPasses (format : Octets) : Nat → Printing → Printing
  | 0, printing => printing
  | fuel + 1, printing =>
    let after := printfPass (format.length + 1) format.toList printing
    if after.isStopped || after.fault.isSome || after.arguments.isEmpty ||
        after.arguments.length = printing.arguments.length then
      after
    else
      printfPasses format fuel after

def scriptPrintf (format : Octets) (arguments : List Octets) : Printing :=
  printfPasses format (arguments.length + 1) { arguments := arguments }

end ChainShell
