/-
This file writes names and words in the messages of utilities.
-/

import ChainShell.Text.Octets

namespace ChainShell

/-- The escape for a byte that cannot be printed. -/
def byteEscape (char : Char) : List Char :=
  match char with
  | '\x07' => ['\\', 'a']
  | '\x08' => ['\\', 'b']
  | '\t' => ['\\', 't']
  | '\n' => ['\\', 'n']
  | '\x0b' => ['\\', 'v']
  | '\x0c' => ['\\', 'f']
  | '\r' => ['\\', 'r']
  | _ =>
    let digits := Nat.toDigits 8 char.toNat
    '\\' :: (List.replicate (3 - digits.length) '0' ++ digits)

def isPrintableByte (char : Char) : Bool :=
  0x20 ≤ char.toNat && char.toNat < 0x7F

/-- Bytes that mean themselves with and without quotes. -/
def isPlainByte (char : Char) : Bool :=
  char.isAlphanum || "%+,-./@]_".toList.contains char

/-- Bytes that mean something only at the start of a word. -/
def isStartMark (char : Char) : Bool :=
  char == '#' || char == '~'

/-- Bytes that mean something only as words of their own. -/
def isLoneMark (char : Char) : Bool :=
  char == '\x7b' || char == '\x7d'

/-- Bytes that mean themselves between double quotes. -/
def isPlainInQuotes (char : Char) : Bool :=
  isPlainByte char || char == ' ' || char == ':' || char == '\''

/-- The text between single quotes. Bytes that cannot be printed stand in a part of their own, which
a single quote ends by itself. -/
def quotedChars : Bool → List Char → List Char
  | _, [] => []
  | isEscaped, char :: rest =>
    if !isPrintableByte char then
      (if isEscaped then [] else ['\'', '$', '\'']) ++ byteEscape char ++ quotedChars true rest
    else if char == '\'' then
      ['\'', '\\', '\'', '\''] ++ quotedChars false rest
    else
      (if isEscaped then ['\'', '\''] else []) ++ char :: quotedChars false rest

/-- A name with a single quote is gone through twice. The second time starts in the part in which
the first one ended. -/
def startsEscaped (chars : List Char) : Bool :=
  chars.contains '\'' && chars.getLast?.any fun char => !isPrintableByte char

/-- A name is always quoted. Double quotes serve where only single quotes are in the way. -/
def quoteName (name : Octets) : Octets :=
  let chars := name.toList
  let behind := if chars.head?.any isStartMark then chars.drop 1 else chars
  if behind.contains '\'' && behind.all isPlainInQuotes then "\"" ++ name ++ "\""
  else "'" ++ String.ofList (quotedChars (startsEscaped chars) chars) ++ "'"

/-- The text between the quotes of a message about the use of a utility. -/
def messageChars (char : Char) : List Char :=
  if char == '\'' || char == '\\' then ['\\', char]
  else if isPrintableByte char then [char] else byteEscape char

/-- A word in a message about the use of a utility. -/
def quoteWord (word : Octets) : Octets :=
  "'" ++ String.ofList (word.toList.flatMap messageChars) ++ "'"

/-- A name that a shell would read as it is. -/
def needsNoQuotes (chars : List Char) : Bool :=
  !chars.isEmpty && !chars.head?.any isStartMark &&
    chars.all (fun char => isPlainByte char || isStartMark char || isLoneMark char) &&
    !(chars.length = 1 && chars.all isLoneMark)

/-- A name is quoted only if it has to be. -/
def quoteIfNeeded (name : Octets) : Octets :=
  if needsNoQuotes name.toList then name else quoteName name

end ChainShell
