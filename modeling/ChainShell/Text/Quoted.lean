/-
This file writes text and word lists the way log records show them: in double quotes, with
escapes for what would not be visible.
-/

import ChainShell.Text.Printable

namespace ChainShell

/-- The digits of a code point are lower-case hexadecimal without padding. -/
def hexDigits (value : Nat) : List Char :=
  Nat.toDigits 16 value

/-- A quote, a backslash and the named control characters take two characters. Any other character
that is not printable is written by its code point. -/
def quotedChar (char : Char) : List Char :=
  match char with
  | '"' => ['\\', '"']
  | '\\' => ['\\', '\\']
  | '\t' => ['\\', 't']
  | '\n' => ['\\', 'n']
  | '\r' => ['\\', 'r']
  | '\x00' => ['\\', '0']
  | _ =>
    if isPrintable char then [char]
    else ['\\', 'u', '\x7b'] ++ hexDigits char.toNat ++ ['\x7d']

/-- The text stands between double quotes with each character escaped as needed. -/
def quoted (text : String) : String :=
  String.ofList ('"' :: text.toList.flatMap quotedChar ++ ['"'])

/-- A mark, a format character and a private one are not shown, and an accented letter is. -/
example : quoted "é\u0301\u200b\ue000" = "\"é\\u\x7b301\x7d\\u\x7b200b\x7d\\u\x7be000\x7d\"" := by
  decide +kernel

/-- A word list shows its quoted words between brackets. -/
def quotedList (words : List String) : String :=
  "[" ++ String.intercalate ", " (words.map quoted) ++ "]"

end ChainShell
