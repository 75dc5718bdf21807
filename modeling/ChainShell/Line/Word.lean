/-
This file splits one command into its words.
-/

import ChainShell.Line.Scan

namespace ChainShell

/-- The open word collects its characters in reverse. A quote or an escape opens a word even
when nothing literal follows, so an empty pair of quotes is a word. -/
def wordsFrom : Mode → Option (List Char) → List Char → List (List Char)
  | _, none, [] => []
  | _, some word, [] => [word.reverse]
  | mode, current, char :: rest =>
    let (following, role) := mode.step char rest.head?
    match role with
    | .bare | .literal => wordsFrom following (some (char :: current.getD [])) rest
    | .quote | .escape => wordsFrom following (some (current.getD [])) rest
    | .blank =>
      match current with
      | none => wordsFrom following none rest
      | some word => word.reverse :: wordsFrom following none rest

/-- An unterminated quote ends with the text. -/
def wordsOf (text : List Char) : List (List Char) :=
  wordsFrom .initial none text

/-- Blanks outside quotes separate words. Nothing is expanded. -/
def tokenize (text : String) : List String :=
  (wordsOf text.toList).map String.ofList

end ChainShell
