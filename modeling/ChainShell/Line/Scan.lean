/-
This file assigns a lexical role to every character of a line. The quoting state, one pending
escape and the following character decide the role.
-/

import ChainShell.Text.Lookahead

namespace ChainShell

/-- The quoting context of a character. -/
inductive QuoteState where
  | unquoted
  | inSingleQuote
  | inDoubleQuote
  deriving DecidableEq, Repr

/-- The lexical meaning of one character. -/
inductive Role where
  /-- The character stands outside quotes and may carry chain syntax. -/
  | bare
  /-- Quoting or an escape makes the character stand for itself. -/
  | literal
  /-- The character separates words. -/
  | blank
  /-- The character opens or closes a quoted stretch and belongs to no word. -/
  | quote
  /-- The backslash takes the next character literally and belongs to no word. -/
  | escape
  deriving DecidableEq, Repr

/-- Only a space and a tab separate words. -/
def isBlank (char : Char) : Bool :=
  char == ' ' || char == '\t'

/-- A backslash outside quotes escapes these characters and no others. -/
def escapableUnquoted : List Char :=
  [' ', '\t', '"', '\'', '\\', ';', '&', '|']

/-- A backslash inside double quotes escapes these characters and no others. -/
def escapableInDoubleQuote : List Char :=
  ['"', '\\']

/-- A backslash escapes only when the following character is in the given list. -/
def escapes (escapable : List Char) (next : Option Char) : Bool :=
  next.any escapable.contains

/-- The table gives the state after a character and the role of the character. -/
def QuoteState.classify (state : QuoteState) (char : Char) (next : Option Char) :
    QuoteState × Role :=
  match state with
  | .unquoted =>
    if isBlank char then (.unquoted, .blank)
    else if char = '\'' then (.inSingleQuote, .quote)
    else if char = '"' then (.inDoubleQuote, .quote)
    else if char = '\\' && escapes escapableUnquoted next then (.unquoted, .escape)
    else (.unquoted, .bare)
  | .inSingleQuote =>
    if char = '\'' then (.unquoted, .quote) else (.inSingleQuote, .literal)
  | .inDoubleQuote =>
    if char = '"' then (.unquoted, .quote)
    else if char = '\\' && escapes escapableInDoubleQuote next then (.inDoubleQuote, .escape)
    else (.inDoubleQuote, .literal)

/-- The mode is all that scanning remembers between two characters. -/
structure Mode where
  state : QuoteState
  escaped : Bool
  deriving DecidableEq, Repr

/-- Scanning starts outside quotes with no escape pending. -/
def Mode.initial : Mode := ⟨.unquoted, false⟩

/-- An escaped character is literal and leaves the quoting state alone. -/
def Mode.step (mode : Mode) (char : Char) (next : Option Char) : Mode × Role :=
  if mode.escaped then
    (⟨mode.state, false⟩, .literal)
  else
    let result := mode.state.classify char next
    (⟨result.1, result.2 == .escape⟩, result.2)

/-- The next character is offered as chain syntax only outside quotes, without a pending
escape, and when it is neither a blank, a quote nor a backslash. -/
def Mode.peekBare (mode : Mode) (rest : List Char) : Option Char :=
  if mode.escaped || mode.state != .unquoted then
    none
  else
    rest.head?.filter fun char => !([' ', '\t', '\'', '"', '\\'].contains char)

/-- One classified character with its byte offset in the line. -/
structure Scanned where
  position : Nat
  char : Char
  role : Role
  deriving DecidableEq, Repr

/-- A scanner gives roles to the characters that its reader hands out. -/
structure Scanner where
  reader : CharReader
  mode : Mode

def Scanner.ofText (text : List Char) : Scanner := ⟨.ofText text, .initial⟩

/-- One step takes one character. The role of an escaped one needs no look at what follows. -/
def Scanner.next (scanner : Scanner) : Option Scanned × Scanner :=
  match scanner.reader.take with
  | (none, reader) => (none, ⟨reader, scanner.mode⟩)
  | (some (position, char), reader) =>
    let (following, reader) := if scanner.mode.escaped then (none, reader) else reader.peek
    let (mode, role) := scanner.mode.step char (following.map Prod.snd)
    (some ⟨position, char, role⟩, ⟨reader, mode⟩)

/-- The reader is looked at only where its next character may be offered. -/
def Scanner.peekBare (scanner : Scanner) : Option Char × Scanner :=
  if scanner.mode.escaped || scanner.mode.state != .unquoted then
    (none, scanner)
  else
    let (following, reader) := scanner.reader.peek
    (scanner.mode.peekBare (following.map Prod.snd).toList, ⟨reader, scanner.mode⟩)

/-- A user of a scanner takes steps and peeks in any order. -/
inductive ScannerCall where
  | next
  | peek
  deriving DecidableEq, Repr

inductive ScannerAnswer where
  /-- There is no item at the end of the text. -/
  | read (item : Option Scanned)
  | offered (char : Option Char)
  deriving DecidableEq, Repr

def Scanner.call (scanner : Scanner) : ScannerCall → ScannerAnswer × Scanner
  | .next => (.read scanner.next.1, scanner.next.2)
  | .peek => (.offered scanner.peekBare.1, scanner.peekBare.2)

/-- The calls are made one after the other. -/
def Scanner.answers : Scanner → List ScannerCall → List ScannerAnswer
  | _, [] => []
  | scanner, call :: later =>
    let (answer, after) := scanner.call call
    answer :: after.answers later

/-- All remaining steps are taken one after the other. -/
def scanFrom (mode : Mode) (position : Nat) : List Char → List Scanned
  | [] => []
  | char :: rest =>
    let (following, role) := mode.step char rest.head?
    ⟨position, char, role⟩ :: scanFrom following (position + char.utf8Size) rest

/-- A whole text is scanned from the initial mode. -/
def scan (text : List Char) : List Scanned :=
  scanFrom .initial 0 text

end ChainShell
