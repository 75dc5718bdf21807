/-
This file completes the last word of a line. The first word of a command is looked up among
the command names and then among the file names, any later word only among the file names.
-/

import ChainShell.Line.Chain
import ChainShell.NameIndex
import ChainShell.Text.Bytes

namespace ChainShell

/-- The list that a suggestion came from. -/
inductive HintKind where
  | command
  | file
  deriving DecidableEq, Repr

/-- The terminal draws a hint in this foreground colour. -/
def HintKind.color : HintKind → Nat
  | .command => 32
  | .file => 35

/-- No hint is drawn bold. -/
def HintKind.bold : HintKind → Bool := fun _ => false

/-- The missing rest of a suggested name is never empty. -/
structure Hint where
  suffix : String
  kind : HintKind
  deriving DecidableEq, Repr

/-- White space and the characters of the chain operators end a word. -/
def isWordBreak (char : Char) : Bool :=
  isWhiteSpace char || char == ';' || char == '&' || char == '|'

/-- The last word starts at this byte. It lies behind the last word break, and without a break it
is the first one. -/
def lastWordStart (buffer : String) : Nat :=
  match (charOffsets 0 buffer.toList).reverse.find? fun entry => isWordBreak entry.2 with
  | none => 0
  | some (offset, char) => offset + char.utf8Size

/-- The text in front of the last word and the word itself. -/
def cutLastWord (buffer : String) : String × String :=
  let start : String.Pos.Raw := ⟨lastWordStart buffer⟩
  (String.Pos.Raw.extract buffer 0 start, String.Pos.Raw.extract buffer start buffer.rawEndPos)

/-- A word names a command at the start of the line and behind an operator. -/
def isFirstWord (before : List Char) : Bool :=
  let trimmed := trimEnd before
  trimmed.isEmpty || [';'].isSuffixOf trimmed || ['&', '&'].isSuffixOf trimmed ||
    ['|', '|'].isSuffixOf trimmed

/-- The names that extend the word, in the order of the lists and with repetitions. -/
def candidates (firstWord : Bool) (word : String) (index : NameIndex) :
    List (String × HintKind) :=
  let commands := if firstWord then index.commands else []
  (commands.map (·, HintKind.command) ++ index.files.map (·, HintKind.file)).filter
    fun entry => word.toList.isPrefixOf entry.1.toList

/-- The rest of a name behind a word that starts it. -/
def missingSuffix (word name : String) : String :=
  String.Pos.Raw.extract name word.rawEndPos name.rawEndPos

/-- The first candidate is suggested unless the word already spells it. -/
def hint (buffer : String) (index : NameIndex) : Option Hint :=
  let (before, word) := cutLastWord buffer
  if word.isEmpty then
    none
  else
    match candidates (isFirstWord before.toList) word index with
    | [] => none
    | (name, kind) :: _ =>
      let suffix := missingSuffix word name
      if suffix.isEmpty then none else some ⟨suffix, kind⟩

/-- A completion shows a name and replaces the whole buffer. -/
structure Completion where
  display : String
  replacement : String
  deriving DecidableEq, Repr

/-- Every candidate extends the buffer by its missing suffix. -/
def completions (buffer : String) (index : NameIndex) : List Completion :=
  let (before, word) := cutLastWord buffer
  if word.isEmpty then
    []
  else
    (candidates (isFirstWord before.toList) word index).map fun entry =>
      ⟨entry.1, buffer ++ missingSuffix word entry.1⟩

def complete (buffer : String) (index : NameIndex) : List String :=
  (completions buffer index).map Completion.replacement

/-- The line editor asks this helper for hints and completions. It remembers the kind of the
last hint, because the hint is drawn later. -/
structure LineHelper where
  index : NameIndex
  lastHint : Option HintKind := none

/-- There is no hint while the cursor stands inside the line. -/
def LineHelper.hint (helper : LineHelper) (line : String) (position : Nat) :
    Option String × LineHelper :=
  let found :=
    if position < line.utf8ByteSize then none else ChainShell.hint line helper.index
  (found.map Hint.suffix, { helper with lastHint := found.map Hint.kind })

/-- The text up to the cursor is completed, and completions replace it from its start. There
is no answer for a cursor that stands on no character boundary. -/
def LineHelper.complete (helper : LineHelper) (line : String) (position : Nat) :
    Option (Nat × List Completion) :=
  (takeBytes? position line.toList).map fun before =>
    (0, completions (String.ofList before) helper.index)

/-- The escape sequence sets the attribute and the colour and ends with a reset. -/
def LineHelper.highlight (helper : LineHelper) (text : String) : String :=
  match helper.lastHint with
  | none => text
  | some kind =>
    let weight := if kind.bold then 1 else 0
    let color := kind.color
    s!"\x1b[{weight};{color}m{text}\x1b[0m"

end ChainShell
