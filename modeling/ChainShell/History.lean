/-
This file keeps the entered lines and writes them as the text of a history file.
-/

import ChainShell.Settings

namespace ChainShell

/-- The entries from old to new, and whether one was added since the file was read. -/
structure History where
  entries : List String
  changed : Bool
  deriving DecidableEq, Repr

def History.empty : History := ⟨[], false⟩

/-- An empty line and a repetition of the last entry are not kept. -/
def History.accepts (history : History) (line : String) : Bool :=
  line ≠ "" && history.entries.getLast? ≠ some line

/-- The oldest entries give way when there are too many. -/
def History.add (history : History) (line : String) : History :=
  if history.accepts line then
    let extended := history.entries ++ [line]
    ⟨extended.drop (extended.length - historySize), true⟩
  else
    history

/-- The first line of a history file whose entries are escaped. -/
def historyMark : String := "#V2"

/-- A newline and a backslash are escaped, so that an entry takes one line. -/
def escapeEntry (entry : List Char) : List Char :=
  entry.flatMap fun char =>
    if char = '\\' then ['\\', '\\'] else if char = '\n' then ['\\', 'n'] else [char]

/-- There is no answer for an escape that is never written. -/
def unescapeEntry : List Char → Option (List Char)
  | [] => some []
  | '\\' :: '\\' :: rest => (unescapeEntry rest).map ('\\' :: ·)
  | '\\' :: 'n' :: rest => (unescapeEntry rest).map ('\n' :: ·)
  | '\\' :: _ => none
  | char :: rest => (unescapeEntry rest).map (char :: ·)

/-- A line with an unknown escape stands for itself. -/
def entryOfLine (line : List Char) : String :=
  String.ofList ((unescapeEntry line).getD line)

/-- A carriage return in front of the newline does not belong to the line. -/
def withoutReturn (line : List Char) : List Char :=
  if line.getLast? = some '\r' then line.dropLast else line

/-- The lines of a text. A final newline starts no further line. -/
def textLines (text : String) : List (List Char) :=
  match (text.toList.splitOn '\n').reverse with
  | [] => []
  | last :: complete =>
    (complete.map withoutReturn).reverse ++ (if last = [] then [] else [last])

/-- A file without the mark holds plain entries. -/
def History.ofFile (text : String) : History :=
  let entries :=
    match textLines text with
    | [] => []
    | first :: rest =>
      if String.ofList first = historyMark then rest.map entryOfLine
      else (first :: rest).map String.ofList
  { entries.foldl History.add .empty with changed := false }

/-- The mark comes first, then one line for each entry. -/
def History.toFile (history : History) : String :=
  historyMark ++ "\n" ++ String.join (history.entries.map fun entry =>
    String.ofList (escapeEntry entry.toList) ++ "\n")

end ChainShell
