/-
This file reads a prompt format into pieces and fills the pieces in.
-/

import ChainShell.Path

namespace ChainShell

/-- A prompt format consists of literal characters and three kinds of slots. -/
inductive PromptPiece where
  | literal (char : Char)
  | user
  | host
  | directory
  deriving DecidableEq, Repr

/-- A backslash in front of one of these letters is a slot. -/
def PromptPiece.ofLetter? : Char → Option PromptPiece
  | 'u' => some .user
  | 'h' => some .host
  | 'w' => some .directory
  | _ => none

/-- A backslash in front of any other character is literal text. -/
def promptPieces : List Char → List PromptPiece
  | [] => []
  | '\\' :: letter :: rest =>
    match PromptPiece.ofLetter? letter with
    | some slot => slot :: promptPieces rest
    | none => .literal '\\' :: promptPieces (letter :: rest)
  | char :: rest => .literal char :: promptPieces rest

/-- The values of the slots. -/
structure PromptValues where
  user : String
  host : String
  directory : Path

/-- A value is copied as it stands and never read as a format. -/
def PromptPiece.fill (values : PromptValues) : PromptPiece → List Char
  | .literal char => [char]
  | .user => values.user.toList
  | .host => values.host.toList
  | .directory => values.directory.text.toList

def renderPrompt (format : String) (values : PromptValues) : String :=
  String.ofList ((promptPieces format.toList).flatMap (PromptPiece.fill values))

end ChainShell
