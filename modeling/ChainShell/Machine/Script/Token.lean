/-
This file holds the tokens of scripts and the state of a reader.
-/

import ChainShell.Machine.Script.Alias
import ChainShell.Machine.Script.Grammar

namespace ChainShell

/-- These characters are parameters of their own. -/
def isSpecialParameter (char : Char) : Bool :=
  char.isDigit || ['@', '*', '#', '?', '$', '!', '-'].contains char

/-- These characters end an unquoted word. -/
def isMetaChar (char : Char) : Bool :=
  [' ', '\t', '\n', ';', '&', '|', '<', '>', '(', ')'].contains char

/-- These characters mean themselves in every context. -/
def isPlainChar (char : Char) : Bool :=
  char.isAlphanum || 0x80 ≤ char.toNat || "_-/.,:+@%=".toList.contains char

/-- The words that have a meaning where a command may start. -/
def reservedWords : List String :=
  ["!", "case", "do", "done", "elif", "else", "esac", "fi", "for", "if", "in", "then", "until",
    "while", "\x7b", "\x7d"]

/-- What the sign of a redirection asks for. -/
inductive RedirectSign where
  | file (kind : RedirectKind)
  | duplicate
  | document (stripsTabs : Bool)
  deriving DecidableEq, Repr

def RedirectSign.isDocument : RedirectSign → Bool
  | .document _ => true
  | _ => false

inductive ScriptToken where
  | endOfText
  | newline
  | semicolon
  | background
  | and
  | or
  | pipe
  | openParen
  | closeParen
  | endBranch
  | redirect (descriptor : Nat) (sign : RedirectSign)
  /-- A word knows whether a part of it was quoted. -/
  | word (parts : ScriptWord) (isQuoted : Bool)
  | reserved (text : String)

/-- The text of a token in a message. -/
def ScriptToken.describe : ScriptToken → String
  | .endOfText => "end of file"
  | .newline => "newline"
  | .semicolon => "\";\""
  | .background => "\"&\""
  | .and => "\"&&\""
  | .or => "\"||\""
  | .pipe => "\"|\""
  | .openParen => "\"(\""
  | .closeParen => "\")\""
  | .endBranch => "\";;\""
  | .redirect _ _ => "redirection"
  | .word _ _ => "word"
  | .reserved text => "\"" ++ text ++ "\""

def ScriptToken.isReserved (token : ScriptToken) (text : String) : Bool :=
  match token with
  | .reserved found => found == text
  | _ => false

/-- These tokens end a list of commands inside a larger command. -/
def ScriptToken.endsList : ScriptToken → Bool
  | .endOfText | .closeParen | .endBranch => true
  | .reserved text =>
    ["do", "done", "elif", "else", "esac", "fi", "then", "\x7d"].contains text
  | _ => false

/-- A text in the script that starts behind the line with its redirection. -/
structure PendingDocument where
  index : Nat
  mark : Octets
  stripsTabs : Bool
  isExpanded : Bool

/-- A fault in the structure of a script. -/
structure ReadFault where
  line : Nat
  text : String
  /-- There was nothing left to read. -/
  isAtEnd : Bool
  /-- The number of lines that were asked for. -/
  asked : Nat

/-- What a text is read for. -/
inductive TextKind where
  | script
  /-- A document goes up to its mark. -/
  | document (mark : List Char) (stripsTabs : Bool)
  /-- A value in which parameters are replaced. -/
  | value
  deriving DecidableEq, Repr

structure ReaderState where
  unread : List Char
  line : Nat := 1
  /-- The last token, and whether it is to be read again. -/
  last : ScriptToken := .endOfText
  isPushed : Bool := false
  pending : List PendingDocument := []
  /-- The number of the next document. -/
  nextDocument : Nat := 0
  /-- The documents that were read, by number. -/
  documents : List (Nat × ScriptWord) := []
  aliases : AliasTable := []
  /-- The texts of aliases that the reader is in, the innermost first. -/
  uses : List AliasUse := []
  /-- The mark of a document is read, in which nothing is replaced. -/
  isMark : Bool := false
  kind : TextKind := .script
  /-- The text ended before a document did. -/
  isCut : Bool := false
  /-- The last word that was read, be it a mark or the text of a document. -/
  lastWord : ScriptWord := []
  /-- The number of lines that were asked for since the command started. -/
  asked : Nat := 0
  /-- The next token starts a line that has to be asked for. -/
  isAskDue : Bool := false
  /-- The text is at hand, so that nothing has to be asked for. -/
  isSilent : Bool := false

abbrev ReaderM := StateT ReaderState (Except ReadFault)

/-- The whole script is refused. -/
def syntaxFault {α : Type} (text : String) : ReaderM α := do
  let state ← get
  throw ⟨state.line, "Syntax error: " ++ text, state.unread.isEmpty, state.asked⟩

/-- A command goes on in further lines. -/
def ReaderState.ask (state : ReaderState) (count : Nat) : ReaderState :=
  if state.isSilent then state else { state with asked := state.asked + count }

/-- A line is asked for when its first token is needed. -/
def askWhenDue : ReaderM Unit :=
  modify fun state =>
    if state.isAskDue then { state.ask 1 with isAskDue := false } else state

/-- A backslash in front of a newline joins two lines. -/
def joinLines : List Char → List Char × Nat
  | '\\' :: '\n' :: rest =>
    let (chars, count) := joinLines rest
    (chars, count + 1)
  | chars => (chars, 0)

def peekChar : ReaderM (Option Char) := do
  let (chars, count) := joinLines (← get).unread
  modify fun state => { state.ask count with unread := chars, line := state.line + count }
  return chars.head?

/-- The next character is read. Lines are counted where they end. -/
def skipChar : ReaderM Unit :=
  modify fun state =>
    match state.unread with
    | [] => state
    | char :: rest =>
      { state with unread := rest, line := if char = '\n' then state.line + 1 else state.line }

/-- The next character is read as part of a sign. No line is counted there. -/
def skipSign : ReaderM Unit :=
  modify fun state => { state with unread := state.unread.drop 1 }

/-- The characters up to the first one that fails the test. -/
def takeChars (test : Char → Bool) : ReaderM (List Char) := do
  let taken := (← get).unread.takeWhile test
  modify fun state => { state with
    unread := state.unread.dropWhile test
    line := state.line + taken.count '\n' }
  return taken

/-- The characters up to the first one that fails the test, also from lines that are joined. -/
def takeJoined (test : Char → Bool) : Nat → ReaderM (List Char)
  | 0 => return []
  | fuel + 1 => do
    match ← peekChar with
    | some char =>
      if test char then
        skipChar
        return char :: (← takeJoined test fuel)
      else
        return []
    | none => return []

/-- A name or a number, which may go on behind the end of a line. -/
def takeName (test : Char → Bool) : ReaderM String := do
  return String.ofList (← takeJoined test ((← get).unread.length + 1))

/-- A new token is about to be read, so the texts that are used up are left behind. -/
def leaveAliases : ReaderM Unit :=
  modify fun state => { state with uses := state.uses.filter fun usage => !usage.isUsedUp }

/-- A token was read. The answer tells whether a text was used up that asks for another name. -/
def noteAliasEnds : ReaderM Bool := do
  let state ← get
  if state.uses.isEmpty then
    return false
  else
    let left := state.unread.length
    let kept := state.uses.filter fun usage => usage.following ≤ left
    set { state with uses := kept.map (AliasUse.mark left) }
    return state.uses.any fun usage =>
      (usage.mark left).isUsedUp && !usage.isUsedUp && usage.endsInBlank

/-- A name is not replaced inside the text that it stands for. -/
def replaceableAlias? (name : Octets) : ReaderM (Option Alias) := do
  let state ← get
  return (state.aliases.find? name).filter fun entry =>
    !state.uses.any fun usage => usage.name = entry.name

/-- The text of an alias comes in front of the unread script. Texts that were just used up are
kept until it is used up too. -/
def pushAlias (entry : Alias) : ReaderM Unit :=
  modify fun state =>
    if entry.text = "" then state
    else
      { state with
        unread := entry.text.toList ++ state.unread
        uses := { name := entry.name
                  following := state.unread.length
                  endsInBlank := entry.text.toList.getLast?.any fun char =>
                    char == ' ' || char == '\t' } :: state.uses.map AliasUse.keep }

/-- The texts that the reader is still in when only the given script is left. -/
def usesWithin (uses : List AliasUse) (left : Nat) : List AliasUse :=
  uses.filter fun usage => usage.following ≤ left

/-- While another text is read, the names of the texts around it are not replaced. -/
def usesAround (uses : List AliasUse) : List AliasUse :=
  uses.map fun usage => { usage with following := 0, endsInBlank := false }

def unreadToken : ReaderM Unit :=
  modify fun state => { state with isPushed := true }

/-- The last token has no place where it stands. -/
def unexpectedToken {α : Type} (expected : Option ScriptToken) : ReaderM α := do
  let found := (← get).last.describe
  match expected with
  | none => syntaxFault (found ++ " unexpected")
  | some token => syntaxFault (found ++ " unexpected (expecting " ++ token.describe ++ ")")

/-- Neighbouring literals of the same kind form one part. The parts are in reverse. -/
def pushLiteral (isQuoted : Bool) (text : List Char) : List WordPart → List WordPart
  | .literal sameQuoted before :: rest =>
    if sameQuoted = isQuoted then .literal isQuoted (before ++ String.ofList text) :: rest
    else .literal isQuoted (String.ofList text) :: .literal sameQuoted before :: rest
  | parts => .literal isQuoted (String.ofList text) :: parts

/-- Where a word part stands. -/
inductive WordContext where
  | plain
  /-- Inside the braces of a parameter, outside quotes. -/
  | braces
  /-- Inside double quotes, which may themselves stand inside braces. -/
  | quotes (inBraces : Bool)
  /-- Inside braces inside double quotes. A further double quote opens or closes an inner part in
  which a brace means itself. -/
  | quotedBraces (inInner : Bool)
  | document
  | arithmetic (depth : Nat)
  deriving DecidableEq, Repr

def WordContext.isQuoted : WordContext → Bool
  | .plain | .braces => false
  | _ => true

def WordContext.isInBraces : WordContext → Bool
  | .braces | .quotes true | .quotedBraces _ => true
  | _ => false

/-- The context of the braces of a parameter. -/
def WordContext.inner (context : WordContext) (isTrim : Bool) : WordContext :=
  if context.isQuoted && !isTrim then .quotedBraces false else .braces

/-- A backslash inside quotes stays in front of a character that has no need of it. -/
def WordContext.keepsBackslash (context : WordContext) (char : Char) : Bool :=
  context.isQuoted && char != '\\' && char != '\x60' && char != '$' &&
    (char != '"' || context = .document) && (char != '\x7d' || !context.isInBraces)

/-- What a word lacks when the text ends. Only in a script quotes have to be closed. -/
def WordContext.endFault? (context : WordContext) (kind : TextKind) : Option String :=
  match context with
  | .plain | .document => none
  | .braces => some "Missing '\x7d'"
  | .quotes _ | .quotedBraces _ =>
    some (if kind = .script then "Unterminated quoted string" else "Missing '\x7d'")
  | .arithmetic _ => some "Missing '))'"

/-- The text between two backquotes, where a backslash protects a few characters. The answer has
the text behind the closing backquote. -/
def backquoted (isQuoted : Bool) : List Char → Option (List Char × List Char)
  | [] => none
  | '\x60' :: rest => some ([], rest)
  | '\\' :: '\n' :: rest => backquoted isQuoted rest
  | '\\' :: char :: rest =>
    let isProtected := char == '\\' || char == '\x60' || char == '$' || (isQuoted && char == '"')
    (backquoted isQuoted rest).map fun (text, following) =>
      (if isProtected then char :: text else '\\' :: char :: text, following)
  | char :: rest =>
    (backquoted isQuoted rest).map fun (text, following) => (char :: text, following)

/-- The text behind a mark that ends its line. -/
def behindMark? (mark text : List Char) : Option (List Char) :=
  if mark.isPrefixOf text then
    match text.drop mark.length with
    | [] => some []
    | char :: rest => if char = '\n' then some rest else none
  else
    none

/-- The mark was the last thing in the text, so that more text could still change it. -/
def isMarkCut (text following : List Char) : Bool :=
  following.isEmpty && text.getLast? ≠ some '\n'

/-- A line of a document starts. There is no answer when it is the mark. Otherwise the answer tells
whether the line starts with a protected newline, which behind dropped tabs is not joined. -/
def startLine (joins : Bool) : ReaderM (Option Bool) := do
  match (← get).kind with
  | .document mark stripsTabs =>
    if joins then
      let _ ← peekChar
    let state ← get
    let start := if stripsTabs then state.unread.dropWhile (· == '\t') else state.unread
    match behindMark? mark start with
    | some following =>
      set { state with
        unread := following
        line := state.line + 1
        isAskDue := true
        isCut := state.isCut || isMarkCut state.unread following }
      return none
    | none =>
      match joins, start with
      | true, '\\' :: '\n' :: rest =>
        set { state with unread := rest }
        return some true
      | _, _ =>
        set { state with unread := start }
        return some false
  | _ => return some false

/-- The characters up to a closing quote. There is no answer when the text ends before. -/
def readSingleQuoted : Nat → List Char → ReaderM (Option (List Char))
  | 0, _ => return none
  | fuel + 1, taken => do
    let run ← takeChars fun char => char != '\'' && char != '\n'
    match (← get).unread with
    | [] => return none
    | char :: _ =>
      skipChar
      if char = '\'' then
        return some (taken ++ run)
      else
        modify fun state => state.ask 1
        match ← startLine false with
        | none => return none
        | some _ => readSingleQuoted fuel (taken ++ run ++ ['\n'])

/-- The lines of a document in which nothing is replaced, and the text behind its mark, if there is
one. -/
def documentLines (document : PendingDocument) : Nat → List Char → List Char × Option (List Char)
  | 0, chars => (chars, none)
  | fuel + 1, chars =>
    let start := if document.stripsTabs then chars.dropWhile (· == '\t') else chars
    match behindMark? document.mark.toList start, start with
    | some following, _ => ([], some following)
    | none, [] => ([], none)
    | none, _ =>
      let line := start.takeWhile (· != '\n')
      match start.drop line.length with
      | [] => (line, none)
      | newline :: rest =>
        let (body, following) := documentLines document fuel rest
        (line ++ newline :: body, following)

end ChainShell
