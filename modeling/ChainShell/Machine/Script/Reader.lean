/-
This file reads scripts. A script is read and run line by line, so a fault in a later line does
not stop an earlier one.
-/

import ChainShell.Machine.Script.Token

namespace ChainShell

/-- The sign behind the first character of a redirection. -/
def redirectSign (isInput : Bool) : List Char → RedirectSign × Nat
  | '>' :: _ => (.file (if isInput then .readWrite else .append), 1)
  | '&' :: _ => (.duplicate, 1)
  | '|' :: _ => if isInput then (.file .read, 0) else (.file .clobber, 1)
  | '<' :: '-' :: _ => if isInput then (.document true, 2) else (.file .write, 0)
  | '<' :: _ => if isInput then (.document false, 1) else (.file .write, 0)
  | _ => (.file (if isInput then .read else .write), 0)

/-- A redirection starts here. -/
def readRedirect (descriptor : Option Nat) : ReaderM ScriptToken := do
  let isInput := (← peekChar) == some '<'
  skipChar
  let _ ← peekChar
  let (sign, count) := redirectSign isInput (← get).unread
  modify fun state => { state with unread := state.unread.drop count }
  return .redirect (descriptor.getD (if isInput then 0 else 1)) sign

/-- The next token takes a second character when it is the same as the first. -/
def doubled (char : Char) (one two : ScriptToken) : ReaderM ScriptToken := do
  skipChar
  if (← peekChar) == some char then
    skipChar
    return two
  else
    return one

/-- A digit directly in front of a redirection is its descriptor. -/
def descriptorOf? : ScriptWord → Option Nat
  | [.literal false text] =>
    match text.toList with
    | [digit] => if digit.isDigit then some (digit.toNat - '0'.toNat) else none
    | _ => none
  | _ => none

/-- The operator behind the name of a braced parameter. -/
inductive BraceSign where
  | close
  | fallback
  | alternative
  | assign
  | require
  | trim (atEnd isLongest : Bool)
  | unknown
  deriving DecidableEq, Repr

/-- One character is taken even if it is no operator. -/
def braceSign (char : Char) : BraceSign :=
  match char with
  | '\x7d' => .close
  | '-' => .fallback
  | '+' => .alternative
  | '=' => .assign
  | '?' => .require
  | _ => .unknown

def BraceSign.substitution (sign : BraceSign) (emptyIsUnset : Bool) (parts : ScriptWord) :
    Substitution :=
  match sign with
  | .close => .value
  | .fallback => .fallback emptyIsUnset parts
  | .alternative => .alternative emptyIsUnset parts
  | .assign => .assign emptyIsUnset parts
  | .require => .require emptyIsUnset parts
  | .trim atEnd isLongest => .trim atEnd isLongest parts
  | .unknown => .invalid

/-- The sign behind a name, and whether an empty value counts as unset. -/
def readBraceSign : ReaderM (BraceSign × Bool) := do
  let take (char : Option Char) : ReaderM BraceSign := do
    skipSign
    return (char.map braceSign).getD .unknown
  match ← peekChar with
  | some ':' =>
    skipChar
    return (← take (← peekChar), true)
  | some '%' =>
    skipChar
    if (← peekChar) == some '%' then
      skipChar
      return (.trim true true, false)
    else
      return (.trim true false, false)
  | some '#' =>
    skipChar
    if (← peekChar) == some '#' then
      skipChar
      return (.trim false true, false)
    else
      return (.trim false false, false)
  | other => return (← take other, false)

/-- The parameter behind an opening brace. -/
inductive BraceName where
  | named (name : String)
  | lengthOf (name : String)
  | faulty

def readNamed : ReaderM (Option String) := do
  match ← peekChar with
  | some char =>
    if isNameStart char then return some (← takeName isNameChar)
    else if char.isDigit then return some (← takeName Char.isDigit)
    else return none
  | none => return none

/-- A number sign asks for a length when a parameter follows it. -/
def readLength : ReaderM BraceName := do
  match ← readNamed with
  | some name =>
    return if (← peekChar) == some '\x7d' then .lengthOf name else .faulty
  | none =>
    match ← peekChar with
    | none | some '\x7d' => return .named "#"
    | some char =>
      let before ← get
      skipSign
      if (← peekChar) == some '\x7d' then
        return if isSpecialParameter char then .lengthOf (String.singleton char) else .faulty
      else
        set before
        return .named "#"

def readBraceName : ReaderM BraceName := do
  match ← readNamed with
  | some name => return .named name
  | none =>
    match ← peekChar with
    | some '#' =>
      skipChar
      readLength
    | some '\x7d' => return .faulty
    | some char =>
      skipSign
      return if isSpecialParameter char then .named (String.singleton char) else .faulty
    | none => return .faulty

/-- The mark of a document is its word without quotes. -/
def literalText : ScriptWord → Octets
  | [] => ""
  | .literal _ text :: rest => text ++ literalText rest
  | _ :: rest => literalText rest

/-- A word is an assignment when it starts with an unquoted name and an equals sign. -/
def assignedName? : ScriptWord → Option String
  | .literal false text :: _ =>
    match text.toList.span (· != '=') with
    | (name, _ :: _) =>
      if isVariableName (String.ofList name) then some (String.ofList name) else none
    | (_, []) => none
  | _ => none

/-- A simple command as far as it was read. -/
structure SimpleParts where
  assignments : List ScriptWord := []
  words : List ScriptWord := []
  redirects : List Redirect := []

/-- These names belong to commands that no function replaces. -/
def specialCommands : List String :=
  [".", ":", "break", "continue", "eval", "exec", "exit", "export", "local", "readonly", "return",
    "set", "shift", "times", "trap", "unset"]

/-- The positional parameters, each a field of its own. -/
def allParameters : ScriptWord :=
  [.parameter true "@" .value]

def tooDeep : String := "script too deep"

/-- Quotes leave a mark on both sides of what stands in them, unless it is the list of all
parameters or one literal text. -/
def betweenQuotes (parts : List WordPart) : List WordPart :=
  match parts with
  | [.parameter _ "@" .value] | [.literal _ _] => parts
  | _ => .literal true "" :: parts ++ [.literal true ""]

mutual
/-- The parts of a word up to the end of its context, in reverse, and whether one was quoted. -/
def readParts (fuel : Nat) (context : WordContext) (parts : List WordPart) (isQuoted : Bool) :
    ReaderM (List WordPart × Bool) := do
  match fuel with
  | 0 => syntaxFault tooDeep
  | fuel + 1 =>
    match ← peekChar with
    | none =>
      match context.endFault? (← get).kind with
      | some text => syntaxFault text
      | none =>
        if context = .document then
          modify fun state => { state with isCut := true }
        return (parts, isQuoted)
    | some char =>
      if isPlainChar char then
        let run ← takeChars isPlainChar
        readParts fuel context (pushLiteral context.isQuoted run parts) isQuoted
      else if context = .plain && isMetaChar char then
        return (parts, isQuoted)
      else
        skipChar
        match char with
        | '\n' =>
          modify fun state => state.ask 1
          match ← startLine true, context.endFault? (← get).kind with
          | none, some text => syntaxFault text
          | none, none => return (pushLiteral context.isQuoted [char] parts, isQuoted)
          | some isProtected, _ =>
            let first := pushLiteral context.isQuoted [char] parts
            let kept := if context.keepsBackslash char then ['\\', char] else [char]
            readParts fuel context (if isProtected then pushLiteral true kept first else first)
              isQuoted
        | '\\' =>
          match (← get).unread with
          | [] => readParts fuel context (pushLiteral true ['\\'] parts) isQuoted
          | next :: _ =>
            skipChar
            let text := if context.keepsBackslash next then ['\\', next] else [next]
            readParts fuel context (pushLiteral true text parts) true
        | '\'' =>
          if context.isQuoted then
            readParts fuel context (pushLiteral true [char] parts) isQuoted
          else
            match ← readSingleQuoted fuel [] with
            | none => syntaxFault (((WordContext.quotes false).endFault? (← get).kind).getD "")
            | some text => readParts fuel context (pushLiteral true text parts) true
        | '"' =>
          match context with
          | .plain | .braces =>
            let (inner, _) ← readParts fuel (.quotes (context = .braces)) [] true
            readParts fuel context (betweenQuotes inner ++ parts) true
          | .quotes _ => return (parts, true)
          | .quotedBraces inInner => readParts fuel (.quotedBraces (!inInner)) parts true
          | _ => readParts fuel context (pushLiteral true [char] parts) isQuoted
        | '$' =>
          if (← get).isMark then
            readParts fuel context (pushLiteral context.isQuoted [char] parts) isQuoted
          else
            let (found, inner) ← readDollar fuel context
            readParts fuel context (found ++ parts) (isQuoted || inner)
        | '\x60' =>
          if (← get).isMark then
            readParts fuel context (pushLiteral context.isQuoted [char] parts) isQuoted
          else
            let part ← readBackquoted fuel context
            readParts fuel context (part :: parts) isQuoted
        | '\x7d' =>
          if context = .braces || context = .quotedBraces false then return (parts, isQuoted)
          else readParts fuel context (pushLiteral context.isQuoted [char] parts) isQuoted
        | '(' =>
          match context with
          | .arithmetic depth =>
            readParts fuel (.arithmetic (depth + 1)) (pushLiteral true [char] parts) isQuoted
          | _ => readParts fuel context (pushLiteral context.isQuoted [char] parts) isQuoted
        | ')' =>
          match context with
          | .arithmetic (depth + 1) =>
            readParts fuel (.arithmetic depth) (pushLiteral true [char] parts) isQuoted
          | .arithmetic 0 =>
            if (← peekChar) == some ')' then
              skipChar
              return (parts, isQuoted)
            else
              readParts fuel context (pushLiteral true [char] parts) isQuoted
          | _ => readParts fuel context (pushLiteral context.isQuoted [char] parts) isQuoted
        | _ => readParts fuel context (pushLiteral context.isQuoted [char] parts) isQuoted

/-- What a dollar sign starts, in reverse. A dollar sign without a parameter stands for itself. A
document that is announced in a command but not read there has no text. -/
def readDollar (fuel : Nat) (context : WordContext) : ReaderM (List WordPart × Bool) := do
  match fuel with
  | 0 => syntaxFault tooDeep
  | fuel + 1 =>
    match ← peekChar with
    | some '(' =>
      skipChar
      if (← peekChar) == some '(' then
        skipChar
        let (parts, inner) ← readParts fuel (.arithmetic 0) [] false
        return ([.arithmetic context.isQuoted parts.reverse], inner)
      else
        let before ← get
        set { before with pending := [], kind := .script }
        let body ← readList fuel true true
        match ← readToken fuel false false false with
        | .closeParen => pure ()
        | _ => unexpectedToken (some .closeParen)
        let closed ← get
        set { closed with unread := [] }
        readDocuments fuel
        modify fun state => { state with
          unread := closed.unread
          line := closed.line
          pending := before.pending
          uses := closed.uses
          kind := before.kind
          isCut := closed.isCut }
        return ([.command context.isQuoted body], false)
    | some '\x7b' =>
      skipChar
      match ← readBraceName with
      | .lengthOf name =>
        skipChar
        return ([.parameter context.isQuoted name .length], false)
      | .faulty =>
        let (_, inner) ← readParts fuel (context.inner false) [] false
        return ([.parameter context.isQuoted "" .invalid], inner)
      | .named name =>
        match ← readBraceSign with
        | (.close, false) => return ([.parameter context.isQuoted name .value], false)
        | (sign, emptyIsUnset) =>
          let isTrim := match sign with
            | .trim _ _ => true
            | _ => false
          let (parts, inner) ← readParts fuel (context.inner isTrim) [] false
          let whole := WordPart.parameter context.isQuoted name
            (sign.substitution emptyIsUnset parts.reverse)
          return (if sign = .close then parts ++ [whole] else [whole], inner)
    | some char =>
      if isNameStart char then
        return ([.parameter context.isQuoted (← takeName isNameChar) .value], false)
      else if isSpecialParameter char then
        skipChar
        return ([.parameter context.isQuoted (String.singleton char) .value], false)
      else
        return ([.literal context.isQuoted "$"], false)
    | none => return ([.literal context.isQuoted "$"], false)

/-- The commands between backquotes are read from their own text, with lines of its own. -/
def readBackquoted (fuel : Nat) (context : WordContext) : ReaderM WordPart := do
  match fuel with
  | 0 => syntaxFault tooDeep
  | fuel + 1 =>
    let state ← get
    match backquoted context.isQuoted state.unread with
    | none =>
      let count := state.unread.count '\n'
      set { state.ask count with line := state.line + count }
      syntaxFault "EOF in backquote substitution"
    | some (text, following) =>
      let count := (state.unread.take (state.unread.length - following.length)).count '\n'
      let uses := usesWithin state.uses following.length
      set { state.ask count with
        unread := text
        line := 1
        pending := []
        kind := .script
        isSilent := true
        uses := usesAround uses }
      let body ← readList fuel true true
      readDocuments fuel
      modify fun after => { after with
        unread := following
        line := state.line + count
        isPushed := false
        pending := state.pending
        kind := state.kind
        isSilent := state.isSilent
        isAskDue := state.isAskDue
        uses := uses }
      return .command context.isQuoted body

/-- The texts that were announced are read, in order. -/
def readDocuments (fuel : Nat) : ReaderM Unit := do
  match fuel with
  | 0 => syntaxFault tooDeep
  | fuel + 1 =>
    match (← get).pending with
    | [] => return
    | document :: others =>
      askWhenDue
      let before ← get
      let body ←
        if document.isExpanded then
          set { before with
            pending := []
            kind := .document document.mark.toList document.stripsTabs }
          match ← startLine true with
          | none => pure []
          | some isProtected =>
            let first := if isProtected then pushLiteral true ['\\', '\n'] [] else []
            let (parts, _) ← readParts fuel .document first false
            pure parts.reverse
        else
          let (text, behind) := documentLines document (before.unread.length + 1) before.unread
          let following := behind.getD []
          set { before.ask (text.count '\n') with
            unread := following
            line := before.line + text.count '\n' + (if behind.isSome then 1 else 0)
            isAskDue := behind.isSome
            isCut := before.isCut || behind.isNone || isMarkCut before.unread following }
          pure [WordPart.literal true (String.ofList text)]
      modify fun after => { after with
        pending := others
        kind := before.kind
        uses := usesWithin after.uses after.unread.length
        lastWord := body
        documents := (document.index, body) :: after.documents }
      readDocuments fuel

/-- The next token. Newlines may be skipped, reserved words may be told from other words, and the
names of aliases may be replaced. -/
def readToken (fuel : Nat) (skipsNewlines findsReserved findsAliases : Bool) :
    ReaderM ScriptToken := do
  match fuel with
  | 0 => syntaxFault tooDeep
  | fuel + 1 =>
    let state ← get
    let (token, isAsked) ←
      if state.isPushed then
        set { state with isPushed := false }
        pure (state.last, false)
      else
        leaveAliases
        askWhenDue
        let token ← scanToken fuel
        pure (token, ← noteAliasEnds)
    modify fun after => { after with last := token }
    match token with
    | .newline =>
      if skipsNewlines then
        readDocuments fuel
        readToken fuel skipsNewlines findsReserved findsAliases
      else
        return token
    | .word [.literal false text] false =>
      if findsReserved && reservedWords.contains text then
        modify fun after => { after with last := .reserved text }
        return .reserved text
      else if findsAliases || isAsked then
        match ← replaceableAlias? text with
        | some entry =>
          pushAlias entry
          readToken fuel skipsNewlines findsReserved true
        | none => return token
      else
        return token
    | _ => return token

/-- Blanks and comments are skipped, then one token is read. -/
def scanToken (fuel : Nat) : ReaderM ScriptToken := do
  match fuel with
  | 0 => syntaxFault tooDeep
  | fuel + 1 =>
    match ← peekChar with
    | none => return .endOfText
    | some char =>
      match char with
      | ' ' | '\t' =>
        skipChar
        scanToken fuel
      | '#' =>
        let _ ← takeChars (· != '\n')
        scanToken fuel
      | '\n' =>
        skipChar
        modify fun state => { state with isAskDue := true }
        return .newline
      | '&' => doubled '&' .background .and
      | '|' => doubled '|' .pipe .or
      | ';' => doubled ';' .semicolon .endBranch
      | '(' =>
        skipChar
        return .openParen
      | ')' =>
        skipChar
        return .closeParen
      | '<' | '>' => readRedirect none
      | _ =>
        let (parts, isQuoted) ← readParts fuel .plain [] false
        let next ← peekChar
        let descriptor :=
          if (next == some '<' || next == some '>') && !isQuoted then descriptorOf? parts
          else none
        if descriptor.isSome then
          readRedirect descriptor
        else
          modify fun state => { state with lastWord := parts.reverse }
          return .word parts.reverse isQuoted

/-- The file or descriptor of a redirection. -/
def readTarget (fuel : Nat) (descriptor : Nat) (sign : RedirectSign) : ReaderM Redirect := do
  match fuel with
  | 0 => syntaxFault tooDeep
  | fuel + 1 =>
    modify fun state => { state with isMark := sign.isDocument }
    let token ← readToken fuel false false false
    modify fun state => { state with isMark := false }
    match token with
    | .word parts isQuoted =>
      match sign with
      | .file kind => return .file descriptor kind parts
      | .duplicate => return .duplicate descriptor parts
      | .document stripsTabs =>
        let index := (← get).nextDocument
        modify fun state => { state with
          nextDocument := index + 1
          pending := state.pending ++ [⟨index, literalText parts, stripsTabs, !isQuoted⟩] }
        return .document descriptor index
    | _ => unexpectedToken none

/-- Commands up to the end of a line, or up to the token that ends a larger command. The first
command of an inner list may be missing only where that is said. -/
def readList (fuel : Nat) (isInner mayBeEmpty : Bool) : ReaderM (Option Script) := do
  match fuel with
  | 0 => syntaxFault tooDeep
  | fuel + 1 => readListFrom fuel isInner mayBeEmpty none

def readListFrom (fuel : Nat) (isInner mayEnd : Bool) (before : Option Script) :
    ReaderM (Option Script) := do
  match fuel with
  | 0 => syntaxFault tooDeep
  | fuel + 1 =>
    let token ← readToken fuel isInner true true
    match token with
    | .newline =>
      readDocuments fuel
      return before
    | .endOfText =>
      readDocuments fuel
      unreadToken
      modify fun state => { state with last := .endOfText }
      return before
    | _ =>
      unreadToken
      if isInner && mayEnd && token.endsList then
        return before
      else
        let command ← readAndOr fuel
        let separator ← readToken fuel false false false
        let command := match separator with
          | .background => inBackground command
          | _ => command
        let whole := match before with
          | none => command
          | some first => .sequence first command
        match separator with
        | .endOfText =>
          readDocuments fuel
          unreadToken
          modify fun state => { state with last := .endOfText }
          return some whole
        | .newline =>
          unreadToken
          readListFrom fuel isInner true (some whole)
        | .background | .semicolon => readListFrom fuel isInner true (some whole)
        | _ =>
          if isInner then
            unreadToken
            return some whole
          else
            unexpectedToken none
where
  /-- The command runs beside the script. -/
  inBackground : Script → Script
    | .pipeline _ stages => .pipeline true stages
    | .redirected line body redirects => .background line body redirects
    | script => .background 0 script []

/-- Pipelines that conditional operators join from the left. -/
def readAndOr (fuel : Nat) : ReaderM Script := do
  match fuel with
  | 0 => syntaxFault tooDeep
  | fuel + 1 => readAndOrFrom fuel (← readPipeline fuel false)

def readAndOrFrom (fuel : Nat) (first : Script) : ReaderM Script := do
  match fuel with
  | 0 => syntaxFault tooDeep
  | fuel + 1 =>
    match ← readToken fuel false false false with
    | .and => readAndOrFrom fuel (.andThen first (← readPipeline fuel true))
    | .or => readAndOrFrom fuel (.orElse first (← readPipeline fuel true))
    | _ =>
      unreadToken
      return first

def readPipeline (fuel : Nat) (skipsNewlines : Bool) : ReaderM Script := do
  match fuel with
  | 0 => syntaxFault tooDeep
  | fuel + 1 =>
    let isNegated := (← readToken fuel skipsNewlines true true).isReserved "!"
    if isNegated then
      let _ ← readToken fuel false true true
    unreadToken
    let first ← readCommand fuel
    let whole ← readStages fuel [first]
    return if isNegated then .negate whole else whole

/-- The stages of a pipeline, in reverse. -/
def readStages (fuel : Nat) (stages : List Script) : ReaderM Script := do
  match fuel with
  | 0 => syntaxFault tooDeep
  | fuel + 1 =>
    match ← readToken fuel false false false with
    | .pipe =>
      let _ ← readToken fuel true true true
      unreadToken
      readStages fuel ((← readCommand fuel) :: stages)
    | _ =>
      unreadToken
      return match stages with
        | [only] => only
        | _ => .pipeline false stages.reverse

/-- A list must come next, unless the text ends. -/
def readBody (fuel : Nat) : ReaderM Script := do
  match fuel with
  | 0 => syntaxFault tooDeep
  | fuel + 1 => return (← readList fuel true false).getD (.simple 0 [] [] [])

def expectReserved (fuel : Nat) (text : String) : ReaderM Unit := do
  match fuel with
  | 0 => syntaxFault tooDeep
  | fuel + 1 =>
    if (← readToken fuel false true false).isReserved text then
      return
    else
      unexpectedToken (some (.reserved text))

/-- One command. Its first token was read and is to be read again. -/
def readCommand (fuel : Nat) : ReaderM Script := do
  match fuel with
  | 0 => syntaxFault tooDeep
  | fuel + 1 =>
    let line := (← get).line
    match ← readToken fuel false true true with
    | .reserved "if" =>
      let whole ← readConditional fuel
      expectReserved fuel "fi"
      readRedirected fuel line whole
    | .reserved "while" => readLoop fuel line false
    | .reserved "until" => readLoop fuel line true
    | .reserved "for" =>
      let whole ← readForEach fuel line
      expectReserved fuel "done"
      readRedirected fuel line whole
    | .reserved "case" =>
      match ← readToken fuel false false false with
      | .word subject _ =>
        if (← readToken fuel true true true).isReserved "in" then
          let branches ← readBranches fuel
          readRedirected fuel line (.select line subject branches)
        else
          unexpectedToken (some (.reserved "in"))
      | _ => unexpectedToken (some (.word [] false))
    | .openParen =>
      let body ← readBody fuel
      match ← readToken fuel false true false with
      | .closeParen =>
        readRedirected fuel line (.subshell line body [])
      | _ => unexpectedToken (some .closeParen)
    | .reserved "\x7b" =>
      let body ← readBody fuel
      expectReserved fuel "\x7d"
      readRedirected fuel line body
    | .word _ _ | .redirect _ _ =>
      unreadToken
      readSimple fuel line {}
    | _ => unexpectedToken none

def readLoop (fuel : Nat) (line : Nat) (untilSuccess : Bool) : ReaderM Script := do
  match fuel with
  | 0 => syntaxFault tooDeep
  | fuel + 1 =>
    let test ← readBody fuel
    expectReserved fuel "do"
    let body ← readBody fuel
    expectReserved fuel "done"
    readRedirected fuel line (.loop untilSuccess test body)

/-- The test and the branches of a conditional command, up to its last word. -/
def readConditional (fuel : Nat) : ReaderM Script := do
  match fuel with
  | 0 => syntaxFault tooDeep
  | fuel + 1 =>
    let test ← readBody fuel
    expectReserved fuel "then"
    let yes ← readBody fuel
    match ← readToken fuel false true false with
    | .reserved "elif" => return .conditional test yes (some (← readConditional fuel))
    | .reserved "else" => return .conditional test yes (some (← readBody fuel))
    | _ =>
      unreadToken
      return .conditional test yes none

def readForEach (fuel : Nat) (line : Nat) : ReaderM Script := do
  match fuel with
  | 0 => syntaxFault tooDeep
  | fuel + 1 =>
    match ← readToken fuel false false false with
    | .word [.literal false name] false =>
      if isVariableName name then
        let token ← readToken fuel true true true
        let words ←
          if token.isReserved "in" then
            let (words, separator) ← readWords fuel []
            match separator with
            | .newline | .semicolon => pure words
            | _ => unexpectedToken none
          else
            match token with
            | .semicolon => pure [allParameters]
            | _ =>
              unreadToken
              pure [allParameters]
        if (← readToken fuel true true true).isReserved "do" then
          return .forEach line name words (← readBody fuel)
        else
          unexpectedToken (some (.reserved "do"))
      else
        syntaxFault "Bad for loop variable"
    | _ => syntaxFault "Bad for loop variable"

/-- The words up to the next other token. -/
def readWords (fuel : Nat) (words : List ScriptWord) :
    ReaderM (List ScriptWord × ScriptToken) := do
  match fuel with
  | 0 => syntaxFault tooDeep
  | fuel + 1 =>
    match ← readToken fuel false false false with
    | .word parts _ => readWords fuel (words ++ [parts])
    | token => return (words, token)

def readBranches (fuel : Nat) : ReaderM (List CaseBranch) := do
  match fuel with
  | 0 => syntaxFault tooDeep
  | fuel + 1 =>
    let token ← readToken fuel true true false
    if token.isReserved "esac" then
      return []
    else
      match token with
      | .openParen =>
        let _ ← readToken fuel false false false
      | _ => pure ()
      let patterns ← readPatterns fuel []
      let body ← readList fuel true true
      let branch := CaseBranch.branch patterns body
      match ← readToken fuel true true false with
      | .endBranch => return branch :: (← readBranches fuel)
      | last =>
        if last.isReserved "esac" then return [branch]
        else unexpectedToken (some .endBranch)

/-- The patterns of a branch. The first token was read. A token that is no word stands for the last
word that was read. -/
def readPatterns (fuel : Nat) (patterns : List ScriptWord) : ReaderM (List ScriptWord) := do
  match fuel with
  | 0 => syntaxFault tooDeep
  | fuel + 1 =>
    let known := patterns ++ [(← get).lastWord]
    match ← readToken fuel false false false with
    | .pipe =>
      let _ ← readToken fuel false false false
      readPatterns fuel known
    | .closeParen => return known
    | _ => unexpectedToken (some .closeParen)

/-- The redirections behind a larger command. -/
def readRedirects (fuel : Nat) : ReaderM (List Redirect) := do
  match fuel with
  | 0 => syntaxFault tooDeep
  | fuel + 1 =>
    match ← readToken fuel false true true with
    | .redirect descriptor sign =>
      let redirect ← readTarget fuel descriptor sign
      return redirect :: (← readRedirects fuel)
    | _ =>
      unreadToken
      return []

/-- A larger command with its redirections. They take the place of those that a subshell alone
between braces has already. -/
def readRedirected (fuel : Nat) (line : Nat) (script : Script) : ReaderM Script := do
  match fuel with
  | 0 => syntaxFault tooDeep
  | fuel + 1 =>
    match ← readRedirects fuel, script with
    | [], _ => return script
    | redirects, .subshell inner body _ => return .subshell inner body redirects
    | redirects, _ => return .redirected line script redirects

/-- The assignments, words and redirections of a simple command, or a function. -/
def readSimple (fuel : Nat) (line : Nat) (command : SimpleParts) : ReaderM Script := do
  match fuel with
  | 0 => syntaxFault tooDeep
  | fuel + 1 =>
    match ← readToken fuel false false command.words.isEmpty with
    | .word parts _ =>
      if command.words.isEmpty && (assignedName? parts).isSome then
        readSimple fuel line { command with assignments := command.assignments ++ [parts] }
      else
        readSimple fuel line { command with words := command.words ++ [parts] }
    | .redirect descriptor sign =>
      let redirect ← readTarget fuel descriptor sign
      readSimple fuel line { command with redirects := command.redirects ++ [redirect] }
    | .openParen =>
      match command with
      | ⟨[], [word], []⟩ => readFunction fuel word
      | _ =>
        unreadToken
        return .simple line command.assignments command.words command.redirects
    | _ =>
      unreadToken
      return .simple line command.assignments command.words command.redirects

/-- The body of a function behind its name and an opening parenthesis. -/
def readFunction (fuel : Nat) (word : ScriptWord) : ReaderM Script := do
  match fuel with
  | 0 => syntaxFault tooDeep
  | fuel + 1 =>
    match ← readToken fuel false false false with
    | .closeParen =>
      match word with
      | [.literal false name] =>
        if isVariableName name && !specialCommands.contains name then
          let line := (← get).line
          let _ ← readToken fuel true true true
          unreadToken
          return .define line name (← readCommand fuel)
        else
          syntaxFault "Bad function name"
      | _ => syntaxFault "Bad function name"
    | _ => unexpectedToken (some .closeParen)
end

/-- What a reader finds next. -/
inductive ScriptUnit where
  | endOfText
  | blankLine
  | script (script : Script)

/-- One line of commands, or more where a command goes on. -/
def readUnit (state : ReaderState) : Except ReadFault (ScriptUnit × ReaderState) := do
  let replaced := state.aliases.size * (state.aliases.length + 1) + 1
  let fuel := 16 * replaced * (state.unread.length + 1) + 64
  let start := { state with isPushed := false, isCut := false, asked := 0, isAskDue := false }
  let (found, after) ← (readList fuel false false).run start
  match found with
  | some script => return (.script script, after)
  | none =>
    match after.last with
    | .endOfText => return (.endOfText, after)
    | _ => return (.blankLine, after)

/-- Nothing but the end is left to read. -/
def ReaderState.isAtEnd (state : ReaderState) : Bool :=
  state.unread.isEmpty

end ChainShell
