/-
This file expands the words of scripts into fields.
-/

import ChainShell.Machine.Script.Arithmetic
import ChainShell.Machine.Script.Process
import ChainShell.Machine.Script.ValueBuffer

namespace ChainShell

/-- A piece of an expanded word. Values are split between each other, and unquoted ones also where
a separator stands in them. -/
inductive Piece where
  | text (isQuoted : Bool) (chars : List Char)
  | values (isQuoted : Bool) (texts : List (List Char))

/-- A word becomes any number of fields or exactly one text. -/
inductive ExpansionMode where
  | fields
  | single
  deriving DecidableEq, Repr

/-- The output of commands that stand in a word. -/
abbrev CommandSubstitution := Option Script → ScriptM Octets

def isFieldSpace (char : Char) : Bool :=
  char == ' ' || char == '\t' || char == '\n'

/-- The fields that are complete, in reverse, and the one that is not. -/
structure Splitting where
  done : List Field := []
  current : Field := []
  /-- Something belongs to the current field, be it an empty pair of quotes. -/
  isStarted : Bool := false
  /-- The last field ended at a space. -/
  isAfterSpace : Bool := false
  /-- The last values were quoted. -/
  isAfterList : Bool := false

namespace Splitting

def finishField (splitting : Splitting) (isAfterSpace : Bool) : Splitting :=
  { splitting with
    done := splitting.current.reverse :: splitting.done
    current := []
    isStarted := false
    isAfterSpace := isAfterSpace }

def add (splitting : Splitting) (isQuoted : Bool) (char : Char) : Splitting :=
  { splitting with
    current := ⟨char, isQuoted⟩ :: splitting.current
    isStarted := true
    isAfterSpace := false }

/-- A separator of values. Spaces around another separator belong to it, and spaces at the start of
a field count for nothing. Where separators are hard, each ends a field. -/
def separate (splitting : Splitting) (isHard isSpace : Bool) : Splitting :=
  if splitting.isAfterSpace then { splitting with isAfterSpace := isSpace }
  else if isSpace && !isHard && !splitting.isStarted then splitting
  else splitting.finishField (isSpace && !isHard)

def addChar (separators : List Char) (isQuoted isHard : Bool) (splitting : Splitting)
    (char : Char) : Splitting :=
  if !isQuoted && separators.contains char then splitting.separate isHard (isFieldSpace char)
  else splitting.add isQuoted char

/-- Between two values is a separator that counts as a space. -/
def addValues (separators : List Char) (isQuoted isHard : Bool) (splitting : Splitting) :
    List (List Char) → Splitting
  | [] => splitting
  | [text] => text.foldl (addChar separators isQuoted isHard) splitting
  | text :: rest =>
    addValues separators isQuoted isHard
      ((text.foldl (addChar separators isQuoted isHard) splitting).separate isHard true) rest

/-- Behind quoted values, separators are hard. -/
def addPiece (separators : List Char) (splitting : Splitting) : Piece → Splitting
  | .text isQuoted chars =>
    let added := chars.foldl (fun current char => current.add isQuoted char) splitting
    if isQuoted then { added with isStarted := true } else added
  | .values isQuoted texts =>
    addValues separators isQuoted (isQuoted || splitting.isAfterList)
      { splitting with isAfterSpace := false, isAfterList := isQuoted } texts

end Splitting

/-- The last field counts when anything belongs to it, and behind quoted values. -/
def splitPieces (separators : List Char) (pieces : List Piece) : List Field :=
  let splitting := pieces.foldl (Splitting.addPiece separators) {}
  let all :=
    if splitting.isStarted || splitting.isAfterList then splitting.finishField false
    else splitting
  all.done.reverse

/-- The pieces as one field. -/
def joinPieces (pieces : List Piece) : Field :=
  pieces.flatMap fun
    | .text isQuoted chars => Field.ofText isQuoted chars
    | .values isQuoted texts =>
      List.intercalate [⟨' ', true⟩] (texts.map (Field.ofText isQuoted))

/-- The first separator, or a space when separators are not set. -/
def ScriptProcess.joinSeparator (process : ScriptProcess) : Octets :=
  match process.value? "IFS" with
  | none => " "
  | some separators => String.ofList (separators.toList.take 1)

/-- The positional parameters as one text. -/
def ScriptProcess.joinedParameters (process : ScriptProcess) : Octets :=
  String.intercalate process.joinSeparator process.parameters

/-- The positional parameters as the pieces of a word. -/
def ScriptProcess.parameterPieces (process : ScriptProcess) (mode : ExpansionMode)
    (isQuoted isList : Bool) : List Piece :=
  if mode = .fields && !isQuoted then
    if (process.value? "IFS").isSome then [.values false (process.parameters.map String.toList)]
    else [.values false [process.joinedParameters.toList]]
  else if mode = .fields && isList then
    if process.parameters.isEmpty then []
    else [.values true (process.parameters.map String.toList)]
  else
    [.text isQuoted process.joinedParameters.toList]

/-- A value that is one text. -/
def valuePiece (isQuoted : Bool) (chars : List Char) : Piece :=
  if isQuoted then .text true chars else .values false [chars]

/-- The value of a parameter that is one text. -/
def ScriptProcess.parameterText? (process : ScriptProcess) (name : String) : Option Octets :=
  match name with
  | "#" => some (toString process.parameters.length)
  | "?" => some (toString process.lastCode)
  | "$" => some (toString process.mainProcess)
  | "!" => process.lastJob.map toString
  | "-" => some process.options.letters
  | _ =>
    if name.toList.head?.any Char.isDigit then
      match shortInteger name.toList with
      | .ofNat 0 => some process.name
      | .ofNat (before + 1) => process.parameters[before]?
      | .negSucc _ => none
    else
      process.value? name

/-- The value of any parameter. The positional parameters as a whole are always set. -/
def ScriptProcess.parameter? (process : ScriptProcess) (mode : ExpansionMode) (isQuoted : Bool)
    (name : String) : Option (List Piece) :=
  match name with
  | "@" => some (process.parameterPieces mode isQuoted true)
  | "*" => some (process.parameterPieces mode isQuoted false)
  | _ => (process.parameterText? name).map fun text => [valuePiece isQuoted text.toList]

/-- The number of bytes in a piece, one between two values included. -/
def Piece.length : Piece → Nat
  | .text _ chars => chars.length
  | .values _ texts => texts.flatten.length + (texts.length - 1)

/-- The number of bytes of a parameter. -/
def ScriptProcess.parameterLength? (process : ScriptProcess) (name : String) : Option Nat :=
  if name = "@" || name = "*" then some process.joinedParameters.length
  else (process.parameterText? name).map String.length

/-- A text in place of the value of a parameter. In place of quoted values it is a list too. -/
def ScriptProcess.otherPiece (process : ScriptProcess) (isQuoted : Bool) (name : String)
    (texts : List (List Char)) : Piece :=
  if isQuoted && (name ≠ "@" || process.parameters.isEmpty) then .text true texts.flatten
  else .values isQuoted texts

/-- The pieces of a value without what a pattern takes off at one end. -/
def trimPiece (atEnd isLongest : Bool) (pattern : Field) : Piece → Piece
  | .text isQuoted chars =>
    .text isQuoted ((pattern.pattern.trim? atEnd isLongest chars).getD chars)
  | .values isQuoted texts =>
    .values isQuoted (trimValues isQuoted atEnd isLongest pattern texts)

/-- The home directory stands behind a tilde. Of others only that of the superuser is known. -/
def ScriptProcess.tildeHome? (process : ScriptProcess) (user : List Char) : Option Octets :=
  if user.isEmpty then process.value? "HOME"
  else if user = "root".toList then some "/root"
  else none

/-- A tilde at the start of an unquoted text, up to a slash or another end. -/
def ScriptProcess.expandTilde (process : ScriptProcess) (ends : Char → Bool) (isWhole : Bool)
    (text : List Char) : Option (List Char × List Char) :=
  match text with
  | '~' :: rest =>
    let user := rest.takeWhile fun char => !ends char
    let following := rest.drop user.length
    if following.isEmpty && !isWhole then none
    else (process.tildeHome? user).map fun home => (home.toList, following)
  | _ => none

/-- The tilde of a plain word stands at its start. -/
def ScriptProcess.tildeParts (process : ScriptProcess) : List WordPart → List WordPart
  | .literal false text :: rest =>
    match process.expandTilde (· == '/') rest.isEmpty text.toList with
    | some (home, following) =>
      .literal true (String.ofList home) :: .literal false (String.ofList following) :: rest
    | none => .literal false text :: rest
  | parts => parts

/-- The tildes of a value stand at its start and behind colons. -/
def ScriptProcess.tildeValue (process : ScriptProcess) (isWhole : Bool) :
    Nat → List Char → List WordPart
  | 0, text => [.literal false (String.ofList text)]
  | fuel + 1, text =>
    let ends (char : Char) : Bool := char == '/' || char == ':'
    match process.expandTilde ends isWhole text with
    | some (home, following) =>
      .literal true (String.ofList home) :: process.tildeValue isWhole fuel following
    | none =>
      let head := text.takeWhile (· != ':')
      match text.drop head.length with
      | [] => [.literal false (String.ofList head)]
      | colon :: rest =>
        .literal false (String.ofList (head ++ [colon])) ::
          process.tildeValue isWhole fuel rest

/-- The name and the equals sign stay as they are. -/
def ScriptProcess.tildeAssignment (process : ScriptProcess) : List WordPart → List WordPart
  | .literal false text :: rest =>
    let name := text.toList.takeWhile (· != '=')
    let value := text.toList.drop (name.length + 1)
    .literal false (String.ofList (name ++ ['='])) ::
      process.tildeValue rest.isEmpty (value.length + 1) value ++ rest
  | parts => parts

/-- A value counts as missing when it is unset, or empty where that counts too. -/
def isMissing (emptyIsUnset : Bool) (length : Option Nat) : Bool :=
  length.isNone || (emptyIsUnset && length = some 0)

/-- The message about a parameter that must be set. -/
def requiredMessage (name : String) (emptyIsUnset : Bool) (given : Octets) (isGiven : Bool) :
    Octets :=
  if isGiven then name ++ ": " ++ given
  else name ++ ": parameter not set" ++ (if emptyIsUnset then " or null" else "")

mutual
/-- The pieces of a word. Literal text is split only in the braces of a parameter. -/
def expandParts (fuel : Nat) (substitute : CommandSubstitution) (mode : ExpansionMode)
    (splitsLiterals : Bool) (parts : List WordPart) : ScriptM (List Piece) := do
  match fuel with
  | 0 => throw .endless
  | fuel + 1 =>
    match parts with
    | [] => return []
    | part :: rest =>
      let first ← expandPart fuel substitute mode splitsLiterals part
      return first ++ (← expandParts fuel substitute mode splitsLiterals rest)

def expandPart (fuel : Nat) (substitute : CommandSubstitution) (mode : ExpansionMode)
    (splitsLiterals : Bool) (part : WordPart) : ScriptM (List Piece) := do
  match fuel with
  | 0 => throw .endless
  | fuel + 1 =>
    match part with
    | .literal isQuoted text =>
      if splitsLiterals && !isQuoted && text ≠ "" then return [.values false [text.toList]]
      else return [.text isQuoted text.toList]
    | .command isQuoted body =>
      let output ← substitute body
      return [valuePiece isQuoted output.toList]
    | .arithmetic isQuoted inner =>
      let expression := joinPieces (← expandParts fuel substitute .single false inner)
      let process ← get
      let (result, assigned) := evaluateArithmetic expression.text fun name =>
        (process.value? name).getD ""
      for (name, number) in assigned do
        assignVariable name (some (toString number)) false
      match result with
      | .ok value =>
        let digits := toString value
        return [valuePiece isQuoted digits.toList]
      | .error (.message text) => raise text
      | .error .overflow => throw (.exit (.signaled arithmeticSignal))
    | .parameter isQuoted name substitution =>
      expandParameter fuel substitute mode isQuoted name substitution

def expandParameter (fuel : Nat) (substitute : CommandSubstitution) (mode : ExpansionMode)
    (isQuoted : Bool) (name : String) (substitution : Substitution) : ScriptM (List Piece) := do
  match fuel with
  | 0 => throw .endless
  | fuel + 1 =>
    let process ← get
    let value := process.parameter? mode isQuoted name
    let length := process.parameterLength? name
    let given := value.map fun pieces => (pieces.map Piece.length).foldl (· + ·) 0
    let missing : List Piece := if isQuoted then [.text true []] else []
    let require : ScriptM Unit :=
      if value.isNone && process.hasOption .nounset then raise (name ++ ": parameter not set")
      else return
    match substitution with
    | .invalid => raise "Bad substitution"
    | .value =>
      require
      return value.getD missing
    | .length =>
      require
      let digits := toString (length.getD 0)
      return [process.otherPiece isQuoted name [digits.toList]]
    | .fallback emptyIsUnset parts =>
      if isMissing emptyIsUnset given then
        expandInner fuel substitute mode isQuoted parts
      else
        return value.getD missing
    | .alternative emptyIsUnset parts =>
      if isMissing emptyIsUnset length then
        return [process.otherPiece isQuoted name []]
      else
        expandInner fuel substitute mode isQuoted parts
    | .assign emptyIsUnset parts =>
      if isMissing emptyIsUnset given then
        let text := (joinPieces (← expandInner fuel substitute .single isQuoted parts)).text
        assignChecked name (some text) false
        return ((← get).parameter? mode isQuoted name).getD missing
      else
        return value.getD missing
    | .require emptyIsUnset parts =>
      if isMissing emptyIsUnset given then
        let text := (joinPieces (← expandInner fuel substitute .single isQuoted parts)).text
        raise (requiredMessage name emptyIsUnset text (!parts.isEmpty))
      else
        return value.getD missing
    | .trim atEnd isLongest parts =>
      require
      match value with
      | none => return missing
      | some pieces =>
        let pattern := joinPieces (← expandParts fuel substitute .single false
          ((← get).tildeParts parts))
        return pieces.map (trimPiece atEnd isLongest pattern)

/-- The word in the braces of a parameter. -/
def expandInner (fuel : Nat) (substitute : CommandSubstitution) (mode : ExpansionMode)
    (isQuoted : Bool) (parts : List WordPart) : ScriptM (List Piece) := do
  match fuel with
  | 0 => throw .endless
  | fuel + 1 =>
    let process ← get
    let whole := if isQuoted then parts else process.tildeParts parts
    expandParts fuel substitute mode (!isQuoted) whole
end

/-- The names in a directory. -/
def Machine.entryNames (machine : Machine) (path : Octets) : List Octets :=
  let directory := if path = "" then Path.mk "." else octetsPath path
  match machine.node? directory with
  | some (.directory access _ entries) =>
    if access.allows .read then
      [".", ".."] ++ entries.map fun entry => octetsOfText entry.1
    else
      []
  | _ => []

/-- Names with a leading dot match only a pattern that has the dot. -/
def isHiddenFrom (pattern : TextPattern) (name : Octets) : Bool :=
  name.toList.head? = some '.' && pattern.head? ≠ some (.exact '.')

/-- The paths that the components of a pattern lead to, one component after the other. -/
def Machine.globPaths (machine : Machine) : List Field → Octets → List Octets
  | [], path => [path]
  | component :: rest, path =>
    let names :=
      if component.isPattern then
        let pattern := component.pattern
        (machine.entryNames path).filter fun name =>
          !isHiddenFrom pattern name && pattern.matches name.toList
      else
        [component.text]
    names.flatMap fun name =>
      let whole := path ++ name
      if rest.isEmpty then
        if component.isPattern ||
            (machine.tree.locate machine.directory false (octetsPath whole)).toBool then [whole]
        else []
      else if component.isPattern && !((machine.node? (octetsPath whole)).any fun node =>
          match node with
          | .directory _ _ _ => true
          | _ => false) then
        []
      else
        machine.globPaths rest (whole ++ "/")

/-- The components of a field between slashes. -/
def fieldComponents : Field → List Field
  | [] => [[]]
  | item :: rest =>
    match fieldComponents rest with
    | [] => [[item]]
    | first :: others =>
      if item.char == '/' then [] :: first :: others else (item :: first) :: others

/-- A pattern without a match stands for itself. The paths come in order. -/
def ScriptProcess.globField (process : ScriptProcess) (field : Field) : List Octets :=
  if field.isPattern && !process.hasOption .noglob && process.mayOpen 1 then
    match process.machine.globPaths (fieldComponents field.withoutEscapes) "" with
    | [] => [field.text]
    | paths => paths.mergeSort fun left right => decide (left ≤ right)
  else
    [field.text]

/-- A word becomes fields, and patterns in them become paths. -/
def expandWord (fuel : Nat) (substitute : CommandSubstitution) (word : ScriptWord) :
    ScriptM (List Octets) := do
  let pieces ← expandParts fuel substitute .fields false ((← get).tildeParts word)
  let process ← get
  return (splitPieces process.fieldSeparators pieces).flatMap process.globField

/-- A word becomes one text. -/
def expandSingle (fuel : Nat) (substitute : CommandSubstitution) (word : ScriptWord) :
    ScriptM Field := do
  return joinPieces (← expandParts fuel substitute .single false ((← get).tildeParts word))

/-- The value of an assignment is one text. -/
def expandAssignment (fuel : Nat) (substitute : CommandSubstitution) (word : ScriptWord) :
    ScriptM (String × Octets) := do
  let parts := (← get).tildeAssignment word
  let text := (joinPieces (← expandParts fuel substitute .single false parts)).text.toList
  let name := text.takeWhile (· != '=')
  return (String.ofList name, String.ofList (text.drop (name.length + 1)))

end ChainShell
