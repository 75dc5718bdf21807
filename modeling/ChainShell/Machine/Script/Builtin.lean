/-
This file holds the built-in commands of scripts that run no other command.
-/

import ChainShell.Machine.Descriptor
import ChainShell.Machine.Script.Condition
import ChainShell.Machine.Script.Expansion
import ChainShell.Machine.Script.Mask
import ChainShell.Machine.Script.Output
import ChainShell.Machine.Script.Reader
import ChainShell.Machine.Script.Search

namespace ChainShell

/-- An option letter with its argument. -/
structure CommandOption where
  letter : Char
  argument : Octets

/-- The letters of a group of options. A letter may take the rest of its group or the next word. -/
def readOptionGroup (allowed withArgument : List Char) :
    List Char → List Octets → Except String (List CommandOption × List Octets)
  | [], words => .ok ([], words)
  | letter :: rest, words =>
    if withArgument.contains letter then
      match rest, words with
      | [], [] => .error ("No arg for -" ++ String.singleton letter ++ " option")
      | [], word :: others => .ok ([⟨letter, word⟩], others)
      | _, _ => .ok ([⟨letter, String.ofList rest⟩], words)
    else if allowed.contains letter then
      (readOptionGroup allowed withArgument rest words).map fun (options, left) =>
        (⟨letter, ""⟩ :: options, left)
    else
      .error ("Illegal option -" ++ String.singleton letter)

/-- The options of a command up to its first operand or a double dash. -/
def readCommandOptions (allowed withArgument : List Char) :
    Nat → List Octets → Except String (List CommandOption × List Octets)
  | 0, words => .ok ([], words)
  | _, [] => .ok ([], [])
  | fuel + 1, word :: rest =>
    match word.toList with
    | ['-'] => .ok ([], word :: rest)
    | ['-', '-'] => .ok ([], rest)
    | '-' :: letters =>
      match readOptionGroup allowed withArgument letters rest with
      | .error text => .error text
      | .ok (options, left) =>
        (readCommandOptions allowed withArgument fuel left).map fun (others, operands) =>
          (options ++ others, operands)
    | _ => .ok ([], word :: rest)

def takeOptions (allowed withArgument : List Char) (words : List Octets) :
    ScriptM (List CommandOption × List Octets) :=
  liftFault (readCommandOptions allowed withArgument (words.length + 1) words)

/-- Standard output takes the text, or the command fails. -/
def writeOutput (text : Octets) : ScriptM Nat := do
  if ← writeDescriptor 1 text then
    return 0
  else
    complain (((← get).running.getD "") ++ ": I/O error")
    return 1

/-- The code of a command that ends the script. An action for a signal ends it with the code from
before. -/
def exitCommand (arguments : List Octets) : ScriptM Nat := do
  let process ← get
  let code ←
    match arguments with
    | [] => pure (process.savedCode.getD process.lastCode)
    | text :: _ => liftFault (smallNumber text)
  modify fun after => { after with lastCode := code }
  throw (.exit (exitEnding code))

def returnCommand (arguments : List Octets) : ScriptM Nat := do
  let code ←
    match arguments with
    | [] => pure (← get).lastCode
    | text :: _ => liftFault (smallNumber text)
  modify fun process => { process with lastCode := code }
  throw (.return (!arguments.isEmpty))

/-- Loops are counted from the inside. More loops than there are count as all. -/
def leaveCommand (continues : Bool) (arguments : List Octets) : ScriptM Nat := do
  let count ←
    match arguments with
    | [] => pure 1
    | text :: _ => liftFault (smallNumber text)
  if count = 0 then
    raise (illegalNumber (arguments.headD ""))
  let depth := (← get).loopDepth
  if depth = 0 then
    return 0
  else
    modify fun process => { process with lastCode := 0 }
    throw (.leave (min count depth) continues)

def shiftCommand (arguments : List Octets) : ScriptM Nat := do
  let count ←
    match arguments with
    | [] => pure 1
    | text :: _ => liftFault (smallNumber text)
  let process ← get
  if process.parameters.length < count then
    raise "can't shift that many"
  else
    set { process with parameters := process.parameters.drop count, optionPlace := {} }
    return 0

def printfCommand (arguments : List Octets) : ScriptM Nat := do
  let (_, words) ← takeOptions [] [] arguments
  match words with
  | [] => raise "usage: printf format [arg ...]"
  | format :: values =>
    let printing := scriptPrintf format values
    for message in printing.messages do
      complain message
    match printing.fault with
    | some text =>
      let _ ← writeOutput (String.ofList printing.output)
      raise text
    | none =>
      let code ← writeOutput (String.ofList printing.output)
      return if printing.messages.isEmpty then code else 1

def testCommand (isBracket : Bool) (arguments : List Octets) : ScriptM Nat := do
  let words ←
    if isBracket then
      if arguments.getLast?.any fun last => last.toList.head? = some ']' then
        pure arguments.dropLast
      else
        raise "missing ]"
    else
      pure arguments
  let process ← get
  let machine := process.machine.showDescriptors process.descriptors words
  let result ← liftFault (scriptTest machine false words)
  return if result then 0 else 1

/-- The directories that a logical path goes through. -/
def logicalNames (names : List Octets) : List Octets → List Octets
  | [] => names
  | "." :: rest => logicalNames names rest
  | ".." :: rest => logicalNames names.dropLast rest
  | name :: rest => logicalNames (names ++ [name]) rest

/-- Exactly two slashes at the start of a path are kept. -/
def pathRoot (path : Octets) : Octets :=
  if (path.toList.takeWhile (· == '/')).length = 2 then "//" else "/"

/-- The path of a directory as text, without a look at links. -/
def logicalPath (current target : Octets) : Octets :=
  let isAbsolute := target.toList.head? = some '/'
  let start := if isAbsolute then [] else pathNames current
  pathRoot (if isAbsolute then target else current) ++
    String.intercalate "/" (logicalNames start (pathNames target))

def changesPhysically (options : List CommandOption) : Bool :=
  (options.getLast?.map CommandOption.letter) = some 'P'

/-- The process asks for its directory without links, and keeps the answer. -/
def askDirectory : ScriptM Octets := do
  let text ←
    match (← get).physicalDirectory with
    | some text => pure text
    | none => do
      complain "getcwd() failed: No such file or directory"
      pure ""
  modify fun process => { process with physicalText := some text }
  return text

/-- The process was led to its directory by a text, or has to ask for it. -/
def enterDirectory (known : Option Octets) : ScriptM Unit := do
  let text ←
    match known with
    | some text => do
      modify fun process => { process with physicalText := none }
      pure text
    | none => askDirectory
  modify fun process => { process with directoryText := text }
  assignVariable "PWD" (some text) true

def pwdCommand (arguments : List Octets) : ScriptM Nat := do
  let (options, _) ← takeOptions ['L', 'P'] [] arguments
  if changesPhysically options then
    if (← get).physicalText.isNone then
      let _ ← askDirectory
      assignVariable "PWD" (some (← get).directoryText) true
    writeOutput ((← get).physicalText.getD "" ++ "\n")
  else
    writeOutput ((← get).directoryText ++ "\n")

/-- The directory that a search path leads to, and whether it is shown. Nothing stands for the
directory that the search comes to. -/
def searchedDirectory (process : ScriptProcess) (named : Octets) : Octets × Bool :=
  let isDirect := ["/", "./", "../"].any (fun start => start.toList.isPrefixOf named.toList) ||
    named = "." || named = ".."
  let target := if named = "" then "." else named
  if isDirect then (target, false)
  else
    let entries := (((process.value? "CDPATH").getD "").toList.splitOn ':').map String.ofList
    let found := entries.find? fun entry =>
      let path := if entry = "" then target else entry ++ "/" ++ target
      (process.machine.node? (octetsPath path)).any Node.isFolder
    match found with
    | some "" | none => (target, false)
    | some entry => (entry ++ "/" ++ target, true)

def cdCommand (arguments : List Octets) : ScriptM Nat := do
  let (options, operands) ← takeOptions ['L', 'P'] [] arguments
  let process ← get
  let (named, isShown) :=
    match operands with
    | [] => ((process.value? "HOME").getD "", false)
    | "-" :: _ => ((process.value? "OLDPWD").getD "", true)
    | target :: _ => (target, false)
  let (target, isFound) := searchedDirectory process named
  let isLost := process.directoryText = "" && target.toList.head? ≠ some '/'
  let known := if changesPhysically options || isLost then none
    else some (logicalPath process.directoryText target)
  match process.machine.resolve (octetsPath (known.getD target)) with
  | .error _ => raise ("can't cd to " ++ if named = "" then "." else named)
  | .ok id =>
    if process.machine.tree.isDirectory id && process.machine.tree.allows id .execute then
      set { process with machine.directory := id }
      assignVariable "OLDPWD" (some process.directoryText) true
      enterDirectory known
      modify fun moved => { moved with tracked := moved.tracked.makeStale }
      if isShown || isFound then writeOutput ((← get).directoryText ++ "\n") else return 0
    else
      raise ("can't cd to " ++ named)

/-- The parts of a value between single quotes, and its own quotes between double quotes. -/
def quotedParts : Nat → List Char → List Char
  | 0, _ => []
  | fuel + 1, value =>
    let plain := value.takeWhile (· != '\'')
    let behind := value.drop plain.length
    let quotes := behind.takeWhile (· == '\'')
    let rest := behind.drop quotes.length
    '\'' :: plain ++ ['\''] ++
      (if quotes.isEmpty then [] else '"' :: quotes ++ ['"']) ++
      (if rest.isEmpty then [] else quotedParts fuel rest)

def quoteValue (value : Octets) : Octets :=
  String.ofList (quotedParts (value.length + 1) value.toList)

/-- The variables of one kind, in order. -/
def listVariables (label : Octets) (isListed : ScriptVariable → Bool) : ScriptM Nat := do
  let listed := ((← get).vars.filter isListed).mergeSort fun left right =>
    decide (left.name ≤ right.name)
  writeOutput (String.join (listed.map fun entry =>
    label ++ entry.name ++ (match entry.value with
      | some value => "=" ++ quoteValue value
      | none => "") ++ "\n"))

/-- The name in front of an equals sign and the value behind it. -/
def splitAssignment (text : Octets) : Octets × Option Octets :=
  match text.toList.span (· != '=') with
  | (name, []) => (String.ofList name, none)
  | (name, _ :: value) => (String.ofList name, some (String.ofList value))

/-- A flag is set on each variable, with a new value if one is given. -/
def flagCommand (exports : Bool) (arguments : List Octets) : ScriptM Nat := do
  let isListing := arguments.head?.any fun first => first.startsWith "-p"
  let (_, operands) ← if isListing then pure ([], []) else takeOptions [] [] arguments
  if operands.isEmpty then
    if exports then listVariables "export " fun entry => entry.isExported
    else listVariables "readonly " fun entry => entry.isReadOnly
  else
    for operand in operands do
      let (_, value) := splitAssignment operand
      let name ← checkedName operand
      if value.isSome then
        assignVariable name value false
      modify fun process =>
        let old := (process.stored? name).getD ⟨name, none, false, false⟩
        let flagged := { old with
          isExported := old.isExported || exports
          isReadOnly := old.isReadOnly || !exports }
        { process with vars := ScriptVariable.store process.vars flagged }
    return 0

def unsetCommand (arguments : List Octets) : ScriptM Nat := do
  let (options, operands) ← takeOptions ['v', 'f'] [] arguments
  let isFunction := (options.getLast?.map CommandOption.letter) = some 'f'
  for operand in operands do
    if isFunction then
      modify fun process => { process with
        functions := process.functions.filter fun entry => entry.1 ≠ operand }
    else
      let name ← checkedName operand
      let process ← get
      if (process.stored? name).any ScriptVariable.isReadOnly then
        raise (name ++ ": is read only")
      noticeAssignment name ""
      modify fun current => { current with vars := ScriptVariable.unset current.vars name }
  return 0

/-- Without a terminal there is no job control. A child does not ask for it. -/
def refuseJobControl : ScriptM Unit := do
  let process ← get
  if process.hasOption .monitor && process.machine.self = process.mainProcess then
    complain "can't access tty; job control turned off"
    modify fun process => { process with options := process.options.switch .monitor false }

/-- The options are set as far as they were understood. -/
def setCommand (arguments : List Octets) : ScriptM Nat := do
  if arguments.isEmpty then
    listVariables "" fun entry => entry.value.isSome
  else
    let start : OptionsRead := { options := (← get).options, words := arguments }
    let read := OptionsRead.read false (arguments.length + 1) start
    modify fun process => { process with options := read.options }
    let code ← writeOutput read.listings
    if let some text := read.fault then
      raise text
    refuseJobControl
    if !read.words.isEmpty || read.isEnded then
      modify fun process => { process with parameters := read.words, optionPlace := {} }
    return code

/-- A piece of a line. A backslash keeps the byte behind it, and it joins two lines when that is a
newline. -/
inductive LinePiece where
  | plain (char : Char)
  | kept (char : Char)
  | joint

/-- The pieces of a line. The answer has the number of bytes that were read and whether a newline
ended the line. -/
def readLineChars (isRaw : Bool) :
    List Char → Nat → List LinePiece → List LinePiece × Nat × Bool
  | [], count, line => (line.reverse, count, false)
  | '\n' :: _, count, line => (line.reverse, count + 1, true)
  | '\\' :: rest, count, line =>
    if isRaw then
      readLineChars isRaw rest (count + 1) (.plain '\\' :: line)
    else
      match rest with
      | [] => (line.reverse, count + 1, false)
      | '\n' :: following => readLineChars isRaw following (count + 2) (.joint :: line)
      | char :: following => readLineChars isRaw following (count + 2) (.kept char :: line)
  | char :: rest, count, line =>
    readLineChars isRaw rest (count + 1) (if char == '\x00' then line else .plain char :: line)

/-- The fields of a line so far. The field in hand and those before it have their last part first,
and a field may have a place behind which it is dropped. -/
structure LineFields where
  done : List (List Char) := []
  current : List Char := []
  cut : Option (List Char) := none
  /-- The separators that may still end a field. -/
  left : Nat
  isAfterSpace : Bool := false

/-- The last field goes on behind its separator. It keeps what follows unless that is space, or one
separator among space. -/
def LineFields.addLast (fields : LineFields) (isSeparator isSpace : Bool) (char : Char) :
    LineFields :=
  let longer := { fields with current := char :: fields.current }
  if isSpace then { longer with cut := fields.cut.or (some fields.current) }
  else
    { longer with
      cut := if isSeparator && fields.isAfterSpace then fields.cut else none
      isAfterSpace := false }

/-- Space in front of a field is dropped, and so is one separator behind space. -/
def LineFields.addPlain (separators : List Char) (fields : LineFields) (char : Char) :
    LineFields :=
  let isSeparator := separators.contains char
  let isSpace := isSeparator && isFieldSpace char
  if fields.left = 0 then fields.addLast isSeparator isSpace char
  else if !isSeparator then
    { fields with current := char :: fields.current, isAfterSpace := false }
  else if fields.isAfterSpace then { fields with isAfterSpace := isSpace }
  else if isSpace && fields.current.isEmpty then fields
  else if fields.left = 1 then
    { fields with
      current := char :: fields.current
      cut := some fields.current
      left := 0
      isAfterSpace := isSpace }
  else
    { fields with
      done := fields.current :: fields.done
      current := []
      left := fields.left - 1
      isAfterSpace := isSpace }

/-- Space does not reach over a backslash. -/
def LineFields.add (separators : List Char) (fields : LineFields) : LinePiece → LineFields
  | .plain char => fields.addPlain separators char
  | .kept char => { fields with current := char :: fields.current, isAfterSpace := false }
  | .joint => { fields with isAfterSpace := false }

/-- The fields of a line, of which there are at most as many as asked for. -/
def lineFields (separators : List Char) (count : Nat) (line : List LinePiece) : List Octets :=
  let fields : LineFields := line.foldl (LineFields.add separators) { left := count }
  let last := fields.cut.getD fields.current
  ((last :: fields.done).map fun field => String.ofList field.reverse).reverse

/-- Each variable takes one field. -/
def assignFields : List Octets → List Octets → ScriptM Unit
  | [], _ => return
  | name :: names, fields => do
    assignChecked name (some (fields.headD "")) false
    assignFields names (fields.drop 1)

/-- The number of parts in which one line is read. -/
def maxLineParts : Nat := 1000000000

/-- The bytes of one line, which may come in parts. What stands behind the line stays unread. The
answer tells whether a newline ended the line. -/
def readLineParts (isRaw : Bool) (stream : StreamId) :
    Nat → List Char → ScriptM (List LinePiece × Bool)
  | 0, before => return ((readLineChars isRaw before 0 []).1, false)
  | fuel + 1, before => do
    pauseUntil fun machine => machine.canRead stream
    let process ← get
    let pending := process.machine.pendingOctets stream
    let (line, count, isComplete) := readLineChars isRaw (before ++ pending) 0 []
    if isComplete || pending.isEmpty then
      set { process with
        machine := process.machine.advanceStream stream (count - before.length) }
      return (line, isComplete)
    else
      set { process with machine := process.machine.advanceStream stream pending.length }
      readLineParts isRaw stream fuel (before ++ pending)

/-- A line without a newline counts as the end of the input. -/
def readLineCommand (arguments : List Octets) : ScriptM Nat := do
  let (options, names) ← takeOptions ['r'] ['p'] arguments
  if names.isEmpty then
    raise "arg count"
  let isRaw := options.any fun option => option.letter == 'r'
  let (line, isComplete) ←
    match (← get).stream? 0 with
    | some stream => readLineParts isRaw stream maxLineParts []
    | none => pure ([], false)
  let separators := (← get).fieldSeparators
  assignFields names (lineFields separators names.length line)
  return if isComplete then 0 else 1

def isAllDigits (text : Octets) : Bool :=
  text ≠ "" && text.toList.all Char.isDigit

/-- The number of a signal. -/
def signalNumber? (text : Octets) : Option Nat :=
  let value := shortInteger text.toList
  if isAllDigits text && 0 ≤ value && value < signalCount then some value.toNat else none

/-- The number or the name of a signal. -/
def signalArgument? (text : Octets) (least : Nat) : Option Nat :=
  if isAllDigits text then signalNumber? text
  else if least = 0 && text.toUpper = "EXIT" then some 0
  else signalOfName? text

def killUsage : Octets :=
  "Usage: kill [-s sigspec | -signum | -sigspec] [pid | job]... or\nkill -l [exitstatus]"

/-- The names of all signals, or the name of the one that an exit code stands for. -/
def listSignals (arguments : List Octets) : ScriptM Nat := do
  match arguments with
  | [] =>
    writeOutput ("0\n" ++ String.join ((List.range' 1 (signalCount - 1)).map fun signal =>
      signalName signal ++ "\n"))
  | text :: _ =>
    let code ← liftFault (smallNumber text)
    let signal := if 128 < code then code - 128 else code
    if 0 < signal && signal < signalCount then
      writeOutput (signalName signal ++ "\n")
    else
      raise ("invalid signal number or exit status: " ++ text)

/-- A signal goes to a process that is known by its number. One that waits for it goes on at once,
in front of the process that sends it. Zero stands for the process itself,
and so do the groups of all processes. The first process of the machine and the one that uses the
machine are out of reach. A job of a script without job control is no group of its own. -/
def sendSignal (signal : Nat) (target : Octets) : ScriptM Nat := do
  let refuse (cause : Octets) : ScriptM Nat := do
    complain (cause ++ "\n")
    return 1
  let missing : Octets := "No such process"
  let process ← get
  match target.toList with
  | '%' :: _ =>
    let _ ← liftFault (process.jobs.select target)
    refuse missing
  | '-' :: rest =>
    let group ← liftFault (smallNumber (String.ofList rest))
    if group ≤ 1 then
      receiveSignal signal
      return 0
    else
      refuse missing
  | _ =>
    let number ← liftFault (smallNumber target)
    if number = 0 || number = process.machine.self then
      receiveSignal signal
      return 0
    else if number = hostProcess then
      return 0
    else if number = firstProcess then
      refuse OsError.operationNotPermitted.reason
    else
      match process.machine.processes.signal? number signal with
      | some processes =>
        set { process with machine.processes := processes }
        pauseUntil fun machine => !machine.processes.isRoused number
        return 0
      | none => refuse missing

def sendSignals (signal : Nat) : List Octets → ScriptM Nat
  | [] => return 0
  | target :: rest => do
    let first ← sendSignal signal target
    let others ← sendSignals signal rest
    return max first others

def killCommand (arguments : List Octets) : ScriptM Nat := do
  let first := (arguments.headD "").toList
  let direct :=
    match first with
    | '-' :: name => signalArgument? (String.ofList name) 1
    | _ => none
  match direct with
  | some signal =>
    if arguments.length = 1 then raise killUsage else sendSignals signal (arguments.drop 1)
  | none =>
    let (options, targets) ←
      if first.head? = some '-' then takeOptions ['l'] ['s'] arguments else pure ([], arguments)
    let chosen ← options.foldlM (fun (chosen : Nat) option => do
      if option.letter == 's' then
        match signalArgument? option.argument 1 with
        | some signal => return signal
        | none => raise ("invalid signal number or name: " ++ option.argument)
      else
        return chosen) 15
    let lists := options.any fun option => option.letter == 'l'
    let isNamed := options.any fun option => option.letter == 's'
    if lists && (!isNamed || targets.isEmpty) then
      listSignals targets
    else if lists || targets.isEmpty then
      raise killUsage
    else
      sendSignals chosen targets

/-- The actions that wait for signals, as commands that set them. -/
def listTraps : ScriptM Nat := do
  let traps := (← get).traps.mergeSort fun left right => decide (left.1 ≤ right.1)
  writeOutput (String.join (traps.map fun (signal, action) =>
    "trap -- " ++ quoteValue action ++ " " ++
      (if signal = 0 then "EXIT" else signalName signal) ++ "\n"))

/-- A lone signal, a number in front of others, or a dash for an action takes actions away. -/
def trapCommand (arguments : List Octets) : ScriptM Nat := do
  let (_, words) ← takeOptions [] [] arguments
  match words with
  | [] => listTraps
  | first :: rest =>
    let hasNoAction := rest.isEmpty || (signalNumber? first).isSome
    let isReset := hasNoAction || first = "-"
    let names := if hasNoAction then words else rest
    for name in names do
      match signalArgument? name 0 with
      | none =>
        writeErrors ("trap: " ++ name ++ ": bad trap\n")
        modify fun process => { process with lastCode := 1 }
        return 1
      | some signal =>
        modify fun process =>
          let others := process.traps.filter fun entry => entry.1 ≠ signal
          { process with traps := if isReset then others else (signal, first) :: others }
    return 0

/-- A setting is put aside for the innermost command. -/
def putAside (setting : SavedSetting) : ScriptM Unit :=
  modify fun process => { process with
    locals :=
      match process.locals with
      | [] => []
      | frame :: frames => (setting :: frame) :: frames }

/-- A variable of the innermost command. A name without a value must be a variable name. -/
def makeLocal (exports : Bool) (argument : Octets) : ScriptM Unit := do
  let process ← get
  if argument = "-" then
    putAside (.options process.options)
  else
    let (name, value) := splitAssignment argument
    let old := process.stored? name
    if old.isNone && value.isNone && !isVariableName name then
      raise (name ++ ": bad variable name")
    if value.isSome then
      assignVariable name value exports
    putAside (.value name old)

/-- The old value comes back when the function ends. -/
def localCommand (arguments : List Octets) : ScriptM Nat := do
  if (← get).locals.isEmpty then
    raise "not in a function"
  arguments.forM (makeLocal false)
  return 0

/-- Four octal digits. -/
def octalText (mode : Nat) : Octets :=
  let digits := Nat.toDigits 8 mode
  String.ofList (List.replicate (4 - digits.length) '0' ++ digits)

/-- The letters of the bits that a mask leaves to the owner, the group and all others. -/
def maskText (mask : Nat) : Octets :=
  let granted := withoutBits 0o777 mask
  let letters (shift : Nat) : String :=
    let bits := (granted >>> shift) % 8
    String.ofList ([(4, 'r'), (2, 'w'), (1, 'x')].filterMap fun entry =>
      if bits &&& entry.1 != 0 then some entry.2 else none)
  "u=" ++ letters 6 ++ ",g=" ++ letters 3 ++ ",o=" ++ letters 0

/-- A mask is given by its digits, or by a change to the bits that it leaves. -/
def umaskCommand (arguments : List Octets) : ScriptM Nat := do
  let (options, words) ← takeOptions ['S'] [] arguments
  let mask := (← get).machine.mask
  let change (changed : Nat) : ScriptM Nat := do
    modify fun process => { process with machine.mask := changed &&& 0o777 }
    return 0
  match words with
  | [] => writeOutput ((if options.isEmpty then octalText mask else maskText mask) ++ "\n")
  | text :: _ =>
    if text.toList.head?.any Char.isDigit then
      if text.toList.all isOctal then
        change (digitsValue 8 text.toList)
      else
        raise (illegalNumber text)
    else
      match readMask mask text.toList with
      | some changed => change changed
      | none => raise ("Illegal mode: " ++ text)

/-- The code of a command that a signal has interrupted. -/
def interruptedCode? : ScriptM (Option Nat) := do
  return (← get).waitingSignals.head?.map (128 + ·)

/-- The processes are over, or a signal has come that has an action. -/
def endsWait (self : Nat) (processes : List Nat) (machine : Machine) : Bool :=
  processes.all (fun process => !machine.processes.isAlive process) ||
    (machine.processes.find? self).any ProcessEntry.isCalled

/-- The script waits for processes. The answer is a code when a signal has interrupted it. -/
def awaitProcesses (processes : List Nat) : ScriptM (Option Nat) := do
  let self := (← get).machine.self
  waitFor .signals (endsWait self processes)
  let table := (← get).machine.processes
  let isOver := processes.all fun process => !table.isAlive process
  noticeEnds
  if isOver then return none else interruptedCode?

/-- A job is over when it was waited for. The end by a signal is told when the script learns of it.
The answer tells whether the wait was interrupted. -/
def waitForJob (code : Nat) (word : Octets) : ScriptM (Nat × Bool) := do
  let process ← get
  let job : Option ScriptJob ←
    if word.toList.head? = some '%' then
      some <$> liftFault (process.jobs.select word)
    else do
      let number ← liftFault (smallNumber word)
      pure (process.jobs.find? fun job => job.processes.getLast? = some number)
  match job with
  | none => return (code, false)
  | some found =>
    let waited := (found.members.filter fun member => member.ending.isNone).map JobMember.process
    match ← awaitProcesses waited with
    | some interrupted => return (interrupted, true)
    | none =>
      let after ← get
      let ended := (after.jobs.find? fun job => job.number = found.number).getD found
      set { after with jobs := after.jobs.setJob { ended with isWaitedFor := true } }
      for member in ended.members do
        if waited.contains member.process then
          if let some (.signaled signal) := member.ending then
            if signal ≠ 2 && signal ≠ pipeSignal then
              writeErrors (signalText signal ++ "\n")
      return ((ended.ending.map Ending.scriptCode).getD 0, false)

/-- The jobs are waited for in turn, until a signal interrupts. -/
def waitForJobs (code : Nat) : List Octets → ScriptM Nat
  | [] => return code
  | word :: rest => do
    let (next, isInterrupted) ← waitForJob code word
    if isInterrupted then return next else waitForJobs next rest

def waitCommand (arguments : List Octets) : ScriptM Nat := do
  let (_, words) ← takeOptions [] [] arguments
  if words.isEmpty then
    let processes := (← get).jobs.flatMap fun job =>
      (job.members.filter fun member => member.ending.isNone).map JobMember.process
    match ← awaitProcesses processes with
    | some code => return code
    | none =>
      modify fun process => { process with
        jobs := process.jobs.map fun job => { job with isWaitedFor := true } }
      return 0
  else
    waitForJobs 127 words

/-- A job that is over is shown once. -/
def showJob (options : List CommandOption) (job : ScriptJob) : ScriptM Nat := do
  let process ← get
  let has (letter : Char) : Bool := options.any fun option => option.letter == letter
  let number := toString (job.processes.headD 0)
  if has 'p' then
    writeOutput (number ++ "\n")
  else
    let code ← writeOutput (job.line (process.jobs.mark job.number) (has 'l'))
    if job.isOver then
      modify fun after => { after with jobs := after.jobs.erase job.number }
    return code

def jobsCommand (arguments : List Octets) : ScriptM Nat := do
  let (options, words) ← takeOptions ['l', 'p'] [] arguments
  if words.isEmpty then
    noticeEnds
    (← get).jobs.foldlM (fun code job => do return max code (← showJob options job)) 0
  else
    words.foldlM (fun code word => do
      let job ← liftFault ((← get).jobs.select word)
      return max code (← showJob options job)) 0

/-- Without job control no job comes to the foreground or goes on in the background. -/
def controlCommand (arguments : List Octets) : ScriptM Nat := do
  let (_, words) ← takeOptions [] [] arguments
  let process ← get
  let _ ← liftFault (process.jobs.select (words.headD "%"))
  raise ("job " ++ words.headD "(null)" ++ " not created under job control")

def aliasText (entry : Alias) : Octets :=
  entry.name ++ "=" ++ quoteValue entry.text

/-- The name of an alias has at least one character, which may be an equals sign. -/
def aliasOperand (word : Octets) : Octets × Option Octets :=
  match word.toList with
  | [] => ("", none)
  | first :: rest =>
    match splitAssignment (String.ofList rest) with
    | (name, value) => (String.singleton first ++ name, value)

def aliasCommand (arguments : List Octets) : ScriptM Nat := do
  if arguments.isEmpty then
    writeOutput (String.join ((← get).aliases.listed.map fun entry => aliasText entry ++ "\n"))
  else
    arguments.foldlM (fun code word => do
      match aliasOperand word with
      | (name, some text) =>
        modify fun process => { process with aliases := process.aliases.store ⟨name, text⟩ }
        return code
      | (name, none) =>
        match (← get).aliases.find? name with
        | some entry =>
          let written ← writeOutput (aliasText entry ++ "\n")
          return max code written
        | none =>
          writeErrors ("alias: " ++ name ++ " not found\n")
          return 1) 0

def unaliasCommand (arguments : List Octets) : ScriptM Nat := do
  if arguments.head?.any fun first => first.startsWith "-a" then
    modify fun process => { process with aliases := [] }
    return 0
  else
    let (_, words) ← takeOptions [] [] arguments
    words.foldlM (fun code word => do
      let process ← get
      if (process.aliases.find? word).isSome then
        set { process with aliases := process.aliases.erase word }
        return code
      else
        writeErrors ("unalias: " ++ word ++ " not found\n")
        return 1) 0

/-- The value of a variable, without a look at what the variable means. -/
def storeValue (name : String) (value : Octets) : ScriptM Unit :=
  modify fun process =>
    let old := (process.stored? name).getD ⟨name, none, false, false⟩
    { process with vars := ScriptVariable.store process.vars { old with value := some value } }

/-- The next option goes to a variable, and its argument to another one. -/
def optionCommand (arguments : List Octets) : ScriptM Nat := do
  match arguments with
  | description :: name :: given =>
    let process ← get
    let words := if given.isEmpty then process.parameters else given
    let place := if words.length + 1 < process.optionPlace.word then {} else process.optionPlace
    let found := nextOption description.toList words place
    match found.argument with
    | .kept => pure ()
    | .removed =>
      modify fun current =>
        { current with vars := current.vars.filter fun entry => entry.name ≠ "OPTARG" }
    | .given text => assignVariable "OPTARG" (some text) false
    if let some message := found.message then
      writeErrors (message ++ "\n")
    storeValue "OPTIND" (toString found.place.word)
    assignChecked name (some (String.singleton found.letter)) false
    modify fun current => { current with optionPlace := found.place }
    return if found.isDone then 1 else 0
  | _ => raise "Usage: getopts optstring var [arg...]"

/-- The places of programs are listed, forgotten or looked for. Functions may have to be loaded. -/
def trackCommand (loadFunction : Octets → ScriptM Unit) (arguments : List Octets) :
    ScriptM Nat := do
  let (options, words) ← takeOptions ['r'] [] arguments
  let process ← get
  if !options.isEmpty then
    set { process with tracked := [] }
    return 0
  else if words.isEmpty then
    writeOutput (String.join (process.tracked.listed.map fun entry =>
      process.placedPath entry.name entry.place ++ (if entry.isStale then "*\n" else "\n")))
  else
    words.foldlM (fun code word => do
      loadFunction word
      let current ← get
      let isKnown := isPathName word || current.functions.any (fun entry => entry.1 = word) ||
        current.usesBuiltin word
      if isKnown then
        return code
      else
        set { current with tracked := current.tracked.erase word }
        match ← trackProgram word with
        | .ok _ => return code
        | .error cause =>
          complain (word ++ ": " ++ startFault cause)
          return 1) 0

/-- A limit is given in units, or it is no limit. -/
def limitValue? (unit : Nat) (text : Octets) : Option (Option Nat) :=
  if text = "unlimited" then some none
  else if text.toList.all Char.isDigit then
    some (some (digitsValue 10 text.toList * unit % 0x10000000000000000))
  else none

def limitCommand (arguments : List Octets) : ScriptM Nat := do
  let limits := (← get).machine.limits
  let letters := limits.map fun limit => limit.resource.letter
  let (options, words) ← takeOptions ('H' :: 'S' :: 'a' :: letters) [] arguments
  let has (letter : Char) : Bool := options.any fun option => option.letter == letter
  let how := (options.reverse.find? fun option =>
    option.letter == 'H' || option.letter == 'S').map CommandOption.letter
  let chosen := ((options.reverse.find? fun option =>
    letters.contains option.letter).map CommandOption.letter).getD 'f'
  let shown (limit : ResourceLimit) : Octets :=
    limit.valueText (if how = some 'H' then limit.hard else limit.soft) ++ "\n"
  match limits.find? fun limit => limit.resource.letter == chosen, words with
  | none, _ => return 0
  | some limit, [] =>
    if has 'a' then
      writeOutput (String.join (limits.map fun other =>
        let name := other.resource.name
        name ++ String.ofList (List.replicate (20 - name.length) ' ') ++ " " ++ shown other))
    else
      writeOutput (shown limit)
  | some limit, text :: others =>
    if has 'a' || !others.isEmpty then
      raise "too many arguments"
    match limitValue? limit.resource.unit text with
    | none => raise "bad number"
    | some value =>
      match limit.change (how ≠ some 'H') (how ≠ some 'S') value with
      | .error cause => raise ("error setting limit (" ++ cause.reason ++ ")")
      | .ok changed =>
        modify fun process => { process with
          machine.limits := limits.map fun other =>
            if other.resource.letter == chosen then changed else other }
        return 0

/-- No time passes while a script runs. -/
def timesCommand (_ : List Octets) : ScriptM Nat :=
  writeOutput "0m0.000000s 0m0.000000s\n0m0.000000s 0m0.000000s\n"

/-- The built-in commands that run no other command. -/
def builtinCommand? (name : Octets) : Option (List Octets → ScriptM Nat) :=
  match name with
  | ":" | "true" => some fun _ => return 0
  | "false" => some fun _ => return 1
  | "echo" => some fun arguments => writeOutput (scriptEcho arguments)
  | "printf" => some printfCommand
  | "test" => some (testCommand false)
  | "[" => some (testCommand true)
  | "exit" => some exitCommand
  | "return" => some returnCommand
  | "break" => some (leaveCommand false)
  | "continue" => some (leaveCommand true)
  | "shift" => some shiftCommand
  | "pwd" => some pwdCommand
  | "cd" | "chdir" => some cdCommand
  | "export" => some (flagCommand true)
  | "readonly" => some (flagCommand false)
  | "unset" => some unsetCommand
  | "set" => some setCommand
  | "read" => some readLineCommand
  | "kill" => some killCommand
  | "trap" => some trapCommand
  | "local" => some localCommand
  | "umask" => some umaskCommand
  | "wait" => some waitCommand
  | "jobs" => some jobsCommand
  | "fg" | "bg" => some controlCommand
  | "alias" => some aliasCommand
  | "unalias" => some unaliasCommand
  | "getopts" => some optionCommand
  | "ulimit" => some limitCommand
  | "times" => some timesCommand
  | _ => none

end ChainShell
