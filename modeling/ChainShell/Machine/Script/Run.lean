/-
This file runs scripts. A process writes to its streams and ends with a code or a signal.
-/

import ChainShell.Machine.Script.Program

namespace ChainShell

/-- How the code of a command is used. -/
structure RunMode where
  /-- The code is looked at, so a failure does not end the script. -/
  isTested : Bool := false
  /-- Nothing of the process is needed after the command. -/
  isLast : Bool := false
  /-- The text is read from a file, and shown when an option asks for it. -/
  isFile : Bool := false
  /-- The text is the script itself, and not a part that it runs. -/
  isBase : Bool := false

def RunMode.tested : RunMode := { isTested := true }

/-- The command runs to its end or is cut short, and the script goes on in both cases. -/
def attempt (action : ScriptM Unit) : ScriptM (Option Interruption) :=
  action.attempt

def setCode (code : Nat) : ScriptM Unit :=
  modify fun process => { process with lastCode := code }

/-- A fault gives the other value. -/
def recover {α : Type} (action : ScriptM α) (other : α) : ScriptM α :=
  tryCatch action fun cause => if cause = .fault then return other else throw cause

/-- A failure ends the script when the option asks for it and nobody looks at the code. -/
def checkFailure (mode : RunMode) : ScriptM Unit := do
  let process ← get
  if process.hasOption .errexit && !mode.isTested && process.lastCode ≠ 0 then
    throw (.exit (exitEnding process.lastCode))

/-- The signal that ends a process that goes too deep. -/
def depthSignal : Nat := 11

/-- How a process ends when its script is over or cut short. -/
def endingOf (result : Option Interruption) (process : ScriptProcess) : Ending :=
  match result with
  | some (.exit ending) => ending
  | some .fault => exitEnding 2
  | some .endless => .signaled depthSignal
  | _ => exitEnding process.lastCode

/-- Some signal has an action that is not empty. -/
def ScriptProcess.hasActions (process : ScriptProcess) : Bool :=
  process.traps.any fun entry => entry.2 ≠ ""

/-- A child ignores the signals that its parent ignores, and has no other actions. -/
def ScriptProcess.forChild (process : ScriptProcess) : ScriptProcess :=
  { process with
    traps := process.traps.filter fun entry => entry.2 = ""
    signals := []
    taken := []
    jobs := []
    redirections := []
    readerLine := process.childLine }

/-- A child in the background cannot be interrupted from a terminal. -/
def ScriptProcess.forBackground (process : ScriptProcess) : ScriptProcess :=
  { process.forChild with ignored := [2, 3] ++ process.ignored }

/-- The step is all that the process does. -/
def processActivity (finish : Option Interruption → ScriptM Ending) (body : ScriptM Unit)
    (process : ScriptProcess) : Activity :=
  let whole : ScriptM Ending := do finish (← attempt body)
  whole process (fun ending after => .ended after.machine ending)
    fun _ after => .ended after.machine (exitEnding 2)

/-- The trailing newlines of an output do not count, and zeros are lost. -/
def substitutedText (octets : Octets) : Octets :=
  let kept := octets.toList.filter (· != '\x00')
  String.ofList (kept.reverse.dropWhile (· == '\n')).reverse

/-- The text of a command for the trace. -/
def traceText (assigned : List (String × Octets)) (words : List Octets) : Octets :=
  String.intercalate " " (assigned.map (fun entry => entry.1 ++ "=" ++ entry.2) ++ words)

/-- A variable that was put aside comes back with all that it says. A name that is none is told
unless the command was cut short. -/
def restoreVariable (isWell : Bool) (name : String) (saved : Option ScriptVariable) :
    ScriptM Unit := do
  if isWell && saved.isNone && !isVariableName name then
    raise (name ++ ": bad variable name")
  modify fun process => { process with
    vars :=
      match saved with
      | some old => ScriptVariable.store process.vars old
      | none => process.vars.filter fun other => other.name ≠ name }
  noticeAssignment name ((saved.bind ScriptVariable.value).getD "")

def restoreSetting (isWell : Bool) : SavedSetting → ScriptM Unit
  | .value name old => restoreVariable isWell name old
  | .options old => modify fun process => { process with options := old }

/-- The innermost command is over, and what it put aside comes back. -/
def leaveFrame (isWell : Bool) : ScriptM Unit := do
  let frames := (← get).locals
  modify fun process => { process with locals := frames.drop 1 }
  (frames.headD []).forM (restoreSetting isWell)

/-- The command can put settings aside. They do not come back when the process ends with it. -/
def withFrame (action : ScriptM Unit) : ScriptM Unit := do
  modify fun process => { process with locals := [] :: process.locals }
  match ← attempt action with
  | none => leaveFrame true
  | some (.leave loops continues) =>
    leaveFrame true
    throw (.leave loops continues)
  | some (.return hasCode) =>
    leaveFrame true
    throw (.return hasCode)
  | some .fault =>
    leaveFrame false
    throw .fault
  | some .called =>
    leaveFrame false
    throw .called
  | some cause => throw cause

/-- The options of `command`, the names behind them, and the path that is searched. -/
structure CommandRequest where
  words : List Octets
  usesStandardPath : Bool := false
  isQuery : Bool := false
  isVerbose : Bool := false

/-- The directories that hold the standard programs. -/
def standardProgramPath : Octets :=
  "/usr/local/sbin:/usr/local/bin:/usr/sbin:/usr/bin:/sbin:/bin"

def readCommandRequest (words : List Octets) : ScriptM CommandRequest := do
  let (options, operands) ← takeOptions ['p', 'v', 'V'] [] words
  let has (letter : Char) : Bool := options.any fun option => option.letter == letter
  return ⟨operands, has 'p', has 'v' || has 'V', has 'V'⟩

/-- What a name stands for, as text. It may have to be loaded as a function. -/
def describeCommand (loadFunction : Octets → ScriptM Unit) (isVerbose : Bool)
    (otherPath : Option Octets) (name : Octets) : ScriptM Nat := do
  let isPlain := reservedWords.contains name || ((← get).aliases.find? name).isSome
  if !isPlain && otherPath.isNone then
    loadFunction name
  let process ← get
  let shown (short long : Octets) : ScriptM Nat :=
    writeOutput ((if isVerbose then name ++ " is " ++ long else short) ++ "\n")
  let missing : ScriptM Nat := do
    if isVerbose then
      let _ ← writeOutput (name ++ ": not found\n")
    return 127
  if reservedWords.contains name then
    shown name "a shell keyword"
  else if let some entry := process.aliases.find? name then
    shown ("alias " ++ aliasText entry) ("an alias for " ++ entry.text)
  else if process.functions.any fun entry => entry.1 = name then
    shown name "a shell function"
  else if specialCommands.contains name then
    shown name "a special shell builtin"
  else if isBuiltin name && (otherPath.isSome || process.usesBuiltin name) then
    shown name "a shell builtin"
  else if isPathName name then
    if (process.machine.resolve (octetsPath name)).toBool then shown name name else missing
  else
    match otherPath with
    | some searchPath =>
      match process.machine.findProgram searchPath name with
      | .ok place =>
        let path := ((searchedPlaces searchPath name)[place]?.map SearchPlace.path).getD name
        shown path path
      | .error _ => missing
    | none =>
      match process.tracked.find? name with
      | some entry =>
        let path := process.placedPath name entry.place
        shown path ("a tracked alias for " ++ path)
      | none =>
        match ← trackProgram name with
        | .ok place =>
          let path := process.placedPath name place
          shown path path
        | .error _ => missing

def describeCommands (loadFunction : Octets → ScriptM Unit) (isVerbose : Bool)
    (otherPath : Option Octets) (names : List Octets) : ScriptM Nat :=
  names.foldlM (fun code name => do
    let next ← describeCommand loadFunction isVerbose otherPath name
    return if next = 0 then code else next) 0

/-- Words that are assignments keep their values whole behind these commands. -/
def assignsArguments (name : Octets) : Bool :=
  ["export", "readonly", "local", "alias"].contains name

/-- A stream with nothing to read. -/
def openNothing : ScriptM StreamId := do
  let process ← get
  let (stream, machine) := process.machine.openStream (.unread [])
  set { process with machine := machine }
  return stream

/-- A command in the background can be waited for later. -/
def keepJob (processes : List Nat) : ScriptM Unit :=
  modify fun process =>
    let (number, jobs) := process.jobs.claim
    { process with
      jobs := ⟨number, processes.map fun member => ⟨member, none⟩, false⟩ :: jobs
      lastJob := processes.getLast?
      lastCode := 0 }

/-- The rounds of a loop. Each gets the code of the one before and gives its own, or stops the
loop. -/
def repeatRounds (round : Nat → ScriptM (Option Nat)) : Nat → Nat → ScriptM Unit
  | 0, _ => throw .endless
  | left + 1, code => do
    match ← round code with
    | some next => repeatRounds round left next
    | none => return

/-- A round counts, and the process has only so many of them. -/
def countRound : ScriptM Unit := do
  let process ← get
  if process.rounds = 0 then
    throw .endless
  else
    set { process with rounds := process.rounds - 1 }

/-- The values are taken in order until one stops the loop. -/
def takeValues (round : Octets → ScriptM Bool) : List Octets → ScriptM Unit
  | [] => return
  | value :: rest => do
    if ← round value then
      takeValues round rest

/-- A loop whose test is cut short in this way has the code of the round before. -/
def Interruption.keepsLoopCode : Interruption → Bool
  | .leave _ _ | .return false => true
  | _ => false

/-- A round was cut short or not. The answer tells whether the loop goes on. -/
def goesOn (result : Option Interruption) : ScriptM Bool :=
  match result with
  | none | some (.leave 1 true) => return true
  | some (.leave 1 false) => return false
  | some (.leave (count + 1) continues) => throw (.leave count continues)
  | some cause => throw cause

/-- A script looks for the programs of a pipeline before it makes the children that run them. -/
def trackStage (loadFunction : Octets → ScriptM Unit) (stage : Script) : ScriptM Unit := do
  match stage with
  | .simple _ _ ([.literal false name] :: _) _ =>
    if isVariableName name then
      loadFunction name
      let process ← get
      if !process.usesBuiltin name &&
          !process.functions.any (fun entry => entry.1 = name) then
        let _ ← trackProgram name
  | _ => return

/-- The number of functions that can run inside each other. -/
def maxFunctionDepth : Nat := 1000

/-- What was read of a file. -/
def showText (mode : RunMode) (text : List Char) : ScriptM Unit := do
  if mode.isFile && (← get).hasOption .verbose then
    writeErrors (String.ofList text)

/-- The given number of lines at the start of a text. -/
def takeLines : Nat → List Char → List Char
  | 0, _ => []
  | _, [] => []
  | count + 1, char :: rest =>
    char :: takeLines (if char == '\n' then count else count + 1) rest

/-- Where more text of a script comes from. -/
inductive ScriptSource where
  /-- There is no more text. -/
  | nowhere
  | stream (id : StreamId)
  /-- The text comes from wherever the descriptor leads to at the time. -/
  | descriptor (number : Nat)
  deriving DecidableEq, Repr

def ScriptSource.isOpen (source : ScriptSource) : Bool :=
  source ≠ .nowhere

/-- The script of a file. The process keeps the file apart from other descriptors. -/
def openScript (path : Octets) : ScriptM ScriptSource := do
  let process ← get
  match process.openTarget path { reads := true } with
  | .error cause => raise ("cannot open " ++ path ++ ": " ++ openFault cause)
  | .ok (stream, machine) =>
    if let some cause := process.saveFault? then
      let opened := toString (process.freeDescriptors.headD 0)
      raise (opened ++ ": " ++ cause.reason)
    set { process with machine := machine, openScripts := process.openScripts + 1 }
    return .stream stream

/-- The reader has come to the end of its text before the end of a command. -/
def needsMore : Except ReadFault (ScriptUnit × ReaderState) → Bool
  | .error fault => fault.isAtEnd
  | .ok (_, after) =>
    after.isCut || match after.last with
      | .endOfText => true
      | _ => false

/-- The number of ends of its text that a process ignores. -/
def maxEndSigns : Nat := 50

/-- The number of bytes of a script that are read at once. -/
def scriptBytes : Nat := 8192

/-- A script without the zeros that a shell does not see. -/
def withoutZeros (octets : List Char) : List Char :=
  octets.filter (· != '\x00')

/-- The next block of a script. There is none at its end. -/
def readScript (source : ScriptSource) : ScriptM (List Char) := do
  let process ← get
  let stream :=
    match source with
    | .nowhere => none
    | .stream id => some id
    | .descriptor number => process.stream? number
  match stream with
  | none => return []
  | some id =>
    if (process.machine.readFault? id).isSome then return [] else readSome id scriptBytes

/-- A simple command as far as its words are expanded. -/
structure CommandPlan where
  /-- The fields, those in front of the command included. -/
  fields : List Octets
  /-- The number of fields in front of the command. -/
  skipped : Nat := 0
  /-- The words that are not expanded yet. -/
  words : List ScriptWord
  usesFunctions : Bool := true
  /-- The search path that is used instead of that of the process. -/
  otherPath : Option Octets := none
  /-- The first built-in command on the way is a special one. -/
  isSpecial : Option Bool := none
  /-- Words that are assignments keep their values whole. -/
  keepsAssignments : Bool := false
  isExec : Bool := false

namespace CommandPlan

/-- The name of the command and its arguments. -/
def command (plan : CommandPlan) : List Octets :=
  plan.fields.drop plan.skipped

/-- The plan after a look at the built-in command that it has come to. -/
def note (plan : CommandPlan) (name : Octets) : CommandPlan :=
  { plan with
    isSpecial := some (plan.isSpecial.getD (specialCommands.contains name))
    keepsAssignments := assignsArguments name
    isExec := name = "exec" }

/-- The assignments in front of a special built-in command or of no command last. -/
def assignmentsLast (plan : CommandPlan) : Bool :=
  plan.fields.isEmpty || plan.isSpecial = some true

end CommandPlan

/-- There must be room for a new pipe. -/
def checkPipe : ScriptM Unit := do
  if !(← get).mayOpen 2 then
    raise "Pipe call failed"

/-- The two ends of a new pipe, first the one to read from. -/
def openPipe : ScriptM (Option StreamId × Option StreamId) := do
  checkPipe
  let process ← get
  let (reading, writing, machine) := process.machine.openPipe
  set { process with machine := machine }
  return (some reading, some writing)

/-- All stages of a pipeline must be over. The last one decides on the code. -/
def awaitStages (processes : List Nat) : ScriptM Unit := do
  let endings ← processes.mapM awaitChild
  endings.forM reportEnding
  setCode ((endings.getLast?.map Ending.scriptCode).getD 0)

mutual
/-- A script sets the code of its process. The actions for signals run before and behind each
command. -/
def runScript (fuel : Nat) (runner : ProgramRunner) (mode : RunMode) (script : Script) :
    ScriptM Unit := do
  match fuel with
  | 0 => throw .endless
  | fuel + 1 =>
    if (← get).hasOption .noexec then return
    runTraps fuel runner
    match script with
    | .simple line assignments words redirects =>
      giveTurn
      runSimple fuel runner mode line assignments words redirects
      finishCommand fuel runner mode
    | .sequence first second =>
      runScript fuel runner { mode with isLast := false } first
      runScript fuel runner mode second
    | .andThen first second =>
      runScript fuel runner .tested first
      if (← get).lastCode = 0 then
        runScript fuel runner mode second
    | .orElse first second =>
      runScript fuel runner .tested first
      if (← get).lastCode ≠ 0 then
        runScript fuel runner mode second
    | .negate inner =>
      runScript fuel runner .tested inner
      setCode (if (← get).lastCode = 0 then 1 else 0)
    | .pipeline inBackground stages =>
      claimPlace
      let processes ← runStages fuel runner mode inBackground none stages
      if inBackground then
        keepJob processes
      else
        awaitStages processes
      finishCommand fuel runner mode
    | .background line body redirects =>
      modify fun process => { process with line := line }
      let targets ← expandRedirects fuel runner redirects
      let input ← openNothing
      let child := (← get).forBackground.setDescriptor 0 input
      let number ← forkScript fuel runner {} body targets child
      keepJob [number]
      finishCommand fuel runner mode
    | .subshell line body redirects =>
      modify fun process => { process with line := line }
      let targets ← expandRedirects fuel runner redirects
      runSubshell fuel runner mode body targets
      finishCommand fuel runner mode
    | .redirected line body redirects =>
      modify fun process => { process with line := line }
      let targets ← expandRedirects fuel runner redirects
      keepingDescriptors do
        match ← attempt (openTargets fuel runner targets) with
        | some _ =>
          setCode 2
          checkFailure mode
        | none => runScript fuel runner { mode with isLast := false } body
    | .conditional test yes no =>
      runScript fuel runner .tested test
      if (← get).lastCode = 0 then
        runScript fuel runner mode yes
      else
        match no with
        | some other => runScript fuel runner mode other
        | none => setCode 0
    | .loop untilSuccess test body =>
      let depth := (← get).loopDepth
      modify fun process => { process with loopDepth := depth + 1 }
      let result ← attempt (runLoop fuel runner mode untilSuccess test body)
      modify fun process => { process with loopDepth := depth }
      result.forM throw
    | .forEach line name words body =>
      modify fun process => { process with line := line }
      let values ← expandWords fuel runner words
      let depth := (← get).loopDepth
      if values.isEmpty then
        setCode 0
      modify fun process => { process with loopDepth := depth + 1 }
      let result ← attempt (runForEach fuel runner mode name values body)
      modify fun process => { process with loopDepth := depth }
      result.forM throw
    | .select line subject branches =>
      modify fun process => { process with line := line }
      let text := (← expandSingle fuel (substituteCommand fuel runner) subject).text
      runBranches fuel runner mode text.toList branches
    | .define line name body =>
      modify fun process => { process with
        functions := (name, line, body) :: process.functions.filter fun entry => entry.1 ≠ name
        tracked := process.tracked.erase name
        lastCode := 0 }
    runTraps fuel runner

/-- A command is over. Actions for signals come before the end of a script that has failed. -/
def finishCommand (fuel : Nat) (runner : ProgramRunner) (mode : RunMode) : ScriptM Unit := do
  match fuel with
  | 0 => throw .endless
  | fuel + 1 =>
    runTraps fuel runner
    checkFailure mode

/-- The signals that have come run their actions, each with the code from before. -/
def runTraps (fuel : Nat) (runner : ProgramRunner) : ScriptM Unit := do
  match fuel with
  | 0 => return
  | fuel + 1 =>
    if ← takeSignals then
      runActions fuel runner 1

/-- The actions run in the order of their signals, from a number on. Signals that come in the
meantime have their turn too. -/
def runActions (fuel : Nat) (runner : ProgramRunner) (least : Nat) : ScriptM Unit := do
  match fuel with
  | 0 => return
  | fuel + 1 =>
    match (← get).nextSignal? least with
    | none => return
    | some signal =>
      let process := (← get).withoutSignal signal
      set process
      match process.action? signal with
      | none => runActions fuel runner (signal + 1)
      | some action =>
        let code := process.savedCode.getD process.lastCode
        set { process with savedCode := some code }
        let result ← attempt (runText fuel runner {} action)
        match result with
        | some (.return true) =>
          modify fun after =>
            { after with savedCode := process.savedCode }.leaveSignals signal
        | none =>
          modify fun after =>
            { after with savedCode := process.savedCode, lastCode := code }
        | some (.return false) | some (.leave _ _) =>
          modify fun after =>
            { after with savedCode := process.savedCode, lastCode := code }.leaveSignals signal
        | _ => pure ()
        result.forM throw
        runActions fuel runner (signal + 1)

/-- A child process that runs a script. The answer is its number. -/
def forkScript (fuel : Nat) (runner : ProgramRunner) (mode : RunMode) (script : Script)
    (targets : List OpenTarget) (child : ScriptProcess) : ScriptM Nat := do
  match fuel with
  | 0 => throw .endless
  | fuel + 1 =>
    let body : ScriptM Unit := do
      openTargets fuel runner targets
      runScript fuel runner { isTested := mode.isTested, isLast := true } script
    checkFork
    forkProcess (ProcessState.conduct child) fun machine =>
      processActivity (finishProcess fuel runner) body { child with machine := machine }

/-- A process that has nothing else to do becomes the subshell itself. -/
def runSubshell (fuel : Nat) (runner : ProgramRunner) (mode : RunMode) (script : Script)
    (targets : List OpenTarget) : ScriptM Unit := do
  match fuel with
  | 0 => throw .endless
  | fuel + 1 =>
    let process ← get
    if mode.isLast && !process.hasActions then
      set { process.forChild with jobs := process.jobs }
      openTargets fuel runner targets
      runScript fuel runner mode script
    else
      claimPlace
      let number ← forkScript fuel runner mode script targets process.forChild
      let ending ← awaitChild number
      reportEnding ending
      setCode ending.scriptCode

/-- The output of a command in a word. Everybody who could write to it must be done. -/
def substituteCommand (fuel : Nat) (runner : ProgramRunner) (body : Option Script) :
    ScriptM Octets := do
  match fuel with
  | 0 => throw .endless
  | fuel + 1 =>
    match body with
    | none => return ""
    | some script =>
      checkPipe
      let process ← get
      let (stream, machine) := process.machine.openStream (.collected "" process.machine.self)
      set { process with machine := machine }
      claimPlace
      let child := (← get).forChild.setDescriptor 1 stream
      let number ← forkScript fuel runner {} script [] child
      waitFor .child fun current => !current.processes.holds stream
      let ending ← awaitChild number
      reportEnding ending
      modify fun after => { after with
        substitutedCode := ending.scriptCode
        lastCode := process.lastCode }
      return substitutedText ((← get).machine.collectedOctets stream)

/-- A process that ends by itself runs its last action first. The action may end it with another
code. -/
def finishProcess (fuel : Nat) (runner : ProgramRunner) (result : Option Interruption) :
    ScriptM Ending := do
  match fuel with
  | 0 => return exitEnding 2
  | fuel + 1 =>
    let process ← get
    let ending := endingOf result process
    match ending, process.traps.lookup 0 with
    | .exited _, some action =>
      set { process with
        traps := process.traps.filter fun entry => entry.1 ≠ 0
        lastCode := ending.scriptCode
        savedCode := some ending.scriptCode
        running := none }
      match ← attempt (runText fuel runner {} action) with
      | some (.exit later) => return later
      | some .fault => return exitEnding 2
      | _ => return ending
    | _, _ => return ending

/-- Each stage reads what the one before writes. The answer has the processes of the stages. -/
def runStages (fuel : Nat) (runner : ProgramRunner) (mode : RunMode) (inBackground : Bool)
    (input : Option StreamId) (stages : List Script) : ScriptM (List Nat) := do
  match fuel with
  | 0 => throw .endless
  | fuel + 1 =>
    match stages with
    | [] => return []
    | stage :: rest =>
      trackStage (loadFunction fuel runner) stage
      let (reading, writing) ← if rest.isEmpty then pure (none, none) else openPipe
      let nothing ← if inBackground && input.isNone then some <$> openNothing else pure none
      let process ← get
      let plain := if inBackground then process.forBackground else process.forChild
      let connected := match input.or nothing with
        | some stream => plain.setDescriptor 0 stream
        | none => plain
      let child := match writing with
        | some stream => connected.setDescriptor 1 stream
        | none => connected
      set { process with setAside := reading.toList ++ process.setAside }
      let number ← forkScript fuel runner mode stage [] child
      let others ← runStages fuel runner mode inBackground reading rest
      modify fun after => { after with setAside := process.setAside }
      return number :: others

/-- The loop runs while its test gives the right answer. Its code is that of the last round. A test
that is cut short keeps that code, unless it gives one of its own. -/
def runLoop (fuel : Nat) (runner : ProgramRunner) (mode : RunMode) (untilSuccess : Bool)
    (test body : Script) : ScriptM Unit := do
  match fuel with
  | 0 => throw .endless
  | fuel + 1 =>
    let round (code : Nat) : ScriptM Unit := do
      countRound
      match ← attempt (runScript fuel runner .tested test) with
      | none => pure ()
      | some cause =>
        if cause.keepsLoopCode then
          setCode code
        throw cause
      if ((← get).lastCode = 0) = untilSuccess then
        setCode code
        throw (.leave 1 false)
      else
        runScript fuel runner { mode with isLast := false } body
    repeatRounds (fun code => do
      if ← goesOn (← attempt (round code)) then return some (← get).lastCode
      else return none) ((← get).rounds + 1) 0

/-- The body runs once for each value. -/
def runForEach (fuel : Nat) (runner : ProgramRunner) (mode : RunMode) (name : String)
    (values : List Octets) (body : Script) : ScriptM Unit := do
  match fuel with
  | 0 => throw .endless
  | fuel + 1 =>
    takeValues (fun value => do
      assignVariable name (some value) false
      goesOn (← attempt (runScript fuel runner { mode with isLast := false } body))) values

/-- The first branch with a pattern that matches runs. -/
def runBranches (fuel : Nat) (runner : ProgramRunner) (mode : RunMode) (text : List Char)
    (branches : List CaseBranch) : ScriptM Unit := do
  match fuel with
  | 0 => throw .endless
  | fuel + 1 =>
    match branches with
    | [] => setCode 0
    | .branch patterns body :: rest =>
      if ← matchesPattern fuel runner text patterns then
        match body with
        | some script => runScript fuel runner mode script
        | none => setCode 0
      else
        runBranches fuel runner mode text rest

def matchesPattern (fuel : Nat) (runner : ProgramRunner) (text : List Char)
    (patterns : List ScriptWord) : ScriptM Bool := do
  match fuel with
  | 0 => throw .endless
  | fuel + 1 =>
    match patterns with
    | [] => return false
    | word :: rest =>
      let pattern := (← expandSingle fuel (substituteCommand fuel runner) word).pattern
      if pattern.matches text then
        return true
      else
        matchesPattern fuel runner text rest

def expandWords (fuel : Nat) (runner : ProgramRunner) (words : List ScriptWord) :
    ScriptM (List Octets) := do
  match fuel with
  | 0 => throw .endless
  | fuel + 1 =>
    match words with
    | [] => return []
    | word :: rest =>
      let first ← expandWord fuel (substituteCommand fuel runner) word
      return first ++ (← expandWords fuel runner rest)

/-- The fields of the first words that give any, and the words behind them. -/
def expandFirst (fuel : Nat) (runner : ProgramRunner) (words : List ScriptWord) :
    ScriptM (List Octets × List ScriptWord) := do
  match fuel with
  | 0 => throw .endless
  | fuel + 1 =>
    match words with
    | [] => return ([], [])
    | word :: rest =>
      match ← expandWord fuel (substituteCommand fuel runner) word with
      | [] => expandFirst fuel runner rest
      | fields => return (fields, rest)

/-- The field with a number, for which more words may have to be expanded. -/
def takeField? (fuel : Nat) (runner : ProgramRunner) (number : Nat) (plan : CommandPlan) :
    ScriptM (Option Octets × CommandPlan) := do
  match fuel with
  | 0 => throw .endless
  | fuel + 1 =>
    if number < plan.fields.length then
      return (plan.fields[number]?, plan)
    else
      let (fields, words) ← expandFirst fuel runner plan.words
      return (fields.head?, { plan with fields := plan.fields ++ fields, words := words })

/-- The command that the first fields lead to. A word that only changes how a command is looked for
is skipped, with its options. -/
def planCommand (fuel : Nat) (runner : ProgramRunner) (plan : CommandPlan) :
    ScriptM CommandPlan := do
  match fuel with
  | 0 => throw .endless
  | fuel + 1 =>
    match plan.command with
    | [] => return plan
    | name :: _ =>
      let isFunction := plan.usesFunctions &&
        (← get).functions.any fun entry => entry.1 = name
      if isFunction || !isBuiltin name then
        return plan
      else if name = "command" then
        skipOptions fuel runner (plan.note name) (plan.skipped + 1)
      else
        return plan.note name

/-- The options behind a word that is skipped. With other options, or without a command, the word
stays. -/
def skipOptions (fuel : Nat) (runner : ProgramRunner) (plan : CommandPlan) (number : Nat) :
    ScriptM CommandPlan := do
  match fuel with
  | 0 => throw .endless
  | fuel + 1 =>
    let (field, longer) ← takeField? fuel runner number plan
    match field.map String.toList with
    | none => return longer
    | some ['-', '-'] =>
      let (next, longest) ← takeField? fuel runner (number + 1) longer
      if next.isNone then
        return longest
      else
        planCommand fuel runner { longest with skipped := number + 1, usesFunctions := false }
    | some ('-' :: letter :: letters) =>
      if (letter :: letters).all (· == 'p') then
        skipOptions fuel runner { longer with otherPath := some standardProgramPath } (number + 1)
      else
        return longer
    | some _ => planCommand fuel runner { longer with skipped := number, usesFunctions := false }

/-- The words behind the command. Behind some commands an assignment is one field. -/
def expandArguments (fuel : Nat) (runner : ProgramRunner) (keepsAssignments : Bool)
    (words : List ScriptWord) : ScriptM (List Octets) := do
  match fuel with
  | 0 => throw .endless
  | fuel + 1 =>
    match words with
    | [] => return []
    | word :: rest =>
      let fields ←
        if keepsAssignments && (assignedName? word).isSome then
          let (name, value) ← expandAssignment fuel (substituteCommand fuel runner) word
          pure [name ++ "=" ++ value]
        else
          expandWord fuel (substituteCommand fuel runner) word
      return fields ++ (← expandArguments fuel runner keepsAssignments rest)

def expandAssignments (fuel : Nat) (runner : ProgramRunner) (words : List ScriptWord)
    (store : String → Octets → ScriptM Unit) : ScriptM (List (String × Octets)) := do
  match fuel with
  | 0 => throw .endless
  | fuel + 1 =>
    match words with
    | [] => return []
    | word :: rest =>
      let (name, value) ← expandAssignment fuel (substituteCommand fuel runner) word
      store name value
      return (name, value) :: (← expandAssignments fuel runner rest store)

/-- The words of all redirections are expanded before the first is opened. -/
def expandRedirects (fuel : Nat) (runner : ProgramRunner) (redirects : List Redirect) :
    ScriptM (List OpenTarget) := do
  match fuel with
  | 0 => throw .endless
  | fuel + 1 =>
    match redirects with
    | [] => return []
    | redirect :: rest =>
      let target ←
        match redirect with
        | .file descriptor kind word =>
          let path ← expandSingle fuel (substituteCommand fuel runner) word
          pure (OpenTarget.file descriptor kind path.text)
        | .duplicate descriptor word =>
          let source ← expandSingle fuel (substituteCommand fuel runner) word
          copyTarget descriptor source.text
        | .document descriptor index =>
          pure (OpenTarget.document descriptor (((← get).documents.lookup index).getD []))
      return target :: (← expandRedirects fuel runner rest)

/-- The redirections are opened in order. A document is expanded when its turn comes. -/
def openTargets (fuel : Nat) (runner : ProgramRunner) (targets : List OpenTarget) :
    ScriptM Unit := do
  match fuel with
  | 0 => throw .endless
  | fuel + 1 =>
    match targets with
    | [] => return
    | target :: rest =>
      match target with
      | .file descriptor kind path => openFileTarget descriptor kind path
      | .copy descriptor source => copyDescriptor descriptor source
      | .close descriptor =>
        setAsideDescriptor descriptor true
        modify fun process => process.closeDescriptor descriptor
      | .document descriptor parts =>
        openText descriptor do
          let pieces ← expandParts fuel (substituteCommand fuel runner) .single false parts
          return (joinPieces pieces).text
      openTargets fuel runner rest

/-- A simple command expands its words, opens its redirections, assigns, and then runs a built-in
command, a function or a program. -/
def runSimple (fuel : Nat) (runner : ProgramRunner) (mode : RunMode) (line : Nat)
    (assignments words : List ScriptWord) (redirects : List Redirect) : ScriptM Unit := do
  match fuel with
  | 0 => throw .endless
  | fuel + 1 =>
    modify fun process => { process with line := line, substitutedCode := 0 }
    let (first, others) ← expandFirst fuel runner words
    let start ← planCommand fuel runner { fields := first, words := others }
    let arguments ← expandArguments fuel runner start.keepsAssignments start.words
    let plan := { start with fields := start.fields ++ arguments, words := [] }
    let whole : ScriptM Unit := do
      let targets ← expandRedirects fuel runner redirects
      let outer := (← get).stream? 2
      let opened : ScriptM Unit := do
        match ← attempt (openTargets fuel runner targets) with
        | some _ =>
          setCode 2
          if plan.isSpecial = some true then
            throw .fault
        | none => runPlan fuel runner mode outer assignments plan
      if plan.isExec then droppingDescriptors opened else keepingDescriptors opened
    if plan.assignmentsLast then whole else withFrame whole

/-- The assignments in front of a program, a function or an ordinary built-in command last only as
long as the command. The trace goes where the errors of the script go, not those of the command. -/
def runPlan (fuel : Nat) (runner : ProgramRunner) (mode : RunMode) (outer : Option StreamId)
    (assignments : List ScriptWord) (plan : CommandPlan) : ScriptM Unit := do
  match fuel with
  | 0 => throw .endless
  | fuel + 1 =>
    let exports := plan.isExec && 1 < plan.command.length
    let assigned ← expandAssignments fuel runner assignments fun name value =>
      if plan.assignmentsLast then assignVariable name (some value) exports
      else makeLocal true (name ++ "=" ++ value)
    let traced ← get
    if traced.hasOption .xtrace && !traced.isTracing then
      let mark ← expandMark fuel runner "PS4"
      outer.forM fun stream => do
        let _ ← writeStream stream (mark ++ traceText assigned plan.fields ++ "\n")
    match plan.command with
    | [] => setCode (← get).substitutedCode
    | name :: arguments =>
      runNamed fuel runner mode plan name arguments
      noticeEnds

/-- The mark in front of a traced command, or of a line that is asked for, is expanded like a
document. A fault in it is told, and then the mark stands for itself. A reader that has seen the end
of its text still sees it at the first command in the mark. -/
def expandMark (fuel : Nat) (runner : ProgramRunner) (name : String) : ScriptM Octets := do
  match fuel with
  | 0 => throw .endless
  | fuel + 1 =>
    let process ← get
    let text := (process.value? name).getD ""
    let start : ReaderState := {
      unread := text.toList
      isPushed := process.sawEnd
      kind := .value
      nextDocument := process.nextDocument
      aliases := process.aliases }
    let expand : ScriptM Octets := do
      match (readParts (16 * text.length + 64) .document [] false).run start with
      | .error fault =>
        set { process with line := fault.line, sawEnd := false }
        raise fault.text
      | .ok ((parts, _), after) =>
        set { process with
          isTracing := process.isTracing || name = "PS4"
          sawEnd := after.isPushed
          documents := after.documents ++ process.documents
          nextDocument := after.nextDocument }
        let pieces ← expandParts fuel (substituteCommand fuel runner) .single false parts.reverse
        return (joinPieces pieces).text
    let result ← recover expand text
    modify fun after => { after with
      isTracing := process.isTracing
      line := process.line
      lastCode := if name = "PS4" then process.lastCode else after.lastCode }
    return result

/-- A function comes before a built-in command, and that before a program. A fault in an ordinary
built-in command does not end the script. -/
def runNamed (fuel : Nat) (runner : ProgramRunner) (mode : RunMode) (plan : CommandPlan)
    (name : Octets) (arguments : List Octets) : ScriptM Unit := do
  match fuel with
  | 0 => throw .endless
  | fuel + 1 =>
    if plan.usesFunctions && plan.otherPath.isNone then
      loadFunction fuel runner name
    let process ← get
    let function := if plan.usesFunctions then process.functions.lookup name else none
    match function with
    | some (_, body) => runFunction fuel runner mode body arguments
    | none =>
      if isBuiltin name && (plan.otherPath.isSome || process.usesBuiltin name) then
        match ← attempt (runBuiltin fuel runner mode name arguments) with
        | some .fault => if plan.isSpecial = some true then throw .fault else setCode 2
        | result => result.forM throw
      else
        runProgramCommand runner (mode.isLast && !process.hasActions) plan.otherPath name
          arguments

/-- The file that defines a function is run when the function is first looked for. -/
def loadFunction (fuel : Nat) (runner : ProgramRunner) (name : Octets) : ScriptM Unit := do
  match fuel with
  | 0 => throw .endless
  | fuel + 1 =>
    let process ← get
    match process.functionFile? name with
    | none => return
    | some path =>
      let source ← openScript path
      let result ← attempt (runSource fuel runner { isFile := true } source)
      modify fun after => { after with openScripts := process.openScripts }
      match result with
      | none | some (.return _) =>
        if !(← get).functions.any fun entry => entry.1 = name then
          raise (name ++ " not defined in " ++ path)
      | other => other.forM throw

/-- A built-in command is named in its messages. -/
def runBuiltin (fuel : Nat) (runner : ProgramRunner) (mode : RunMode) (name : Octets)
    (arguments : List Octets) : ScriptM Unit := do
  match fuel with
  | 0 => throw .endless
  | fuel + 1 =>
    naming name do
      match name with
      | "eval" =>
        if arguments.isEmpty then
          setCode 0
        else
          runText fuel runner { isTested := mode.isTested } (String.intercalate " " arguments)
      | "." => runDot fuel runner arguments
      | "exec" =>
        match arguments with
        | [] => setCode 0
        | program :: _ =>
          let places := searchedPlaces (← get).searchPath program
          replaceProcess runner
            (if isPathName program then [program] else programPaths places) arguments
      | "command" =>
        let request ← readCommandRequest arguments
        let otherPath := if request.usesStandardPath then some standardProgramPath else none
        if request.isQuery then
          setCode (← describeCommands (loadFunction fuel runner) request.isVerbose otherPath
            (request.words.take 1))
        else
          setCode 0
      | "type" =>
        setCode (← describeCommands (loadFunction fuel runner) true none arguments)
      | "hash" => setCode (← trackCommand (loadFunction fuel runner) arguments)
      | _ =>
        match builtinCommand? name with
        | some command => setCode (← command arguments)
        | none => setCode 0

/-- A file is run by the process itself. -/
def runDot (fuel : Nat) (runner : ProgramRunner) (arguments : List Octets) : ScriptM Unit := do
  match fuel with
  | 0 => throw .endless
  | fuel + 1 =>
    let (_, words) ← takeOptions [] [] arguments
    match words with
    | [] => setCode 0
    | name :: _ =>
      let process ← get
      let path :=
        if name.toList.contains '/' then name
        else
          let places := (searchedPlaces process.searchPath name).filter fun place =>
            place.kind ≠ .builtins
          ((places.map SearchPlace.path).find? fun candidate =>
            (process.machine.node? (octetsPath candidate)).any Node.isRegular).getD ""
      if path = "" then
        raise (name ++ ": not found")
      else
        let source ← openScript path
        modify fun current => { current with running := some path }
        let result ← attempt (runSource fuel runner { isFile := true } source)
        modify fun current => { current with openScripts := process.openScripts }
        match result with
        | some (.return _) => return
        | other => other.forM throw

/-- A function has its own parameters and may have its own variables. -/
def runFunction (fuel : Nat) (runner : ProgramRunner) (mode : RunMode) (body : Script)
    (arguments : List Octets) : ScriptM Unit := do
  match fuel with
  | 0 => throw .endless
  | fuel + 1 =>
    let process ← get
    if maxFunctionDepth ≤ process.functionDepth then
      raise "Maximum function recursion depth (1000) reached"
    set { process with
      parameters := arguments
      optionPlace := {}
      functionDepth := process.functionDepth + 1
      loopDepth := 0 }
    let result ← attempt (runScript fuel runner { isTested := mode.isTested } body)
    modify fun after => { after with
      optionPlace := process.optionPlace
      parameters := process.parameters
      functionDepth := process.functionDepth
      loopDepth := process.loopDepth }
    match result with
    | some (.return _) => return
    | other => other.forM throw

/-- A text is read and run line by line. -/
def runText (fuel : Nat) (runner : ProgramRunner) (mode : RunMode) (text : Octets) :
    ScriptM Unit := do
  match fuel with
  | 0 => throw .endless
  | fuel + 1 => runReader fuel runner mode .nowhere text.toList

/-- A script is read from its source and run line by line. -/
def runSource (fuel : Nat) (runner : ProgramRunner) (mode : RunMode) (source : ScriptSource) :
    ScriptM Unit := do
  match fuel with
  | 0 => throw .endless
  | fuel + 1 => runReader fuel runner mode source []

def runReader (fuel : Nat) (runner : ProgramRunner) (mode : RunMode) (source : ScriptSource)
    (text : List Char) : ScriptM Unit := do
  match fuel with
  | 0 => throw .endless
  | fuel + 1 =>
    let process ← get
    let result ← attempt (runUnits fuel runner mode source true false
      { unread := text, nextDocument := process.nextDocument })
    modify fun after => { after with readerLine := process.readerLine }
    result.forM throw

/-- Whoever the process talks to is asked for lines. -/
def askForLines (fuel : Nat) (runner : ProgramRunner) (mode : RunMode) (name : String)
    (count : Nat) : ScriptM Unit := do
  match fuel, count with
  | 0, _ => throw .endless
  | _, 0 => return
  | fuel + 1, count + 1 =>
    if mode.isBase && (← get).isTalking then
      writeErrors (← expandMark fuel runner name)
      askForLines fuel runner mode name count

/-- A text is shown as far as it was read before each further line was asked for. -/
def showLines (fuel : Nat) (runner : ProgramRunner) (mode : RunMode) (asked : Nat)
    (text : List Char) : ScriptM Unit := do
  match fuel, asked with
  | 0, _ => throw .endless
  | _, 0 => showText mode text
  | fuel + 1, count + 1 =>
    if mode.isBase && (← get).isTalking then
      let line := takeLines 1 text
      showText mode line
      askForLines fuel runner mode "PS2" 1
      showLines fuel runner mode count (text.drop line.length)
    else
      showText mode text

/-- At the end of its text a process that ignores the end goes on for a while. -/
def endUnits (fuel : Nat) (runner : ProgramRunner) (mode : RunMode) (count : Nat) :
    ScriptM Unit := do
  match fuel with
  | 0 => throw .endless
  | fuel + 1 =>
    if mode.isBase then
      if (← get).hasOption .ignoreeof then
        match count with
        | 0 => return
        | count + 1 =>
          writeErrors "\nUse \"exit\" to leave shell.\n"
          askForLines fuel runner mode "PS1" 1
          endUnits fuel runner mode count
      else if (← get).isTalking then
        writeErrors "\n"

/-- A text without a command has the code zero. More text is read only when it is needed. -/
def runUnits (fuel : Nat) (runner : ProgramRunner) (mode : RunMode) (source : ScriptSource)
    (isEmpty isAsked : Bool) (state : ReaderState) : ScriptM Unit := do
  match fuel with
  | 0 => throw .endless
  | fuel + 1 =>
    giveTurn
    if !isAsked then
      askForLines fuel runner mode "PS1" 1
    let result := readUnit { state with aliases := (← get).aliases }
    if source.isOpen && needsMore result then
      match ← readScript source with
      | [] => runUnits fuel runner mode .nowhere isEmpty true state
      | block =>
        runUnits fuel runner mode source isEmpty true
          { state with unread := state.unread ++ withoutZeros block }
    else
      match result with
      | .error fault =>
        showLines fuel runner mode fault.asked
          (takeLines (fault.line + 1 - state.line) state.unread)
        modify fun process => { process with line := fault.line, readerLine := fault.line }
        raise fault.text
      | .ok (unit, after) =>
        showLines fuel runner mode after.asked
          (state.unread.take (state.unread.length - after.unread.length))
        modify fun process => { process with
          documents := after.documents ++ process.documents
          nextDocument := after.nextDocument
          readerLine := after.line
          childLine := if mode.isBase then after.line else process.childLine
          sawEnd := after.isPushed }
        let next := { after with documents := [] }
        match unit with
        | .endOfText =>
          if isEmpty then setCode 0
          endUnits fuel runner mode maxEndSigns
        | .blankLine => runUnits fuel runner mode source isEmpty false next
        | .script script =>
          runScript fuel runner mode script
          runUnits fuel runner mode source false false next
end

/-- The mode in which a script runs that is not a part of another one. -/
def RunMode.base : RunMode := { isFile := true, isBase := true }

/-- A process that talks to somebody goes on with its source when a command is cut short. What was
read of it before is lost. -/
def goOn (fuel : Nat) (runner : ProgramRunner) (source : ScriptSource) (line : Nat)
    (result : Option Interruption) : ScriptM Unit := do
  match fuel, result with
  | 0, _ => throw .endless
  | _, none => return
  | fuel + 1, some cause =>
    let process ← get
    if (cause = .fault || cause = .called) && process.isTalking then
      if cause = .called then
        writeErrors "\n"
      modify fun after => { after with functionDepth := 0, loopDepth := 0, running := none }
      let next ← attempt (runUnits fuel runner .base source false false
        { unread := [], line := line, nextDocument := process.nextDocument })
      goOn fuel runner source (← get).readerLine next
    else
      throw cause

/-- A script is read to its end. -/
def runBase (fuel : Nat) (runner : ProgramRunner) (source : ScriptSource) : ScriptM Unit := do
  let result ← attempt (runUnits fuel runner .base source true false { unread := [] })
  goOn fuel runner source (← get).readerLine result

/-- Somebody who talks to a process may have a file with commands for its start. -/
def runStartFile (fuel : Nat) (runner : ProgramRunner) : ScriptM Unit := do
  let process ← get
  if process.isTalking && (process.value? "ENV").any (· ≠ "") then
    let path ← expandMark fuel runner "ENV"
    if ((← get).openTarget path { reads := true }).toOption.isSome then
      match ← attempt (do runSource fuel runner { isFile := true } (← openScript path)) with
      | some (.exit ending) => throw (.exit ending)
      | _ => modify fun after => { after with openScripts := process.openScripts }

end ChainShell
