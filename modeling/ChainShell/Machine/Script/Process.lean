/-
This file holds the state of a process that runs a script, and the ways in which the run of a
command can be cut short.
-/

import ChainShell.Machine.Activity
import ChainShell.Machine.Script.Alias
import ChainShell.Machine.Script.Grammar
import ChainShell.Machine.Script.Job
import ChainShell.Machine.Script.Number
import ChainShell.Machine.Script.Option
import ChainShell.Machine.Script.ParameterOption
import ChainShell.Machine.Script.Tracked

namespace ChainShell

/-- A variable may be known without a value. -/
structure ScriptVariable where
  name : String
  value : Option Octets
  isExported : Bool := false
  isReadOnly : Bool := false

/-- What comes back when a command is over. -/
inductive SavedSetting where
  | value (name : String) (old : Option ScriptVariable)
  | options (old : ScriptOptions)

/-- The state of a process that runs a script. -/
structure ScriptProcess where
  machine : Machine
  /-- What each descriptor leads to. -/
  descriptors : List (Nat × StreamId)
  name : Octets
  parameters : List Octets
  vars : List ScriptVariable
  /-- A function has the line on which it starts. -/
  functions : List (String × Nat × Script) := []
  aliases : AliasTable := []
  tracked : TrackedPrograms := []
  /-- The place of the next option among the parameters. -/
  optionPlace : OptionPlace := {}
  /-- The texts in the script that commands read, by number. -/
  documents : List (Nat × ScriptWord) := []
  nextDocument : Nat := 0
  /-- The built-in command that runs. -/
  running : Option Octets := none
  line : Nat := 0
  /-- The line that the reader of the script has come to. -/
  readerLine : Nat := 1
  /-- The line that a child believes its reader has come to. -/
  childLine : Nat := 1
  /-- The reader has seen the end of its text. -/
  sawEnd : Bool := false
  lastCode : Nat := 0
  /-- The code from before an action for a signal, while the action runs. -/
  savedCode : Option Nat := none
  options : ScriptOptions := []
  traps : List (Nat × Octets) := []
  /-- The signals that the process ignores whatever its actions are. -/
  ignored : List Nat := []
  /-- Signals from the process itself that wait for their action. -/
  signals : List Nat := []
  /-- Signals that have been seen, with actions that are still to run. -/
  taken : List Nat := []
  /-- The current directory as the process was led to it. -/
  directoryText : Octets := ""
  /-- The current directory without links, as it was when the process last asked for it. -/
  physicalText : Option Octets := none
  /-- What the running commands put aside, the innermost command first. -/
  locals : List (List SavedSetting) := []
  /-- The number of functions that run inside each other. -/
  functionDepth : Nat := 0
  loopDepth : Nat := 0
  /-- The number of loop rounds that the process may still run. -/
  rounds : Nat := 1000000000
  /-- The mark of the trace is being expanded. -/
  isTracing : Bool := false
  /-- What the redirections that are open have set aside, the innermost first. -/
  redirections : List (List (Nat × Option StreamId)) := []
  /-- The descriptors that a redirection, or its end, has closed. -/
  closed : List Nat := []
  /-- Streams that the process keeps for later. -/
  setAside : List StreamId := []
  /-- The number of files that the process reads scripts from. -/
  openScripts : Nat := 0
  /-- The number of the process that the script started in. -/
  mainProcess : Nat
  jobs : ScriptJobs := []
  waiting : Waiting := .nothing
  /-- The number of the last process in the background. -/
  lastJob : Option Nat := none
  /-- The code of the last command that a word was replaced by. -/
  substitutedCode : Nat := 0

/-- What cuts the run of a command short. -/
inductive Interruption where
  /-- A fault that was already reported. -/
  | fault
  | exit (ending : Ending)
  | leave (loops : Nat) (continues : Bool)
  /-- The flag tells that a code was given. -/
  | return (hasCode : Bool)
  /-- The command goes too deep or does not end. -/
  | endless
  /-- A signal takes the process back to whoever it talks to. -/
  | called
  deriving DecidableEq, Repr

/-- The action for a signal, unless the process ignores it or has none. -/
def ScriptProcess.action? (process : ScriptProcess) (signal : Nat) : Option Octets :=
  if process.ignored.contains signal then none
  else (process.traps.lookup signal).filter fun action => action ≠ ""

/-- The process talks to somebody, and its children do not. -/
def ScriptProcess.isTalking (process : ScriptProcess) : Bool :=
  process.options.contains .interactive && process.machine.self = process.mainProcess

/-- The signals that the process ignores, be it by an empty action, and its programs too. -/
def ScriptProcess.inheritedSignals (process : ScriptProcess) : List Nat :=
  process.ignored ++ process.traps.filterMap fun entry =>
    if entry.2 = "" then some entry.1 else none

/-- All signals that the process ignores. Somebody who talks to it does not end it by chance. -/
def ScriptProcess.ignoredSignals (process : ScriptProcess) : List Nat :=
  process.inheritedSignals ++
    (if process.isTalking then
      [quitSignal, terminateSignal].filter fun signal => (process.traps.lookup signal).isNone
    else [])

instance : ProcessState ScriptProcess where
  machine := ScriptProcess.machine
  setMachine process machine := { process with machine := machine }
  conduct process :=
    { streams := process.descriptors.map Prod.snd ++ process.setAside
      caught := process.traps.filterMap fun entry =>
        if (process.action? entry.1).isSome then some entry.1 else none
      ignored := process.ignoredSignals
      waiting := process.waiting }

/-- A step of a script. What it did before it was cut short is kept. -/
abbrev ScriptM := ActivityM Interruption ScriptProcess

def ScriptVariable.find? (vars : List ScriptVariable) (name : String) : Option ScriptVariable :=
  vars.find? fun entry => entry.name = name

/-- The variable takes the place of the one with its name. -/
def ScriptVariable.store (vars : List ScriptVariable) (entry : ScriptVariable) :
    List ScriptVariable :=
  if vars.any fun other => other.name = entry.name then
    vars.map fun other => if other.name = entry.name then entry else other
  else
    vars ++ [entry]

/-- The shell itself knows these variables, even when they are unset. -/
def lastingVariables : List String :=
  ["IFS", "MAIL", "MAILPATH", "PATH", "PS1", "PS2", "PS4", "OPTIND"]

/-- A variable that the shell knows by itself keeps its flags without a value. -/
def ScriptVariable.unset (vars : List ScriptVariable) (name : String) : List ScriptVariable :=
  match vars.find? fun entry => entry.name = name && lastingVariables.contains name with
  | some entry => ScriptVariable.store vars { entry with value := none }
  | none => vars.filter fun entry => entry.name ≠ name

namespace ScriptProcess

def stored? (process : ScriptProcess) (name : String) : Option ScriptVariable :=
  ScriptVariable.find? process.vars name

def value? (process : ScriptProcess) (name : String) : Option Octets :=
  (process.stored? name).bind ScriptVariable.value

def hasOption (process : ScriptProcess) (option : ScriptOption) : Bool :=
  process.options.contains option

/-- The characters that separate fields. -/
def fieldSeparators (process : ScriptProcess) : List Char :=
  ((process.value? "IFS").getD " \t\n").toList

/-- The variables that a program gets. -/
def programVariables (process : ScriptProcess) : ProcessVariables :=
  process.vars.filterMap fun entry =>
    if entry.isExported then entry.value.map fun value => (entry.name, value) else none

def stream? (process : ScriptProcess) (descriptor : Nat) : Option StreamId :=
  process.descriptors.lookup descriptor

def setDescriptor (process : ScriptProcess) (descriptor : Nat) (stream : StreamId) :
    ScriptProcess :=
  { process with descriptors :=
    (descriptor, stream) :: process.descriptors.filter fun entry => entry.1 ≠ descriptor }

def closeDescriptor (process : ScriptProcess) (descriptor : Nat) : ScriptProcess :=
  { process with descriptors := process.descriptors.filter fun entry => entry.1 ≠ descriptor }

/-- Descriptors from this one on are those of the process itself. -/
def firstOwnDescriptor : Nat := 10

/-- The first descriptor that the process has free for itself. -/
def ownDescriptor (process : ScriptProcess) : Nat :=
  firstOwnDescriptor + process.setAside.length + process.openScripts

/-- The first descriptors that are free. -/
def freeDescriptors (process : ScriptProcess) : List Nat :=
  ((List.range firstOwnDescriptor).filter fun number => (process.stream? number).isNone) ++
    [process.ownDescriptor, process.ownDescriptor + 1]

/-- The process may have a descriptor with the number. -/
def mayUse (process : ScriptProcess) (number : Nat) : Bool :=
  isWithin (descriptorLimit process.machine.limits) number

/-- The process may open so many files more. -/
def mayOpen (process : ScriptProcess) (count : Nat) : Bool :=
  (process.freeDescriptors.take count).all process.mayUse

/-- The cause for which a descriptor cannot be set aside. -/
def saveFault? (process : ScriptProcess) : Option OsError :=
  if !process.mayUse firstOwnDescriptor then some .invalidArgument
  else if !process.mayUse process.ownDescriptor then some .tooManyFiles
  else none

/-- The working directory without links. -/
def physicalDirectory (process : ScriptProcess) : Option Octets :=
  (process.machine.tree.directoryPath process.machine.directory).toOption.map fun path =>
    octetsOfText path.text

end ScriptProcess

/-- A signal to the process itself waits for its action, is ignored, or ends the process. -/
def receiveSignal (signal : Nat) : ScriptM Unit := do
  let process ← get
  if signal = 0 then
    return
  else if signalIsFixed signal && signalEnds signal then
    throw (.exit (.signaled signal))
  else if (process.action? signal).isSome then
    modify fun after => { after with signals := after.signals ++ [signal] }
  else if !process.ignoredSignals.contains signal && signalEnds signal then
    if process.isTalking && signal = interruptSignal then
      set { process with lastCode := 128 + signal }
      throw .called
    else
      throw (.exit (.signaled signal))

/-- The signals that wait for their action, those of other processes included. -/
def ScriptProcess.waitingSignals (process : ScriptProcess) : List Nat :=
  process.signals ++
    ((process.machine.processes.find? process.machine.self).map ProcessEntry.signals).getD []

/-- The signal waits no more. -/
def ScriptProcess.withoutSignal (process : ScriptProcess) (signal : Nat) : ScriptProcess :=
  { process with
    signals := process.signals.filter fun other => other ≠ signal
    taken := process.taken.filter fun other => other ≠ signal
    machine.processes := process.machine.processes.change process.machine.self fun entry =>
      { entry with signals := entry.signals.filter fun other => other ≠ signal } }

/-- The signals that have come are seen all at once. The answer tells whether there are any. -/
def takeSignals : ScriptM Bool := do
  let process ← get
  let waiting := process.waitingSignals
  let after := waiting.foldl ScriptProcess.withoutSignal process
  set { after with taken := process.taken ++ waiting }
  return !waiting.isEmpty

/-- The next signal in the order of the numbers, from a number on. -/
def ScriptProcess.nextSignal? (process : ScriptProcess) (least : Nat) : Option Nat :=
  (List.range' least (signalCount - least)).find? fun signal =>
    process.taken.contains signal || process.waitingSignals.contains signal

/-- Actions that were left out run later if one with a higher number is among them. -/
def ScriptProcess.leaveSignals (process : ScriptProcess) (signal : Nat) : ScriptProcess :=
  if process.taken.any fun other => signal < other then
    { process with signals := process.signals ++ process.taken, taken := [] }
  else
    process

/-- The answer tells whether the stream took the text. A signal may come with a failure. -/
def writeStream (stream : StreamId) (octets : Octets) : ScriptM Bool := do
  match ← writeAll stream octets with
  | none => return true
  | some cause =>
    (writeSignal? cause).forM receiveSignal
    return false

def writeDescriptor (descriptor : Nat) (octets : Octets) : ScriptM Bool := do
  if octets = "" then
    return true
  else
    match (← get).stream? descriptor with
    | none => return false
    | some stream => writeStream stream octets

/-- Standard error takes the text. -/
def writeErrors (octets : Octets) : ScriptM Unit := do
  let _ ← writeDescriptor 2 octets

/-- A message names the script, the line and the built-in command that has the fault. -/
def complain (text : Octets) : ScriptM Unit := do
  let process ← get
  let number := toString process.line
  let source :=
    match process.running with
    | some name => name ++ ": "
    | none => ""
  writeErrors (process.name ++ ": " ++ number ++ ": " ++ source ++ text ++ "\n")

/-- A fault is reported and cuts the command short. -/
def raise {α : Type} (text : Octets) : ScriptM α := do
  complain text
  modify fun process => { process with lastCode := 2 }
  throw .fault

def liftFault {α : Type} : Except String α → ScriptM α
  | .ok value => return value
  | .error text => raise text

/-- Some variables say more than their value. A new search path makes the script forget where its
programs were, and a number for the next option tells where to look for it. -/
def noticeAssignment (name : String) (value : Octets) : ScriptM Unit := do
  if name = "PATH" then
    modify fun process => { process with tracked := [] }
  else if name = "OPTIND" then
    let number ← liftFault (smallNumber value)
    modify fun process => { process with optionPlace := ⟨max number 1, none⟩ }

/-- A new value. Read-only variables refuse it. -/
def assignVariable (name : String) (value : Option Octets) (exports : Bool) : ScriptM Unit := do
  let process ← get
  let old := (process.stored? name).getD ⟨name, none, false, false⟩
  if old.isReadOnly then
    raise (name ++ ": is read only")
  else
    noticeAssignment name (value.getD "")
    modify fun current =>
      let exported := old.isExported || exports || current.hasOption .allexport
      let changed := { old with value := value, isExported := exported }
      { current with vars := ScriptVariable.store current.vars changed }

/-- The name of a variable ends in front of an equals sign. What is no variable name is refused. -/
def checkedName (text : Octets) : ScriptM String := do
  let name := String.ofList (text.toList.takeWhile (· != '='))
  if isVariableName name then return name else raise (name ++ ": bad variable name")

def assignChecked (text : Octets) (value : Option Octets) (exports : Bool) : ScriptM Unit := do
  assignVariable (← checkedName text) value exports

/-- The messages of the action name the command that runs. -/
def naming {α : Type} (name : Octets) (action : ScriptM α) : ScriptM α := do
  let before := (← get).running
  modify fun process => { process with running := some name }
  action.ensuring fun process => { process with running := before }

/-- A redirection tells whether it opens or closes a descriptor. -/
def ScriptProcess.noteClosed (process : ScriptProcess) (number : Nat) (isClosed : Bool) :
    ScriptProcess :=
  let others := process.closed.filter (· ≠ number)
  { process with closed := if isClosed then number :: others else others }

/-- What a descriptor leads to is set aside, once, and the descriptor is closed. A descriptor that a
redirection has closed has nothing to set aside, even if it leads to a pipe since then. -/
def setAsideDescriptor (number : Nat) (isClosing : Bool) : ScriptM Unit := do
  let before ← get
  match before.redirections with
  | [] => return
  | saved :: others =>
    let process := before.noteClosed number isClosing
    if saved.any fun entry => entry.1 = number then
      set process
    else
      match (process.stream? number).filter fun _ => !before.closed.contains number with
      | none => set { process with redirections := ((number, none) :: saved) :: others }
      | some stream =>
        match process.saveFault? with
        | none =>
          set { process.closeDescriptor number with
            redirections := ((number, some stream) :: saved) :: others
            setAside := stream :: process.setAside }
        | some cause =>
          set (process.closeDescriptor number)
          let name := toString number
          raise (name ++ ": " ++ cause.reason)

/-- The descriptors that were set aside last come back, unless they are dropped. -/
def ScriptProcess.endRedirection (process : ScriptProcess) (isDropped : Bool)
    (setAside : List StreamId) : ScriptProcess :=
  let restored :=
    if isDropped then process
    else
      (process.redirections.headD []).foldl (fun current entry =>
        let noted := current.noteClosed entry.1 entry.2.isNone
        match entry.2 with
        | some stream => noted.setDescriptor entry.1 stream
        | none =>
          if current.closed.contains entry.1 then noted else noted.closeDescriptor entry.1) process
  { restored with redirections := process.redirections.drop 1, setAside := setAside }

/-- The descriptors that the action sets aside come back when it is over. -/
def keepingDescriptors {α : Type} (action : ScriptM α) : ScriptM α := do
  let before ← get
  set { before with redirections := [] :: before.redirections }
  action.ensuring fun process => process.endRedirection false before.setAside

/-- The action may have given up the descriptors that were set aside. -/
def droppingDescriptors {α : Type} (action : ScriptM α) : ScriptM α := do
  let before ← get
  set { before with redirections := [] :: before.redirections }
  action.ensuring fun process => process.endRedirection true before.setAside

/-- The script learns which of its jobs are over. -/
def noticeEnds : ScriptM Unit :=
  modify fun process =>
    let (jobs, processes) := process.jobs.notice process.machine.processes
    { process with jobs := jobs, machine.processes := processes }

/-- The process claims a place for a child in the foreground. -/
def claimPlace : ScriptM Unit :=
  modify fun process => { process with jobs := process.jobs.claim.2 }

/-- The process waits until the machine is ready. -/
def waitFor (waiting : Waiting) (isReady : Machine → Bool) : ScriptM Unit := do
  modify fun process => { process with waiting := waiting }
  pauseUntil isReady
  modify fun process => { process with waiting := .nothing }

/-- An interrupt that came while the process waited for a child takes effect. -/
def takeInterrupt : ScriptM Unit := do
  let process ← get
  let isDue := process.waitingSignals.contains interruptSignal
  if isDue && (process.action? interruptSignal).isNone then
    set (process.withoutSignal interruptSignal)
    receiveSignal interruptSignal

/-- The process waits for a child, and learns of all jobs that end in the meantime. A process that
reads its script from standard input does not put off an interrupt. -/
def awaitChild (number : Nat) : ScriptM Ending := do
  let readsInput := (← get).options.contains .stdin
  waitFor (if readsInput then .nothing else .child) fun machine => !machine.processes.isAlive number
  takeInterrupt
  let process ← get
  let ending := (process.machine.processes.find? number).bind ProcessEntry.ending
  set { process with machine.processes := process.machine.processes.erase number }
  noticeEnds
  return ending.getD (exitEnding 0)

end ChainShell
