/-
This file finds and starts programs for scripts, and opens their redirections.
-/

import ChainShell.Machine.Descriptor
import ChainShell.Machine.Script.Builtin

namespace ChainShell

/-- What a program gets from the process that starts it. -/
structure ProgramStart where
  path : Path
  argv : List Octets
  vars : ProcessVariables
  descriptors : List (Nat × StreamId)
  /-- The signals that the program ignores from its start. -/
  ignored : List Nat

/-- A program outside the script. -/
abbrev ProgramRunner := Machine → ProgramStart → Except OsError (Machine → Activity)

/-- A program that cannot be reached and one that cannot be run have different codes. -/
def startFaultCode (cause : OsError) : Nat :=
  if [OsError.notFound, .notDirectory, .nameTooLong, .tooManyLinks].contains cause then 127
  else 126

def openFault (cause : OsError) : String :=
  if cause = .notFound || cause = .notDirectory then "No such file" else cause.reason

def createFault (cause : OsError) : String :=
  if cause = .notFound || cause = .notDirectory then "Directory nonexistent" else cause.reason

/-- The shell that runs files without an interpreter. -/
def fallbackShell : Octets := "/bin/sh"

/-- A file of no known format is given to the shell, which must be able to read it. -/
def ScriptProcess.startFile (process : ScriptProcess) (runner : ProgramRunner) (path : Octets)
    (argv : List Octets) : Except OsError (Machine → Activity) :=
  let start (program : Octets) (words : List Octets) : Except OsError (Machine → Activity) :=
    runner process.machine
      { path := octetsPath program
        argv := words
        vars := process.programVariables
        descriptors := process.descriptors
        ignored := process.inheritedSignals }
  match start path argv with
  | .error .execFormat =>
    match process.machine.openFile (octetsPath path) { reads := true } with
    | .error cause => .error cause
    | .ok _ => start fallbackShell (fallbackShell :: path :: argv.drop 1)
  | other => other

/-- The first file that can be started is started. A file that is missing does not count as a
cause. -/
def ScriptProcess.startFirst (process : ScriptProcess) (runner : ProgramRunner)
    (argv : List Octets) (cause : OsError) : List Octets → Except OsError (Machine → Activity)
  | [] => .error cause
  | path :: rest =>
    match process.startFile runner path argv with
    | .ok program => .ok program
    | .error .notFound | .error .notDirectory => process.startFirst runner argv cause rest
    | .error later => process.startFirst runner argv later rest

/-- What others see of a program that the process starts. -/
def ScriptProcess.programConduct (process : ScriptProcess) : Conduct :=
  { streams := process.descriptors.map Prod.snd, ignored := process.inheritedSignals }

/-- A child that a signal ended is named, but not if it was an interrupt or a broken pipe. -/
def reportEnding (ending : Ending) : ScriptM Unit :=
  match ending with
  | .signaled signal =>
    if signal = 2 || signal = 13 then return else writeErrors (signalText signal ++ "\n")
  | .exited _ => return

/-- A program that does not start gives its code to the command. -/
def refuseProgram (name : Octets) (cause : OsError) : ScriptM Unit := do
  complain (name ++ ": " ++ startFault cause)
  modify fun process => { process with lastCode := startFaultCode cause }

/-- The process becomes the first program that can be started, or it ends. -/
def replaceProcess (runner : ProgramRunner) (paths : List Octets) (argv : List Octets) :
    ScriptM Unit := do
  match (← get).startFirst runner argv .notFound paths with
  | .ok program => becomeProgram program
  | .error cause =>
    refuseProgram (argv.headD "") cause
    throw (.exit (exitEnding (startFaultCode cause)))

/-- There must be room for a new process. -/
def checkFork : ScriptM Unit := do
  let machine := (← get).machine
  let count := (machine.processes.filter ProcessEntry.isAlive).length + 1
  if !isWithin (processLimit machine.limits) count then
    raise "Cannot fork"

/-- The first program that can be started runs in a child, which the process waits for. -/
def runInForeground (runner : ProgramRunner) (paths : List Octets) (argv : List Octets) :
    ScriptM Unit := do
  let process ← get
  match process.startFirst runner argv .notFound paths with
  | .error cause => refuseProgram (argv.headD "") cause
  | .ok program =>
    checkFork
    let number ← forkProcess process.programConduct (loadProgram program)
    let ending ← awaitChild number
    reportEnding ending
    modify fun after => { after with lastCode := ending.scriptCode }

/-- A program is looked for and started. Only its own search path is remembered. -/
def runProgramCommand (runner : ProgramRunner) (isLast : Bool) (otherPath : Option Octets)
    (name : Octets) (arguments : List Octets) : ScriptM Unit := do
  let found : Except OsError (List Octets) ←
    if isPathName name then
      pure (.ok [name])
    else
      match otherPath with
      | some searchPath =>
        pure (((← get).machine.findProgram searchPath name).map fun place =>
          programPaths ((searchedPlaces searchPath name).drop place))
      | none => do
        let place ← trackProgram name
        let places := searchedPlaces (← get).searchPath name
        pure (place.map fun number => programPaths (places.drop number))
  match found with
  | .error cause =>
    complain (name ++ ": " ++ startFault cause)
    modify fun after => { after with lastCode := 127 }
  | .ok paths =>
    if isLast then
      replaceProcess runner paths (name :: arguments)
    else
      claimPlace
      runInForeground runner paths (name :: arguments)

/-- How a redirection opens its file. -/
def RedirectKind.request : RedirectKind → OpenRequest
  | .read => { reads := true }
  | .write | .clobber => { writes := true, creates := true, truncates := true }
  | .append => { writes := true, creates := true, appends := true }
  | .readWrite => { reads := true, writes := true, creates := true }

/-- A redirection whose words are expanded, but not those of a document. -/
inductive OpenTarget where
  | file (descriptor : Nat) (kind : RedirectKind) (path : Octets)
  | copy (descriptor source : Nat)
  | close (descriptor : Nat)
  | document (descriptor : Nat) (parts : ScriptWord)

/-- The source of a copied descriptor is a digit, and a dash closes the descriptor. -/
def copyTarget (descriptor : Nat) (source : Octets) : ScriptM OpenTarget :=
  match source.toList with
  | ['-'] => return .close descriptor
  | [digit] =>
    if digit.isDigit then return .copy descriptor (digit.toNat - '0'.toNat) else refuse
  | _ => refuse
where
  /-- The fault belongs to the line that the reader has come to. -/
  refuse : ScriptM OpenTarget := do
    modify fun process => { process with line := process.readerLine }
    raise "Syntax error: Bad fd number"

/-- How a file is opened, or a fault without an attempt. Existing files may be protected from being
written. Then only what is no file is written as it is, and nothing is created through a link. -/
def ScriptProcess.openRequest (process : ScriptProcess) (kind : RedirectKind) (path : Octets) :
    Except OsError OpenRequest :=
  if kind = .write && process.hasOption .noclobber then
    match process.machine.node? (octetsPath path) with
    | some node => if node.isRegular then .error .fileExists else .ok { writes := true }
    | none =>
      let machine := process.machine
      if (machine.tree.locate machine.directory false (octetsPath path)).toBool then
        .error .fileExists
      else
        .ok kind.request
  else
    .ok kind.request

/-- A descriptor leads to a stream that was opened for it. A descriptor that the process may not
have is left as it is. -/
def connectDescriptor (descriptor : Nat) (stream : StreamId) : ScriptM Unit := do
  let process ← get
  let opened := process.freeDescriptors.headD 0
  match ← (setAsideDescriptor descriptor false).attempt with
  | none => pure ()
  | some cause =>
    modify fun after => after.setDescriptor opened stream
    throw cause
  modify fun after =>
    if after.mayUse descriptor then after.setDescriptor descriptor stream else after

/-- A file can be opened only if a descriptor is free for it. -/
def ScriptProcess.openTarget (process : ScriptProcess) (path : Octets) (request : OpenRequest) :
    Except OsError (StreamId × Machine) :=
  if process.mayOpen 1 then process.machine.openPath process.descriptors path request
  else .error .tooManyFiles

/-- A text is read from a pipe. Both ends of the pipe are open while the text is expanded, so
commands in it may write in front of it. -/
def openText (descriptor : Nat) (expand : ScriptM Octets) : ScriptM Unit := do
  let process ← get
  if !process.mayOpen 2 then
    raise "Pipe call failed"
  let ends := process.freeDescriptors.take 2
  let (reading, writing, machine) := process.machine.openPipe
  let opened := (ends.zip [reading, writing]).foldl
    (fun current entry => current.setDescriptor entry.1 entry.2) { process with machine := machine }
  set opened
  let octets ← expand
  let after := ends.foldl ScriptProcess.closeDescriptor (← get)
  let text := after.machine.pendingOctets reading ++ octets.toList
  let (stream, filled) := after.machine.openStream (.unread text)
  set { after with machine := filled }
  connectDescriptor descriptor stream

/-- A copy of a descriptor to itself is nothing. -/
def copyDescriptor (descriptor source : Nat) : ScriptM Unit := do
  if descriptor ≠ source then
    setAsideDescriptor descriptor false
    let process ← get
    match process.stream? source with
    | some stream =>
      if process.mayUse descriptor then set (process.setDescriptor descriptor stream) else refuse
    | none => refuse
where
  refuse : ScriptM Unit := do
    let number := toString source
    raise (number ++ ": " ++ OsError.badDescriptor.reason)

/-- The file of a redirection. -/
def openFileTarget (descriptor : Nat) (kind : RedirectKind) (path : Octets) : ScriptM Unit := do
  let process ← get
  let request := process.openRequest kind path
  let creates := request.toOption.all OpenRequest.creates
  match request.bind (process.openTarget path) with
  | .ok (stream, machine) =>
    set { process with machine := machine }
    connectDescriptor descriptor stream
  | .error cause =>
    raise ((if creates then "cannot create " else "cannot open ") ++ path ++ ": " ++
      (if creates then createFault cause else openFault cause))

end ChainShell
