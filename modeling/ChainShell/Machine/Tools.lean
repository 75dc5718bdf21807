/-
This file starts the programs of a machine: the script shell and the utilities.
-/

import ChainShell.Machine.Script.Run
import ChainShell.Machine.Utility.ChangeMode
import ChainShell.Machine.Utility.Copy
import ChainShell.Machine.Utility.Move
import ChainShell.Machine.Utility.Remove
import ChainShell.Machine.Utility.Text

namespace ChainShell

/-- What a started program gets: its arguments, its variables and its open streams. -/
structure ToolStart where
  argv : List Octets
  vars : ProcessVariables
  descriptors : List (Nat × StreamId)
  /-- The signals that the program ignores from its start. -/
  ignored : List Nat := []

/-- The utilities that move, copy and remove files ask questions. -/
def runUtility (utility : Utility) (start : ToolStart) (machine : Machine) : Activity :=
  let state : UtilityState :=
    { name := start.argv.headD ""
      vars := start.vars
      machine := machine
      descriptors := start.descriptors
      ignored := start.ignored }
  let arguments := start.argv.drop 1
  match utility with
  | .move => state.run true (runMove arguments)
  | .copy => state.run true (runCopy arguments)
  | .remove => state.run true (runRemove arguments)
  | .removeDirectory => state.run false (runRemoveDirectory arguments)
  | .changeMode => state.run false (runChangeMode arguments)
  | .echo => state.run false (runEcho arguments)
  | .concatenate => state.run false (runConcatenate arguments)
  | .succeed => .ended machine (exitEnding 0)
  | .fail => .ended machine (exitEnding 1)

/-- A script shell takes over the variables that have a valid name. A name ends at the first equals
sign, wherever it was thought to end. -/
def inheritedScriptVariables (vars : ProcessVariables) : List ScriptVariable :=
  (vars.map fun entry => splitAssignment (entry.1 ++ "=" ++ entry.2)).foldl
    (fun known entry =>
      if isVariableName entry.1 then
        ScriptVariable.store known ⟨entry.1, entry.2, true, false⟩
      else known) []

/-- The variables that a script shell gives itself when they are missing. -/
def scriptDefaults : List (String × Octets) :=
  [("PS1", "$ "), ("PS2", "> "), ("PS4", "+ "), ("PATH", standardProgramPath)]

/-- The variables that a script shell sets in any case. -/
def scriptResets (parent : Nat) : List (String × Octets) :=
  [("IFS", " \t\n"), ("OPTIND", "1"), ("PPID", toString parent)]

def startVariables (parent : Nat) (vars : ProcessVariables) : List ScriptVariable :=
  let inherited := inheritedScriptVariables vars
  let completed := scriptDefaults.foldl (fun known entry =>
    if known.any fun other => other.name = entry.1 then known
    else known ++ [⟨entry.1, some entry.2, false, false⟩]) inherited
  (scriptResets parent).foldl (fun known entry =>
    let old := (ScriptVariable.find? known entry.1).getD ⟨entry.1, none, false, false⟩
    ScriptVariable.store known { old with value := some entry.2 }) completed

/-- An inherited working directory is kept when it leads to the directory of the process. -/
def inheritedDirectory (machine : Machine) (vars : List ScriptVariable) : Option Octets :=
  ((ScriptVariable.find? vars "PWD").bind ScriptVariable.value).filter fun text =>
    text.toList.head? = some '/' &&
      (machine.resolve (octetsPath text)).toOption = some machine.directory

/-- A process before its first command. -/
def ScriptProcess.start (machine : Machine) (start : ToolStart) (name : Octets) : ScriptProcess :=
  { machine := machine
    descriptors := start.descriptors
    name := name
    parameters := []
    vars := startVariables machine.parent start.vars
    ignored := start.ignored
    mainProcess := machine.self }

/-- The process learns its directory before it has a name for itself. -/
def learnDirectory : ScriptM Unit := do
  let process ← get
  set { process with name := "sh" }
  enterDirectory (inheritedDirectory process.machine process.vars)
  modify fun after => { after with name := process.name }

/-- The number of steps that a script may take into its depth. -/
def scriptFuel : Nat := 100000

/-- The script comes from an argument, from a file or from standard input. -/
def runScriptShell (runner : ProgramRunner) (arguments : List Octets) : ScriptM Unit := do
  learnDirectory
  let read := OptionsRead.read true (arguments.length + 1) { options := [], words := arguments }
  let _ ← writeOutput read.listings
  if let some text := read.fault then
    raise text
  let setUp (name : Option Octets) (parameters : List Octets) (options : ScriptOptions) :
      ScriptM Unit := do
    let watches := options.contains .interactive && !read.cleared.contains .monitor
    modify fun process => { process with
      name := name.getD process.name
      parameters := parameters
      options := if watches then options.switch .monitor true else options }
    refuseJobControl
    runStartFile scriptFuel runner
  if read.hasCommand then
    match read.words with
    | [] => raise "-c requires an argument"
    | text :: rest =>
      setUp rest.head? (rest.drop 1) read.options
      goOn scriptFuel runner (.descriptor 0) 1
        (← attempt (runText scriptFuel runner {} text))
  else if read.words.isEmpty || read.options.contains .stdin then
    setUp none read.words (read.options.switch .stdin true)
    runBase scriptFuel runner (.descriptor 0)
  else
    let path := read.words.headD ""
    let source ← openScript path
    setUp (some path) (read.words.drop 1) read.options
    runBase scriptFuel runner source

/-- The process runs to its end, its last action included. -/
def runScriptProcess (runner : ProgramRunner) (start : ToolStart) (machine : Machine) : Activity :=
  processActivity (finishProcess scriptFuel runner) (runScriptShell runner (start.argv.drop 1))
    (ScriptProcess.start machine start (start.argv.headD "sh"))

/-- The depth to which programs start programs. -/
def maxProgramDepth : Nat := 1000

/-- A program needs a free descriptor to read its library. -/
def ToolStart.canLoad (start : ToolStart) (machine : Machine) : Bool :=
  let free := (List.range (start.descriptors.length + 1)).find? fun number =>
    (start.descriptors.lookup number).isNone
  isWithin (descriptorLimit machine.limits) (free.getD 0)

/-- A program that cannot be loaded says so and ends. -/
def refuseTool (start : ToolStart) (machine : Machine) : Activity :=
  let state : UtilityState :=
    { name := start.argv.headD ""
      vars := start.vars
      machine := machine
      descriptors := start.descriptors
      ignored := start.ignored }
  state.run false do
    complainOf ("error while loading shared libraries: libc.so.6: " ++
      "cannot open shared object file: Error 24")
    throw (exitEnding 127)

/-- A program may start further programs, down to a fixed depth. -/
def runTool : Nat → Tool → ToolStart → Machine → Activity
  | _, .utility utility, start, machine =>
    if start.canLoad machine then runUtility utility start machine
    else refuseTool start machine
  | 0, .sh, _, machine => .ended machine (exitEnding 2)
  | depth + 1, .sh, start, machine =>
    let runner : ProgramRunner := fun inner program =>
      match inner.loadProgram program.path program.argv program.vars with
      | .error cause => .error cause
      | .ok (tool, argv) =>
        .ok (runTool depth tool ⟨argv, program.vars, program.descriptors, program.ignored⟩)
    if start.canLoad machine then runScriptProcess runner start machine
    else refuseTool start machine

end ChainShell
