/-
This file runs a program as a child process and waits for its end.
-/

import ChainShell.Resolve
import ChainShell.Shell

namespace ChainShell

/-- A name that leads to no program has this code. -/
def resolutionFailureCode : ExitCode := 1

/-- A child that a signal ended has this code, whatever the signal. -/
def signaledCode : ExitCode := 1

/-- A launch fails when the process is created or when the shell waits for it. -/
inductive LaunchStage where
  | spawn
  | wait
  deriving DecidableEq, Repr

/-- The system could not create the process or could not wait for it. A missing program is no
such error. -/
structure LaunchError where
  stage : LaunchStage
  name : String
  cause : OsError
  deriving DecidableEq, Repr

def LaunchError.message (error : LaunchError) : String :=
  match error.stage with
  | .spawn => error.name ++ ": cannot create process"
  | .wait => error.name ++ ": cannot wait for process"

/-- The cause follows the message on the same line. -/
def LaunchError.chain (error : LaunchError) : String :=
  error.message ++ ": " ++ error.cause.message

/-- The cause follows the message in a paragraph of its own. -/
def LaunchError.details (error : LaunchError) : String :=
  error.message ++ "\n\nCaused by:\n    " ++ error.cause.message

variable {σ : Type} [OperatingSystem σ]

def Shell.reportNotFound (shell : Shell σ) (name : String) : Shell σ :=
  shell.complain (name ++ ": command not found")

/-- The user sees one line and the log gets the details. -/
def Shell.reportLaunchError (shell : Shell σ) (error : LaunchError) : Shell σ :=
  (shell.complain error.chain).log .warn error.details

/-- The child gets the variables and the directory of the given environment. -/
def spawnRequest (environment : Environment) (program : Path) (name : String)
    (arguments : List String) : SpawnRequest where
  program := program
  name := name
  arguments := arguments
  vars := environment.vars
  directory := environment.currentDir

/-- The request and its answer are recorded, and the system moves on. -/
def Shell.spawn (shell : Shell σ) (request : SpawnRequest) :
    Except OsError ChildReport × Shell σ :=
  let (answer, system) := OperatingSystem.spawn shell.system request
  (answer, { shell with system := system }.emit (.spawned request answer))

/-- The answer of the system to a request becomes an exit code or a launch error. -/
def Shell.conclude (shell : Shell σ) (request : SpawnRequest) :
    Except OsError ChildReport → Except LaunchError ExitCode × Shell σ
  | .ok report =>
    match report.awaited with
    | .failed cause => (.error ⟨.wait, request.name, cause⟩, shell)
    | .ended (.exited code) => (.ok code, shell)
    | .ended (.signaled signal) =>
      let number := toString signal
      (.ok signaledCode,
        shell.log .warn (request.name ++ ": terminated by signal " ++ number))
  | .error cause =>
    if cause.meansNotFound then
      (.ok resolutionFailureCode,
        (shell.log .debug (request.program.text ++ ": " ++ cause.message)).reportNotFound
          request.name)
    else
      (.error ⟨.spawn, request.name, cause⟩, shell)

/-- The first word names the program. An empty vector runs nothing. -/
def launch (environment : Environment) (argv : List String) (shell : Shell σ) :
    Except LaunchError ExitCode × Shell σ :=
  match argv with
  | [] => (.ok 0, shell)
  | name :: arguments =>
    match findCommand shell.system environment.searchPath environment.currentDir ⟨name⟩ with
    | none => (.ok resolutionFailureCode, shell.reportNotFound name)
    | some program =>
      let request := spawnRequest environment program name arguments
      let (answer, after) := shell.spawn request
      after.conclude request answer

end ChainShell
