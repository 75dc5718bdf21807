/-
This file holds what is known about a command after it ran.
-/

namespace ChainShell

/-- Zero means success and any other value means failure. -/
abbrev ExitCode := Int32

/-- A command that was rejected for its arguments has this code. -/
def arityErrorCode : ExitCode := 2

/-- The chain remembers this of the last command that ran. -/
inductive Status where
  | exited (code : ExitCode)
  /-- No process could be created or waited for, so there is no exit code. -/
  | creationFailed
  deriving DecidableEq, Repr

/-- A line starts as if a command had succeeded. -/
def Status.initial : Status := .exited 0

/-- The dispatcher answers an argument vector with one of these. -/
inductive Outcome where
  /-- No built-in claims the name. -/
  | runExternal
  /-- The shell stops reading input. -/
  | terminate
  | success
  | failure (code : ExitCode)
  /-- The built-in was called with the wrong number or shape of arguments. -/
  | arityError
  /-- The built-in tried to start a process and the system refused. -/
  | processError
  deriving DecidableEq, Repr

/-- Only the code zero is a success. -/
def Outcome.ofCode (code : ExitCode) : Outcome :=
  if code = 0 then .success else .failure code

/-- The two control outcomes carry no status. -/
def Outcome.status : Outcome → Option Status
  | .success => some (.exited 0)
  | .failure code => some (.exited code)
  | .arityError => some (.exited arityErrorCode)
  | .processError => some .creationFailed
  | .runExternal | .terminate => none

end ChainShell
