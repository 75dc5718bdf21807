/-
This file leaves the log out of a shell. What remains is what can be seen from outside.
-/

import ChainShell.Session
import Mathlib.Data.List.Basic

namespace ChainShell

/-- The log is left out of what can be seen from outside. -/
def Event.isLogged : Event → Bool
  | .logged _ => true
  | _ => false

variable {σ : Type}

def Shell.withoutLog (shell : Shell σ) : Shell σ :=
  { shell with events := shell.events.filter (!·.isLogged) }

def Session.withoutLog (session : Session σ) : Session σ :=
  { session with shell := session.shell.withoutLog }

/-- Two results may differ in their log only. -/
def SameButLog {α : Type} (first second : α × Shell σ) : Prop :=
  first.1 = second.1 ∧ first.2.withoutLog = second.2.withoutLog

variable (shell : Shell σ)

@[simp] theorem Shell.withoutLog_withoutLog : shell.withoutLog.withoutLog = shell.withoutLog := by
  simp [Shell.withoutLog]

@[simp] theorem Shell.withoutLog_log (level : Level) (message : String) :
    (shell.log level message).withoutLog = shell.withoutLog := by
  simp [Shell.withoutLog, Shell.log, Shell.emit, Event.isLogged]

@[simp] theorem Shell.withoutLog_logAll (entries : List LogRecord) :
    (shell.logAll entries).withoutLog = shell.withoutLog := by
  simp [Shell.withoutLog, Shell.logAll, Event.isLogged]

@[simp] theorem Shell.withoutLog_complain (line : String) :
    (shell.complain line).withoutLog = shell.withoutLog.complain line := by
  simp [Shell.withoutLog, Shell.complain, Shell.emit, Event.isLogged]

@[simp] theorem Shell.withoutLog_flushBeforeChild :
    shell.flushBeforeChild.withoutLog = shell.withoutLog := by
  rw [Shell.flushBeforeChild]
  split <;> simp

theorem spawnRequests_withoutLog :
    spawnRequests shell.withoutLog.events = spawnRequests shell.events := by
  rw [spawnRequests, Shell.withoutLog, List.filterMap_filter]
  refine List.filterMap_congr fun event _ => ?_
  cases event <;> rfl

end ChainShell
