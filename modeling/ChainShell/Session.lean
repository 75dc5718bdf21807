/-
This file runs whole lines. The chain evaluator is separate from what one command does.
-/

import ChainShell.Line.Chain
import ChainShell.Line.Word
import ChainShell.NameIndex
import ChainShell.Text.Quoted

namespace ChainShell

/-- After a line the shell reads on or stops. -/
inductive Flow where
  | proceed
  | exit
  deriving DecidableEq, Repr

/-- A chain needs to know what it does with a command that runs and with one that is skipped.
A command that ends the shell has no status. -/
structure ChainRunner (τ : Type) where
  run : List String → τ → Option Status × τ
  skip : Segment → Status → τ → τ

/-- Segments run from left to right. A blank segment and a skipped one leave the last status
as it is. -/
def runChain {τ : Type} (runner : ChainRunner τ) : List Segment → Status → τ → Flow × τ
  | [], _, state => (.proceed, state)
  | segment :: rest, last, state =>
    if segment.isBlank then
      runChain runner rest last state
    else if segment.operator.permits last then
      match tokenize segment.text with
      | [] => runChain runner rest last state
      | name :: arguments =>
        match runner.run (name :: arguments) state with
        | (none, after) => (.exit, after)
        | (some status, after) => runChain runner rest status after
    else
      runChain runner rest last (runner.skip segment last state)

/-- The log shows a status by its constructor. -/
def Status.describe : Status → String
  | .exited code =>
    let number := toString code.toInt
    s!"Exited({number})"
  | .creationFailed => "CreationFailed"

/-- A session is a shell with its start settings and the names for completion. -/
structure Session (σ : Type) where
  settings : Settings
  index : NameIndex
  shell : Shell σ

variable {σ : Type} [OperatingSystem σ]

/-- The names are collected once at the start. A process without a directory starts in the
relative directory of a single dot. Of variables with one name the last counts. -/
def Session.start (settings : Settings) (pairs : List (String × String)) (system : σ)
    (writer : Writer) : Session σ :=
  let currentDir :=
    match OperatingSystem.workingDir system with
    | .ok path => path
    | .error _ => ⟨"."⟩
  let environment := Environment.ofSettings settings (.ofList pairs) currentDir
  let (index, entries) := NameIndex.build system environment.searchPath currentDir
  ⟨settings, index, ⟨environment, system, writer, entries.map Event.logged⟩⟩

/-- Pending output is flushed before a child starts. A failure is only logged. -/
def Shell.flushBeforeChild (shell : Shell σ) : Shell σ :=
  match shell.flushError with
  | none => shell
  | some cause => shell.log .warn ("cannot flush output: " ++ cause.message)

/-- A program outside the table leaves its exit code, or a creation failure when the system
refused. -/
def Shell.runExternal (shell : Shell σ) (argv : List String) : Status × Shell σ :=
  match launch shell.environment argv shell with
  | (.ok code, after) => (.exited code, after)
  | (.error error, after) => (.creationFailed, after.reportLaunchError error)

/-- One command is dispatched and, if no built-in claims it, run as a program. -/
def Shell.runCommand (shell : Shell σ) (argv : List String) : Option Status × Shell σ :=
  match dispatch argv shell with
  | (.terminate, after) => (none, after)
  | (.runExternal, after) =>
    let (status, done) := after.flushBeforeChild.runExternal argv
    (some status, done)
  | (.arityError, after) =>
    (some (.exited arityErrorCode),
      after.complain (argv.headD "" ++ ": wrong number of arguments!"))
  | (outcome, after) => (outcome.status, after)

/-- The file names follow the current directory. -/
def Session.refresh (session : Session σ) : Session σ :=
  let (index, entries) :=
    session.index.refreshFiles session.shell.system session.shell.environment.currentDir
  { session with index := index, shell := session.shell.logAll entries }

/-- A command is logged, run and logged again, and then the file names are refreshed. A
command that ends the shell leaves the names alone. -/
def Session.run (argv : List String) (session : Session σ) : Option Status × Session σ :=
  let logged := session.shell.log .debug ("argv: " ++ quotedList argv)
  match logged.runCommand argv with
  | (none, after) => (none, { session with shell := after })
  | (some status, after) =>
    let shell := after.log .debug (argv.headD "" ++ ": " ++ status.describe)
    (some status, { session with shell := shell }.refresh)

def Session.skip (segment : Segment) (last : Status) (session : Session σ) : Session σ :=
  { session with
    shell := session.shell.log .debug
      ("skipped " ++ quoted segment.text ++ " after " ++ last.describe) }

def Session.runner : ChainRunner (Session σ) := ⟨Session.run, Session.skip⟩

/-- Every segment of the line runs whose operator permits it. -/
def Session.evaluate (line : String) (session : Session σ) : Flow × Session σ :=
  runChain Session.runner (splitChain line) .initial session

/-- The prompt for the tracked directory. -/
def Session.prompt (session : Session σ) : String :=
  session.settings.prompt session.shell.environment.currentDir

end ChainShell
