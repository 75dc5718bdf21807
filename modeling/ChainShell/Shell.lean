/-
This file holds the state in which commands run. Everything that can be seen from outside is
one event, in the order in which it happened.
-/

import ChainShell.System
import ChainShell.Text.Bytes

namespace ChainShell

inductive Level where
  | debug
  | warn
  deriving DecidableEq, Repr

/-- One record of the log. -/
structure LogRecord where
  level : Level
  message : String
  deriving DecidableEq, Repr

/-- The line shows the level in capitals in front of the message. -/
def LogRecord.line (entry : LogRecord) : String :=
  match entry.level with
  | .debug => "DEBUG " ++ entry.message
  | .warn => "WARN " ++ entry.message

/-- Standard output may accept a limited number of bytes and may fail to flush. -/
structure Writer where
  capacity : Option Nat := none
  flushFails : Bool := false
  deriving DecidableEq, Repr

inductive WriteError where
  | refused
  | notFlushed
  deriving DecidableEq, Repr

def WriteError.message : WriteError → String
  | .refused => "broken stdout"
  | .notFlushed => "broken flush"

/-- One write takes as many of the bytes as there is room for. -/
def Writer.taken (writer : Writer) (bytes : List UInt8) : Nat :=
  match writer.capacity with
  | none => bytes.length
  | some capacity => min capacity bytes.length

/-- Bytes that were taken use up their room. -/
def Writer.advance (writer : Writer) (count : Nat) : Writer :=
  { writer with capacity := writer.capacity.map (· - count) }

/-- The bytes that were accepted, the failure that stopped them and the writer behind them. -/
structure WriteResult where
  accepted : List UInt8
  failure : Option WriteError
  writer : Writer
  deriving DecidableEq, Repr

/-- The bytes that a write leaves over are written again. A writer that takes none of them refuses
them. -/
def Writer.writeAll (writer : Writer) (bytes : List UInt8) : WriteResult :=
  if bytes.isEmpty then
    ⟨[], none, writer⟩
  else
    let count := writer.taken bytes
    if 0 < count then
      let rest := (writer.advance count).writeAll (bytes.drop count)
      { rest with accepted := bytes.take count ++ rest.accepted }
    else
      ⟨[], some .refused, writer⟩
termination_by bytes.length
decreasing_by
  have nonempty : 0 < bytes.length := by simp_all [List.length_pos_iff]
  simp only [List.length_drop]
  omega

/-- The pieces of a text are written one behind the other, up to the first failure. -/
def Writer.writePieces (writer : Writer) : List String → WriteResult
  | [] => ⟨[], none, writer⟩
  | piece :: rest =>
    let first := writer.writeAll (encode piece)
    if first.failure.isSome then
      first
    else
      let others := first.writer.writePieces rest
      { others with accepted := first.accepted ++ others.accepted }

/-- One thing that can be seen from outside. -/
inductive Event where
  /-- The shell wrote to its standard output. -/
  | wrote (bytes : List UInt8)
  /-- The shell wrote to standard error. -/
  | complained (text : String)
  /-- The shell asked for a child and got this answer. -/
  | spawned (request : SpawnRequest) (answer : Except OsError ChildReport)
  | logged (entry : LogRecord)

/-- The state in which one command runs. -/
structure Shell (σ : Type) where
  environment : Environment
  system : σ
  writer : Writer
  events : List Event

variable {σ : Type}

def Shell.emit (shell : Shell σ) (event : Event) : Shell σ :=
  { shell with events := shell.events ++ [event] }

def Shell.log (shell : Shell σ) (level : Level) (message : String) : Shell σ :=
  shell.emit (.logged ⟨level, message⟩)

def Shell.logAll (shell : Shell σ) (entries : List LogRecord) : Shell σ :=
  { shell with events := shell.events ++ entries.map Event.logged }

/-- A complaint is one line on standard error. -/
def Shell.complain (shell : Shell σ) (line : String) : Shell σ :=
  shell.emit (.complained (line ++ "\n"))

/-- The accepted bytes are delivered even when the rest is refused. -/
def Shell.write (shell : Shell σ) (pieces : List String) : Option WriteError × Shell σ :=
  let result := shell.writer.writePieces pieces
  (result.failure, { shell with writer := result.writer }.emit (.wrote result.accepted))

def Shell.flushError (shell : Shell σ) : Option WriteError :=
  if shell.writer.flushFails then some .notFlushed else none

/-- The bytes that the shell itself delivered. -/
def outputBytes (events : List Event) : List UInt8 :=
  events.flatMap fun
    | .wrote bytes => bytes
    | _ => []

/-- The text that children wrote to standard output. -/
def childOutput (events : List Event) : String :=
  String.join (events.map fun
    | .spawned _ (.ok report) => report.output
    | _ => "")

/-- The text on standard error, of the shell and of its children. -/
def errorText (events : List Event) : String :=
  String.join (events.map fun
    | .complained text => text
    | .spawned _ (.ok report) => report.errors
    | _ => "")

/-- The bytes on standard output, of the shell and of its children. -/
def streamBytes (events : List Event) : List UInt8 :=
  events.flatMap fun
    | .wrote bytes => bytes
    | .spawned _ (.ok report) => encode report.output
    | _ => []

def logRecords (events : List Event) : List LogRecord :=
  events.filterMap fun
    | .logged entry => some entry
    | _ => none

/-- The requests for children, in order. -/
def spawnRequests (events : List Event) : List SpawnRequest :=
  events.filterMap fun
    | .spawned request _ => some request
    | _ => none

end ChainShell
