/-
This file holds what processes know of each other: their numbers, their parents, the streams they
keep open and the signals they wait for.
-/

import ChainShell.Machine.Signal

namespace ChainShell

/-- The number of an open stream. -/
abbrev StreamId := Nat

/-- What a process waits for. -/
inductive Waiting where
  | nothing
  /-- It waits for others to end, or for a signal that it has an action for. -/
  | signals
  /-- It waits for a child. An interrupt has to wait until the child is over. -/
  | child
  deriving DecidableEq, Repr

/-- What others can see of a process that runs. -/
structure Conduct where
  /-- The streams that it keeps open. -/
  streams : List StreamId := []
  /-- The signals that it has an action for. -/
  caught : List Nat := []
  ignored : List Nat := []
  waiting : Waiting := .nothing

structure ProcessEntry where
  number : Nat
  parent : Nat
  conduct : Conduct
  /-- The signals that have come and wait for their action. -/
  signals : List Nat := []
  /-- The signal that ends the process when its turn comes. -/
  fate : Option Nat := none
  /-- A process that is over stays until its parent has asked for its end. -/
  ending : Option Ending := none

/-- The processes of a machine, the oldest first. -/
abbrev ProcessTable := List ProcessEntry

/-- The number of the process that takes in the children of others. -/
def firstProcess : Nat := 1

/-- The number of the process that a machine is used from. -/
def hostProcess : Nat := 4711

namespace ProcessEntry

def isAlive (entry : ProcessEntry) : Bool :=
  entry.ending.isNone

/-- Nobody asks for the end of such a process. -/
def isForgotten (entry : ProcessEntry) : Bool :=
  !entry.isAlive && entry.parent = firstProcess

/-- A signal that has an action waits for it, once. -/
def hold (entry : ProcessEntry) (signal : Nat) : ProcessEntry :=
  if entry.isAlive && entry.conduct.caught.contains signal && !entry.signals.contains signal then
    { entry with signals := entry.signals ++ [signal] }
  else
    entry

/-- A signal has come for which the process stops waiting. -/
def isCalled (entry : ProcessEntry) : Bool :=
  !entry.signals.isEmpty

/-- The signal ends the process. -/
def isEndedBy (entry : ProcessEntry) (signal : Nat) : Bool :=
  entry.isAlive && signalEnds signal &&
    (signalIsFixed signal ||
      !(entry.conduct.caught.contains signal || entry.conduct.ignored.contains signal))

/-- The signal would end the process and has to wait. -/
def putsOff (entry : ProcessEntry) (signal : Nat) : Bool :=
  entry.isEndedBy signal && signal = interruptSignal && entry.conduct.waiting = .child

/-- The signal decides on the end of the process. One that waits closes its streams at once. -/
def doom (entry : ProcessEntry) (signal : Nat) : ProcessEntry :=
  { entry with
    fate := entry.fate.or (some signal)
    conduct := if entry.conduct.waiting = .nothing then entry.conduct else {} }

/-- A process that is ended by a signal ends by the first one that came. No signal has the number
zero. -/
def receive (entry : ProcessEntry) (signal : Nat) : ProcessEntry :=
  if signal = 0 then entry
  else if entry.putsOff signal then { entry with signals := entry.signals ++ [signal] }
  else if entry.isEndedBy signal then entry.doom signal
  else entry.hold signal

end ProcessEntry

namespace ProcessTable

def find? (table : ProcessTable) (number : Nat) : Option ProcessEntry :=
  List.find? (fun entry => entry.number = number) table

def change (table : ProcessTable) (number : Nat) (action : ProcessEntry → ProcessEntry) :
    ProcessTable :=
  table.map fun entry => if entry.number = number then action entry else entry

def erase (table : ProcessTable) (number : Nat) : ProcessTable :=
  table.filter fun entry => entry.number ≠ number

def isAlive (table : ProcessTable) (number : Nat) : Bool :=
  (table.find? number).any ProcessEntry.isAlive

/-- Some process keeps the stream open. -/
def holds (table : ProcessTable) (stream : StreamId) : Bool :=
  table.any fun entry => entry.isAlive && entry.conduct.streams.contains stream

/-- A process is over. It closes its streams, its parent gets a signal, and its children get a new
parent. -/
def finish (table : ProcessTable) (number : Nat) (ending : Ending) : ProcessTable :=
  match table.find? number with
  | none => table
  | some entry =>
    let ended := table.change number fun found =>
      if found.isAlive then { found with ending := some ending, conduct := {}, signals := [] }
      else found
    let told := ended.change entry.parent fun parent => parent.hold childSignal
    let orphaned := told.map fun child =>
      if child.parent = number then { child with parent := firstProcess } else child
    orphaned.filter fun found => !found.isForgotten

/-- A signal comes to a process. There is no answer when the process is not known. -/
def signal? (table : ProcessTable) (number signal : Nat) : Option ProcessTable :=
  (table.find? number).map fun _ => table.change number fun entry => entry.receive signal

/-- The signal that ends a process when its turn comes. -/
def fate? (table : ProcessTable) (number : Nat) : Option Nat :=
  (table.find? number).bind ProcessEntry.fate

/-- The process is about to stop waiting for a signal that it got. -/
def isRoused (table : ProcessTable) (number : Nat) : Bool :=
  (table.find? number).any fun entry => entry.conduct.waiting = .signals && entry.isCalled

/-- The process goes on when its turn comes. -/
def isFree (table : ProcessTable) (number : Nat) : Bool :=
  table.isAlive number && (table.fate? number).isNone

end ProcessTable

end ChainShell
