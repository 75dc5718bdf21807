/-
This file holds what processes do, as steps between which other processes can run.
-/

import ChainShell.Machine.Basic

namespace ChainShell

/-- What a process does from one pause to the next. The machine is as the process leaves it. -/
inductive Activity where
  | ended (machine : Machine) (ending : Ending)
  /-- The process goes on when the machine is ready for it. -/
  | paused (machine : Machine) (isReady : Machine → Bool) (resume : Machine → Activity)
  /-- All others that can go on do so before the process does. -/
  | postponed (machine : Machine) (resume : Machine → Activity)
  /-- A process with the given number starts, and this one goes on. -/
  | forked (machine : Machine) (number : Nat) (child resume : Machine → Activity)

/-- A step of a process. It gives a value or a cause for which it was cut short, and the rest of
the process goes on from there. -/
def ActivityM (ε σ α : Type) : Type :=
  σ → (α → σ → Activity) → (ε → σ → Activity) → Activity

namespace ActivityM

variable {ε σ α β : Type}

protected def pure (value : α) : ActivityM ε σ α := fun state proceed _ => proceed value state

protected def bind (step : ActivityM ε σ α) (next : α → ActivityM ε σ β) : ActivityM ε σ β :=
  fun state proceed stop =>
    step state (fun value after => next value after proceed stop) stop

instance : Monad (ActivityM ε σ) where
  pure := ActivityM.pure
  bind := ActivityM.bind

instance : MonadStateOf σ (ActivityM ε σ) where
  get := fun state proceed _ => proceed state state
  set after := fun _ proceed _ => proceed ⟨⟩ after
  modifyGet change := fun state proceed _ =>
    match change state with
    | (value, after) => proceed value after

instance : MonadExceptOf ε (ActivityM ε σ) where
  throw cause := fun state _ stop => stop cause state
  tryCatch step handle := fun state proceed stop =>
    step state proceed fun cause after => handle cause after proceed stop

/-- The step was cut short or not, and the process goes on in both cases. -/
def attempt (step : ActivityM ε σ Unit) : ActivityM ε σ (Option ε) :=
  fun state proceed _ =>
    step state (fun _ after => proceed none after) (fun cause after => proceed (some cause) after)

/-- The state is changed when the step is over, also when it was cut short. -/
def ensuring (step : ActivityM ε σ α) (change : σ → σ) : ActivityM ε σ α :=
  fun state proceed stop =>
    step state (fun value after => proceed value (change after))
      (fun cause after => stop cause (change after))

end ActivityM

/-- The state of a process has the machine as the process sees it. -/
class ProcessState (σ : Type) where
  machine : σ → Machine
  setMachine : σ → Machine → σ
  conduct : σ → Conduct

variable {ε σ : Type} [ProcessState σ]

/-- The machine as others see it. -/
def ProcessState.published (state : σ) : Machine :=
  (machine state).publish (conduct state)

/-- The process goes on with what others have made of the machine. -/
def ProcessState.regain (state : σ) (machine : Machine) : σ :=
  setMachine state (machine.returnTo (ProcessState.machine state))

/-- The process waits until the machine is ready. -/
def pauseUntil (isReady : Machine → Bool) : ActivityM ε σ Unit := fun state proceed _ =>
  .paused (ProcessState.published state) isReady fun machine =>
    proceed () (ProcessState.regain state machine)

/-- Others may run before the process goes on. -/
def giveTurn : ActivityM ε σ Unit :=
  pauseUntil fun _ => true

/-- A child starts with what the process has. The answer is its number. -/
def forkProcess (conduct : Conduct) (child : Machine → Activity) : ActivityM ε σ Nat :=
  fun state proceed _ =>
    let published := ProcessState.published state
    let number := published.nextProcess
    let start (machine : Machine) : Activity :=
      child { machine.returnTo published with self := number }
    .forked (published.addProcess conduct) number start fun machine =>
      proceed number (ProcessState.regain state machine)

/-- A program takes so long to load that others go on first. -/
def loadProgram (program : Machine → Activity) (machine : Machine) : Activity :=
  .postponed machine fun later => program (later.returnTo machine)

/-- The process becomes another program and does not come back. -/
def becomeProgram {α : Type} (program : Machine → Activity) : ActivityM ε σ α :=
  fun state _ _ => loadProgram program (ProcessState.published state)

/-- Bytes of a stream, as many as there are up to a limit. At the end of the stream there are
none. -/
def readSome (stream : StreamId) (limit : Nat) : ActivityM ε σ (List Char) := do
  pauseUntil fun machine => machine.canRead stream
  let state ← get
  let machine := ProcessState.machine state
  let octets := (machine.pendingOctets stream).take limit
  set (ProcessState.setMachine state (machine.advanceStream stream octets.length))
  return octets

/-- The given number of bytes goes to a stream, in as many parts as are needed. The answer is the
cause for which they did not. -/
def writeParts (stream : StreamId) : Nat → Nat → List Char → ActivityM ε σ (Option OsError)
  | 0, _, _ => return none
  | fuel + 1, count, chars => do
    if count = 0 then
      return none
    else
      pauseUntil fun machine => machine.canWrite stream count
      let state ← get
      match (ProcessState.machine state).writeSome stream count chars with
      | .error cause => return some cause
      | .ok (written, machine) =>
        set (ProcessState.setMachine state machine)
        writeParts stream fuel (count - written) (chars.drop written)

def writeAll (stream : StreamId) (octets : Octets) : ActivityM ε σ (Option OsError) :=
  writeParts stream (octets.length + 1) octets.length octets.toList

/-- The signal that a process gets for bytes that it cannot write. -/
def writeSignal? : OsError → Option Nat
  | .brokenPipe => some pipeSignal
  | .fileTooLarge => some fileSizeSignal
  | _ => none

end ChainShell
