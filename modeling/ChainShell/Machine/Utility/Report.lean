/-
This file holds the state of a utility and the ways in which it talks: its output, its complaints
and its questions.
-/

import ChainShell.Machine.Activity
import ChainShell.Machine.Utility.Quoting

namespace ChainShell

/-- A utility works through its operands and remembers whether one failed. -/
structure UtilityState where
  /-- The name under which the utility was started. It stands in front of every complaint. -/
  name : Octets
  vars : ProcessVariables
  machine : Machine
  descriptors : List (Nat × StreamId)
  /-- The signals that the utility was started to ignore. -/
  ignored : List Nat := []
  /-- Output waits until there is a complaint or the utility ends. -/
  pending : Octets := ""
  hasLostOutput : Bool := false
  hasLostErrors : Bool := false
  /-- Bytes of standard input that were read and not used yet. -/
  ahead : List Char := []
  hasInputFault : Bool := false
  hasFailed : Bool := false

instance : ProcessState UtilityState where
  machine := UtilityState.machine
  setMachine state machine := { state with machine := machine }
  conduct state := { streams := state.descriptors.map Prod.snd, ignored := state.ignored }

/-- A step of a utility. It may be the last one. -/
abbrev UtilityM := ActivityM Ending UtilityState

def utilityVariable? (name : Octets) : UtilityM (Option Octets) := do
  return (← get).vars.lookup name

/-- The standard asks for a stricter reading of options when this variable is there. -/
def followsStandard : UtilityM Bool := do
  return (← utilityVariable? "POSIXLY_CORRECT").isSome

def theMachine : UtilityM Machine := do
  return (← get).machine

def setTree (tree : FileTree) : UtilityM Unit :=
  modify fun state => { state with machine.tree := tree }

def noteFailure : UtilityM Unit :=
  modify fun state => { state with hasFailed := true }

/-- The answer is the cause for which the bytes were not written. A signal may come with it. -/
def writeTo (stream : StreamId) (octets : Octets) : UtilityM (Option OsError) := do
  let fault ← writeAll stream octets
  if let some signal := fault.bind writeSignal? then
    if !(← get).ignored.contains signal then
      throw (.signaled signal)
  return fault

def writeOut (descriptor : Nat) (octets : Octets) : UtilityM (Option OsError) := do
  match (← get).descriptors.lookup descriptor with
  | none => return some .badDescriptor
  | some stream => writeTo stream octets

/-- Waiting output is written or lost. -/
def flushOutput : UtilityM (Option OsError) := do
  let state ← get
  if state.pending = "" then
    return none
  else
    set { state with pending := "" }
    let fault ← writeOut 1 state.pending
    if fault.isSome then
      modify fun after => { after with hasLostOutput := true }
    return fault

def print (octets : Octets) : UtilityM Unit :=
  modify fun state => { state with pending := state.pending ++ octets }

def say (line : Octets) : UtilityM Unit :=
  print (line ++ "\n")

/-- Text for standard error does not wait. -/
def tell (octets : Octets) : UtilityM Unit := do
  if (← writeOut 2 octets).isSome then
    modify fun state => { state with hasLostErrors := true }

/-- A complaint comes behind all earlier output. -/
def complainOf (message : Octets) : UtilityM Unit := do
  let _ ← flushOutput
  tell ((← get).name ++ ": " ++ message ++ "\n")

def failWith (message : Octets) : UtilityM Unit := do
  complainOf message
  noteFailure

def failBy (message : Octets) (cause : OsError) : UtilityM Unit :=
  failWith (message ++ ": " ++ cause.reason)

/-- The complaint ends the utility. -/
def dieWith {α : Type} (message : Octets) : UtilityM α := do
  complainOf message
  throw (exitEnding 1)

def pointToHelp {α : Type} : UtilityM α := do
  tell ("Try '" ++ (← get).name ++ " --help' for more information.\n")
  throw (exitEnding 1)

/-- A wrong use of a utility points to its help. -/
def misuse {α : Type} (message : Octets) : UtilityM α := do
  complainOf message
  pointToHelp

/-- The number of bytes that are read at once. -/
def readBytes : Nat := 4096

/-- The bytes up to the end of the line, that end included. -/
def firstLine (chars : List Char) : List Char :=
  let line := chars.takeWhile (· != '\n')
  line ++ (chars.drop line.length).take 1

/-- Blocks of a stream up to one with the end of a line. -/
def readBlocks (stream : StreamId) : Nat → List Char → UtilityM (List Char)
  | 0, ahead => return ahead
  | fuel + 1, ahead => do
    if ahead.contains '\n' then
      return ahead
    else
      match ← readSome stream readBytes with
      | [] => return ahead
      | block => readBlocks stream fuel (ahead ++ block)

/-- The number of blocks that are read at most. -/
def maxBlocks : Nat := 1000000

/-- All that is left of a stream. -/
def readToEnd (stream : StreamId) : Nat → List Char → UtilityM (List Char)
  | 0, before => return before
  | fuel + 1, before => do
    match ← readSome stream readBytes with
    | [] => return before
    | block => readToEnd stream fuel (before ++ block)

/-- One line of standard input. What was read beyond it is lost for other programs, unless it
comes from a file. -/
def readAnswer : UtilityM (List Char) := do
  let state ← get
  match state.descriptors.lookup 0 with
  | none =>
    set { state with hasInputFault := true }
    return []
  | some stream =>
    if (state.machine.readFault? stream).isSome then
      set { state with hasInputFault := true }
      return []
    else if state.machine.isFileStream stream then
      let line := firstLine (state.machine.pendingOctets stream)
      set { state with machine := state.machine.advanceStream stream line.length }
      return line
    else
      let blocks ← readBlocks stream maxBlocks state.ahead
      let line := firstLine blocks
      modify fun after => { after with ahead := blocks.drop line.length }
      return line

/-- Only an answer that starts with the letter of yes agrees. -/
def agrees (question : Octets) : UtilityM Bool := do
  tell ((← get).name ++ ": " ++ question ++ "? ")
  let answer ← readAnswer
  return answer.head?.any fun char => char == 'y' || char == 'Y'

/-- The code with which a utility that asks questions closes its input. -/
def closeInput : UtilityM Unit := do
  let state ← get
  if state.hasInputFault then
    failWith ("error closing file" ++
      if (state.descriptors.lookup 0).isSome then "" else ": " ++ OsError.badDescriptor.reason)

/-- Lost output is a failure. -/
def closeOutput : UtilityM Unit := do
  let hadLost := (← get).hasLostOutput
  let isOpen := ((← get).descriptors.lookup 1).isSome
  match ← flushOutput with
  | some cause => failBy "write error" cause
  | none =>
    if hadLost then
      failWith ("write error" ++ if isOpen then "" else ": " ++ OsError.badDescriptor.reason)
  if (← get).hasLostErrors then
    noteFailure

/-- How a utility ends: its standard input may have to be closed, its output always is. -/
def finishUtility (asks : Bool) : UtilityM Unit := do
  if asks then
    closeInput
  closeOutput

/-- The utility runs to its end. A code other than zero is kept. -/
def UtilityState.run (state : UtilityState) (asks : Bool) (action : UtilityM Unit) : Activity :=
  let finish (early : Option Ending) (after : UtilityState) : Activity :=
    finishUtility asks after
      (fun _ last =>
        .ended last.machine (if last.hasFailed then exitEnding 1 else early.getD (exitEnding 0)))
      (fun ending last => .ended last.machine ending)
  action state (fun _ after => finish none after) fun ending after =>
    match ending with
    | .signaled _ => .ended after.machine ending
    | .exited _ => finish (some ending) after

end ChainShell
