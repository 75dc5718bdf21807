/-
This file lets the processes of a machine take turns. A process goes on until it has to wait or
has had its share. A new process waits for its first turn behind all others.
-/

import ChainShell.Machine.Activity

namespace ChainShell

/-- A process that waits for its turn. -/
structure Task where
  number : Nat
  isReady : Machine → Bool
  resume : Machine → Activity

/-- The number of steps that a process takes before the next one gets its turn. -/
def stepsInTurn : Nat := 1000

/-- The number of steps after which a machine is stopped, whatever its processes do. -/
def maxSteps : Nat := 1000000000000

/-- The number of steps that processes may take whose first ancestor is over. -/
def maxStepsLeft : Nat := 200000

/-- A process that stops waiting for a signal goes on in front of the others. -/
def rousedFirst (machine : Machine) (tasks : List Task) : List Task :=
  let isRoused (task : Task) : Bool := machine.processes.isRoused task.number
  tasks.filter isRoused ++ tasks.filter fun task => !isRoused task

/-- The processes take turns until the watched one is over, or nobody can go on. The count of idle
turns tells how many processes in a row could not go on. -/
def takeTurns (watched : Option Nat) : Nat → Nat → Nat → List Task → Machine →
    List Task × Machine
  | 0, _, _, tasks, machine => (tasks, machine)
  | _ + 1, _, _, [], machine => ([], machine)
  | fuel + 1, steps, idle, task :: rest, machine =>
    if watched.any fun number => !machine.processes.isAlive number then
      (task :: rest, machine)
    else if !machine.processes.isAlive task.number then
      takeTurns watched fuel stepsInTurn 0 rest machine
    else
      match machine.processes.fate? task.number with
      | some signal =>
        takeTurns watched fuel stepsInTurn 0 rest (machine.finish task.number (.signaled signal))
      | none =>
        if !task.isReady machine then
          if rest.length ≤ idle then (task :: rest, machine)
          else takeTurns watched fuel stepsInTurn (idle + 1) (rest ++ [task]) machine
        else
          match steps with
          | 0 => takeTurns watched fuel stepsInTurn 0 (rest ++ [task]) machine
          | left + 1 =>
            match task.resume machine with
            | .ended after ending =>
              let left := after.finish task.number ending
              takeTurns watched fuel stepsInTurn 0 (rousedFirst left rest) left
            | .paused after isReady resume =>
              takeTurns watched fuel left 0 (⟨task.number, isReady, resume⟩ :: rest) after
            | .postponed after resume =>
              takeTurns watched fuel stepsInTurn 0
                (rest ++ [⟨task.number, fun _ => true, resume⟩]) after
            | .forked after number child resume =>
              takeTurns watched fuel left 0
                (⟨task.number, fun _ => true, resume⟩ :: rest ++
                  [⟨number, fun _ => true, child⟩])
                after

/-- The process runs to its end. Then the processes that it has left behind may finish what they
do. -/
def Machine.runProcess (machine : Machine) (number : Nat) (activity : Machine → Activity) :
    Machine :=
  let (tasks, ended) := takeTurns (some number) maxSteps stepsInTurn 0
    [⟨number, fun _ => true, activity⟩] machine
  (takeTurns none maxStepsLeft stepsInTurn 0 tasks ended).2

end ChainShell
