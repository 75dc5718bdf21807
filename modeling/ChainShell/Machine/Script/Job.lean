/-
This file holds the commands that a script runs in the background.
-/

import ChainShell.Machine.ProcessTable
import ChainShell.Status
import ChainShell.System
import ChainShell.Text.Octets

namespace ChainShell

/-- The code that a script sees of a child. -/
def Ending.scriptCode : Ending → Nat
  | .exited code => (code.toInt % 256).toNat
  | .signaled signal => 128 + signal

/-- A process of a job, and how it ended as far as the script has learned. -/
structure JobMember where
  process : Nat
  ending : Option Ending := none

/-- A command in the background. -/
structure ScriptJob where
  /-- The place of the job in its table, from one on. -/
  number : Nat
  /-- The processes of its stages. -/
  members : List JobMember
  isWaitedFor : Bool := false

/-- The jobs of a script, the newest first. -/
abbrev ScriptJobs := List ScriptJob

namespace ScriptJob

/-- The script has learned that all processes are over. -/
def isOver (job : ScriptJob) : Bool :=
  job.members.all fun member => member.ending.isSome

/-- A job ends like its last process. -/
def ending (job : ScriptJob) : Option Ending :=
  job.members.getLast?.bind JobMember.ending

def processes (job : ScriptJob) : List Nat :=
  job.members.map JobMember.process

/-- The state of a job in a listing. -/
def state (job : ScriptJob) : Octets :=
  match job.isOver, job.ending with
  | true, some (.exited code) =>
    let number := toString (code.toInt % 256)
    if code = 0 then "Done" else "Done(" ++ number ++ ")"
  | true, some (.signaled signal) => signalText signal
  | _, _ => "Running"

/-- The script learns which processes of the job are over. -/
def notice (job : ScriptJob) (table : ProcessTable) : ScriptJob :=
  { job with members := job.members.map fun member =>
    { member with
      ending := member.ending.orElse fun _ =>
        (table.find? member.process).bind ProcessEntry.ending } }

/-- A line of a listing. Marks show the current job and the one before it. The stages have no
text, so only their separators are left. -/
def line (mark : Char) (showsProcess : Bool) (job : ScriptJob) : Octets :=
  let number := toString job.number
  let process := toString (job.processes.headD 0)
  let head := "[" ++ number ++ "] " ++ String.singleton mark ++ " " ++
    (if showsProcess then process ++ " " else "") ++ job.state
  let others := if showsProcess then "" else
    String.join ((job.members.drop 1).map fun _ => " | ")
  head ++ String.ofList (List.replicate (max 1 (33 - head.length)) ' ') ++ others ++ "\n"

end ScriptJob

namespace ScriptJobs

def setJob (jobs : ScriptJobs) (job : ScriptJob) : ScriptJobs :=
  jobs.map fun other => if other.number = job.number then job else other

def erase (jobs : ScriptJobs) (number : Nat) : ScriptJobs :=
  jobs.filter fun job => job.number ≠ number

/-- The first place that is free, and the jobs that are left. A job that is over and was waited for
gives its place to the next one. -/
def claim (jobs : ScriptJobs) : Nat × ScriptJobs :=
  let isFree (number : Nat) : Bool :=
    match jobs.find? fun job => job.number = number with
    | some job => job.isOver && job.isWaitedFor
    | none => true
  let number := ((List.range' 1 (jobs.length + 1)).find? isFree).getD (jobs.length + 1)
  (number, jobs.erase number)

/-- A script learns of every process that is over, and such processes are forgotten. -/
def notice (jobs : ScriptJobs) (table : ProcessTable) : ScriptJobs × ProcessTable :=
  let numbers := jobs.flatMap ScriptJob.processes
  (jobs.map fun job => job.notice table,
    table.filter fun entry => entry.isAlive || !numbers.contains entry.number)

/-- The current job is the newest one. -/
def mark (jobs : ScriptJobs) (number : Nat) : Char :=
  match jobs with
  | first :: rest =>
    if first.number = number then '+'
    else if (rest.head?.map ScriptJob.number) = some number then '-'
    else ' '
  | [] => ' '

/-- The job that a word with a percent sign stands for. -/
def select (jobs : ScriptJobs) (word : Octets) : Except Octets ScriptJob :=
  let orFail (job : Option ScriptJob) (message : Octets) : Except Octets ScriptJob :=
    match job with
    | some found => .ok found
    | none => .error message
  let missing : Except Octets ScriptJob := .error ("No such job: " ++ word)
  match word.toList with
  | ['%'] | ['%', '+'] | ['%', '%'] => orFail jobs.head? "No current job"
  | ['%', '-'] => orFail (jobs.drop 1).head? "No previous job"
  | ['%', '?'] =>
    match jobs with
    | [only] => .ok only
    | [] => missing
    | _ => .error (word ++ ": ambiguous")
  | '%' :: digits =>
    if digits.all Char.isDigit then
      let number := digits.foldl (fun value digit => 10 * value + (digit.toNat - 48)) 0
      orFail (jobs.find? fun job => job.number = number) ("No such job: " ++ word)
    else
      missing
  | _ => missing

end ScriptJobs

end ChainShell
