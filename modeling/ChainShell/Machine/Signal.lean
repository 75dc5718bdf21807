/-
This file names the signals that end processes.
-/

import ChainShell.System

namespace ChainShell

/-- Signals have numbers below this one. -/
def signalCount : Nat := 65

/-- The names of the standard signals, from one on. A signal without a name has its number. -/
def standardSignalNames : List String :=
  ["HUP", "INT", "QUIT", "ILL", "TRAP", "ABRT", "BUS", "FPE", "KILL", "USR1", "SEGV", "USR2",
    "PIPE", "ALRM", "TERM", "16", "CHLD", "CONT", "STOP", "TSTP", "TTIN", "TTOU", "URG", "XCPU",
    "XFSZ", "VTALRM", "PROF", "WINCH", "IO", "PWR", "SYS", "32", "33"]

/-- The first real-time signal. -/
def firstRealTimeSignal : Nat := 34

/-- Real-time signals are counted from both ends. -/
def realTimeSignalName (signal : Nat) : String :=
  let above := toString (signal - firstRealTimeSignal)
  let below := toString (64 - signal)
  if signal = 34 then "RTMIN"
  else if signal = 64 then "RTMAX"
  else if signal < 50 then "RTMIN+" ++ above
  else "RTMAX-" ++ below

def signalName (signal : Nat) : String :=
  if signal < firstRealTimeSignal then standardSignalNames.getD (signal - 1) ""
  else realTimeSignalName signal

/-- The names are told apart without regard to case. -/
def signalOfName? (name : String) : Option Nat :=
  (List.range' 1 (signalCount - 1)).find? fun signal => signalName signal = name.toUpper

/-- What a shell says when a child was ended by the signal. -/
def standardSignalTexts : List String :=
  ["Hangup", "Interrupt", "Quit", "Illegal instruction", "Trace/breakpoint trap", "Aborted",
    "Bus error", "Floating point exception", "Killed", "User defined signal 1",
    "Segmentation fault", "User defined signal 2", "Broken pipe", "Alarm clock", "Terminated",
    "Stack fault", "Child exited", "Continued", "Stopped (signal)", "Stopped",
    "Stopped (tty input)", "Stopped (tty output)", "Urgent I/O condition",
    "CPU time limit exceeded", "File size limit exceeded", "Virtual timer expired",
    "Profiling timer expired", "Window changed", "I/O possible", "Power failure",
    "Bad system call", "Unknown signal 32", "Unknown signal 33"]

def signalText (signal : Nat) : String :=
  let above := toString (signal - firstRealTimeSignal)
  if signal < firstRealTimeSignal then standardSignalTexts.getD (signal - 1) ""
  else "Real-time signal " ++ above

/-- These signals are ignored or stop a process, unless it handles them. -/
def harmlessSignals : List Nat := [0, 17, 18, 19, 20, 21, 22, 23, 28]

def signalEnds (signal : Nat) : Bool :=
  !harmlessSignals.contains signal

/-- These two signals cannot be handled. -/
def signalIsFixed (signal : Nat) : Bool :=
  signal = 9 || signal = 19

/-- The signal of somebody who takes a process back to the next command. -/
def interruptSignal : Nat := 2

/-- The signal of somebody who gives a process up. -/
def quitSignal : Nat := 3

/-- The signal that asks a process to end. -/
def terminateSignal : Nat := 15

/-- The signal for a process that writes to a pipe nobody reads from. -/
def pipeSignal : Nat := 13

/-- The signal for a process whose arithmetic fails. -/
def arithmeticSignal : Nat := 8

/-- The signal for a process that writes more to a file than it may. -/
def fileSizeSignal : Nat := 25

/-- The signal for a process whose child has ended. -/
def childSignal : Nat := 17

/-- Only the lowest eight bits of a code leave the process. -/
def exitEnding (code : Nat) : Ending :=
  .exited (Int32.ofNat (code % 256))

end ChainShell
