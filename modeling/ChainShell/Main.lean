/-
This file is the command line of the shell. The shell runs on a machine in memory.
-/

import ChainShell.Machine.Layout

open ChainShell

/-- The variables that the shell takes over from its own process. -/
def inheritedNames : List String := ["PS1", "USER", "HOSTNAME", "HOME", "PATH", "TERM"]

def inheritedVariables : IO (List String) :=
  inheritedNames.filterMapM fun name => do
    return (← IO.getEnv name).map fun value => name ++ "=" ++ value

/-- Standard output and standard error are written after the run. -/
def main (arguments : List String) : IO UInt32 := do
  let input ← (← IO.getStdin).readToEnd
  let machine := Machine.standard (encode input)
  let result := machine.runProgram arguments (← inheritedVariables)
  IO.print (decode (streamBytes result.events))
  IO.eprint (errorText result.events)
  return result.code.toInt.toNat.toUInt32
