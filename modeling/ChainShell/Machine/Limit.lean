/-
This file holds the limits that the system sets to a process.
-/

import ChainShell.System
import ChainShell.Text.Octets

namespace ChainShell

/-- A resource that is limited. Scripts count it in units. -/
structure Resource where
  letter : Char
  name : Octets
  unit : Nat

/-- A limit without a value does not limit. A process may raise the soft limit up to the hard
one. -/
structure ResourceLimit where
  resource : Resource
  soft : Option Nat := none
  hard : Option Nat := none

abbrev ResourceLimits := List ResourceLimit

/-- The limits of a new process. -/
def standardLimits : ResourceLimits :=
  [{ resource := ⟨'t', "time(seconds)", 1⟩ },
    { resource := ⟨'f', "file(blocks)", 512⟩ },
    { resource := ⟨'d', "data(kbytes)", 1024⟩ },
    { resource := ⟨'s', "stack(kbytes)", 1024⟩, soft := some 8388608 },
    { resource := ⟨'c', "coredump(blocks)", 512⟩, soft := some 0 },
    { resource := ⟨'m', "memory(kbytes)", 1024⟩ },
    { resource := ⟨'l', "locked memory(kbytes)", 1024⟩, soft := some 8388608,
      hard := some 8388608 },
    { resource := ⟨'p', "process", 1⟩ },
    { resource := ⟨'n', "nofiles", 1⟩, soft := some 1048576, hard := some 1048576 },
    { resource := ⟨'v', "vmemory(kbytes)", 1024⟩ },
    { resource := ⟨'w', "locks", 1⟩ },
    { resource := ⟨'r', "rtprio", 1⟩, soft := some 0, hard := some 0 }]

/-- The soft limit of the resource with a letter. -/
def softLimit (limits : ResourceLimits) (letter : Char) : Option Nat :=
  (limits.find? fun limit => limit.resource.letter == letter).bind ResourceLimit.soft

/-- No file may become larger than this. -/
def fileSizeLimit (limits : ResourceLimits) : Option Nat :=
  softLimit limits 'f'

/-- The descriptors of a process have smaller numbers than this. -/
def descriptorLimit (limits : ResourceLimits) : Option Nat :=
  softLimit limits 'n'

/-- A user has no more processes than this. -/
def processLimit (limits : ResourceLimits) : Option Nat :=
  softLimit limits 'p'

/-- A number stays below a limit, if there is one. -/
def isWithin (limit : Option Nat) (number : Nat) : Bool :=
  limit.all fun value => number < value

namespace ResourceLimit

def valueText (limit : ResourceLimit) (value : Option Nat) : Octets :=
  match value with
  | none => "unlimited"
  | some amount => toString (amount / limit.resource.unit)

/-- A value lies above another one, or above all values. -/
def exceeds : Option Nat → Option Nat → Bool
  | _, none => false
  | none, some _ => true
  | some left, some right => right < left

/-- The soft limit stays below the hard one, and nobody raises the hard one. -/
def change (limit : ResourceLimit) (setsSoft setsHard : Bool) (value : Option Nat) :
    Except OsError ResourceLimit :=
  let changed := { limit with
    soft := if setsSoft then value else limit.soft
    hard := if setsHard then value else limit.hard }
  if exceeds changed.soft changed.hard then .error .invalidArgument
  else if exceeds changed.hard limit.hard then .error .operationNotPermitted
  else .ok changed

end ResourceLimit

end ChainShell
