/-
This file holds the places where a script has found its programs. A place is a number of a
directory in the search path.
-/

import ChainShell.Machine.Script.NameOrder

namespace ChainShell

structure TrackedProgram where
  name : Octets
  /-- The number of the directory in the search path, from zero on. -/
  place : Nat
  /-- The process has changed its directory since the program was found. -/
  isStale : Bool := false

abbrev TrackedPrograms := List TrackedProgram

namespace TrackedPrograms

def find? (table : TrackedPrograms) (name : Octets) : Option TrackedProgram :=
  List.find? (fun entry => entry.name = name) table

def erase (table : TrackedPrograms) (name : Octets) : TrackedPrograms :=
  table.filter fun entry => entry.name ≠ name

/-- A known name keeps its place in the list. -/
def store (table : TrackedPrograms) (entry : TrackedProgram) : TrackedPrograms :=
  if (table.find? entry.name).isSome then
    table.map fun other => if other.name = entry.name then entry else other
  else
    table ++ [entry]

/-- The number of buckets is part of the order. -/
def listed (table : TrackedPrograms) : TrackedPrograms :=
  listByBucket (fun entry => nameWeight entry.name % 0x8000 % 31) table

def makeStale (table : TrackedPrograms) : TrackedPrograms :=
  table.map fun entry => { entry with isStale := true }

end TrackedPrograms

end ChainShell
