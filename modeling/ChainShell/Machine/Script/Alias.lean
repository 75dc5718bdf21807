/-
This file holds the names that stand for other texts where a command may start.
-/

import ChainShell.Machine.Script.NameOrder

namespace ChainShell

structure Alias where
  name : Octets
  text : Octets

abbrev AliasTable := List Alias

namespace AliasTable

def find? (table : AliasTable) (name : Octets) : Option Alias :=
  List.find? (fun entry => entry.name = name) table

/-- A known name keeps its place. -/
def store (table : AliasTable) (entry : Alias) : AliasTable :=
  if (table.find? entry.name).isSome then
    table.map fun other => if other.name = entry.name then entry else other
  else
    table ++ [entry]

def erase (table : AliasTable) (name : Octets) : AliasTable :=
  table.filter fun entry => entry.name ≠ name

/-- The number of buckets is part of the order. -/
def listed (table : AliasTable) : AliasTable :=
  listByBucket (fun entry => nameWeight entry.name % 39) table

/-- The bytes of all texts together. -/
def size (table : AliasTable) : Nat :=
  table.foldl (fun total entry => total + entry.text.length) 0

end AliasTable

/-- A text that was put in front of the unread script. It is used up when no more than the old
script is left, and until the reader goes on from there its name is not replaced again. -/
structure AliasUse where
  name : Octets
  /-- The length of the script behind the text. -/
  following : Nat
  /-- The word behind the text may be a name too. -/
  endsInBlank : Bool
  isUsedUp : Bool := false

def AliasUse.mark (left : Nat) (usage : AliasUse) : AliasUse :=
  { usage with isUsedUp := decide (left ≤ usage.following) }

/-- A text that was used up asks for no further name. -/
def AliasUse.keep (usage : AliasUse) : AliasUse :=
  if usage.isUsedUp then { usage with isUsedUp := false, endsInBlank := false } else usage

end ChainShell
