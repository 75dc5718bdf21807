/-
This file holds the order in which a script shell lists the names of its tables. A table is divided
into buckets, and a bucket keeps its names in the order of their arrival.
-/

import ChainShell.Text.Octets

namespace ChainShell

/-- The first byte counts more than the others. -/
def nameWeight (name : Octets) : Nat :=
  let codes := name.toList.map Char.toNat
  codes.foldl (fun total code => total + code) (16 * codes.headD 0)

/-- The entries of all buckets, one bucket after the other. -/
def listByBucket {α : Type} (bucket : α → Nat) (entries : List α) : List α :=
  entries.mergeSort fun left right => decide (bucket left ≤ bucket right)

end ChainShell
