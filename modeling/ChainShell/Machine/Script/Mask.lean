/-
This file reads the masks that scripts set.
-/

import ChainShell.Text.Octets

namespace ChainShell

/-- The lowest bit of each class of users that a letter names. -/
def maskPlace : Char → Option Nat
  | 'a' => some 0o111
  | 'u' => some 0o100
  | 'g' => some 0o010
  | 'o' => some 0o001
  | _ => none

/-- The permissions that a letter stands for. Some letters look at what was granted before. -/
def maskValue (granted : Nat) : Char → Option Nat
  | 'r' => some 4
  | 'w' => some 2
  | 'x' => some 1
  | 'u' => some (granted / 64 % 8)
  | 'g' => some (granted / 8 % 8)
  | 'o' => some (granted % 8)
  | 'X' => some (if granted &&& 0o111 != 0 then 1 else 0)
  | 's' => some 0
  | _ => none

def joinBits (bits : List Nat) : Nat :=
  bits.foldl (fun all one => all ||| one) 0

/-- The permissions that are granted after a list of clauses. What a letter looks at is what was
granted before the first clause. Behind a comma the classes are named anew, and without a name all
of them are meant. -/
def readMaskClauses (before : Nat) : Nat → Nat → Nat → List Char → Option Nat
  | 0, _, _, _ => none
  | _ + 1, _, granted, [] => some granted
  | fuel + 1, places, granted, text =>
    let letters := text.takeWhile fun char => (maskPlace char).isSome
    let named := joinBits (places :: letters.filterMap maskPlace)
    let chosen := if named = 0 then 0o111 else named
    match text.drop letters.length with
    | [] => none
    | sign :: rest =>
      let values := rest.takeWhile fun char => (maskValue before char).isSome
      let bits := joinBits (values.filterMap (maskValue before)) * chosen
      let changed :=
        match sign with
        | '+' => some (granted ||| bits)
        | '-' => some (granted &&& (0o777 ^^^ bits))
        | '=' => some ((granted &&& (0o777 ^^^ (7 * chosen))) ||| bits)
        | _ => none
      match changed, rest.drop values.length with
      | none, _ => none
      | some after, ',' :: following => readMaskClauses before fuel 0 after following
      | some after, [] => some after
      | some after, next :: following =>
        if ['+', '-', '='].contains next then
          readMaskClauses before fuel chosen after (next :: following)
        else
          none

/-- A list of clauses changes the permissions that a mask grants. The answer is the new mask. -/
def readMask (mask : Nat) (text : List Char) : Option Nat :=
  let granted := 0o777 ^^^ (mask &&& 0o777)
  (readMaskClauses granted (text.length + 1) 0 granted text).map fun after => 0o777 ^^^ after

end ChainShell
