/-
This file reads changes of permission bits and applies them.
-/

import ChainShell.Machine.FileTree

namespace ChainShell

/-- What the letters behind a sign ask for. -/
inductive ModeValue where
  | bits (mode : Nat)
  /-- The bits of one class are copied to others. -/
  | copy (mode : Nat)
  deriving DecidableEq, Repr

/-- One change of permission bits. No class named leaves the choice to the mask. -/
structure ModeChange where
  sign : Char
  classes : Nat
  value : ModeValue
  /-- Execution is added where some execution or a directory is there already. -/
  executesIfAny : Bool
  /-- The special bits that the change names. A directory keeps the others. -/
  mentioned : Nat
  deriving DecidableEq, Repr

/-- The bits of a class of users, with the special bit that goes with it. -/
def classBits : Char → Option Nat
  | 'u' => some 0o4700
  | 'g' => some 0o2070
  | 'o' => some 0o1007
  | 'a' => some 0o7777
  | _ => none

/-- The bits that a permission letter stands for. -/
def permissionBits : Char → Option Nat
  | 'r' => some 0o444
  | 'w' => some 0o222
  | 'x' => some 0o111
  | 's' => some 0o6000
  | 't' => some 0o1000
  | 'X' => some 0
  | _ => none

def copiedClass : Char → Option Nat
  | 'u' => some 0o700
  | 'g' => some 0o070
  | 'o' => some 0o007
  | _ => none

def unionBits (bits : List Nat) : Nat :=
  bits.foldl (fun all one => all ||| one) 0

def isModeSign (char : Char) : Bool :=
  char == '+' || char == '-' || char == '='

/-- All bits that a mode can have. -/
def allModeBits : Nat := 0o7777

def isOctalDigit (char : Char) : Bool :=
  '0' ≤ char && char ≤ '7'

def octalNumber (digits : List Char) : Nat :=
  digits.foldl (fun value digit => 8 * value + (digit.toNat - '0'.toNat)) 0

/-- The change that stands behind a sign, and the text behind it. A number stands for all classes
at once, so it neither follows classes nor is followed by another sign. -/
def readModeValue (sign : Char) (classes : Nat) (text : List Char) :
    Option (ModeChange × List Char) :=
  let digits := text.takeWhile isOctalDigit
  match text.head?.bind copiedClass with
  | some mode => some (⟨sign, classes, .copy mode, false, 0⟩, text.drop 1)
  | none =>
    if digits.isEmpty then
      let letters := text.takeWhile fun char => (permissionBits char).isSome
      let bits := unionBits (letters.filterMap permissionBits)
      let mentioned := if classes = 0 then bits else bits &&& classes
      some (⟨sign, classes, .bits bits, letters.contains 'X', mentioned⟩,
        text.drop letters.length)
    else
      let rest := text.drop digits.length
      let isEnded := rest.head?.all (· == ',')
      if octalNumber digits ≤ allModeBits && classes = 0 && isEnded then
        some (⟨sign, allModeBits, .bits (octalNumber digits), false, allModeBits⟩, rest)
      else
        none

/-- Signs with their values, up to a comma. -/
def readModeActions (classes : Nat) : Nat → List Char → Option (List ModeChange × List Char)
  | 0, _ => none
  | fuel + 1, text =>
    match text with
    | sign :: rest =>
      if isModeSign sign then
        match readModeValue sign classes rest with
        | none => none
        | some (change, following) =>
          (readModeActions classes fuel following).map fun (changes, after) =>
            (change :: changes, after)
      else
        some ([], text)
    | [] => some ([], [])

/-- Clauses between commas, each with its classes and at least one sign. -/
def readModeClauses : Nat → List Char → Option (List ModeChange)
  | 0, _ => none
  | fuel + 1, text =>
    let letters := text.takeWhile fun char => (classBits char).isSome
    let classes := unionBits (letters.filterMap classBits)
    match readModeActions classes (text.length + 1) (text.drop letters.length) with
    | none => none
    | some (changes, rest) =>
      if changes.isEmpty then none
      else
        match rest with
        | [] => some changes
        | ',' :: following => (readModeClauses fuel following).map (changes ++ ·)
        | _ => none

/-- The mode as a whole is replaced. -/
def replaceMode (mode mentioned : Nat) : ModeChange :=
  ⟨'=', allModeBits, .bits mode, false, mentioned⟩

/-- A mode is an octal number or a list of clauses. A short number says nothing about special bits
that it does not set. -/
def readMode (text : Octets) : Option (List ModeChange) :=
  let chars := text.toList
  if !chars.isEmpty && chars.all isOctalDigit then
    let mode := octalNumber chars
    if allModeBits < mode then none
    else if chars.length < 5 then some [replaceMode mode (mode &&& 0o6000)]
    else some [replaceMode mode allModeBits]
  else
    readModeClauses (chars.length + 1) chars

/-- The bits of one class stand for the same permissions in all classes. -/
def spreadBits (mode : Nat) : Nat :=
  unionBits [if mode &&& 0o444 != 0 then 0o444 else 0, if mode &&& 0o222 != 0 then 0o222 else 0,
    if mode &&& 0o111 != 0 then 0o111 else 0]

def ModeChange.apply (change : ModeChange) (isDirectory : Bool) (mask mode : Nat) : Nat :=
  let asked :=
    match change.value with
    | .bits bits =>
      if change.executesIfAny && (isDirectory || mode &&& 0o111 != 0) then bits ||| 0o111
      else bits
    | .copy bits => spreadBits (mode &&& bits)
  let kept := if isDirectory then withoutBits 0o6000 change.mentioned else 0
  let allowed := if change.classes = 0 then withoutBits asked mask else asked &&& change.classes
  let value := withoutBits allowed kept
  match change.sign with
  | '+' => mode ||| value
  | '-' => withoutBits mode value
  | _ =>
    let preserved := if change.classes = 0 then 0 else withoutBits allModeBits change.classes
    (mode &&& (preserved ||| kept)) ||| value

def applyMode (changes : List ModeChange) (isDirectory : Bool) (mask mode : Nat) : Nat :=
  changes.foldl (fun current change => change.apply isDirectory mask current) mode

end ChainShell
