/-
This file lets utilities look at the files behind paths.
-/

import ChainShell.Machine.Utility.PathText
import ChainShell.Machine.Utility.Report

namespace ChainShell

/-- A file as a utility sees it. -/
structure Sight where
  id : NodeId
  node : Node

namespace Sight

def isDirectory (sight : Sight) : Bool :=
  match sight.node with
  | .directory _ _ _ => true
  | _ => false

def isLink (sight : Sight) : Bool :=
  match sight.node with
  | .link _ => true
  | _ => false

def isRegular (sight : Sight) : Bool :=
  match sight.node with
  | .file _ _ => true
  | _ => false

def mode (sight : Sight) : Nat := sight.node.access.mode

/-- The kind of a file in words. -/
def kind (sight : Sight) : Octets :=
  match sight.node with
  | .directory _ _ _ => "directory"
  | .file _ (.data "") => "regular empty file"
  | .file _ _ => "regular file"
  | .link _ => "symbolic link"
  | .device _ (.pipe _) => "fifo"
  | .device _ _ => "character special file"

end Sight

/-- The file behind a path. The last link is followed on request. -/
def Machine.sight (machine : Machine) (followsLink : Bool) (path : Octets) :
    Except OsError Sight :=
  match machine.tree.locate machine.directory followsLink (octetsPath path) with
  | .error cause => .error cause
  | .ok located =>
    match machine.tree.node? located.id with
    | some node => .ok ⟨located.id, node⟩
    | none => .error .notFound

def look (followsLink : Bool) (path : Octets) : UtilityM (Except OsError Sight) := do
  return (← theMachine).sight followsLink path

/-- The permission bits in nine letters. -/
def modeLetters (mode : Nat) : Octets :=
  let letter (bit : Nat) (char : Char) : Char := if mode &&& bit != 0 then char else '-'
  let last (bit special : Nat) (both alone : Char) : Char :=
    if mode &&& special != 0 then (if mode &&& bit != 0 then both else alone)
    else letter bit 'x'
  String.ofList [letter 0o400 'r', letter 0o200 'w', last 0o100 0o4000 's' 'S',
    letter 0o040 'r', letter 0o020 'w', last 0o010 0o2000 's' 'S',
    letter 0o004 'r', letter 0o002 'w', last 0o001 0o1000 't' 'T']

/-- The permission bits as at least four octal digits. -/
def modeDigits (mode : Nat) : Octets :=
  let digits := Nat.toDigits 8 mode
  String.ofList (List.replicate (4 - digits.length) '0' ++ digits)

/-- A walk through a directory tree starts without repeated slashes at its end. -/
def walkStart (path : Octets) : Octets :=
  let reversed := path.toList.reverse
  let slashes := reversed.takeWhile (· == '/')
  if slashes.length < 2 || path = "//" then path
  else String.ofList ((reversed.drop slashes.length).reverse ++ ['/'])

/-- The path of an entry in a walk. -/
def walkEntry (directory name : Octets) : Octets :=
  if directory.endsWith "/" then directory ++ name else directory ++ "/" ++ name

/-- The root directory is not walked through by accident. -/
def warnOfRoot (path : Octets) : UtilityM Unit := do
  failWith ("it is dangerous to operate recursively on " ++ quoteName path ++
    if path = "/" then "" else " (same as '/')")
  failWith "use --no-preserve-root to override this failsafe"

end ChainShell
