/-
This file finds out where the operands of a copy or a move go.
-/

import ChainShell.Machine.Utility.Delivery
import ChainShell.Machine.Utility.Option

namespace ChainShell

/-- Where the operands go. -/
structure TargetRequest where
  directory : Option Octets := none
  /-- The last operand is the new name itself. -/
  isName : Bool := false
  stripsSlashes : Bool := false
  makesBackups : Bool := false
  backupWord : Option Octets := none
  suffixWord : Option Octets := none

def TargetRequest.setDirectory (request : TargetRequest) (path : Option Octets) :
    UtilityM TargetRequest := do
  if request.directory.isSome then
    dieWith "multiple target directories specified"
  else
    return { request with directory := path }

def TargetRequest.setBackup (request : TargetRequest) (word : Option Octets) : TargetRequest :=
  { request with makesBackups := true, backupWord := word <|> request.backupWord }

/-- The sources and what they are put into, or the new name of the only source. -/
inductive Destination where
  | into (directory : Octets) (sources : List Octets)
  | name (source target : Octets)

/-- The cause for which a path is no directory that files can be put into. -/
def directoryFault? (path : Octets) : UtilityM (Option OsError) := do
  match ← look true path with
  | .error cause => return some cause
  | .ok sight => return if sight.isDirectory then none else some .notDirectory

def requireOperands (request : TargetRequest) (operands : List Octets) : UtilityM Unit := do
  match operands with
  | [] => misuse "missing file operand"
  | [only] =>
    if request.directory.isNone then
      misuse ("missing destination file operand after " ++ quoteName only)
  | _ => return

/-- The new name must be the second of two operands. -/
def requireName (request : TargetRequest) (operands : List Octets) : UtilityM Unit := do
  if request.directory.isSome then
    dieWith "cannot combine --target-directory (-t) and --no-target-directory (-T)"
  if let some extra := operands[2]? then
    misuse ("extra operand " ++ quoteName extra)

/-- The last operand is a directory or, of two operands, a name. -/
def lastDestination (operands : List Octets) : UtilityM Destination := do
  let last := operands.getLastD ""
  match ← directoryFault? last with
  | none => return .into last operands.dropLast
  | some cause =>
    if 2 < operands.length then
      dieWith ("target " ++ quoteName last ++ ": " ++ cause.reason)
    else
      return .name (operands.headD "") last

def namedDestination (operands : List Octets) : Destination :=
  .name (operands.headD "") (operands.getLastD "")

def givenDestination (directory : Octets) (operands : List Octets) : UtilityM Destination := do
  if let some cause ← directoryFault? directory then
    dieWith ("target directory " ++ quoteName directory ++ ": " ++ cause.reason)
  return .into directory operands

/-- Backups and untouched targets exclude each other. -/
def requireBackup (request : TargetRequest) (transfer : Transfer) : UtilityM Unit := do
  if request.makesBackups && transfer.replacing = .never then
    misuse "options --backup and --no-clobber are mutually exclusive"

def withBackup (request : TargetRequest) (transfer : Transfer) : UtilityM Transfer := do
  let kind ← if request.makesBackups then backupKind request.backupWord else pure .none
  return { transfer with
    backup := kind
    suffix := ← backupSuffix request.suffixWord
    onlyUpdates := transfer.onlyUpdates && transfer.replacing ≠ .never }

end ChainShell
