/-
This file keeps files that are about to be replaced under other names.
-/

import ChainShell.Machine.Utility.Choice
import ChainShell.Machine.Utility.Lookup

namespace ChainShell

/-- How a file is kept before it is replaced. -/
inductive BackupKind where
  | none
  | simple
  /-- Numbers are used where there are numbered files already. -/
  | existing
  | numbered
  deriving DecidableEq, Repr

def backupChoices : Choices BackupKind :=
  [("none", .none), ("off", .none), ("simple", .simple), ("never", .simple),
    ("existing", .existing), ("nil", .existing), ("numbered", .numbered), ("t", .numbered)]

/-- The kind comes from an option or from a variable. -/
def backupKind (word : Option Octets) : UtilityM BackupKind := do
  match word.filter (· ≠ "") with
  | some text => chosen "backup type" backupChoices text
  | none =>
    match (← utilityVariable? "VERSION_CONTROL").filter (· ≠ "") with
    | some text => chosen "$VERSION_CONTROL" backupChoices text
    | none => return .existing

/-- The text behind the names of simple backups. It has no slash in it. -/
def backupSuffix (word : Option Octets) : UtilityM Octets := do
  let inherited ← utilityVariable? "SIMPLE_BACKUP_SUFFIX"
  match word <|> inherited with
  | none => return "~"
  | some text => return if text ≠ "" && lastComponent text = text then text else "~"

/-- The number in the name of a numbered backup of a file. -/
def backupNumber? (name entry : List Char) : Option Nat :=
  let marked := name ++ ['.', '~']
  if marked.isPrefixOf entry then
    let behind := entry.drop marked.length
    let digits := behind.takeWhile Char.isDigit
    if behind.drop digits.length = ['~'] && digits.head?.any (· != '0') then
      some (digits.foldl (fun value digit => 10 * value + (digit.toNat - '0'.toNat)) 0)
    else none
  else none

/-- The largest number among the numbered backups of a file. -/
def lastBackupNumber (machine : Machine) (path : Octets) : Option Nat :=
  match machine.sight true (directoryText path) with
  | .ok ⟨_, .directory access _ entries⟩ =>
    if access.allows .read then
      (entries.filterMap fun entry =>
        backupNumber? (lastComponent path).toList (octetsOfText entry.1).toList).max?
    else none
  | _ => none

/-- A name that became too long ends in a mark instead. -/
def shortenedBackup (path suffix : Octets) : Octets :=
  let base := lastComponent path
  if maxNameBytes < base.length + suffix.length then
    let kept := min base.length (maxNameBytes - 1)
    String.ofList (path.toList.take (path.length - base.length + kept) ++ ['~'])
  else
    path ++ suffix

/-- The name of the backup of a file. Slashes behind the name of the file do not count. -/
def backupPath (machine : Machine) (kind : BackupKind) (suffix target : Octets) : Octets :=
  let path := withoutSlashes target
  let numbered (number : Nat) : Octets := ".~" ++ toString number ++ "~"
  match kind, lastBackupNumber machine path with
  | .none, _ | .simple, _ => path ++ suffix
  | .existing, none => shortenedBackup path suffix
  | .numbered, none => shortenedBackup path (numbered 1)
  | _, some number => shortenedBackup path (numbered (number + 1))

/-- A simple backup would take the place of the source when it has that name. -/
def isBackupOf (machine : Machine) (suffix source : Octets) (id : NodeId) (target : Octets) :
    Bool :=
  lastComponent source = lastComponent target ++ suffix &&
    (machine.sight true (target ++ suffix)).toOption.any fun sight => sight.id = id

end ChainShell
