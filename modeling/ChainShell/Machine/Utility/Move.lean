/-
This file holds the utility that moves files.
-/

import ChainShell.Machine.Utility.Target

namespace ChainShell

inductive MoveOption where
  | backup
  | context
  | force
  | interactive
  | noClobber
  | targetName
  | stripSlashes
  | suffix
  | targetDirectory
  | update
  | verbose
  | help
  | version
  deriving DecidableEq, Repr

def moveTable : OptionTable MoveOption where
  letters := [('b', ⟨.backup, .none⟩), ('f', ⟨.force, .none⟩), ('i', ⟨.interactive, .none⟩),
    ('n', ⟨.noClobber, .none⟩), ('t', ⟨.targetDirectory, .required⟩), ('u', ⟨.update, .none⟩),
    ('v', ⟨.verbose, .none⟩), ('S', ⟨.suffix, .required⟩), ('T', ⟨.targetName, .none⟩),
    ('Z', ⟨.context, .none⟩)]
  names := [("backup", ⟨.backup, .optional⟩), ("context", ⟨.context, .none⟩),
    ("force", ⟨.force, .none⟩), ("interactive", ⟨.interactive, .none⟩),
    ("no-clobber", ⟨.noClobber, .none⟩), ("no-target-directory", ⟨.targetName, .none⟩),
    ("strip-trailing-slashes", ⟨.stripSlashes, .none⟩), ("suffix", ⟨.suffix, .required⟩),
    ("target-directory", ⟨.targetDirectory, .required⟩), ("update", ⟨.update, .none⟩),
    ("verbose", ⟨.verbose, .none⟩), ("help", ⟨.help, .none⟩), ("version", ⟨.version, .none⟩)]

/-- What a move was asked to do, and where to. -/
structure Move where
  transfer : Transfer :=
    { moves := true, isRecursive := true, keepsMode := true, keepsTime := true,
      keepsOwner := true, keepsEntries := true, readsDevices := false }
  request : TargetRequest := {}

def Move.apply (move : Move) (given : GivenOption MoveOption) : UtilityM Move := do
  match given.meaning with
  | .backup => return { move with request := move.request.setBackup given.argument }
  | .context => return move
  | .force => return { move with transfer.replacing := .always }
  | .interactive => return { move with transfer.replacing := .ask }
  | .noClobber => return { move with transfer.replacing := .never }
  | .targetName => return { move with request.isName := true }
  | .stripSlashes => return { move with request.stripsSlashes := true }
  | .suffix =>
    return { move with request := { move.request with
      makesBackups := true, suffixWord := given.argument } }
  | .targetDirectory =>
    return { move with request := ← move.request.setDirectory given.argument }
  | .update => return { move with transfer.onlyUpdates := true }
  | .verbose => return { move with transfer.isVerbose := true }
  | .help | .version => throw (exitEnding 0)

/-- Of two operands the first is renamed at once if nothing is in its way. -/
def moveDestination (request : TargetRequest) (transfer : Transfer) (operands : List Octets) :
    UtilityM (Destination × RenameOutcome) := do
  requireOperands request operands
  if request.isName then
    requireName request operands
    return (namedDestination operands, .untried)
  else
    match request.directory with
    | some directory => return (← givenDestination directory operands, .untried)
    | none =>
      let outcome ←
        match operands with
        | [source, target] =>
          let machine ← theMachine
          match machine.tree.rename machine.directory false (octetsPath source)
              (octetsPath target) with
          | .ok tree =>
            setTree tree
            pure RenameOutcome.done
          | .error cause => pure (.refused cause)
        | _ => pure .untried
      if outcome = .done then
        return (namedDestination operands, .done)
      else
        match ← lastDestination operands with
        | .into directory sources => return (.into directory sources, transfer.renamed)
        | destination => return (destination, outcome)

/-- Each source gets its last name in the directory. -/
def moveInto (transfer : Transfer) (directory : Octets) : List Octets → TransferM Unit
  | [] => return
  | source :: rest => do
    let target := joinedPath directory (lastName source)
    { transfer with isLast := rest.isEmpty }.carryOperand .unknown source target
    moveInto transfer directory rest

/-- The utility `mv`. -/
def runMove (arguments : List Octets) : UtilityM Unit := do
  let (move, operands) ← withOptions moveTable arguments ({} : Move) Move.apply
  let (destination, outcome) ← moveDestination move.request move.transfer operands
  requireBackup move.request move.transfer
  let transfer ← withBackup move.request move.transfer
  let stripped (path : Octets) : Octets :=
    if move.request.stripsSlashes then withoutSlashes path else path
  match destination with
  | .name source target =>
    let action := { transfer with renamed := outcome, isLast := true }.carryOperand .unknown
      (stripped source) (stripped target)
    let _ ← action.run {}
  | .into directory sources =>
    let record : TransferRecord := { targets := if sources.length < 2 then none else some [] }
    let _ ← (moveInto { transfer with directory := some directory } directory
      (sources.map stripped)).run record

end ChainShell
