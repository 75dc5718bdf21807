/-
This file holds the utility that changes permission bits.
-/

import ChainShell.Machine.Utility.Lookup
import ChainShell.Machine.Utility.Mode
import ChainShell.Machine.Utility.Option

namespace ChainShell

inductive ChangeModeOption where
  | recursive
  | changes
  | silent
  | verbose
  /-- A mode that looks like an option. -/
  | mode
  | noPreserveRoot
  | preserveRoot
  | reference
  | help
  | version
  deriving DecidableEq, Repr

/-- The letters with which a mode behind a dash can start. -/
def modeOptionLetters : List Char :=
  "rwxXstugoa,+=01234567".toList

def changeModeTable : OptionTable ChangeModeOption where
  letters := [('R', ⟨.recursive, .none⟩), ('c', ⟨.changes, .none⟩), ('f', ⟨.silent, .none⟩),
    ('v', ⟨.verbose, .none⟩)] ++ modeOptionLetters.map fun letter =>
      (letter, ⟨.mode, .optional⟩)
  names := [("changes", ⟨.changes, .none⟩), ("recursive", ⟨.recursive, .none⟩),
    ("no-preserve-root", ⟨.noPreserveRoot, .none⟩), ("preserve-root", ⟨.preserveRoot, .none⟩),
    ("quiet", ⟨.silent, .none⟩), ("reference", ⟨.reference, .required⟩),
    ("silent", ⟨.silent, .none⟩), ("verbose", ⟨.verbose, .none⟩), ("help", ⟨.help, .none⟩),
    ("version", ⟨.version, .none⟩)]

/-- What is told about each file. -/
inductive Telling where
  | nothing
  | changes
  | everything
  deriving DecidableEq, Repr

/-- What the utility was asked to do. -/
structure ModeRequest where
  isRecursive : Bool := false
  telling : Telling := .nothing
  isSilent : Bool := false
  mode : Option Octets := none
  reference : Option Octets := none
  guardsRoot : Bool := false
  changes : List ModeChange := []
  mask : Nat := 0

def ModeRequest.apply (request : ModeRequest) (given : GivenOption ChangeModeOption) :
    UtilityM ModeRequest := do
  match given.meaning with
  | .recursive => return { request with isRecursive := true }
  | .changes => return { request with telling := .changes }
  | .silent => return { request with isSilent := true }
  | .verbose => return { request with telling := .everything }
  | .mode =>
    return { request with mode := some (match request.mode with
      | some earlier => earlier ++ "," ++ given.word
      | none => given.word) }
  | .noPreserveRoot => return { request with guardsRoot := false }
  | .preserveRoot => return { request with guardsRoot := true }
  | .reference => return { request with reference := given.argument }
  | .help | .version => throw (exitEnding 0)

/-- What became of one file. -/
inductive ModeOutcome where
  | unseen
  /-- A link is left alone. -/
  | spared
  | failed (old new : Nat)
  | kept (mode : Nat)
  | changed (old new : Nat)

def modeText (mode : Nat) : Octets :=
  modeDigits mode ++ " (" ++ modeLetters mode ++ ")"

def ModeOutcome.line (outcome : ModeOutcome) (path : Octets) : Octets :=
  let name := quoteName path
  match outcome with
  | .unseen => name ++ " could not be accessed"
  | .spared => "neither symbolic link " ++ name ++ " nor referent has been changed"
  | .failed old new =>
    "failed to change mode of " ++ name ++ " from " ++ modeText old ++ " to " ++ modeText new
  | .kept mode => "mode of " ++ name ++ " retained as " ++ modeText mode
  | .changed old new =>
    "mode of " ++ name ++ " changed from " ++ modeText old ++ " to " ++ modeText new

def ModeOutcome.isChange : ModeOutcome → Bool
  | .changed _ _ => true
  | _ => false

namespace ModeRequest

/-- A complaint that can be suppressed. The failure stays. -/
def refuse (request : ModeRequest) (message : Octets) : UtilityM Unit := do
  if request.isSilent then noteFailure else failWith message

def report (request : ModeRequest) (path : Octets) (outcome : ModeOutcome) : UtilityM Unit := do
  if request.telling = .everything || (request.telling = .changes && outcome.isChange) then
    say (outcome.line path)

/-- A mode behind a dash does not give more than it seems to. -/
def warnOfMask (request : ModeRequest) (path : Octets) (isDirectory : Bool) (old new : Nat) :
    UtilityM Unit := do
  let expected := applyMode request.changes isDirectory 0 old
  if request.mode.isSome && withoutBits new expected != 0 then
    failWith (quoteIfNeeded path ++ ": new permissions are " ++ modeLetters new ++ ", not " ++
      modeLetters expected)

/-- The bits of one file are changed. Only the owner can do that. -/
def changeFile (request : ModeRequest) (path : Octets) (sight : Sight) : UtilityM Unit := do
  if sight.isLink then
    request.report path .spared
  else
    let old := sight.mode
    let new := applyMode request.changes sight.isDirectory request.mask old
    if sight.node.access.isSystem then
      request.refuse ("changing permissions of " ++ quoteName path ++ ": " ++
        OsError.operationNotPermitted.reason)
      request.report path (.failed old new)
    else
      setTree ((← theMachine).tree.changeMode sight.id new)
      request.report path (if old = new then .kept new else .changed old new)
      request.warnOfMask path sight.isDirectory old new

/-- A file that cannot be looked at. -/
def missFile (request : ModeRequest) (path : Octets) (message : Octets) : UtilityM Unit := do
  request.refuse message
  request.report path .unseen

/-- The entries of a directory follow the directory itself. Links are followed only from the
operands. -/
def changeEntry (request : ModeRequest) : Nat → Bool → Octets → UtilityM Unit
  | 0, _, _ => return
  | fuel + 1, isStart, path => do
    match ← look isStart path with
    | .error cause =>
      let isDangling := cause = .notFound && isStart && (← look false path).toBool
      request.missFile path (
        if isDangling then "cannot operate on dangling symlink " ++ quoteName path
        else "cannot access " ++ quoteName path ++ ": " ++ cause.reason)
    | .ok sight =>
      if request.isRecursive && request.guardsRoot && sight.id = FileTree.rootId then
        warnOfRoot path
      else
        request.changeFile path sight
        match (← theMachine).tree.node? sight.id with
        | some (.directory access _ entries) =>
          if request.isRecursive then
            if access.allows .read then
              for entry in entries do
                request.changeEntry fuel false (walkEntry path (octetsOfText entry.1))
            else
              request.missFile path ("cannot read directory " ++ quoteName path ++ ": " ++
                OsError.permissionDenied.reason)
        | _ => return

/-- The changes come from a file or from a mode. -/
def settle (request : ModeRequest) (mode : Octets) : UtilityM ModeRequest := do
  match request.reference with
  | some path =>
    match ← look true path with
    | .error cause =>
      dieWith ("failed to get attributes of " ++ quoteName path ++ ": " ++ cause.reason)
    | .ok sight =>
      return { request with changes := [replaceMode sight.mode allModeBits] }
  | none =>
    match readMode mode with
    | none => misuse ("invalid mode: " ++ quoteWord mode)
    | some changes =>
      return { request with changes := changes, mask := (← theMachine).mask }

end ModeRequest

/-- The utility `chmod`. The first operand is the mode unless an option gave one. -/
def runChangeMode (arguments : List Octets) : UtilityM Unit := do
  let (request, operands) ← withOptions changeModeTable arguments ({} : ModeRequest)
    ModeRequest.apply
  if request.reference.isSome && request.mode.isSome then
    misuse "cannot combine mode and --reference options"
  let takesMode := request.reference.isNone && request.mode.isNone
  let paths := if takesMode then operands.drop 1 else operands
  let mode := request.mode.getD (operands.headD "")
  if paths.isEmpty then
    if takesMode && !operands.isEmpty then
      misuse ("missing operand after " ++ quoteWord mode)
    else
      misuse "missing operand"
  let settled ← request.settle mode
  for path in paths do
    settled.changeEntry ((← theMachine).tree.nodes.size + 1) true (walkStart path)

end ChainShell
