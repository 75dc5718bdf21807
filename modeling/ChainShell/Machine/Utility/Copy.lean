/-
This file holds the utility that copies files.
-/

import ChainShell.Machine.Descriptor
import ChainShell.Machine.Utility.Target

namespace ChainShell

inductive CopyOption where
  | archive
  | attributesOnly
  | backup
  | copyContents
  | context
  | keepLinks
  | dereference
  | dereferenceOperands
  | noDereference
  | force
  | interactive
  | link
  | noClobber
  | noPreserve
  | preserve
  | preserveUsual
  | targetName
  | oneFileSystem
  | parents
  | recursive
  | removeDestination
  | sparse
  | reflink
  | stripSlashes
  | suffix
  | symbolicLink
  | targetDirectory
  | update
  | verbose
  | help
  | version
  deriving DecidableEq, Repr

def copyTable : OptionTable CopyOption where
  letters := [('a', ⟨.archive, .none⟩), ('b', ⟨.backup, .none⟩), ('d', ⟨.keepLinks, .none⟩),
    ('f', ⟨.force, .none⟩), ('H', ⟨.dereferenceOperands, .none⟩), ('i', ⟨.interactive, .none⟩),
    ('l', ⟨.link, .none⟩), ('L', ⟨.dereference, .none⟩), ('n', ⟨.noClobber, .none⟩),
    ('p', ⟨.preserveUsual, .none⟩), ('r', ⟨.recursive, .none⟩), ('s', ⟨.symbolicLink, .none⟩),
    ('t', ⟨.targetDirectory, .required⟩), ('u', ⟨.update, .none⟩), ('v', ⟨.verbose, .none⟩),
    ('x', ⟨.oneFileSystem, .none⟩), ('P', ⟨.noDereference, .none⟩), ('R', ⟨.recursive, .none⟩),
    ('S', ⟨.suffix, .required⟩), ('T', ⟨.targetName, .none⟩), ('Z', ⟨.context, .none⟩)]
  names := [("archive", ⟨.archive, .none⟩), ("attributes-only", ⟨.attributesOnly, .none⟩),
    ("backup", ⟨.backup, .optional⟩), ("copy-contents", ⟨.copyContents, .none⟩),
    ("dereference", ⟨.dereference, .none⟩), ("force", ⟨.force, .none⟩),
    ("interactive", ⟨.interactive, .none⟩), ("link", ⟨.link, .none⟩),
    ("no-clobber", ⟨.noClobber, .none⟩), ("no-dereference", ⟨.noDereference, .none⟩),
    ("no-preserve", ⟨.noPreserve, .required⟩), ("no-target-directory", ⟨.targetName, .none⟩),
    ("one-file-system", ⟨.oneFileSystem, .none⟩), ("parents", ⟨.parents, .none⟩),
    ("path", ⟨.parents, .none⟩), ("preserve", ⟨.preserve, .optional⟩),
    ("recursive", ⟨.recursive, .none⟩), ("remove-destination", ⟨.removeDestination, .none⟩),
    ("sparse", ⟨.sparse, .required⟩), ("reflink", ⟨.reflink, .optional⟩),
    ("strip-trailing-slashes", ⟨.stripSlashes, .none⟩), ("suffix", ⟨.suffix, .required⟩),
    ("symbolic-link", ⟨.symbolicLink, .none⟩),
    ("target-directory", ⟨.targetDirectory, .required⟩), ("update", ⟨.update, .none⟩),
    ("verbose", ⟨.verbose, .none⟩), ("context", ⟨.context, .optional⟩),
    ("help", ⟨.help, .none⟩), ("version", ⟨.version, .none⟩)]

/-- What a copy may keep of its source. -/
inductive Property where
  | mode
  | timestamps
  | ownership
  | links
  | context
  | extended
  | all
  deriving DecidableEq, Repr

def propertyChoices : Choices Property :=
  [("mode", .mode), ("timestamps", .timestamps), ("ownership", .ownership), ("links", .links),
    ("context", .context), ("xattr", .extended), ("all", .all)]

/-- When something is done on its own account. -/
inductive Occasion where
  | never
  | auto
  | always
  deriving DecidableEq, Repr

def sparseChoices : Choices Occasion :=
  [("never", .never), ("auto", .auto), ("always", .always)]

def cloneChoices : Choices Occasion :=
  [("auto", .auto), ("always", .always), ("never", .never)]

/-- What a copy was asked to do, and where to. -/
structure Copy where
  transfer : Transfer := { moves := false }
  request : TargetRequest := {}
  following : Option Following := none
  copiesContents : Bool := false
  makesParents : Bool := false
  needsContext : Bool := false
  sparse : Occasion := .auto

def Transfer.keep (transfer : Transfer) (property : Property) (isKept : Bool) : Transfer :=
  match property with
  | .mode => { transfer with keepsMode := isKept, dropsMode := !isKept }
  | .timestamps => { transfer with keepsTime := isKept }
  | .ownership => { transfer with keepsOwner := isKept }
  | .links => { transfer with keepsEntries := isKept }
  | .context | .extended => transfer
  | .all =>
    { transfer with
      keepsMode := isKept
      keepsTime := isKept
      keepsOwner := isKept
      keepsEntries := isKept
      dropsMode := !isKept }

/-- A list of attributes between commas. -/
def Copy.keepAll (copy : Copy) (isKept : Bool) (text : Octets) : UtilityM Copy :=
  ((text.toList.splitOn ',').map String.ofList).foldlM (fun current word => do
    let property ← chosen (if isKept then "--preserve" else "--no-preserve") propertyChoices
      word
    return { current with
      transfer := current.transfer.keep property isKept
      needsContext := if property = .context then isKept else current.needsContext }) copy

def Copy.keepUsual (copy : Copy) : Copy :=
  { copy with transfer := { copy.transfer with
    keepsMode := true, keepsTime := true, keepsOwner := true } }

def Copy.apply (copy : Copy) (given : GivenOption CopyOption) : UtilityM Copy := do
  match given.meaning with
  | .archive =>
    let kept := copy.keepUsual
    return { kept with
      following := some .never
      transfer := { kept.transfer with keepsEntries := true, isRecursive := true } }
  | .attributesOnly => return { copy with transfer.copiesContent := false }
  | .backup => return { copy with request := copy.request.setBackup given.argument }
  | .copyContents => return { copy with copiesContents := true }
  | .context =>
    if given.argument.isSome then
      complainOf "warning: ignoring --context; it requires an SELinux-enabled kernel"
    return copy
  | .keepLinks => return { copy with following := some .never, transfer.keepsEntries := true }
  | .dereference => return { copy with following := some .always }
  | .dereferenceOperands => return { copy with following := some .operands }
  | .noDereference => return { copy with following := some .never }
  | .force => return { copy with transfer.removesUnopened := true }
  | .interactive => return { copy with transfer.replacing := .ask }
  | .link => return { copy with transfer.makesHardLinks := true }
  | .noClobber => return { copy with transfer.replacing := .never }
  | .noPreserve => copy.keepAll false (given.argument.getD "")
  | .preserve =>
    match given.argument with
    | some text => copy.keepAll true text
    | none => return copy.keepUsual
  | .preserveUsual => return copy.keepUsual
  | .targetName => return { copy with request.isName := true }
  | .oneFileSystem => return copy
  | .parents => return { copy with makesParents := true }
  | .recursive => return { copy with transfer.isRecursive := true }
  | .removeDestination => return { copy with transfer.removesFirst := true }
  | .sparse =>
    return { copy with sparse := ← chosen "--sparse" sparseChoices (given.argument.getD "") }
  | .reflink =>
    match given.argument with
    | none => return { copy with transfer.clones := true }
    | some word =>
      let occasion ← chosen "--reflink" cloneChoices word
      return { copy with transfer.clones := occasion = .always }
  | .stripSlashes => return { copy with request.stripsSlashes := true }
  | .suffix =>
    return { copy with request := { copy.request with
      makesBackups := true, suffixWord := given.argument } }
  | .symbolicLink => return { copy with transfer.makesLinks := true }
  | .targetDirectory =>
    return { copy with request := ← copy.request.setDirectory given.argument }
  | .update => return { copy with transfer.onlyUpdates := true }
  | .verbose => return { copy with transfer.isVerbose := true }
  | .help | .version => throw (exitEnding 0)

/-- Options that exclude each other are refused, and the rest is settled. -/
def Copy.settle (copy : Copy) : UtilityM Transfer := do
  let transfer := copy.transfer
  if transfer.makesHardLinks && transfer.makesLinks then
    misuse "cannot make both hard and symbolic links"
  requireBackup copy.request transfer
  if transfer.clones && copy.sparse ≠ .auto then
    misuse "--reflink can be used only with --sparse=auto"
  let usual := if transfer.isRecursive && !transfer.makesHardLinks then Following.never else .always
  let settled ← withBackup copy.request { transfer with
    following := copy.following.getD usual
    readsDevices := !transfer.isRecursive || copy.copiesContents
    writesThrough := ← followsStandard }
  if copy.needsContext then
    dieWith "cannot preserve security context without an SELinux-enabled kernel"
  return settled

/-- A directory that was made on the way to a target, and what it gets in the end. -/
structure MadeParent where
  id : NodeId
  mode : Option Nat
  time : Option Nat

/-- The paths that end before each slash of a path, the shortest first. Leading slashes and repeated
ones count once. -/
def leadingPaths (path : List Char) : List (List Char) :=
  (List.range path.length).filterMap fun index =>
    if path[index]? = some '/' && 0 < index && path[index - 1]? ≠ some '/' then
      some (path.take index)
    else none

/-- One directory on the way to the target is looked at, and made if it is missing. The answer is
missing when that fails. -/
def makeParent (transfer : Transfer) (source target : Octets) :
    UtilityM (Option (Bool × Option MadeParent)) := do
  let machine ← theMachine
  let found := machine.sight true target
  let keeps := transfer.keepsOwner || transfer.keepsMode || transfer.keepsTime
  let attributes : Except OsError Sight :=
    match machine.sight true source with
    | .ok sight => if sight.isDirectory then .ok sight else .error .notDirectory
    | .error cause => .error cause
  match found, attributes with
  | .ok sight, .ok model =>
    if !sight.isDirectory then
      failWith (quoteName target ++ " exists but is not a directory")
      return none
    else
      return some (false, if keeps then some
        { id := sight.id
          mode := if transfer.keepsMode then some model.mode else none
          time := if transfer.keepsTime then some (machine.tree.time model.id) else none }
        else none)
  | .ok sight, .error cause =>
    if keeps then
      failBy ("failed to get attributes of " ++ quoteName source) cause
      return none
    else if !sight.isDirectory then
      failWith (quoteName target ++ " exists but is not a directory")
      return none
    else
      return some (false, none)
  | .error _, .error cause =>
    failBy ("failed to get attributes of " ++ quoteName source) cause
    return none
  | .error _, .ok model =>
    let bits := if transfer.dropsMode then 0o777 else model.mode
    let heldBack := model.mode &&& (
      if transfer.keepsOwner then 0o077 else if transfer.keepsMode then 0o022 else 0)
    let created := withoutBits (withoutBits (bits &&& 0o1777) heldBack) machine.mask
    match machine.tree.makeDirectory machine.directory (octetsPath target) created with
    | .error cause =>
      failBy ("cannot make directory " ++ quoteName target) cause
      return none
    | .ok (id, tree) =>
      if transfer.isVerbose then
        say (source ++ " -> " ++ target)
      let final := if transfer.keepsMode then model.mode
        else created ||| withoutBits heldBack machine.mask
      let time := if transfer.keepsTime then some (tree.time model.id) else none
      setTree (tree.changeMode id (created ||| 0o700))
      return some (true, some { id := id, mode := some final, time := time })

/-- All directories on the way to a target. The answer is missing when one cannot be made. The
flag tells whether the last one is new. -/
def makeParents (transfer : Transfer) (directory : Octets) :
    Bool → List MadeParent → List (List Char) → UtilityM (Option (Bool × List MadeParent))
  | isNew, made, [] => return some (isNew, made)
  | _, made, path :: rest => do
    let source := String.ofList path
    match ← makeParent transfer source (joinedPath directory source) with
    | none => return none
    | some (isNew, parent) => makeParents transfer directory isNew (parent.toList ++ made) rest

/-- The directories that were made get their bits when they are full. -/
def settleParents (parents : List MadeParent) : UtilityM Unit :=
  modify fun state => { state with
    machine.tree := parents.foldl (fun tree parent =>
      let timed := match parent.time with
        | some time => tree.setTime parent.id time
        | none => tree
      match parent.mode with
      | some mode => timed.changeMode parent.id mode
      | none => timed) state.machine.tree }

/-- A source keeps its whole path in the target. -/
def copyWithParents (transfer : Transfer) (directory source : Octets) : TransferM Unit := do
  let plain := withoutSlashes source
  let target := joinedPath directory plain
  let parent := directoryText target
  let existing ← look true parent
  let ways := leadingPaths plain.toList
  let made : Option (Bool × List MadeParent) ←
    if ways.isEmpty then pure (some (false, []))
    else
      match existing with
      | .ok sight =>
        if sight.isDirectory then pure (some (false, []))
        else do
          failWith (quoteName parent ++ " exists but is not a directory")
          pure none
      | .error _ => makeParents transfer directory false [] ways
  if let some (isNew, parents) := made then
    transfer.carryOperand (if isNew then .missing else .unknown) source target
    settleParents parents

/-- Each source gets its last name in the directory. The parent directory is copied by its
content. -/
def copyInto (copy : Copy) (transfer : Transfer) (directory : Octets) :
    List Octets → TransferM Unit
  | [] => return
  | operand :: rest => do
    let source := if copy.request.stripsSlashes then withoutSlashes operand else operand
    if copy.makesParents then
      copyWithParents transfer directory source
    else
      let name := if lastName source = ".." then "." else lastName source
      transfer.carryOperand .unknown source (joinedPath directory name)
    copyInto copy transfer directory rest

/-- A forced copy of a file onto itself with a backup makes the backup only. -/
def backupOnly (transfer : Transfer) (source target : Octets) : UtilityM (Transfer × Octets) := do
  let machine ← theMachine
  let isFile := (machine.sight true target).toOption.any Sight.isRegular
  if transfer.removesUnopened && transfer.backup ≠ .none && source = target && isFile then
    return ({ transfer with backup := .none },
      backupPath machine transfer.backup transfer.suffix target)
  else
    return (transfer, target)

def copyDestination (request : TargetRequest) (operands : List Octets) :
    UtilityM Destination := do
  requireOperands request operands
  if request.isName then
    requireName request operands
    return namedDestination operands
  else
    match request.directory with
    | some directory => givenDestination directory operands
    | none => lastDestination operands

/-- The utility `cp`. -/
def runCopy (arguments : List Octets) : UtilityM Unit := do
  let (copy, operands) ← withOptions copyTable arguments ({} : Copy) Copy.apply
  let transfer ← copy.settle
  modify fun state => { state with
    machine := state.machine.showDescriptors state.descriptors operands }
  match ← copyDestination copy.request operands with
  | .name source target =>
    if copy.makesParents then
      misuse "with --parents, the destination must be a directory"
    let missing : Bool :=
      match ← look true target with
      | .error .notFound => !copy.request.isName
      | _ => false
    let (settled, place) ← backupOnly transfer source target
    let _ ← (settled.carryOperand (if missing then .unreached else .unknown) source place).run {}
  | .into directory sources =>
    let known := if sources.length < 2 then none else some []
    let record : TransferRecord := { sources := known, targets := known }
    let _ ← (copyInto copy { transfer with directory := some directory } directory sources).run
      record

end ChainShell
