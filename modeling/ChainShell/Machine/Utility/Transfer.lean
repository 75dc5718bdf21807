/-
This file decides what a copy or a move does: which files it takes and what it makes of files that
stand in its way.
-/

import ChainShell.Machine.Utility.Backup

namespace ChainShell

/-- Which links are followed. -/
inductive Following where
  | never
  | operands
  | always
  deriving DecidableEq, Repr

/-- Whether existing files are replaced. -/
inductive Replacing where
  | unspecified
  | always
  | ask
  | never
  deriving DecidableEq, Repr

/-- What became of a simple rename. -/
inductive RenameOutcome where
  | untried
  | done
  | refused (cause : OsError)
  deriving DecidableEq, Repr

/-- What a copy or a move was asked to do. -/
structure Transfer where
  moves : Bool
  isRecursive : Bool := false
  following : Following := .never
  replacing : Replacing := .unspecified
  makesHardLinks : Bool := false
  makesLinks : Bool := false
  keepsMode : Bool := false
  keepsTime : Bool := false
  keepsOwner : Bool := false
  /-- Entries of one file stay entries of one file. -/
  keepsEntries : Bool := false
  /-- New files get the usual bits and not those of their sources. -/
  dropsMode : Bool := false
  backup : BackupKind := .none
  suffix : Octets := "~"
  /-- Files that are not older than their sources are left alone. -/
  onlyUpdates : Bool := false
  isVerbose : Bool := false
  /-- An existing file is removed before the new one is made. -/
  removesFirst : Bool := false
  /-- An existing file is removed when it cannot be opened. -/
  removesUnopened : Bool := false
  copiesContent : Bool := true
  /-- Devices are read like files. -/
  readsDevices : Bool := true
  /-- The content is to be shared, which no file system here can do. -/
  clones : Bool := false
  /-- A file is made at the end of a link that leads nowhere. -/
  writesThrough : Bool := false
  renamed : RenameOutcome := .untried
  isLast : Bool := false
  /-- The directory that all operands go into. -/
  directory : Option Octets := none

/-- Whether the target is known to be missing. -/
inductive Newness where
  | unknown
  | missing
  /-- Following all links leads nowhere. -/
  | unreached
  deriving DecidableEq, Repr

/-- One file on its way. -/
structure Errand where
  source : Octets
  target : Octets
  isOperand : Bool := true
  newness : Newness := .unknown
  /-- The directories that the source lies in. -/
  ancestors : List NodeId := []
  /-- A directory was made for the operand. -/
  madeFirst : Bool := false

/-- What was copied so far. Names are kept for the nodes they lead to. -/
structure TransferRecord where
  copied : List (NodeId × Octets) := []
  /-- The operands and what was made of them, when there are several. -/
  sources : Option (List (NodeId × Octets)) := none
  targets : Option (List (NodeId × Octets)) := none
  operand : Octets := ""
  operandTarget : Octets := ""

abbrev TransferM := StateT TransferRecord UtilityM

/-- The target as it is when the new file is made. -/
structure TargetState where
  isNew : Bool
  found : Option Sight := none
  backup : Option Octets := none
  outcome : RenameOutcome := .untried

/-- A decision that can come early. An early answer tells whether all is well. -/
abbrev DecisionM := ExceptT Bool TransferM

/-- The directory that a path names an entry of. A target directory was reached already. -/
def Machine.holder? (machine : Machine) (directory : Option Octets) (path : Octets) :
    Option NodeId :=
  let parent := directoryText path
  let isReached := directory.any fun reached => withoutSlashes reached = parent
  (machine.sight isReached parent).toOption.map Sight.id

/-- A source names the same entry of a directory as a target. -/
def Machine.isSamePlace (machine : Machine) (directory : Option Octets)
    (source target : Octets) : Bool :=
  lastName source = lastName target &&
    match machine.holder? none source, machine.holder? directory target with
    | some one, some other => one = other
    | _, _ => false

/-- The path of a target. An empty one stands for the current directory. -/
def reachedTarget (target : Octets) : Octets :=
  if target = "" then "." else target

namespace Transfer

/-- Whether links are followed on the way to a source. -/
def followsSource (transfer : Transfer) (isOperand : Bool) : Bool :=
  transfer.following = .always || (transfer.following = .operands && isOperand)

/-- The answer to the question whether a file may be replaced by another one that might be the
same. -/
inductive Sameness where
  | different
  /-- There is nothing left to do. -/
  | settled
  | same
  deriving DecidableEq, Repr

/-- The sources and targets of links themselves, where they count. -/
structure OwnSights where
  source : Sight
  target : Sight

def OwnSights.areSame (sights : OwnSights) : Bool :=
  sights.source.id = sights.target.id

/-- The case of a target with several entries and of links, without a backup. -/
def judgeLinks (transfer : Transfer) (machine : Machine) (source target : Octets)
    (own : OwnSights) : Sameness :=
  let entries := machine.tree.linkCount own.target.id
  let isPlain := !own.source.isLink && !own.target.isLink
  let replacesEntry := transfer.moves || transfer.removesFirst
  let final (path : Octets) (sight : Sight) : Option NodeId :=
    if sight.isLink then (machine.sight true path).toOption.map Sight.id else some sight.id
  if replacesEntry && own.target.isLink then .different
  else if replacesEntry && own.areSame && 1 < entries &&
      !machine.isSamePlace transfer.directory source target then
    if transfer.moves then .same else .different
  else if isPlain && !own.areSame then .different
  else if isPlain && transfer.makesHardLinks then .settled
  else if transfer.moves && own.source.isLink && 1 < entries then
    match (machine.tree.canonicalPath machine.directory (octetsPath source)).toOption with
    | some path =>
      if machine.isSamePlace transfer.directory (octetsOfText path.text) target then .same
      else .different
    | none => .different
  else if transfer.makesLinks && own.target.isLink then .different
  else if transfer.following = .never then
    match final source own.source, final target own.target with
    | some one, some other =>
      if one ≠ other then .different
      else if transfer.makesHardLinks then
        if own.target.isLink then .different else .settled
      else .same
    | _, _ => .different
  else .same

/-- A backup keeps the replaced file, so only one and the same entry is in the way. -/
def judgeBackup (transfer : Transfer) (machine : Machine) (source target : Octets)
    (own : OwnSights) : Sameness :=
  if !own.areSame then
    if !transfer.moves && transfer.following ≠ .never && own.source.isLink &&
        !own.target.isLink then .same
    else .different
  else if machine.isSamePlace transfer.directory source target then .same
  else .different

/-- Whether source and target are the same file in a way that matters. -/
def judge (transfer : Transfer) (machine : Machine) (source target : Octets)
    (sourceSight targetSight : Sight) : Sameness :=
  let isSame := sourceSight.id = targetSight.id
  let judgeOwn (own : OwnSights) : Sameness :=
    if transfer.backup ≠ .none then transfer.judgeBackup machine source target own
    else transfer.judgeLinks machine source target own
  if isSame && transfer.makesHardLinks then .settled
  else if transfer.following = .never then
    if sourceSight.isLink && targetSight.isLink then
      if machine.isSamePlace transfer.directory source target then .same
      else if transfer.backup ≠ .none then .different
      else if isSame then (if transfer.moves then .same else .settled)
      else .different
    else
      judgeOwn ⟨sourceSight, targetSight⟩
  else if !isSame then .different
  else
    match machine.sight false target, machine.sight false source with
    | .ok ownTarget, .ok ownSource =>
      if ownSource.isLink && ownTarget.isLink && transfer.removesFirst then .different
      else judgeOwn ⟨ownSource, ownTarget⟩
    | _, _ => .different

end Transfer

def recordCopy (id : NodeId) (target : Octets) : TransferM (Option Octets) := do
  let record ← get
  match record.copied.lookup id with
  | some earlier => return some earlier
  | none =>
    set { record with copied := (id, target) :: record.copied }
    return none

def forgetCopy (id : NodeId) : TransferM Unit :=
  modify fun record => { record with copied := record.copied.filter fun entry => entry.1 ≠ id }

/-- A node was met under this name before. -/
def isRecorded (machine : Machine) (records : Option (List (NodeId × Octets))) (id : NodeId)
    (path : Octets) : Bool :=
  records.any fun known => known.any fun entry =>
    entry.1 = id && machine.isSamePlace none entry.2 path

def recordTarget (id : NodeId) (target : Octets) : TransferM Unit :=
  modify fun record => { record with
    targets := record.targets.map fun known => (id, target) :: known }

/-- A new entry for a node. An entry in its place may have to go. -/
def FileTree.forceEntry (tree : FileTree) (directory : NodeId) (replaces : Bool) (path : Path)
    (make : FileTree → Except OsError FileTree) : Except OsError FileTree :=
  match make tree with
  | .error .fileExists =>
    if replaces then
      match tree.slot directory path with
      | .error cause => .error cause
      | .ok slot =>
        match tree.changeFault? slot.holder with
        | some cause => .error cause
        | none =>
          if ((tree.entry? slot.holder slot.name).any tree.isDirectory) || slot.isDotted then
            .error .isDirectory
          else
            make (tree.eraseEntry slot.holder slot.name)
    else
      .error .fileExists
  | result => result

/-- A second entry for a file. What stood in its place is told on request. -/
def linkEntry (source target : Octets) (replaces isVerbose followsLink : Bool) :
    UtilityM Bool := do
  let machine ← theMachine
  let wasThere := (machine.sight false target).toBool
  match machine.tree.forceEntry machine.directory replaces (octetsPath target) fun tree =>
      tree.makeEntry machine.directory followsLink (octetsPath source) (octetsPath target) with
  | .ok tree =>
    setTree tree
    if wasThere && isVerbose then
      say ("removed " ++ quoteName target)
    return true
  | .error cause =>
    failBy ("cannot create hard link " ++ quoteName target ++ " to " ++ quoteName source) cause
    return false

/-- Lines about a file with its source, and the backup of what it replaced. -/
def transferLine (errand : Errand) (backup : Option Octets) : Octets :=
  quoteName errand.source ++ " -> " ++ quoteName errand.target ++
    match backup with
    | some path => " (backup: " ++ quoteName path ++ ")"
    | none => ""

namespace Transfer

/-- The user is asked about a file in the way. -/
def agreesToReplace (transfer : Transfer) (target : Octets) (sight : Sight) : UtilityM Bool := do
  let isReached := transfer.moves || target ≠ ""
  if sight.isLink || (isReached && sight.node.access.allows .write) then
    agrees ("overwrite " ++ quoteName target)
  else
    let digits := modeDigits sight.mode
    let letters := modeLetters sight.mode
    if transfer.moves || transfer.removesFirst || transfer.removesUnopened then
      agrees ("replace " ++ quoteName target ++ ", overriding mode " ++ digits ++ " (" ++
        letters ++ ")")
    else
      agrees ("unwritable " ++ quoteName target ++ " (mode " ++ digits ++ ", " ++ letters ++
        "); try anyway")

/-- A move asks about all files, a copy only where the source is no directory. -/
def spares (transfer : Transfer) (errand : Errand) (source target : Sight) : UtilityM Bool := do
  if !transfer.moves && source.isDirectory then
    return false
  else
    match transfer.replacing with
    | .never => return true
    | .ask => return !(← transfer.agreesToReplace errand.target target)
    | _ => return false

/-- A directory and a file do not take each other's place, and what was just made is not replaced
at once. A move with a backup may exchange the kinds. -/
def conflict? (transfer : Transfer) (errand : Errand) (source target : Sight) :
    TransferM (Option Octets) := do
  let exchanges := transfer.moves && transfer.backup ≠ .none
  let machine ← theMachine
  if !target.isDirectory && source.isDirectory && !exchanges then
    return some ("cannot overwrite non-directory " ++ quoteName errand.target ++
      " with directory " ++ quoteName errand.source)
  else if !target.isDirectory && errand.isOperand && transfer.backup ≠ .numbered &&
      isRecorded machine (← get).targets target.id errand.target then
    return some ("will not overwrite just-created " ++ quoteName errand.target ++ " with " ++
      quoteName errand.source)
  else if !source.isDirectory && target.isDirectory && !exchanges then
    return some ("cannot overwrite directory " ++ quoteName errand.target ++
      " with non-directory")
  else
    return none

/-- The existing file moves to its backup name. -/
def makeBackup (transfer : Transfer) (errand : Errand) (source : Sight) :
    DecisionM (Option Octets) := do
  let machine ← theMachine
  if transfer.backup ≠ .numbered &&
      isBackupOf machine transfer.suffix errand.source source.id errand.target then
    failWith ("backing up " ++ quoteName errand.target ++ " might destroy source;  " ++
      quoteName errand.source ++ " not " ++ if transfer.moves then "moved" else "copied")
    throw false
  else
    let path := backupPath machine transfer.backup transfer.suffix errand.target
    match machine.tree.rename machine.directory true (octetsPath errand.target)
        (octetsPath path) with
    | .ok tree =>
      setTree tree
      return some path
    | .error .notFound => return none
    | .error cause =>
      failBy ("cannot backup " ++ quoteName errand.target) cause
      throw false

/-- An existing file that the new one cannot be written into. -/
def mustRemove (transfer : Transfer) (machine : Machine) (source target : Sight) : Bool :=
  !target.isDirectory && !transfer.moves &&
    (transfer.removesFirst ||
      (transfer.copiesContent &&
        ((transfer.keepsEntries && 1 < machine.tree.linkCount target.id) ||
          (transfer.following = .never && !source.isRegular))))

/-- Room is made for the new file: by a backup, or by a removal. -/
def makeRoom (transfer : Transfer) (errand : Errand) (source target : Sight) :
    DecisionM TargetState := do
  let machine ← theMachine
  let state : TargetState :=
    { isNew := false, found := some target, outcome := .refused .fileExists }
  if transfer.backup ≠ .none && !isDotName errand.source &&
      (transfer.moves || !target.isDirectory) then
    let backup ← transfer.makeBackup errand source
    return { state with isNew := true, backup := backup }
  else if transfer.mustRemove machine source target then
    match machine.tree.removeFile machine.directory (octetsPath errand.target) with
    | .ok tree =>
      setTree tree
      if transfer.isVerbose then
        say ("removed " ++ quoteName errand.target)
      return { state with isNew := true }
    | .error .notFound => return { state with isNew := true }
    | .error cause =>
      failBy ("cannot remove " ++ quoteName errand.target) cause
      throw false
  else
    return state

/-- The new file would replace an existing one. -/
def meetFile (transfer : Transfer) (errand : Errand) (source target : Sight) :
    DecisionM TargetState := do
  let machine ← theMachine
  let sameness :=
    if transfer.replacing = .never then .different
    else transfer.judge machine errand.source (reachedTarget errand.target) source target
  if sameness = .same then
    failWith (quoteName errand.source ++ " and " ++ quoteName errand.target ++
      " are the same file")
    throw false
  else if transfer.onlyUpdates && !source.isDirectory &&
      machine.tree.time source.id ≤ machine.tree.time target.id then
    match ← recordCopy source.id errand.target with
    | some earlier =>
      throw (← linkEntry earlier errand.target true transfer.isVerbose
        (transfer.followsSource errand.isOperand))
    | none => throw true
  else if ← transfer.spares errand source target then
    throw true
  else if sameness = .settled then
    throw true
  else
    match ← transfer.conflict? errand source target with
    | some message =>
      failWith message
      throw false
    | none => transfer.makeRoom errand source target

/-- A link that leads nowhere counts as a file only where links are not followed. -/
def meetTarget (transfer : Transfer) (errand : Errand) (source : Sight)
    (outcome : RenameOutcome) : DecisionM TargetState := do
  let looksAtLink :=
    (!source.isRegular && (!transfer.readsDevices || source.isDirectory || source.isLink)) ||
      transfer.moves || transfer.makesLinks || transfer.makesHardLinks ||
      transfer.backup ≠ .none || transfer.removesFirst
  if errand.newness = .missing || (!looksAtLink && errand.newness = .unreached) then
    return { isNew := true, outcome := outcome }
  else
    match ← look (!looksAtLink) (reachedTarget errand.target) with
    | .ok target => transfer.meetFile errand source target
    | .error cause =>
      if cause = .tooManyLinks && transfer.removesUnopened then
        return { isNew := false, outcome := outcome }
      else if cause = .notFound then
        return { isNew := true, outcome := outcome }
      else
        failBy ("cannot stat " ++ quoteName errand.target) cause
        throw false

/-- Nothing is written through a link that was made by the same run. -/
def guardLinks (transfer : Transfer) (errand : Errand) : DecisionM Unit := do
  if errand.isOperand && !transfer.moves && transfer.backup = .none then
    match ← look false (reachedTarget errand.target) with
    | .ok sight =>
      if sight.isLink &&
          isRecorded (← theMachine) (← get).targets sight.id errand.target then
        failWith ("will not copy " ++ quoteName errand.source ++
          " through just-created symlink " ++ quoteName errand.target)
        throw false
    | .error _ => return

/-- The name under which the same node was copied before. -/
def earlierCopy (transfer : Transfer) (errand : Errand) (source : Sight) :
    TransferM (Option Octets) := do
  let entries := (← theMachine).tree.linkCount source.id
  if transfer.isRecursive && source.isDirectory then
    if errand.isOperand then recordCopy source.id errand.target
    else return (← get).copied.lookup source.id
  else if transfer.moves && entries = 1 then
    return (← get).copied.lookup source.id
  else if transfer.keepsEntries && !transfer.makesHardLinks &&
      (1 < entries || (errand.isOperand && transfer.following = .operands) ||
        transfer.following = .always) then
    recordCopy source.id errand.target
  else
    return none

end Transfer

end ChainShell
