/-
This file makes the new files of a copy or a move.
-/

import ChainShell.Machine.Utility.Transfer

namespace ChainShell

/-- What came of one file. -/
structure Delivered where
  isWell : Bool
  /-- A directory was about to be copied into itself. -/
  isIntoSelf : Bool := false

/-- The bits of a copy, and those that are held back at first. -/
structure NewMode where
  bits : Nat
  heldBack : Nat

namespace Transfer

def newMode (transfer : Transfer) (source : Sight) : NewMode :=
  { bits := source.mode
    heldBack := source.mode &&& (
      if transfer.keepsOwner then 0o077 else if source.isDirectory then 0o022 else 0) }

/-- The bits that a copy keeps. Special bits are lost when the owner cannot be kept. -/
def keptMode (transfer : Transfer) (source : Sight) : Nat :=
  if transfer.keepsOwner && source.node.access.isSystem then source.mode &&& 0o777
  else source.mode

/-- The place of the copy: a file that can be written, and whether it is new. -/
def openExisting (transfer : Transfer) (errand : Errand) :
    DecisionM (Option (Except OsError NodeId)) := do
  let machine ← theMachine
  let path := octetsPath errand.target
  match machine.tree.openFile machine.directory path
      { writes := true, truncates := transfer.copiesContent } 0 with
  | .ok (id, tree) =>
    setTree tree
    return some (.ok id)
  | .error .notFound => return none
  | .error cause =>
    if transfer.removesUnopened then
      match machine.tree.removeFile machine.directory path with
      | .ok tree =>
        setTree tree
        if transfer.isVerbose then
          say ("removed " ++ quoteName errand.target)
        return none
      | .error .notFound => return none
      | .error other =>
        failBy ("cannot remove " ++ quoteName errand.target) other
        throw false
    else
      return some (.error cause)

/-- A new file. A link that leads nowhere is in its way unless the standard is followed. -/
def openNew (transfer : Transfer) (errand : Errand) (mode : Nat) :
    DecisionM (Except OsError NodeId) := do
  let machine ← theMachine
  let path := octetsPath errand.target
  let isLink := (machine.sight false errand.target).toOption.any Sight.isLink
  let isThrough := isLink && !transfer.moves
  let opened :=
    match machine.tree.makeFile machine.directory path mode with
    | .error .fileExists =>
      if isThrough && transfer.writesThrough then
        machine.tree.openFile machine.directory path { writes := true, creates := true } mode
      else .error .fileExists
    | result => result
  match opened with
  | .ok (id, tree) =>
    setTree tree
    return .ok id
  | .error .fileExists =>
    if isThrough then
      failWith ("not writing through dangling symlink " ++ quoteName errand.target)
      throw false
    else
      return .error .fileExists
  | .error .isDirectory =>
    return .error (if errand.target.endsWith "/" then .notDirectory else .isDirectory)
  | .error cause => return .error cause

/-- The content goes to the opened file. A device takes it or has no room. -/
def writeContent (errand : Errand) (id : NodeId) (content : Content) : DecisionM Unit := do
  let tree := (← theMachine).tree
  match tree.node? id with
  | some (.file access _) => setTree (tree.setNode id (.file access content))
  | some (.device _ .full) =>
    if content ≠ .data "" then
      failBy ("error writing " ++ quoteName errand.target) .noSpace
      throw false
  | some (.device _ (.pipe stream)) =>
    if let .data octets := content then
      if let some cause ← writeTo stream octets then
        failBy ("error writing " ++ quoteName errand.target) cause
        throw false
  | _ => return

/-- The time and the bits of the source go to the copy as far as they are kept. -/
def keepAttributes (transfer : Transfer) (source : Sight) (id : NodeId) (isNew : Bool) :
    UtilityM Unit := do
  let machine ← theMachine
  let timed := if transfer.keepsTime then machine.tree.setTime id (machine.tree.time source.id)
    else machine.tree
  let bits :=
    if transfer.keepsMode || transfer.moves then some (transfer.keptMode source)
    else if transfer.dropsMode && isNew then some (withoutBits 0o666 machine.mask)
    else if isNew then some (withoutBits (source.mode &&& 0o777) machine.mask)
    else none
  setTree (match bits with
    | some mode => timed.changeMode id mode
    | none => timed)

/-- What the source holds. A pipe is read to its end. -/
def sourceContent (source : Sight) : DecisionM Content := do
  match source.node with
  | .file _ content => return content
  | .device _ (.pipe stream) => return .data (String.ofList (← readToEnd stream maxBlocks []))
  | _ => return .data ""

/-- The content of a file is written under another path. -/
def copyFile (transfer : Transfer) (errand : Errand) (source : Sight) (isNew : Bool) :
    DecisionM Unit := do
  let machine ← theMachine
  let mode := transfer.newMode source
  let created := withoutBits (withoutBits (mode.bits &&& 0o777) mode.heldBack) machine.mask
  let readable := (machine.sight (transfer.following ≠ .never) errand.source).bind fun sight =>
    machine.tree.openFound sight.id { reads := true }
  if let .error cause := readable then
    failBy ("cannot open " ++ quoteName errand.source ++ " for reading") cause
    throw false
  let existing ← if isNew then pure none else transfer.openExisting errand
  let (opened, madeIt) ←
    match existing with
    | some result => pure (result, false)
    | none => do
      let result ← transfer.openNew errand created
      pure (result, true)
  match opened with
  | .error cause =>
    failBy ("cannot create regular file " ++ quoteName errand.target) cause
    throw false
  | .ok id =>
    if transfer.copiesContent then
      if transfer.clones then
        failWith ("failed to clone " ++ quoteName errand.target ++ " from " ++
          quoteName errand.source ++ ": Operation not supported")
        if madeIt then
          let now ← theMachine
          if let .ok tree := now.tree.removeFile now.directory (octetsPath errand.target) then
            setTree tree
        throw false
      writeContent errand id (← sourceContent source)
    transfer.keepAttributes source id madeIt

/-- A link to the source, which must be reached from the new place. -/
def makeLinkTo (transfer : Transfer) (errand : Errand) : DecisionM Unit := do
  let machine ← theMachine
  let parent := (machine.sight true (directoryText errand.target)).toOption
  if !errand.source.startsWith "/" &&
      parent.any (fun sight => sight.id ≠ machine.directory) then
    failWith (quoteIfNeeded errand.target ++
      ": can make relative symbolic links only in current directory")
    throw false
  match machine.tree.forceEntry machine.directory transfer.removesUnopened
      (octetsPath errand.target) fun tree =>
        tree.makeLink machine.directory (octetsPath errand.target)
          (textOfOctets errand.source) with
  | .ok tree => setTree tree
  | .error cause =>
    failBy ("cannot create symbolic link " ++ quoteName errand.target ++ " to " ++
      quoteName errand.source) cause
    throw false

/-- A link is copied as a link. -/
def copyLink (transfer : Transfer) (errand : Errand) (source : Sight) (text : String) :
    DecisionM Unit := do
  let machine ← theMachine
  match machine.tree.forceEntry machine.directory transfer.removesUnopened
      (octetsPath errand.target) fun tree =>
        tree.makeLink machine.directory (octetsPath errand.target) text with
  | .ok tree =>
    let made := (({ machine with tree := tree } : Machine).sight false errand.target).toOption
    setTree (match made, transfer.keepsTime with
      | some sight, true => tree.setTime sight.id (tree.time source.id)
      | _, _ => tree)
  | .error cause =>
    failBy ("cannot create symbolic link " ++ quoteName errand.target) cause
    throw false

/-- A directory that was made or found, and the bits that it gets when it is full. -/
structure OpenedDirectory where
  id : NodeId
  isMade : Bool
  finalMode : Option Nat

/-- The new directory can be written while it is filled. -/
def openDirectory (transfer : Transfer) (errand : Errand) (source : Sight)
    (state : TargetState) : DecisionM OpenedDirectory := do
  let machine ← theMachine
  let existing := if state.isNew then none else state.found.filter Sight.isDirectory
  match existing with
  | some sight =>
    return { id := sight.id
             isMade := false
             finalMode :=
              if transfer.keepsMode then some (transfer.keptMode source)
              else if transfer.dropsMode then some (withoutBits 0o777 machine.mask)
              else none }
  | none =>
    let mode := transfer.newMode source
    let created := withoutBits (withoutBits (mode.bits &&& 0o1777) mode.heldBack) machine.mask
    match machine.tree.makeDirectory machine.directory (octetsPath (reachedTarget errand.target))
        created with
    | .error cause =>
      failBy ("cannot create directory " ++ quoteName errand.target) cause
      throw false
    | .ok (id, tree) =>
      setTree (tree.changeMode id (created ||| 0o700))
      if transfer.isVerbose then
        say (if transfer.moves then "created directory " ++ quoteName errand.target
          else transferLine errand none)
      return { id := id
               isMade := true
               finalMode := some (
                if transfer.keepsMode then transfer.keptMode source
                else if transfer.dropsMode then withoutBits 0o777 machine.mask
                else created ||| withoutBits mode.heldBack machine.mask) }

/-- The names in a directory, in the order of their nodes. -/
def namesByNode (entries : List (String × NodeId)) : List Octets :=
  (entries.mergeSort fun first second => first.2 ≤ second.2).map fun entry =>
    octetsOfText entry.1

/-- The entries of a directory follow it. A copy into itself ends there. -/
def copyEntries (recur : Errand → TransferM Delivered) (errand : Errand) :
    List Octets → TransferM Delivered
  | [] => return { isWell := true }
  | name :: rest => do
    let child := { errand with
      source := joinedPath errand.source name, target := joinedPath errand.target name }
    let first ← recur child
    if first.isIntoSelf then
      return { isWell := first.isWell, isIntoSelf := true }
    else
      let others ← copyEntries recur errand rest
      return { others with isWell := first.isWell && others.isWell }

/-- A directory is copied with everything in it. -/
def copyDirectory (transfer : Transfer) (recur : Transfer → Errand → TransferM Delivered)
    (errand : Errand) (source : Sight) (state : TargetState) : DecisionM Delivered := do
  if errand.ancestors.contains source.id then
    failWith ("cannot copy cyclic symbolic link " ++ quoteName errand.source)
    throw false
  let opened ← transfer.openDirectory errand source state
  if opened.isMade && !errand.madeFirst then
    let _ ← recordCopy opened.id errand.target
  let inner := { errand with
    isOperand := false
    newness := if state.isNew then .missing else .unknown
    ancestors := source.id :: errand.ancestors
    madeFirst := errand.madeFirst || opened.isMade }
  let passed := { transfer with
    following := if transfer.following = .operands then .never else transfer.following }
  let copied ←
    match ← look true errand.source with
    | .ok ⟨_, .directory access _ entries⟩ =>
      if access.allows .read then
        copyEntries (recur passed) inner (namesByNode entries)
      else do
        failBy ("cannot access " ++ quoteName errand.source) .permissionDenied
        pure { isWell := false }
    | .ok _ => pure { isWell := true }
    | .error cause => do
      failBy ("cannot access " ++ quoteName errand.source) cause
      pure { isWell := false }
  let tree := (← theMachine).tree
  let timed := if transfer.keepsTime then tree.setTime opened.id (tree.time source.id) else tree
  setTree (match opened.finalMode with
    | some mode => timed.changeMode opened.id mode
    | none => timed)
  return copied

/-- The new file is made according to its kind. -/
def make (transfer : Transfer) (recur : Transfer → Errand → TransferM Delivered)
    (errand : Errand) (source : Sight) (state : TargetState) : DecisionM Delivered := do
  if source.isDirectory then
    transfer.copyDirectory recur errand source state
  else
    if transfer.makesLinks then
      transfer.makeLinkTo errand
    else if transfer.makesHardLinks then
      let replaces := transfer.removesUnopened || transfer.replacing = .ask
      if !(← linkEntry errand.source errand.target replaces false
          (transfer.followsSource errand.isOperand)) then
        throw false
    else
      match source.node with
      | .link text => transfer.copyLink errand source text
      | .device _ _ =>
        if transfer.readsDevices then transfer.copyFile errand source state.isNew
        else
          failBy ("cannot create special file " ++ quoteName errand.target) .operationNotPermitted
          throw false
      | _ => transfer.copyFile errand source state.isNew
    return { isWell := true }

/-- A file that could not be made gives its place back to the one before it. -/
def undoBackup (transfer : Transfer) (errand : Errand) (backup : Option Octets) :
    UtilityM Unit := do
  if let some path := backup then
    let machine ← theMachine
    match machine.tree.rename machine.directory true (octetsPath path)
        (octetsPath errand.target) with
    | .ok tree =>
      setTree tree
      if transfer.isVerbose then
        say (quoteName path ++ " -> " ++ quoteName errand.target ++ " (unbackup)")
    | .error cause => failBy ("cannot un-backup " ++ quoteName errand.target) cause

/-- A node that was copied before becomes one more entry, unless it is a directory. The answer is
missing when the copy goes on. -/
def repeatCopy (transfer : Transfer) (errand : Errand) (source : Sight) (state : TargetState)
    (earlier : Octets) : TransferM (Option Delivered) := do
  let machine ← theMachine
  let record ← get
  let fail (isIntoSelf : Bool) : TransferM (Option Delivered) := do
    transfer.undoBackup errand state.backup
    return some { isWell := false, isIntoSelf := isIntoSelf }
  if !source.isDirectory then
    if ← linkEntry earlier errand.target true transfer.isVerbose
        (transfer.followsSource errand.isOperand) then
      return some { isWell := true }
    else
      fail false
  else if machine.isSamePlace transfer.directory errand.source earlier then
    failWith ("cannot copy a directory, " ++ quoteName record.operand ++ ", into itself, " ++
      quoteName record.operandTarget)
    fail true
  else if lastName errand.target = lastName earlier &&
      machine.holder? transfer.directory errand.target =
        machine.holder? transfer.directory earlier then
    complainOf ("warning: source directory " ++ quoteName record.operand ++
      " specified more than once")
    return some { isWell := true }
  else if transfer.followsSource errand.isOperand then
    return none
  else
    failWith ("will not create hard link " ++ quoteName errand.target ++ " to directory " ++
      quoteName earlier)
    fail false

/-- The message for a rename that was refused. -/
def renameFault (errand : Errand) (cause : OsError) : Octets :=
  let isTargetsFault :=
    [OsError.fileExists, .isDirectory, .noSpace, .directoryNotEmpty].contains cause
  (if isTargetsFault then "cannot overwrite " ++ quoteName errand.target
    else "cannot move " ++ quoteName errand.source ++ " to " ++ quoteName errand.target) ++
    ": " ++ cause.reason

def tellRenamed (transfer : Transfer) (errand : Errand) (backup : Option Octets) :
    UtilityM Unit := do
  if transfer.isVerbose then
    say ("renamed " ++ transferLine errand backup)

/-- A move renames the file over an existing one. Only between file systems is it copied. The
answer is missing when the copy goes on. -/
def renameOver (transfer : Transfer) (errand : Errand) (source : Sight) (state : TargetState) :
    TransferM (Option Delivered) := do
  let machine ← theMachine
  let outcome :=
    match state.outcome with
    | .refused .fileExists =>
      match machine.tree.rename machine.directory true (octetsPath errand.source)
          (octetsPath (reachedTarget errand.target)) with
      | .ok tree => Except.ok tree
      | .error cause => .error cause
    | .refused cause => .error cause
    | _ => .ok machine.tree
  match outcome with
  | .ok tree =>
    setTree tree
    transfer.tellRenamed errand state.backup
    if errand.isOperand && !transfer.isLast then
      recordTarget source.id errand.target
    return some { isWell := true }
  | .error .invalidArgument =>
    let record ← get
    failWith ("cannot move " ++ quoteName record.operand ++ " to a subdirectory of itself, " ++
      quoteName record.operandTarget)
    return some { isWell := true, isIntoSelf := true }
  | .error .crossDevice =>
    let removed :=
      if source.isDirectory then
        machine.tree.removeDirectory machine.directory (octetsPath errand.target)
      else machine.tree.removeFile machine.directory (octetsPath errand.target)
    match removed with
    | .ok tree =>
      setTree tree
      return none
    | .error .notFound => return none
    | .error cause =>
      failBy ("inter-device move failed: " ++ quoteName errand.source ++ " to " ++
        quoteName errand.target ++ "; unable to remove target") cause
      forgetCopy source.id
      return some { isWell := false }
  | .error cause =>
    failWith (renameFault errand cause)
    forgetCopy source.id
    return some { isWell := false }

/-- The file is made, or its backup takes its place again. -/
def makeOrUndo (transfer : Transfer) (recur : Transfer → Errand → TransferM Delivered)
    (errand : Errand) (source : Sight) (state : TargetState) (isKnown : Bool) :
    TransferM Delivered := do
  match ← (transfer.make recur errand source state).run with
  | .error _ =>
    if !isKnown then
      forgetCopy source.id
    transfer.undoBackup errand state.backup
    return { isWell := false }
  | .ok delivered =>
    if errand.isOperand && (← get).targets.isSome then
      if let .ok sight ← look false (reachedTarget errand.target) then
        recordTarget sight.id errand.target
    return delivered

/-- The target is ready for the file. -/
def deliver (transfer : Transfer) (recur : Transfer → Errand → TransferM Delivered)
    (errand : Errand) (source : Sight) (state : TargetState) : TransferM Delivered := do
  if transfer.isVerbose && !transfer.moves && !source.isDirectory then
    say (transferLine errand state.backup)
  let earlier ← transfer.earlierCopy errand source
  let answer ←
    match earlier with
    | some path => transfer.repeatCopy errand source state path
    | none => pure none
  match answer with
  | some delivered => return delivered
  | none =>
    let moved ← if transfer.moves then transfer.renameOver errand source state else pure none
    match moved with
    | some delivered => return delivered
    | none =>
      let state := if transfer.moves then { state with isNew := true } else state
      transfer.makeOrUndo recur errand source state earlier.isSome

/-- A move is a simple rename if nothing is in its way. -/
def tryRename (transfer : Transfer) (errand : Errand) : UtilityM RenameOutcome := do
  if !transfer.moves || transfer.renamed ≠ .untried then
    return transfer.renamed
  else
    let machine ← theMachine
    match machine.tree.rename machine.directory false (octetsPath errand.source)
        (octetsPath (reachedTarget errand.target)) with
    | .ok tree =>
      setTree tree
      return .done
    | .error cause => return .refused cause

/-- An operand that was already given is not copied again. -/
def isRepeated (transfer : Transfer) (errand : Errand) (source : Sight) : TransferM Bool := do
  let record ← get
  if !errand.isOperand || record.sources.isNone then
    return false
  else if !source.isDirectory && transfer.backup = .none &&
      isRecorded (← theMachine) record.sources source.id errand.source then
    complainOf ("warning: source file " ++ quoteName errand.source ++
      " specified more than once")
    return true
  else
    set { record with
      sources := record.sources.map fun known => (source.id, errand.source) :: known }
    return false

/-- The file was renamed, and is remembered if more files follow. -/
def finishRename (transfer : Transfer) (errand : Errand) : TransferM Delivered := do
  if transfer.isLast then
    transfer.tellRenamed errand none
    return { isWell := true }
  else
    match ← look false (reachedTarget errand.target) with
    | .error cause =>
      failBy ("cannot stat " ++ quoteName errand.target) cause
      return { isWell := false }
    | .ok sight =>
      transfer.tellRenamed errand none
      recordTarget sight.id errand.target
      return { isWell := true }

/-- One file is copied or moved with all that belongs to it. -/
def carry : Nat → Transfer → Errand → TransferM Delivered
  | 0, _, _ => return { isWell := false }
  | fuel + 1, transfer, errand => do
    let outcome ← transfer.tryRename errand
    if outcome = .done then
      transfer.finishRename errand
    else if outcome = .refused .fileExists && transfer.replacing = .never then
      return { isWell := true }
    else
      match ← look (transfer.following ≠ .never) errand.source with
      | .error cause =>
        failBy ("cannot stat " ++ quoteName errand.source) cause
        return { isWell := false }
      | .ok source =>
        if source.isDirectory && !transfer.isRecursive then
          failWith ("-r not specified; omitting directory " ++ quoteName errand.source)
          return { isWell := false }
        else if ← transfer.isRepeated errand source then
          return { isWell := true }
        else
          let decided ← (do
            let state ← transfer.meetTarget errand source outcome
            transfer.guardLinks errand
            return state : DecisionM TargetState).run
          match decided with
          | .error isWell => return { isWell := isWell }
          | .ok state => transfer.deliver (carry fuel) errand source state

/-- An operand of the utility. -/
def carryOperand (transfer : Transfer) (newness : Newness) (source target : Octets) :
    TransferM Unit := do
  modify fun record => { record with operand := source, operandTarget := target }
  let depth := (← theMachine).tree.nodes.size + 2
  let _ ← carry depth transfer { source := source, target := target, newness := newness }

end Transfer

end ChainShell
