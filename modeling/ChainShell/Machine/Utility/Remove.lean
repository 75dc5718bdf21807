/-
This file holds the utilities that remove files and directories.
-/

import ChainShell.Machine.Utility.Choice
import ChainShell.Machine.Utility.Lookup
import ChainShell.Machine.Utility.Option

namespace ChainShell

/-- When a question comes before a removal. -/
inductive Asking where
  | never
  /-- A terminal is asked about files that cannot be written. -/
  | sometimes
  | always
  deriving DecidableEq, Repr

inductive RemoveOption where
  | emptyDirectories
  | force
  | askAlways
  | askOnce
  | interactive
  | recursive
  | oneFileSystem
  | preserveRoot
  | noPreserveRoot
  | presumeTerminal
  | verbose
  | help
  | version
  deriving DecidableEq, Repr

def removeTable : OptionTable RemoveOption where
  letters := [('d', ⟨.emptyDirectories, .none⟩), ('f', ⟨.force, .none⟩),
    ('i', ⟨.askAlways, .none⟩), ('r', ⟨.recursive, .none⟩), ('v', ⟨.verbose, .none⟩),
    ('I', ⟨.askOnce, .none⟩), ('R', ⟨.recursive, .none⟩)]
  names := [("force", ⟨.force, .none⟩), ("interactive", ⟨.interactive, .optional⟩),
    ("one-file-system", ⟨.oneFileSystem, .none⟩),
    ("no-preserve-root", ⟨.noPreserveRoot, .none⟩),
    ("preserve-root", ⟨.preserveRoot, .optional⟩),
    ("-presume-input-tty", ⟨.presumeTerminal, .none⟩), ("recursive", ⟨.recursive, .none⟩),
    ("dir", ⟨.emptyDirectories, .none⟩), ("verbose", ⟨.verbose, .none⟩),
    ("help", ⟨.help, .none⟩), ("version", ⟨.version, .none⟩)]

/-- What a removal was asked to do. -/
structure Removal where
  asking : Asking := .sometimes
  /-- One question comes before all removals. -/
  asksOnce : Bool := false
  ignoresMissing : Bool := false
  isRecursive : Bool := false
  removesEmpty : Bool := false
  guardsRoot : Bool := true
  /-- The answers are taken to come from a terminal. -/
  hasTerminal : Bool := false
  isVerbose : Bool := false

def askingChoices : Choices Asking :=
  [("never", .never), ("no", .never), ("none", .never), ("once", .sometimes),
    ("always", .always), ("yes", .always)]

def Removal.setAsking (removal : Removal) (asking : Asking) : Removal :=
  { removal with
    asking := asking
    asksOnce := asking = .sometimes
    ignoresMissing := removal.ignoresMissing && asking = .never }

def Removal.apply (removal : Removal) (given : GivenOption RemoveOption) : UtilityM Removal := do
  match given.meaning with
  | .emptyDirectories => return { removal with removesEmpty := true }
  | .force => return { removal.setAsking .never with ignoresMissing := true }
  | .askAlways => return removal.setAsking .always
  | .askOnce => return removal.setAsking .sometimes
  | .interactive =>
    match given.argument with
    | none => return removal.setAsking .always
    | some word => return removal.setAsking (← chosen "--interactive" askingChoices word)
  | .recursive => return { removal with isRecursive := true }
  | .oneFileSystem => return removal
  | .preserveRoot =>
    if let some word := given.argument then
      if word ≠ "all" then
        dieWith ("unrecognized --preserve-root argument: " ++ quoteName word)
    return { removal with guardsRoot := true }
  | .noPreserveRoot =>
    if given.word ≠ "--no-preserve-root" then
      dieWith "you may not abbreviate the --no-preserve-root option"
    return { removal with guardsRoot := false }
  | .presumeTerminal => return { removal with hasTerminal := true }
  | .verbose => return { removal with isVerbose := true }
  | .help | .version => throw (exitEnding 0)

/-- The answer to the question whether a file may be removed. -/
inductive Consent where
  | given
  | declined
  /-- The file could not be looked at, and that was reported. -/
  | impossible
  deriving DecidableEq, Repr

def failToRemove (path : Octets) (cause : OsError) : UtilityM Unit :=
  failBy ("cannot remove " ++ quoteName path) cause

/-- The user is asked if that was wanted. A directory with entries is entered first. -/
def Removal.consent (removal : Removal) (path : Octets) (entersIt : Bool) : UtilityM Consent := do
  let isAsked := removal.asking = .always ||
    (removal.hasTerminal && removal.asking ≠ .never && !removal.ignoresMissing)
  if !isAsked then
    return .given
  else
    match ← look false path with
    | .error cause =>
      failToRemove path cause
      return .impossible
    | .ok sight =>
      let isProtected := !sight.isLink && !sight.node.access.allows .write
      if removal.asking ≠ .always && !isProtected then
        return .given
      else
        let mark := if isProtected then "write-protected " else ""
        let agreed ← agrees
          (if entersIt then "descend into " ++ mark ++ "directory " ++ quoteName path
          else "remove " ++ mark ++ sight.kind ++ " " ++ quoteName path)
        return if agreed then .given else .declined

/-- The answer tells whether the entry is gone. Missing entries may count as gone. -/
def Removal.excise (removal : Removal) (path : Octets) (isDirectory : Bool)
    (readFault : Option OsError) : UtilityM Bool := do
  let machine ← theMachine
  let removed :=
    if isDirectory then machine.tree.removeDirectory machine.directory (octetsPath path)
    else machine.tree.removeFile machine.directory (octetsPath path)
  match removed with
  | .ok tree =>
    setTree tree
    if removal.isVerbose then
      say ((if isDirectory then "removed directory " else "removed ") ++ quoteName path)
    return true
  | .error cause =>
    if removal.ignoresMissing &&
        [OsError.notFound, .notDirectory, .invalidArgument].contains cause then
      return true
    else
      let isVague := [OsError.directoryNotEmpty, .isDirectory, .notDirectory].contains cause
      let meant := if isVague then readFault.getD cause else cause
      failToRemove path meant
      return false

/-- Checks for the operands of the utility themselves. -/
def Removal.refusesStart (removal : Removal) (path : Octets) (sight : Sight) :
    UtilityM Bool := do
  if isDotName path then
    failWith ("refusing to remove '.' or '..' directory: skipping " ++ quoteName path)
    return true
  else if removal.guardsRoot && removal.isRecursive && sight.id = FileTree.rootId then
    warnOfRoot path
    return true
  else
    return false

/-- The entries of a directory go before the directory itself. The answer tells whether the
directories above have to stay without a question. -/
def Removal.removeEntry (removal : Removal) : Nat → Bool → Octets → UtilityM Bool
  | 0, _, _ => return true
  | fuel + 1, isStart, path => do
    match ← look false path with
    | .ok ⟨id, .directory access parent entries⟩ =>
      let isEmpty := access.allows .read && entries.isEmpty
      if !removal.isRecursive && !(removal.removesEmpty && isEmpty) then
        failToRemove path (if removal.removesEmpty then .directoryNotEmpty else .isDirectory)
        return true
      else if isStart && (← removal.refusesStart path ⟨id, .directory access parent entries⟩) then
        return false
      else if (← removal.consent path (!isEmpty)) ≠ .given then
        return true
      else if isEmpty then
        return !(← removal.excise path true none)
      else
        let canRead := access.allows .read
        let mut isMarked := false
        if canRead then
          isMarked ← entries.foldlM (fun marked entry => do
            let marks ← removal.removeEntry fuel false (walkEntry path (octetsOfText entry.1))
            return marked || marks) false
        if isMarked then
          return true
        else if (← removal.consent path false) ≠ .given then
          return false
        else
          return !(← removal.excise path true
            (if canRead then none else some .permissionDenied))
    | _ =>
      if (← removal.consent path false) ≠ .given then
        return false
      else
        return !(← removal.excise path false none)

/-- A file whose name looks like an option can be removed by another path. -/
def hintAtHyphen (arguments : List Octets) : UtilityM Unit := do
  let machine ← theMachine
  match arguments.find? fun word =>
      word.startsWith "-" && word ≠ "-" && (machine.sight false word).toBool with
  | none => return
  | some word =>
    tell ("Try '" ++ (← get).name ++ " ./" ++ quoteIfNeeded word ++
      "' to remove the file " ++ quoteName word ++ ".\n")

/-- One question for all operands. -/
def Removal.agreesOnce (removal : Removal) (operands : List Octets) : UtilityM Bool := do
  if removal.asksOnce && (removal.isRecursive || 3 < operands.length) then
    let count := toString operands.length
    agrees ("remove " ++ count ++ (if operands.length = 1 then " argument" else " arguments") ++
      if removal.isRecursive then " recursively" else "")
  else
    return true

/-- The utility `rm`. -/
def runRemove (arguments : List Octets) : UtilityM Unit := do
  let given := removeTable.read (← followsStandard) (arguments.length + 1) {} arguments
  let removal ← given.options.foldlM Removal.apply {}
  if let some message := given.fault then
    complainOf message
    hintAtHyphen arguments
    pointToHelp
  if given.operands.isEmpty then
    if !removal.ignoresMissing then
      misuse "missing operand"
  else if ← removal.agreesOnce given.operands then
    for path in given.operands do
      let depth := (← theMachine).tree.nodes.size + 1
      let _ ← removal.removeEntry depth true (walkStart path)

inductive RemoveDirectoryOption where
  | ignoreNonEmpty
  | parents
  | verbose
  | help
  | version
  deriving DecidableEq, Repr

def removeDirectoryTable : OptionTable RemoveDirectoryOption where
  letters := [('p', ⟨.parents, .none⟩), ('v', ⟨.verbose, .none⟩)]
  names := [("ignore-fail-on-non-empty", ⟨.ignoreNonEmpty, .none⟩), ("path", ⟨.parents, .none⟩),
    ("parents", ⟨.parents, .none⟩), ("verbose", ⟨.verbose, .none⟩), ("help", ⟨.help, .none⟩),
    ("version", ⟨.version, .none⟩)]

structure DirectoryRemoval where
  ignoresNonEmpty : Bool := false
  removesParents : Bool := false
  isVerbose : Bool := false

def DirectoryRemoval.apply (removal : DirectoryRemoval)
    (given : GivenOption RemoveDirectoryOption) : UtilityM DirectoryRemoval := do
  match given.meaning with
  | .ignoreNonEmpty => return { removal with ignoresNonEmpty := true }
  | .parents => return { removal with removesParents := true }
  | .verbose => return { removal with isVerbose := true }
  | .help | .version => throw (exitEnding 0)

/-- The failure is expected when the directory has entries. -/
def DirectoryRemoval.ignores (removal : DirectoryRemoval) (path : Octets) (cause : OsError) :
    UtilityM Bool := do
  let mayHaveEntries := [OsError.permissionDenied, .operationNotPermitted, .busy].contains cause
  let hasEntries : Bool :=
    match ← look false path with
    | .ok ⟨_, .directory access _ entries⟩ => access.allows .read && !entries.isEmpty
    | _ => false
  return removal.ignoresNonEmpty &&
    (cause = .directoryNotEmpty || (mayHaveEntries && hasEntries))

/-- One directory is removed. The answer is the cause for which it was not. -/
def DirectoryRemoval.attempt (removal : DirectoryRemoval) (path : Octets) :
    UtilityM (Option OsError) := do
  if removal.isVerbose then
    say ((← get).name ++ ": removing directory, " ++ quoteName path)
  let machine ← theMachine
  match machine.tree.removeDirectory machine.directory (octetsPath path) with
  | .ok tree =>
    setTree tree
    return none
  | .error cause => return some cause

/-- The parents of a directory are removed after it, as far as they are empty. -/
def DirectoryRemoval.removeParents (removal : DirectoryRemoval) : Nat → Octets → UtilityM Unit
  | 0, _ => return
  | fuel + 1, path => do
    if path.toList.contains '/' && path ≠ "/" then
      let parent := directoryText path
      match ← removal.attempt parent with
      | none => removal.removeParents fuel parent
      | some cause =>
        if !(← removal.ignores parent cause) then
          let kind := if cause = .notDirectory then "" else "directory "
          failBy ("failed to remove " ++ kind ++ quoteName parent) cause

/-- A link with a slash behind it is not followed by a removal. -/
def isLinkWithSlash (path : Octets) : UtilityM Bool := do
  if path.endsWith "/" then
    let leadsOn : Bool :=
      match ← look true path with
      | .ok sight => sight.isDirectory
      | .error cause => cause ≠ .notDirectory
    let own ← look false (withoutSlashes path)
    return leadsOn && own.toOption.any Sight.isLink
  else
    return false

/-- The utility `rmdir`. -/
def runRemoveDirectory (arguments : List Octets) : UtilityM Unit := do
  let (removal, operands) ← withOptions removeDirectoryTable arguments ({} : DirectoryRemoval)
    DirectoryRemoval.apply
  if operands.isEmpty then
    misuse "missing operand"
  for path in operands do
    match ← removal.attempt path with
    | none =>
      if removal.removesParents then
        removal.removeParents (path.length + 1) (withoutSlashes path)
    | some cause =>
      if !(← removal.ignores path cause) then
        if cause = .notDirectory && (← isLinkWithSlash path) then
          failWith ("failed to remove " ++ quoteName path ++ ": Symbolic link not followed")
        else
          failBy ("failed to remove " ++ quoteName path) cause

end ChainShell
