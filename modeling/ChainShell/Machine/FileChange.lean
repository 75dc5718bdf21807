/-
This file makes, removes and renames the entries of directories, as a program may do it.
-/

import ChainShell.Machine.FileTree

namespace ChainShell

/-- The bits change, and the content stays. -/
def FileTree.changeMode (tree : FileTree) (id : NodeId) (mode : Nat) : FileTree :=
  match tree.node? id with
  | some (.file access content) =>
    tree.describeNode id (.file { access with mode := mode } content)
  | some (.directory access parent entries) =>
    tree.describeNode id (.directory { access with mode := mode } parent entries)
  | _ => tree

/-- The number of entries that lead to a node. -/
def FileTree.linkCount (tree : FileTree) (id : NodeId) : Nat :=
  tree.nodes.foldl (fun total node =>
    match node with
    | .directory _ _ entries => total + entries.countP fun entry => entry.2 = id
    | _ => total) 0

/-- A directory lies in another one when the way up from it meets the other one. -/
def FileTree.liesIn (tree : FileTree) (outer : NodeId) : Nat → NodeId → Bool
  | 0, _ => false
  | fuel + 1, id =>
    id = outer ||
      match tree.node? id with
      | some (.directory _ parent _) => parent ≠ id && tree.liesIn outer fuel parent
      | _ => false

/-- The devices have a file system of their own. -/
def FileTree.holdsDevices (tree : FileTree) (directory : NodeId) : Bool :=
  (tree.entry? rootId "dev").any fun devices =>
    tree.liesIn devices (tree.nodes.size + 1) directory

def FileTree.areApart (tree : FileTree) (first second : NodeId) : Bool :=
  tree.holdsDevices first != tree.holdsDevices second

def Slot.isDotted (slot : Slot) : Bool :=
  slot.name = "." || slot.name = ".."

/-- The place of an entry that is not there yet. Only a directory may be asked for by a trailing
slash. -/
def FileTree.freeSlot (tree : FileTree) (directory : NodeId) (path : Path) (isDirectory : Bool) :
    Except OsError Slot :=
  match tree.slot directory path with
  | .error cause => .error (if cause = .busy then .fileExists else cause)
  | .ok slot =>
    if slot.isDotted || (tree.entry? slot.holder slot.name).isSome then .error .fileExists
    else if slot.wantsDirectory && !isDirectory then .error .notFound
    else .ok slot

/-- A new node is made only where nothing stands under its name. -/
def FileTree.makeNode (tree : FileTree) (directory : NodeId) (path : Path) (isDirectory : Bool)
    (node : NodeId → Node) : Except OsError (NodeId × FileTree) :=
  match tree.freeSlot directory path isDirectory with
  | .error cause => .error cause
  | .ok slot =>
    match tree.changeFault? slot.holder with
    | some cause => .error cause
    | none => .ok (tree.attach slot.holder slot.name (node slot.holder))

def FileTree.makeLink (tree : FileTree) (directory : NodeId) (path : Path) (target : String) :
    Except OsError FileTree :=
  if target.isEmpty then .error .notFound
  else (tree.makeNode directory path false fun _ => .link target).map Prod.snd

def FileTree.makeDirectory (tree : FileTree) (directory : NodeId) (path : Path) (mode : Nat) :
    Except OsError (NodeId × FileTree) :=
  tree.makeNode directory path true fun holder => .directory ⟨mode, false⟩ holder []

/-- A new file. A trailing slash asks for a directory before anything is looked up. -/
def FileTree.makeFile (tree : FileTree) (directory : NodeId) (path : Path) (mode : Nat) :
    Except OsError (NodeId × FileTree) :=
  if endsInSlash path.text then
    match tree.slot directory path with
    | .error cause => .error (if cause = .busy then .isDirectory else cause)
    | .ok _ => .error .isDirectory
  else
    tree.makeNode directory path false fun _ => .file ⟨mode, false⟩ (.data "")

/-- A second entry for a file that the user owns. Directories have only one. -/
def FileTree.makeEntry (tree : FileTree) (directory : NodeId) (followsLink : Bool)
    (path target : Path) : Except OsError FileTree :=
  match tree.locate directory followsLink path with
  | .error cause => .error cause
  | .ok located =>
    match tree.freeSlot directory target false with
    | .error cause => .error cause
    | .ok slot =>
      if tree.areApart located.holder slot.holder then .error .crossDevice
      else
        match tree.node? located.id, tree.changeFault? slot.holder with
        | none, _ => .error .notFound
        | some _, some cause => .error cause
        | some node, none =>
          if tree.isDirectory located.id || node.access.isSystem then
            .error .operationNotPermitted
          else
            .ok (tree.setEntry slot.holder slot.name located.id)

/-- Only an empty directory is removed. -/
def FileTree.removeDirectory (tree : FileTree) (directory : NodeId) (path : Path) :
    Except OsError FileTree :=
  match tree.slot directory path with
  | .error cause => .error cause
  | .ok slot =>
    if slot.name = "." then .error .invalidArgument
    else if slot.name = ".." then .error .directoryNotEmpty
    else
      match (tree.entry? slot.holder slot.name).bind tree.node? with
      | none => .error .notFound
      | some node =>
        match tree.changeFault? slot.holder, node with
        | some cause, _ => .error cause
        | none, .directory _ _ [] => .ok (tree.eraseEntry slot.holder slot.name)
        | none, .directory _ _ _ => .error .directoryNotEmpty
        | none, _ => .error .notDirectory

/-- Everything but a directory is removed by its name. -/
def FileTree.removeFile (tree : FileTree) (directory : NodeId) (path : Path) :
    Except OsError FileTree :=
  match tree.slot directory path with
  | .error cause => .error cause
  | .ok slot =>
    if slot.isDotted then .error .isDirectory
    else
      match (tree.entry? slot.holder slot.name).bind tree.node? with
      | none => .error .notFound
      | some (.directory _ _ _) => .error .isDirectory
      | some _ =>
        if slot.wantsDirectory then .error .notDirectory
        else
          match tree.changeFault? slot.holder with
          | some cause => .error cause
          | none => .ok (tree.eraseEntry slot.holder slot.name)

/-- The node moves to the new name. A directory learns its new parent. -/
def FileTree.moveEntry (tree : FileTree) (source : Slot) (id : NodeId) (target : Slot) :
    FileTree :=
  let moved := (tree.eraseEntry source.holder source.name).setEntry target.holder target.name id
  match moved.node? id with
  | some (.directory access _ entries) =>
    moved.describeNode id (.directory access target.holder entries)
  | _ => moved

/-- The cause for which the user cannot move a node from one directory to another. A directory
that gets a new parent must be writable itself. -/
def FileTree.moveFault? (tree : FileTree) (source target : NodeId) (id : NodeId) :
    Option OsError :=
  match tree.changeFault? source, tree.changeFault? target with
  | some cause, _ | none, some cause => some cause
  | none, none =>
    if tree.isDirectory id && source ≠ target && !tree.allows id .write then
      some .permissionDenied
    else none

/-- The node that stands under a name goes away for another one. A file gives way to a file and an
empty directory to a directory. -/
def FileTree.replaceFault? (tree : FileTree) (old : NodeId) (isDirectory : Bool) :
    Option OsError :=
  match tree.node? old, isDirectory with
  | some (.directory _ _ []), true => none
  | some (.directory _ _ _), true => some .directoryNotEmpty
  | some (.directory _ _ _), false => some .isDirectory
  | _, true => some .notDirectory
  | _, false => none

/-- A rename to an entry of the same node changes nothing. -/
def FileTree.renameSlot (tree : FileTree) (source target : Slot) (id : NodeId) :
    Except OsError FileTree :=
  let isDirectory := tree.isDirectory id
  let old := tree.entry? target.holder target.name
  if !isDirectory && (source.wantsDirectory || target.wantsDirectory) then
    .error .notDirectory
  else if isDirectory && tree.liesIn id (tree.nodes.size + 1) target.holder then
    .error .invalidArgument
  else if old.any fun other => tree.liesIn other (tree.nodes.size + 1) source.holder then
    .error .directoryNotEmpty
  else if old = some id then
    .ok tree
  else
    match tree.moveFault? source.holder target.holder id,
        old.bind fun other => tree.replaceFault? other isDirectory with
    | some cause, _ | none, some cause => .error cause
    | none, none => .ok (tree.moveEntry source id target)

/-- A rename may be asked to leave an existing entry alone. -/
def FileTree.rename (tree : FileTree) (directory : NodeId) (replaces : Bool)
    (source target : Path) : Except OsError FileTree := do
  let origin ← tree.slot directory source
  let place ← tree.slot directory target
  if tree.areApart origin.holder place.holder then
    .error .crossDevice
  else if origin.isDotted then
    .error .busy
  else if place.isDotted then
    .error (if replaces then .busy else .fileExists)
  else
    match tree.entry? origin.holder origin.name with
    | none => .error .notFound
    | some id =>
      if !replaces && (tree.entry? place.holder place.name).isSome then .error .fileExists
      else tree.renameSlot origin place id

end ChainShell
