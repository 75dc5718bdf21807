/-
This file holds a file tree in memory and the resolution of paths in it. A node is known by
its number, so a directory keeps its identity when it is renamed or removed.
-/

import ChainShell.System
import ChainShell.Text.Octets

namespace ChainShell

/-- The utilities that every machine has. -/
inductive Utility where
  | move
  | copy
  | remove
  | removeDirectory
  | changeMode
  | echo
  | concatenate
  | succeed
  | fail
  deriving DecidableEq, Repr

/-- A program is the script shell or a utility. -/
inductive Tool where
  | sh
  | utility (utility : Utility)
  deriving DecidableEq, Repr

/-- The content of a file is a byte string or one of the known programs. -/
inductive Content where
  | data (octets : Octets)
  | tool (tool : Tool)
  deriving DecidableEq, Repr

inductive Permission where
  | read
  | write
  | execute
  deriving DecidableEq, Repr

/-- Permission bits come in groups of three, first those of the owner. -/
def Permission.bit : Permission → Nat
  | .read => 4
  | .write => 2
  | .execute => 1

/-- A node belongs to the user or to the system. -/
structure Access where
  mode : Nat
  isSystem : Bool
  deriving DecidableEq, Repr

/-- The user has the rights of an owner on own nodes and those of a stranger on others. -/
def Access.allows (access : Access) (permission : Permission) : Bool :=
  let bits := if access.isSystem then access.mode % 8 else access.mode / 64 % 8
  bits &&& permission.bit != 0

/-- The bits that new nodes do not get. -/
def creationMask : Nat := 0o022

/-- The bits of one mode without those of another. -/
def withoutBits (mode removed : Nat) : Nat :=
  mode &&& (0o7777 ^^^ (removed &&& 0o7777))

abbrev NodeId := Nat

/-- A device gives nothing. It takes everything, has no room, or cannot be opened. A pipe is
reached through its stream. -/
inductive Device where
  | null
  | full
  | terminal
  | pipe (stream : Nat)
  deriving DecidableEq, Repr

/-- A directory knows its parent and its entries, the newest first. -/
inductive Node where
  | directory (access : Access) (parent : NodeId) (entries : List (String × NodeId))
  | file (access : Access) (content : Content)
  | link (target : String)
  | device (access : Access) (device : Device)
  deriving DecidableEq, Repr

/-- Everything may be done with a link itself. -/
def Node.access : Node → Access
  | .directory access _ _ | .file access _ | .device access _ => access
  | .link _ => ⟨0o777, false⟩

/-- A node that lost its last entry stays in the table. Each node has the time of its last
change. -/
structure FileTree where
  nodes : Array Node
  times : Array Nat
  /-- The time of the changes that are made now. -/
  clock : Nat

/-- The root directory is its own parent. -/
def FileTree.rootId : NodeId := 0

def systemDirectory : Access := ⟨0o755, true⟩

def userDirectory : Access := ⟨0o755, false⟩

def FileTree.empty : FileTree where
  nodes := #[.directory systemDirectory 0 []]
  times := #[0]
  clock := 0

def FileTree.node? (tree : FileTree) (id : NodeId) : Option Node :=
  tree.nodes[id]?

/-- The node gets new properties. Its content counts as unchanged. -/
def FileTree.describeNode (tree : FileTree) (id : NodeId) (node : Node) : FileTree :=
  { tree with nodes := tree.nodes.setIfInBounds id node }

def FileTree.setTime (tree : FileTree) (id : NodeId) (time : Nat) : FileTree :=
  { tree with times := tree.times.setIfInBounds id time }

/-- The node gets a new content at the current time. -/
def FileTree.setNode (tree : FileTree) (id : NodeId) (node : Node) : FileTree :=
  (tree.describeNode id node).setTime id tree.clock

/-- The time of the last change of a node. -/
def FileTree.time (tree : FileTree) (id : NodeId) : Nat :=
  tree.times.getD id 0

/-- A new node gets the next number. -/
def FileTree.addNode (tree : FileTree) (node : Node) : NodeId × FileTree :=
  (tree.nodes.size,
    { tree with nodes := tree.nodes.push node, times := tree.times.push tree.clock })

def FileTree.isDirectory (tree : FileTree) (id : NodeId) : Bool :=
  match tree.node? id with
  | some (.directory _ _ _) => true
  | _ => false

def FileTree.allows (tree : FileTree) (id : NodeId) (permission : Permission) : Bool :=
  match tree.node? id with
  | some node => node.access.allows permission
  | none => false

/-- The number of links that one resolution follows. -/
def maxLinks : Nat := 40

/-- The longest name of an entry in bytes. -/
def maxNameBytes : Nat := 255

/-- A path with this many bytes is too long. -/
def maxPathBytes : Nat := 4096

/-- The names between slashes. -/
def pathNames (text : String) : List String :=
  ((text.toList.splitOn '/').filter (· ≠ [])).map String.ofList

def endsInSlash (text : String) : Bool :=
  text.toList.getLast? = some '/'

/-- The names to walk. A trailing slash becomes an empty name, which asks for a directory. -/
def walkNames (text : String) : List String :=
  if endsInSlash text then pathNames text ++ [""] else pathNames text

/-- A resolved path ends in a node. The holder is the directory that has the node under the
name, when the last step went through an entry. -/
structure Located where
  id : NodeId
  holder : NodeId
  name : String
  deriving DecidableEq, Repr

/-- A path leads to a node, or to a directory that lacks only its last name. -/
inductive Place where
  | found (located : Located)
  | vacant (holder : NodeId) (name : String)
  deriving DecidableEq, Repr

/-- The walk takes one name after the other. A link puts the names of its target in front of
the remaining ones. The last link is followed only on request. -/
def FileTree.walk (tree : FileTree) (followLast : Bool) (links : Nat) (located : Located)
    (names : List String) : Except OsError Place :=
  match names with
  | [] => .ok (.found located)
  | name :: rest =>
    match tree.node? located.id with
    | some (.directory access parent entries) =>
      if name = "" then
        tree.walk followLast links located rest
      else if !access.allows .execute then
        .error .permissionDenied
      else if name = "." then
        tree.walk followLast links located rest
      else if name = ".." then
        tree.walk followLast links ⟨parent, parent, ""⟩ rest
      else if maxNameBytes < name.utf8ByteSize then
        .error .nameTooLong
      else
        match entries.lookup name with
        | none => if rest.isEmpty then .ok (.vacant located.id name) else .error .notFound
        | some child =>
          match tree.node? child with
          | some (.link target) =>
            if rest.isEmpty && !followLast then
              .ok (.found ⟨child, located.id, name⟩)
            else
              match links with
              | 0 => .error .tooManyLinks
              | left + 1 =>
                let start := if (Path.mk target).isAbsolute then rootId else located.id
                tree.walk followLast left ⟨start, start, ""⟩ (walkNames target ++ rest)
          | _ => tree.walk followLast links ⟨child, located.id, name⟩ rest
    | _ => .error .notDirectory
termination_by (links, names.length)

def FileTree.start (directory : NodeId) (path : Path) : Located :=
  let id := if path.isAbsolute then rootId else directory
  ⟨id, id, ""⟩

/-- The faults of a path that no tree can mend. -/
def pathFault? (path : Path) : Option OsError :=
  if path.text.toList.contains '\x00' then some .nulInPath
  else if path.isEmpty then some .notFound
  else if maxPathBytes ≤ path.text.utf8ByteSize then some .nameTooLong
  else none

/-- A relative path starts in the given directory. -/
def FileTree.place (tree : FileTree) (directory : NodeId) (followLast : Bool) (path : Path) :
    Except OsError Place :=
  match pathFault? path with
  | some cause => .error cause
  | none => tree.walk followLast maxLinks (start directory path) (walkNames path.text)

def Place.located : Place → Except OsError Located
  | .found located => .ok located
  | .vacant _ _ => .error .notFound

def FileTree.locate (tree : FileTree) (directory : NodeId) (followLast : Bool) (path : Path) :
    Except OsError Located :=
  (tree.place directory followLast path).bind Place.located

def FileTree.resolve (tree : FileTree) (directory : NodeId) (path : Path) :
    Except OsError NodeId :=
  (tree.locate directory true path).map Located.id

/-- The names from the root down to a directory, in front of those already known. A directory
without an entry in its parent has no path. -/
def FileTree.directoryNames (tree : FileTree) : Nat → NodeId → List String → Option (List String)
  | 0, _, _ => none
  | fuel + 1, id, known =>
    if id = rootId then
      some known
    else
      match tree.node? id with
      | some (.directory _ parent _) =>
        match tree.node? parent with
        | some (.directory _ _ entries) =>
          match entries.find? fun entry => entry.2 = id with
          | some (name, _) => tree.directoryNames fuel parent (name :: known)
          | none => none
        | _ => none
      | _ => none

/-- The names behind the root, each after a slash. -/
def absolutePath (names : List String) : Path :=
  if names.isEmpty then .root else ⟨String.join (names.map ("/" ++ ·))⟩

def FileTree.directoryPath (tree : FileTree) (id : NodeId) : Except OsError Path :=
  match tree.directoryNames (tree.nodes.size + 1) id [] with
  | some names => .ok (absolutePath names)
  | none => .error .notFound

/-- The absolute path without links, dots and repeated slashes. The length of the text is not
limited here. -/
def FileTree.canonicalPath (tree : FileTree) (directory : NodeId) (path : Path) :
    Except OsError Path :=
  if path.text.toList.contains '\x00' then .error .nulInPath
  else if path.isEmpty then .error .notFound
  else
    match (tree.walk true maxLinks (start directory path) (walkNames path.text)).bind
        Place.located with
    | .error cause => .error cause
    | .ok located =>
      if tree.isDirectory located.id then
        tree.directoryPath located.id
      else
        (tree.directoryPath located.holder).map fun holder => holder.join ⟨located.name⟩

/-- The place of the last name of a path, whether or not something stands there. -/
structure Slot where
  holder : NodeId
  name : String
  wantsDirectory : Bool

def FileTree.slot (tree : FileTree) (directory : NodeId) (path : Path) : Except OsError Slot :=
  match pathFault? path with
  | some cause => .error cause
  | none =>
    match (pathNames path.text).reverse with
    | [] => .error .busy
    | last :: before =>
      match (tree.walk true maxLinks (start directory path) before.reverse).bind
          Place.located with
      | .error cause => .error cause
      | .ok located =>
        if !tree.isDirectory located.id then .error .notDirectory
        else if !tree.allows located.id .execute then .error .permissionDenied
        else if maxNameBytes < last.utf8ByteSize then .error .nameTooLong
        else .ok ⟨located.id, last, endsInSlash path.text⟩

def FileTree.entry? (tree : FileTree) (directory : NodeId) (name : String) : Option NodeId :=
  match tree.node? directory with
  | some (.directory _ _ entries) => entries.lookup name
  | _ => none

/-- The name leads to the node from now on. -/
def FileTree.setEntry (tree : FileTree) (directory : NodeId) (name : String) (id : NodeId) :
    FileTree :=
  match tree.node? directory with
  | some (.directory access parent entries) =>
    tree.setNode directory
      (.directory access parent ((name, id) :: entries.filter fun entry => entry.1 ≠ name))
  | _ => tree

def FileTree.eraseEntry (tree : FileTree) (directory : NodeId) (name : String) : FileTree :=
  match tree.node? directory with
  | some (.directory access parent entries) =>
    tree.setNode directory
      (.directory access parent (entries.filter fun entry => entry.1 ≠ name))
  | _ => tree

/-- A new node appears under the name. -/
def FileTree.attach (tree : FileTree) (directory : NodeId) (name : String) (node : Node) :
    NodeId × FileTree :=
  let (id, extended) := tree.addNode node
  (id, extended.setEntry directory name id)

/-- The cause for which a directory takes no new entry and loses none. -/
def FileTree.changeFault? (tree : FileTree) (directory : NodeId) : Option OsError :=
  if !(tree.directoryPath directory).toBool then some .notFound
  else if !(tree.allows directory .write && tree.allows directory .execute) then
    some .permissionDenied
  else none

/-- Existing directories are entered and missing ones are created. -/
def FileTree.makeDirectories (tree : FileTree) (directory : NodeId) :
    List String → Except OsError (NodeId × FileTree)
  | [] => .ok (directory, tree)
  | name :: rest =>
    match tree.walk true maxLinks ⟨directory, directory, ""⟩ [name] with
    | .ok (.found located) => tree.makeDirectories located.id rest
    | .ok (.vacant holder missing) =>
      let (id, extended) := tree.attach holder missing (.directory userDirectory holder [])
      extended.makeDirectories id rest
    | .error cause => .error cause

/-- How a file is opened. -/
structure OpenRequest where
  reads : Bool := false
  writes : Bool := false
  creates : Bool := false
  truncates : Bool := false
  appends : Bool := false
  deriving DecidableEq, Repr

/-- The node behind a path that exists. -/
def FileTree.openFound (tree : FileTree) (id : NodeId) (request : OpenRequest) :
    Except OsError (NodeId × FileTree) :=
  match tree.node? id with
  | some (.directory access _ _) =>
    if request.writes || request.creates then .error .isDirectory
    else if !access.allows .read then .error .permissionDenied
    else .ok (id, tree)
  | some node =>
    if (request.reads && !node.access.allows .read) ||
        (request.writes && !node.access.allows .write) then
      .error .permissionDenied
    else
      match node with
      | .device _ .terminal => .error .noDevice
      | .file access _ =>
        .ok (id, if request.truncates then tree.setNode id (.file access (.data "")) else tree)
      | _ => .ok (id, tree)
  | none => .error .notFound

/-- No file is created under a name with a slash behind it, whatever stands there. -/
def FileTree.createFault? (tree : FileTree) (directory : NodeId) (path : Path) : Option OsError :=
  if endsInSlash path.text then
    match tree.slot directory path with
    | .error cause => some cause
    | .ok slot => if slot.name = "." || slot.name = ".." then none else some .isDirectory
  else
    none

/-- A missing file is created where the path, with all its links, leads. -/
def FileTree.openFile (tree : FileTree) (directory : NodeId) (path : Path)
    (request : OpenRequest) (mode : Nat) : Except OsError (NodeId × FileTree) :=
  let fault := if request.creates then tree.createFault? directory path else none
  match fault.elim (tree.place directory true path) Except.error with
  | .error .busy => .error .isDirectory
  | .error cause => .error cause
  | .ok (.found located) => tree.openFound located.id request
  | .ok (.vacant holder name) =>
    if request.creates then
      match tree.changeFault? holder with
      | some cause => .error cause
      | none => .ok (tree.attach holder name (.file ⟨mode, false⟩ (.data "")))
    else
      .error .notFound

def FileTree.setData (tree : FileTree) (id : NodeId) (octets : Octets) : FileTree :=
  match tree.node? id with
  | some (.file access _) => tree.setNode id (.file access (.data octets))
  | _ => tree

/-- The directory and everything below it lose their entries. -/
def FileTree.clear (tree : FileTree) : Nat → NodeId → FileTree
  | 0, _ => tree
  | fuel + 1, id =>
    match tree.node? id with
    | some (.directory access parent entries) =>
      entries.foldl (fun current entry => current.clear fuel entry.2)
        (tree.setNode id (.directory access parent []))
    | _ => tree

/-- The entry is removed with everything below it. -/
def FileTree.removeTree (tree : FileTree) (directory : NodeId) (path : Path) :
    Except OsError FileTree :=
  match tree.slot directory path with
  | .error cause => .error cause
  | .ok slot =>
    match tree.entry? slot.holder slot.name with
    | some id => .ok ((tree.clear (tree.nodes.size + 1) id).eraseEntry slot.holder slot.name)
    | none => .error .notFound

end ChainShell
