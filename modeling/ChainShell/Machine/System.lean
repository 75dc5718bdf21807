/-
This file makes a machine in memory an operating system for the shell.
-/

import ChainShell.Machine.Schedule
import ChainShell.Machine.Tools

namespace ChainShell

/-- No text of a request may hold a zero. -/
def hasNul (text : String) : Bool :=
  text.toList.contains '\x00'

def SpawnRequest.hasNul (request : SpawnRequest) : Bool :=
  (request.name :: request.directory.text :: request.arguments ++
    request.vars.entries.flatMap fun entry => [entry.1, entry.2]).any ChainShell.hasNul

def processVariables (vars : Variables) : ProcessVariables :=
  vars.entries.map fun entry => (octetsOfText entry.1, octetsOfText entry.2)

/-- The child of a shell reads the standard input of the machine, and its outputs go to two
files. -/
def childDescriptors : List (Nat × StreamId) := [(0, 0), (1, 1), (2, 2)]

/-- The bits of a file that belongs to its owner alone. -/
def privateMode : Nat := 0o600

/-- A file that no directory has. -/
def Machine.addHiddenFile (machine : Machine) : NodeId × Machine :=
  let (id, tree) := machine.tree.addNode (.file ⟨privateMode, false⟩ (.data ""))
  (id, { machine with tree := tree })

/-- The text that a child wrote to one of its files. -/
def Machine.hiddenText (machine : Machine) (id : NodeId) : String :=
  textOfOctets (machine.fileOctets id)

/-- The directory that a process may enter. -/
def Machine.enterable (machine : Machine) (path : Path) : Except OsError NodeId :=
  match machine.resolve path with
  | .error cause => .error cause
  | .ok id =>
    if !machine.tree.isDirectory id then .error .notDirectory
    else if !machine.tree.allows id .execute then .error .permissionDenied
    else .ok id

/-- Time goes on from one child to the next. -/
def Machine.tick (machine : Machine) : Machine :=
  { machine with tree.clock := machine.tree.clock + 1 }

/-- How a process has ended. The process is forgotten. -/
def Machine.takeEnding (machine : Machine) (number : Nat) : Ending × Machine :=
  let ending := (machine.processes.find? number).bind ProcessEntry.ending
  (ending.getD (.signaled depthSignal),
    { machine with processes := machine.processes.erase number })

/-- The child enters its directory and then loads its program. The parent keeps its own
directory. -/
def Machine.spawn (machine : Machine) (request : SpawnRequest) :
    Except OsError ChildReport × Machine :=
  if request.hasNul then
    (.error .nulInData, machine)
  else
    match machine.enterable request.directory with
    | .error cause => (.error cause, machine)
    | .ok directory =>
      let argv := (request.name :: request.arguments).map octetsOfText
      let vars := processVariables request.vars
      let child := { machine.tick with directory := directory }
      match child.loadProgram request.program argv vars with
      | .error cause => (.error cause, machine)
      | .ok (tool, loaded) =>
        let (output, withOutput) := child.addHiddenFile
        let (errors, withErrors) := withOutput.addHiddenFile
        let number := withErrors.nextProcess
        let opened := { withErrors with
          streams := #[.input, .file output 0 { writes := true },
            .file errors 0 { writes := true }] }
        let ready := { opened.addProcess {} with self := number }
        let ended := ready.runProcess number
          (runTool maxProgramDepth tool { argv := loaded, vars, descriptors := childDescriptors })
        let (ending, after) := ended.takeEnding number
        (.ok ⟨.ended ending, after.hiddenText output, after.hiddenText errors⟩,
          { after.returnTo machine with
            streams := machine.streams
            processes := machine.processes })

def Machine.metadata (machine : Machine) (path : Path) : Except OsError FileMetadata :=
  match machine.resolve path with
  | .error cause => .error cause
  | .ok id =>
    match machine.tree.node? id with
    | some node => .ok ⟨node.isRegular, .ofNat node.access.mode⟩
    | none => .error .notFound

def Machine.changeDir (machine : Machine) (path : Path) : Except OsError Machine :=
  (machine.enterable path).map fun id => { machine with directory := id }

def Machine.listDir (machine : Machine) (path : Path) :
    Except OsError (List (Except OsError String)) :=
  match machine.resolve path with
  | .error cause => .error cause
  | .ok id =>
    match machine.tree.node? id with
    | some (.directory access _ entries) =>
      if access.allows .read then .ok (entries.map fun entry => .ok entry.1)
      else .error .permissionDenied
    | _ => .error .notDirectory

/-- A file must hold text. -/
def Machine.fileText (machine : Machine) (path : Path) : Except OsError String :=
  match machine.tree.openFile machine.directory path { reads := true } 0 with
  | .error cause => .error cause
  | .ok (id, _) =>
    match machine.tree.node? id with
    | some (.directory _ _ _) => .error .isDirectory
    | _ =>
      match textOfOctets? (machine.fileOctets id) with
      | some text => .ok text
      | none => .error (.other "stream did not contain valid UTF-8")

/-- The stored file is private, whatever it was before. -/
def Machine.storeFile (machine : Machine) (path : Path) (text : String) :
    Except OsError Machine :=
  match machine.tree.openFile machine.directory path
      { writes := true, creates := true, truncates := true } privateMode with
  | .error cause => .error cause
  | .ok (id, tree) =>
    .ok { machine with
      tree := (tree.setData id (octetsOfText text)).changeMode id privateMode }

instance : OperatingSystem Machine where
  workingDir machine := machine.tree.directoryPath machine.directory
  changeDir := Machine.changeDir
  canonicalize machine path := machine.tree.canonicalPath machine.directory path
  metadata := Machine.metadata
  listDir := Machine.listDir
  spawn := Machine.spawn
  fileText := Machine.fileText
  storeFile := Machine.storeFile
  readInput machine count :=
    (machine.input.take count, { machine with input := machine.input.drop count })

/-- The programs that every machine has. -/
def standardTools : List (String × Tool) :=
  [("sh", .sh), ("dash", .sh), ("mv", .utility .move), ("cp", .utility .copy),
    ("rm", .utility .remove), ("rmdir", .utility .removeDirectory),
    ("chmod", .utility .changeMode), ("echo", .utility .echo), ("cat", .utility .concatenate),
    ("true", .utility .succeed), ("false", .utility .fail)]

/-- The directories that every machine has. -/
def standardDirectories : List (List String) :=
  [["usr", "bin"], ["usr", "sbin"], ["usr", "lib"], ["usr", "local", "bin"],
    ["usr", "local", "sbin"], ["usr", "share"], ["dev"], ["etc"], ["home"], ["opt"], ["var"],
    ["proc", "self", "fd"]]

/-- The path of directories exists and belongs to the system. -/
def FileTree.addSystemDirectories (tree : FileTree) (directory : NodeId) :
    List String → NodeId × FileTree
  | [] => (directory, tree)
  | name :: rest =>
    match tree.entry? directory name with
    | some id => tree.addSystemDirectories id rest
    | none =>
      let (id, extended) := tree.attach directory name (.directory systemDirectory directory [])
      extended.addSystemDirectories id rest

def installTool (tree : FileTree) (entry : String × Tool) : FileTree :=
  let (holder, extended) := tree.addSystemDirectories FileTree.rootId ["usr", "bin"]
  (extended.attach holder entry.1 (.file ⟨0o755, true⟩ (.tool entry.2))).2

/-- The programs lie in `/usr/bin`, and `/bin` is a link to it. Everybody may write to `/tmp`. -/
def standardTree : FileTree :=
  let root := FileTree.rootId
  let withFolders := standardDirectories.foldl (fun tree names =>
    (tree.addSystemDirectories root names).2) FileTree.empty
  let withTools := standardTools.foldl installTool withFolders
  let withLinks := [("bin", "usr/bin"), ("sbin", "usr/sbin"), ("lib", "usr/lib")].foldl
    (fun tree entry => (tree.attach root entry.1 (.link entry.2)).2) withTools
  let withTmp := (withLinks.attach root "tmp" (.directory ⟨0o1777, true⟩ root [])).2
  let (dev, withDev) := withTmp.addSystemDirectories root ["dev"]
  let withDevices := [("null", Device.null), ("zero", .null), ("random", .null),
    ("urandom", .null), ("full", .full), ("tty", .terminal)].foldl
    (fun tree entry => (tree.attach dev entry.1 (.device ⟨0o666, true⟩ entry.2)).2) withDev
  let withDescriptors := [("stdin", "/0"), ("stdout", "/1"), ("stderr", "/2"), ("fd", "")].foldl
    (fun tree entry => (tree.attach dev entry.1 (.link (descriptorDirectory ++ entry.2))).2)
    withDevices
  let (etc, withEtc) := withDescriptors.addSystemDirectories root ["etc"]
  (withEtc.attach etc "passwd" (.file ⟨0o644, true⟩ (.data ""))).2

/-- A machine at the root directory with the given standard input. -/
def Machine.standard (input : List UInt8) : Machine :=
  { tree := { standardTree with clock := 1 }
    directory := FileTree.rootId
    mask := creationMask
    input := input
    streams := #[] }

end ChainShell
