/-
This file holds a machine in memory: its files, its open streams, its processes, and what one of
them has for itself.
-/

import ChainShell.Machine.FileChange
import ChainShell.Machine.Limit
import ChainShell.Machine.ProcessTable

namespace ChainShell

/-- An open stream of bytes. Several descriptors may share one. -/
inductive Stream where
  /-- The standard input of the machine. -/
  | input
  /-- Everything that was written is kept for a process. -/
  | collected (octets : Octets) (reader : Nat)
  /-- The end of a pipe that is written to, with all that nobody has read yet. -/
  | pipe (octets : Octets)
  /-- The end of a pipe that is read from. -/
  | outlet (pipe : StreamId)
  | file (id : NodeId) (position : Nat) (request : OpenRequest)
  /-- A text that is complete and not read yet. -/
  | unread (octets : List Char)
  deriving DecidableEq, Repr

/-- The machine as one process sees it. -/
structure Machine where
  tree : FileTree
  directory : NodeId
  /-- The permission bits that the process withholds from new files. -/
  mask : Nat
  limits : ResourceLimits := standardLimits
  /-- The number of the process. -/
  self : Nat := hostProcess
  input : List UInt8
  /-- All that standard input held at first. -/
  wholeInput : List UInt8 := input
  streams : Array Stream
  processes : ProcessTable := []
  /-- The number of the next process. -/
  nextProcess : Nat := hostProcess + 1

/-- A path in a script or among the arguments of a program is a byte string. -/
def octetsPath (octets : Octets) : Path :=
  ⟨textOfOctets octets⟩

namespace Machine

def resolve (machine : Machine) (path : Path) : Except OsError NodeId :=
  machine.tree.resolve machine.directory path

def node? (machine : Machine) (path : Path) : Option Node :=
  (machine.resolve path).toOption.bind machine.tree.node?

def openStream (machine : Machine) (stream : Stream) : StreamId × Machine :=
  (machine.streams.size, { machine with streams := machine.streams.push stream })

/-- The machine goes from one process to another, which keeps its own directory, mask and
limits. -/
def returnTo (machine own : Machine) : Machine :=
  { machine with
    directory := own.directory
    mask := own.mask
    limits := own.limits
    self := own.self }

/-- The others see what the process does now. -/
def publish (machine : Machine) (conduct : Conduct) : Machine :=
  { machine with
    processes := machine.processes.change machine.self fun entry =>
      { entry with conduct := conduct } }

/-- The number of the process that has started this one. -/
def parent (machine : Machine) : Nat :=
  ((machine.processes.find? machine.self).map ProcessEntry.parent).getD hostProcess

/-- The process is over. -/
def finish (machine : Machine) (number : Nat) (ending : Ending) : Machine :=
  { machine with processes := machine.processes.finish number ending }

/-- A process starts as a copy of this one. It gets the next number. -/
def addProcess (machine : Machine) (conduct : Conduct) : Machine :=
  { machine with
    processes := machine.processes ++
      [{ number := machine.nextProcess, parent := machine.self, conduct := conduct }]
    nextProcess := machine.nextProcess + 1 }

def setStream (machine : Machine) (id : StreamId) (stream : Stream) : Machine :=
  { machine with streams := machine.streams.setIfInBounds id stream }

/-- The file is opened at its start. -/
def openFile (machine : Machine) (path : Path) (request : OpenRequest) :
    Except OsError (StreamId × Machine) :=
  match machine.tree.openFile machine.directory path request
      (withoutBits 0o666 machine.mask) with
  | .error cause => .error cause
  | .ok (id, tree) => .ok ({ machine with tree := tree }.openStream (.file id 0 request))

/-- The bytes of a file. Programs have no readable bytes. -/
def fileOctets (machine : Machine) (id : NodeId) : Octets :=
  match machine.tree.node? id with
  | some (.file _ (.data octets)) => octets
  | _ => ""

/-- The bytes from a position on are overwritten. A gap in front of them is filled with zeros. -/
def overwrite (old : Octets) (position : Nat) (octets : Octets) : Octets :=
  let length := old.length
  if position = length then old ++ octets
  else
    let gap := List.replicate (position - length) '\x00'
    String.ofList (old.toList.take position ++ gap ++ octets.toList ++
      old.toList.drop (position + octets.length))

/-- A device with no room refuses every byte. -/
def isFull (machine : Machine) (id : NodeId) : Bool :=
  match machine.tree.node? id with
  | some (.device _ .full) => true
  | _ => false

/-- The number of bytes that a pipe holds. -/
def pipeRoom : Nat := 65536

/-- So many bytes go into a pipe as a whole or not at all. -/
def wholeBytes : Nat := 4096

/-- The two ends of a new pipe, first the one to read from. -/
def openPipe (machine : Machine) : StreamId × StreamId × Machine :=
  let (writing, opened) := machine.openStream (.pipe "")
  let (reading, both) := opened.openStream (.outlet writing)
  (reading, writing, both)

/-- The other end of a pipe is the next stream. -/
def hasReader (machine : Machine) (pipe : StreamId) : Bool :=
  machine.processes.holds (pipe + 1)

/-- The part of some bytes for which a pipe has room. -/
def roomFor (old : Octets) (count : Nat) : Nat :=
  let room := pipeRoom - old.length
  if count ≤ room then count else if count ≤ wholeBytes then 0 else room

/-- The part of some bytes that a file may still take at a position. -/
def fileRoom (machine : Machine) (id : NodeId) (position count : Nat) : Nat :=
  match machine.tree.node? id, fileSizeLimit machine.limits with
  | some (.file _ _), some limit => min count (limit - position)
  | _, _ => count

/-- The number of bytes that were written. For none of them the writer has to wait. A stream that
is not open for writing refuses the bytes. -/
def writeSome (machine : Machine) (id : StreamId) (count : Nat) (chars : List Char) :
    Except OsError (Nat × Machine) :=
  let part (room : Nat) : Octets := String.ofList (chars.take room)
  match machine.streams[id]? with
  | some (.collected old reader) =>
    if !machine.processes.isFree reader then .error .brokenPipe
    else .ok (count, machine.setStream id (.collected (old ++ part count) reader))
  | some (.pipe old) =>
    if !machine.hasReader id then .error .brokenPipe
    else
      let room := roomFor old count
      .ok (room, machine.setStream id (.pipe (old ++ part room)))
  | some (.file node position request) =>
    if !request.writes then
      .error .badDescriptor
    else if machine.isFull node then
      .error .noSpace
    else
      let old := machine.fileOctets node
      let start := if request.appends then old.length else position
      let room := machine.fileRoom node start count
      if room = 0 then .error .fileTooLarge
      else
        let written := { machine with
          tree := machine.tree.setData node (overwrite old start (part room)) }
        .ok (room, written.setStream id (.file node (start + room) request))
  | _ => .error .badDescriptor

/-- A pipe has room for the bytes, or nobody is there to read them. -/
def canWrite (machine : Machine) (id : StreamId) (count : Nat) : Bool :=
  match machine.streams[id]? with
  | some (.pipe old) => !machine.hasReader id || roomFor old count ≠ 0
  | _ => true

/-- Bytes can be read from a pipe, or nobody is there to write them. -/
def canRead (machine : Machine) (id : StreamId) : Bool :=
  match machine.streams[id]? with
  | some (.outlet pipe) =>
    match machine.streams[pipe]? with
    | some (.pipe octets) => octets ≠ "" || !machine.processes.holds pipe
    | _ => true
  | _ => true

/-- The bytes that can be read now. -/
def pendingOctets (machine : Machine) (id : StreamId) : List Char :=
  match machine.streams[id]? with
  | some .input => (octetsOfBytes machine.input).toList
  | some (.file node position request) =>
    if request.reads then (machine.fileOctets node).toList.drop position else []
  | some (.unread octets) => octets
  | some (.outlet pipe) =>
    match machine.streams[pipe]? with
    | some (.pipe octets) => octets.toList
    | _ => []
  | _ => []

/-- The cause for which nothing can be read from a stream. -/
def readFault? (machine : Machine) (id : StreamId) : Option OsError :=
  match machine.streams[id]? with
  | some .input | some (.unread _) | some (.outlet _) => none
  | some (.file node _ request) =>
    if !request.reads then some .badDescriptor
    else if machine.tree.isDirectory node then some .isDirectory
    else none
  | _ => some .badDescriptor

/-- A stream from a file can be read again from an earlier position. -/
def isFileStream (machine : Machine) (id : StreamId) : Bool :=
  match machine.streams[id]? with
  | some (.file _ _ _) | some .input => true
  | _ => false

/-- The given number of bytes counts as read. -/
def advanceStream (machine : Machine) (id : StreamId) (count : Nat) : Machine :=
  match machine.streams[id]? with
  | some .input => { machine with input := machine.input.drop count }
  | some (.file node position request) =>
    machine.setStream id (.file node (position + count) request)
  | some (.unread octets) =>
    machine.setStream id (.unread (octets.drop count))
  | some (.outlet pipe) =>
    match machine.streams[pipe]? with
    | some (.pipe octets) =>
      machine.setStream pipe (.pipe (String.ofList (octets.toList.drop count)))
    | _ => machine
  | _ => machine

/-- The bytes that a collecting stream has kept. -/
def collectedOctets (machine : Machine) (id : StreamId) : Octets :=
  match machine.streams[id]? with
  | some (.collected octets _) => octets
  | _ => ""

end Machine

/-- An argument or variable with this many bytes does not fit, its final zero included. -/
def maxArgumentBytes : Nat := 131072

/-- All arguments and variables together, each with a final zero and a pointer, take no more. -/
def maxStartBytes : Nat := 0x200000

/-- The number of interpreter files that one start may go through. -/
def maxInterpreters : Nat := 5

/-- The content of an executable file. -/
def Machine.executable (machine : Machine) (path : Path) : Except OsError Content :=
  match machine.resolve path with
  | .error cause => .error cause
  | .ok id =>
    match machine.tree.node? id with
    | some (.file access content) =>
      if access.allows .execute then .ok content else .error .permissionDenied
    | _ => .error .permissionDenied

def isLineBlank (char : Char) : Bool :=
  char == ' ' || char == '\t'

/-- A name in the first line of a script ends at a blank or a zero. -/
def endsInterpreter (char : Char) : Bool :=
  isLineBlank char || char == '\x00'

/-- The number of bytes of a script in which its interpreter must be named. -/
def interpreterBytes : Nat := 256

/-- The start of a script, filled with zeros. -/
def scriptHead (octets : Octets) : List Char :=
  let start := octets.toList.take interpreterBytes
  start ++ List.replicate (interpreterBytes - start.length) '\x00'

/-- The part of the first line behind its mark, without blanks at its end. A line that does not
end in the head must have a blank or a zero behind its first word, or the word may be cut off. -/
def interpreterText (head : List Char) : Option (List Char) :=
  let body := head.drop 2
  let line := (head.takeWhile fun char => char != '\n' && char != '\x00')
  if head[line.length]? = some '\n' then
    some ((line.drop 2).reverse.dropWhile isLineBlank).reverse
  else if (body.dropWhile isLineBlank).any endsInterpreter then
    some ((body.take (interpreterBytes - 3)).reverse.dropWhile isLineBlank).reverse
  else
    none

/-- The first line of a script names its interpreter and at most one argument for it. An argument
ends at a zero. -/
def interpreterLine (octets : Octets) : Option (String × List Octets) :=
  match scriptHead octets with
  | '#' :: '!' :: rest =>
    match interpreterText ('#' :: '!' :: rest) with
    | none => none
    | some text =>
      match text.dropWhile isLineBlank with
      | [] => none
      | line =>
        let name := line.takeWhile fun char => !endsInterpreter char
        let behind := line.dropWhile fun char => !endsInterpreter char
        let argument := (behind.dropWhile isLineBlank).takeWhile (· != '\x00')
        let hasArgument := behind.head?.any isLineBlank
        some (textOfOctets (String.ofList name),
          if hasArgument then [String.ofList argument] else [])
  | _ => none

/-- A script runs its interpreter on its own path, followed by its arguments. A missing
interpreter name stands for the directory of the process, which cannot be run. -/
def Machine.load (machine : Machine) : Nat → Path → List Octets →
    Except OsError (Tool × List Octets)
  | 0, _, _ => .error .tooManyLinks
  | depth + 1, path, argv =>
    match machine.executable path with
    | .error cause => .error cause
    | .ok (.tool tool) => .ok (tool, argv)
    | .ok (.data octets) =>
      match interpreterLine octets with
      | none => .error .execFormat
      | some (interpreter, extra) =>
        if interpreter.isEmpty then .error .permissionDenied
        else
          machine.load depth ⟨interpreter⟩
            (octetsOfText interpreter :: extra ++ octetsOfText path.text :: argv.drop 1)

/-- The variables that a process starts with, one text for each. -/
abbrev ProcessVariables := List (Octets × Octets)

/-- The texts that a new process starts with. -/
def startTexts (argv : List Octets) (vars : ProcessVariables) : List Octets :=
  argv ++ vars.map fun entry => entry.1 ++ "=" ++ entry.2

def startBytes (texts : List Octets) : Nat :=
  texts.foldl (fun total text => total + text.length + 9) 0

/-- The file must be executable before the sizes of the texts are looked at. -/
def Machine.loadProgram (machine : Machine) (path : Path) (argv : List Octets)
    (vars : ProcessVariables) : Except OsError (Tool × List Octets) :=
  match machine.executable path with
  | .error cause => .error cause
  | .ok _ =>
    let texts := startTexts argv vars
    if texts.any fun text => maxArgumentBytes ≤ text.length then
      .error .argumentListTooLong
    else if maxStartBytes < startBytes texts + (octetsOfText path.text).length + 1 then
      .error .argumentListTooLong
    else
      machine.load (maxInterpreters + 1) path argv

end ChainShell
