/-
This file opens the paths that stand for the descriptors of a process.
-/

import ChainShell.Machine.Basic

namespace ChainShell

/-- What each descriptor of a process leads to. -/
abbrev Descriptors := List (Nat × StreamId)

/-- These paths stand for descriptors of the process that opens them. -/
def descriptorPath? (path : Octets) : Option Nat :=
  if !path.startsWith "/" || endsInSlash path then none
  else
    match pathNames path with
    | ["dev", "stdin"] => some 0
    | ["dev", "stdout"] => some 1
    | ["dev", "stderr"] => some 2
    | ["dev", "fd", name] | ["proc", "self", "fd", name] =>
      if name.toList.all Char.isDigit then
        some (name.toList.foldl (fun value digit => 10 * value + (digit.toNat - '0'.toNat)) 0)
      else none
    | _ => none

/-- The directory that shows a process its descriptors. -/
def descriptorDirectory : Octets := "/proc/self/fd"

/-- The node behind a stream. -/
def Machine.streamNode (machine : Machine) (stream : StreamId) : NodeId × FileTree :=
  match machine.streams[stream]? with
  | some (.file id _ _) => (id, machine.tree)
  | some .input =>
    machine.tree.addNode (.file ⟨0o600, false⟩ (.data (octetsOfBytes machine.wholeInput)))
  | _ => machine.tree.addNode (.device ⟨0o600, false⟩ (.pipe stream))

/-- A descriptor appears as an entry. -/
def Machine.showDescriptor (directory : NodeId) (machine : Machine) (entry : Nat × StreamId) :
    Machine :=
  let (id, tree) := machine.streamNode entry.2
  { machine with tree := tree.setEntry directory (toString entry.1) id }

/-- The machine shows a process its own descriptors when one of the paths stands for one. -/
def Machine.showDescriptors (machine : Machine) (descriptors : Descriptors)
    (paths : List Octets) : Machine :=
  if paths.any fun path => (descriptorPath? path).isSome then
    match machine.resolve (octetsPath descriptorDirectory) with
    | .ok directory =>
      match machine.tree.node? directory with
      | some (.directory access parent _) =>
        let hidden := machine.tree.setNode directory (.directory access parent [])
        descriptors.foldl (Machine.showDescriptor directory) { machine with tree := hidden }
      | _ => machine
    | .error _ => machine
  else
    machine

/-- A file is opened once more at its start, and a pipe at the end that is asked for. Other streams
are shared. -/
def Machine.reopen (machine : Machine) (descriptors : Descriptors) (source : Nat)
    (request : OpenRequest) : Except OsError (StreamId × Machine) :=
  match descriptors.lookup source with
  | none => .error .notFound
  | some stream =>
    match machine.streams[stream]? with
    | some (.file id _ _) =>
      (machine.tree.openFound id request).map fun (found, tree) =>
        { machine with tree := tree }.openStream (.file found 0 request)
    | some .input =>
      .ok (if request.writes then (stream, machine)
        else machine.openStream (.unread (octetsOfBytes machine.wholeInput).toList))
    | some (.pipe _) => .ok (if request.reads then stream + 1 else stream, machine)
    | some (.outlet pipe) => .ok (if request.writes then pipe else stream, machine)
    | _ => .ok (stream, machine)

def Machine.openPath (machine : Machine) (descriptors : Descriptors) (path : Octets)
    (request : OpenRequest) : Except OsError (StreamId × Machine) :=
  match descriptorPath? path with
  | some source => machine.reopen descriptors source request
  | none => machine.openFile (octetsPath path) request

end ChainShell
