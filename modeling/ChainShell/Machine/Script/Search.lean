/-
This file finds the programs of scripts. A script remembers in which directory of its search path
it found a program.
-/

import ChainShell.Machine.Script.Process

namespace ChainShell

/-- The names of the built-in commands. -/
def scriptBuiltins : List Octets :=
  [".", ":", "[", "alias", "bg", "break", "cd", "chdir", "command", "continue", "echo", "eval",
    "exec", "exit", "export", "false", "fg", "getopts", "hash", "jobs", "kill", "local", "printf",
    "pwd", "read", "readonly", "return", "set", "shift", "test", "times", "trap", "true", "type",
    "ulimit", "umask", "unalias", "unset", "wait"]

def isBuiltin (name : Octets) : Bool :=
  scriptBuiltins.contains name

/-- These built-in commands may have to give way to programs. -/
def optionalBuiltins : List Octets :=
  ["[", "chdir", "echo", "printf", "test"]

/-- What an entry of a search path stands for. A mark in it tells. -/
inductive SearchKind where
  | programs
  /-- The place of the built-in commands among the programs. -/
  | builtins
  /-- A directory with files that define functions. -/
  | functions
  deriving DecidableEq, Repr

/-- A path that a name may stand for. -/
structure SearchPlace where
  path : Octets
  kind : SearchKind

/-- The kind that a mark stands for, and what is behind the mark. -/
def searchMark? (text : List Char) : Option (SearchKind × List Char) :=
  let marks : List (String × SearchKind) := [("builtin", .builtins), ("func", .functions)]
  (marks.find? fun mark => mark.1.toList.isPrefixOf text).map fun mark =>
    let behind := text.drop mark.1.length
    (mark.2, if behind.head? = some '%' then behind.drop 1 else behind)

/-- A mark stands in front of the directory or behind it. -/
def searchPlace (name : Octets) (entry : List Char) : SearchPlace :=
  let place (directory : List Char) (kind : SearchKind) : SearchPlace :=
    ⟨if directory.isEmpty then name else String.ofList directory ++ "/" ++ name, kind⟩
  let before := entry.takeWhile (· != '%')
  match searchMark? ((entry.drop before.length).drop 1) with
  | some (kind, behind) => if before.isEmpty then place behind kind else place before kind
  | none => place entry .programs

/-- The paths that a name may stand for, in the order of the search. -/
def searchedPlaces (searchPath name : Octets) : List SearchPlace :=
  (searchPath.toList.splitOn ':').map (searchPlace name)

/-- Only programs can be started. -/
def programPaths (places : List SearchPlace) : List Octets :=
  (places.filter fun place => place.kind = .programs).map SearchPlace.path

def ScriptProcess.searchPath (process : ScriptProcess) : Octets :=
  (process.value? "PATH").getD ""

/-- A name with a slash is a path of its own. -/
def isPathName (name : Octets) : Bool :=
  name.toList.contains '/'

/-- The search looks for a regular file that may be run. An earlier answer still holds for
directories that do not depend on the current one. -/
def Machine.findPlace (machine : Machine) (known : Option Nat) :
    List SearchPlace → Nat → OsError → Except OsError Nat
  | [], _, cause => .error cause
  | ⟨path, .programs⟩ :: rest, place, cause =>
    let holds := path.toList.head? = some '/' && known.any fun old => decide (place ≤ old)
    if holds && known = some place then .ok place
    else if holds then machine.findPlace known rest (place + 1) cause
    else
      match machine.executable (octetsPath path) with
      | .ok _ => .ok place
      | .error .notFound | .error .notDirectory =>
        machine.findPlace known rest (place + 1) cause
      | .error later => machine.findPlace known rest (place + 1) later
  | _ :: rest, place, cause => machine.findPlace known rest (place + 1) cause

/-- The place of a program in a search path. -/
def Machine.findProgram (machine : Machine) (searchPath name : Octets) : Except OsError Nat :=
  machine.findPlace none (searchedPlaces searchPath name) 0 .notFound

/-- An entry of the search path starts with the mark of the built-in commands, and it is not the
first entry. -/
def placesBuiltins (searchPath : Octets) : Bool :=
  ((searchPath.toList.splitOn ':').drop 1).any fun entry => "%builtin".toList.isPrefixOf entry

/-- The name stands for a built-in command, unless a program comes first. -/
def ScriptProcess.usesBuiltin (process : ScriptProcess) (name : Octets) : Bool :=
  let searchPath := process.searchPath
  let before := (searchedPlaces searchPath name).takeWhile fun place => place.kind ≠ .builtins
  let isHidden := optionalBuiltins.contains name && placesBuiltins searchPath &&
    (process.machine.findPlace none before 0 .notFound).toBool
  isBuiltin name && !isHidden

/-- The file that the search comes to, if it stands among files that define functions. -/
def Machine.functionFile? (machine : Machine) : List SearchPlace → Option Octets
  | [] => none
  | ⟨path, .programs⟩ :: rest =>
    if (machine.executable (octetsPath path)).toBool then none else machine.functionFile? rest
  | ⟨path, .functions⟩ :: rest =>
    if (machine.resolve (octetsPath path)).toBool then some path else machine.functionFile? rest
  | _ :: rest => machine.functionFile? rest

/-- A name that is not known yet may stand for a function in a file. -/
def ScriptProcess.functionFile? (process : ScriptProcess) (name : Octets) : Option Octets :=
  let isKnown := isPathName name || isBuiltin name ||
    process.functions.any (fun entry => entry.1 = name) ||
    (process.tracked.find? name).any fun entry => !entry.isStale
  if isKnown then none
  else process.machine.functionFile? (searchedPlaces process.searchPath name)

/-- The place of a program in the search path of the process, which remembers it. -/
def trackProgram (name : Octets) : ScriptM (Except OsError Nat) := do
  let process ← get
  let search (known : Option Nat) : ScriptM (Except OsError Nat) := do
    let places := searchedPlaces process.searchPath name
    match process.machine.findPlace known places 0 .notFound with
    | .ok place =>
      set { process with tracked := process.tracked.store ⟨name, place, false⟩ }
      return .ok place
    | .error cause =>
      set { process with tracked := process.tracked.erase name }
      return .error cause
  match process.tracked.find? name with
  | some entry => if entry.isStale then search (some entry.place) else return .ok entry.place
  | none => search none

/-- The path that a place in the search path stands for. -/
def ScriptProcess.placedPath (process : ScriptProcess) (name : Octets) (place : Nat) : Octets :=
  ((searchedPlaces process.searchPath name)[place]?.map SearchPlace.path).getD name

/-- The text for a program that does not start. -/
def startFault (cause : OsError) : String :=
  if cause = .notFound || cause = .notDirectory then "not found" else cause.reason

end ChainShell
