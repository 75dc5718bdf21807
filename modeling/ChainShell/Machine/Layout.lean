/-
This file lays out files on a machine and runs the shell program on it.
-/

import ChainShell.Machine.System
import ChainShell.Program

namespace ChainShell

/-- What stands at a path. -/
inductive LayoutItem where
  | directory
  | link (target : String)
  | file (text : String) (mode : Nat)
  | absent
  deriving DecidableEq, Repr

/-- Missing parent directories are created, and permission bits are set exactly. -/
def Machine.place (machine : Machine) (path : Path) (item : LayoutItem) :
    Except OsError Machine := do
  let root := FileTree.rootId
  let names := pathNames path.text
  let tree ←
    match item with
    | .directory => (machine.tree.makeDirectories root names).map Prod.snd
    | .absent => machine.tree.removeTree root path
    | .link target =>
      let (_, tree) ← machine.tree.makeDirectories root names.dropLast
      tree.makeLink root path target
    | .file text mode =>
      let (_, tree) ← machine.tree.makeDirectories root names.dropLast
      let (id, opened) ← tree.openFile root path { creates := true, truncates := true } mode
      pure ((opened.setData id (octetsOfText text)).changeMode id mode)
  return { machine with tree := tree }

/-- Everything in a directory is removed by the user, from the last name to the first. The first
thing that may not be removed ends the removal. -/
def FileTree.emptyDirectory : Nat → NodeId → FileTree → Except FileTree FileTree
  | 0, _, tree => .error tree
  | fuel + 1, id, tree =>
    match tree.node? id with
    | some (.directory access _ entries) =>
      if access.allows .read then
        (entries.mergeSort fun left right => decide (right.1 ≤ left.1)).foldlM
          (fun tree (name, child) =>
            if !access.allows .execute then
              .error tree
            else do
              let inner ←
                if tree.isDirectory child then emptyDirectory fuel child tree else .ok tree
              if access.allows .write then .ok (inner.eraseEntry id name) else .error inner)
          tree
      else
        .error tree
    | _ => .ok tree

/-- A machine on the files of an earlier one, with a directory that is emptied first. What the
user may not remove stays where it is. -/
def Machine.renewed (tree : FileTree) (path : Path) (input : List UInt8) : Machine :=
  let machine := Machine.standard input
  match tree.resolve FileTree.rootId path with
  | .error _ => machine
  | .ok id =>
    match FileTree.emptyDirectory (tree.nodes.size + 1) id tree with
    | .ok _ => machine
    | .error left => { machine with tree := left }

/-- Each line takes at least one byte, so the length of the input bounds the lines. -/
def Machine.runProgram (machine : Machine) (arguments texts : List String) :
    ProgramResult Machine :=
  ChainShell.runProgram (machine.input.length + 2) arguments (variablePairs texts) machine

end ChainShell
