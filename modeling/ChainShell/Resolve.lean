/-
This file finds the file that a command name stands for.
-/

import ChainShell.System

namespace ChainShell

variable {σ : Type} [OperatingSystem σ]

/-- A file that the system says nothing of counts as missing. -/
def isRegularFile (system : σ) (path : Path) : Bool :=
  match OperatingSystem.metadata system path with
  | .ok file => file.isRegular
  | .error _ => false

/-- The owner, the group and all others have an execute bit each. -/
def executeBits : UInt32 := 0o111

/-- One execute bit is enough, whoever it is for. -/
def isExecutable (system : σ) (path : Path) : Bool :=
  match OperatingSystem.metadata system path with
  | .ok file => file.mode &&& executeBits != 0
  | .error _ => false

/-- A path is found when it leads to a regular file. -/
def findFile (system : σ) (path : Path) : Option Path :=
  if isRegularFile system path then some path else none

/-- An empty entry of the search path means the current directory itself. -/
def entryDirectory (currentDir entry : Path) : Path :=
  if entry.isEmpty then currentDir else currentDir.join entry

/-- A match is a regular file with an execute bit. -/
def matchesEntry (system : σ) (currentDir : Path) (name : String) (entry : Path) : Option Path :=
  let path := (entryDirectory currentDir entry).join ⟨name⟩
  if isRegularFile system path && isExecutable system path then some path else none

/-- The first entry with a match decides. A directory or a file without an execute bit does
not hide a later match. -/
def findInSearchPath (system : σ) (searchPath : String) (currentDir : Path) (name : String) :
    Option Path :=
  (searchEntries searchPath).findSome? (matchesEntry system currentDir name)

/-- Only a name with exactly one component is searched. Any other name is a path of its own. -/
def findCommand (system : σ) (searchPath : String) (currentDir : Path) (name : Path) :
    Option Path :=
  if name.isAbsolute then
    findFile system name
  else
    match name.components with
    | [] => none
    | [component] => findInSearchPath system searchPath currentDir component.name
    | _ => findFile system (currentDir.join name)

/-- The search path is consulted for a name without a slash. -/
theorem findCommand_of_plain (system : σ) (searchPath : String) (currentDir : Path)
    {name : String} (nonempty : name ≠ "") (plain : '/' ∉ name.toList) :
    findCommand system searchPath currentDir ⟨name⟩ =
      findInSearchPath system searchPath currentDir name := by
  obtain ⟨component, single, spelled⟩ := Path.components_of_plain nonempty plain
  rw [findCommand, Path.isAbsolute_of_plain plain, if_neg Bool.false_ne_true, single]
  simp only [spelled]

theorem findCommand_blank (system : σ) (searchPath : String) (currentDir : Path) :
    findCommand system searchPath currentDir ⟨""⟩ = none := rfl

/-- Every entry of the search path stands for a directory with a path. -/
theorem entryDirectory_isEmpty {currentDir : Path} (nonempty : currentDir.isEmpty = false)
    (entry : Path) : (entryDirectory currentDir entry).isEmpty = false := by
  rw [entryDirectory]
  split
  · exact nonempty
  · exact Path.isEmpty_join nonempty entry

end ChainShell
