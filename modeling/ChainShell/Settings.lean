/-
This file holds the fixed defaults and the settings that a shell reads when it starts.
-/

import ChainShell.Prompt

namespace ChainShell

def defaultPrompt : String := "\\u@\\h \\w $ "

/-- Commands are searched here when no search path is set. -/
def defaultSearchPath : String := "/usr/bin:/bin"

/-- The option `-p` of `command` searches here. -/
def standardSearchPath : String := "/usr/local/bin:/usr/bin:/bin"

def defaultUser : String := "user"

def defaultHost : String := "localhost"

/-- The history keeps at most this many entries. -/
def historySize : Nat := 1000

/-- The history file lies in the home directory under this name. -/
def historyFileName : String := ".seqsh_history"

/-- At most this many names of search path directories are offered for completion. -/
def maxIndexedCommands : Nat := 32768

/-- An assigned name has at most this many bytes. -/
def maxVariableNameBytes : Nat := 63

/-- An assigned value has at most this many bytes. -/
def maxVariableValueBytes : Nat := 1023

/-- A shell takes these values from its surroundings. -/
structure Settings where
  promptFormat : String
  user : String
  host : String
  home : Path
  searchPath : String
  deriving DecidableEq, Repr

/-- A missing value and an empty one give the default. -/
def valueOr (lookup : String → Option String) (name default : String) : String :=
  match lookup name with
  | none => default
  | some value => if value.isEmpty then default else value

def Settings.ofLookup (lookup : String → Option String) : Settings where
  promptFormat := valueOr lookup "PS1" defaultPrompt
  user := valueOr lookup "USER" defaultUser
  host := valueOr lookup "HOSTNAME" defaultHost
  home := ⟨valueOr lookup "HOME" "/"⟩
  searchPath := valueOr lookup "PATH" defaultSearchPath

/-- Of variables with one name the first counts. -/
def Settings.ofPairs (pairs : List (String × String)) : Settings :=
  .ofLookup fun name => pairs.lookup name

/-- The root directory is no usable home, so it has no history file. -/
def Settings.historyPath (settings : Settings) : Option Path :=
  if settings.home.agrees .root then none else some (settings.home.join ⟨historyFileName⟩)

def Settings.prompt (settings : Settings) (directory : Path) : String :=
  renderPrompt settings.promptFormat ⟨settings.user, settings.host, directory⟩

end ChainShell
