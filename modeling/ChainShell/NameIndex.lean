/-
This file collects the command and file names that completion offers.
-/

import ChainShell.Builtin

namespace ChainShell

/-- The names offered for completion. -/
structure NameIndex where
  commands : List String
  files : List String
  deriving DecidableEq, Repr

def NameIndex.empty : NameIndex := ⟨[], []⟩

/-- A directory could not be opened, or one of its entries could not be read. -/
inductive ListingError where
  | directory (path : Path) (cause : OsError)
  | entry (path : Path) (cause : OsError)
  deriving DecidableEq, Repr

def ListingError.message : ListingError → String
  | .directory path cause => "cannot read directory " ++ path.text ++ ": " ++ cause.message
  | .entry path cause => "cannot read entry of " ++ path.text ++ ": " ++ cause.message

/-- One unreadable entry spoils the whole listing. -/
def entryNames (path : Path) : List (Except OsError String) → Except ListingError (List String)
  | [] => .ok []
  | .error cause :: _ => .error (.entry path cause)
  | .ok name :: rest =>
    match entryNames path rest with
    | .error error => .error error
    | .ok names => .ok (name :: names)

/-- The log says where the collection ended early. -/
def truncationWarning (limit : Nat) : LogRecord :=
  let number := toString limit
  ⟨.warn, "command list truncated at " ++ number ++ " entries"⟩

/-- Names are added one by one. The first name that finds the list full stays out with all others,
and the answer tells whether there was one. -/
def addNames (limit : Nat) (collected : Array String) : List String → Array String × Bool
  | [] => (collected, false)
  | name :: rest =>
    if collected.size = limit then
      (collected, true)
    else
      addNames limit (collected.push name) rest

/-- Each entry of the search path adds its names. An empty entry and an unreadable one add
nothing. A name that stays out ends the collection. -/
def collectNames (list : Path → Except ListingError (List String)) (limit : Nat)
    (collected : Array String) : List Path → Array String × List LogRecord
  | [] => (collected, [])
  | directory :: rest =>
    if directory.isEmpty then
      collectNames list limit collected rest
    else
      match list directory with
      | .error error =>
        let (names, entries) := collectNames list limit collected rest
        (names, ⟨.debug, "skipping search path entry: " ++ error.message⟩ :: entries)
      | .ok names =>
        match addNames limit collected names with
        | (added, true) => (added, [truncationWarning limit])
        | (added, false) => collectNames list limit added rest

/-- The names of the search path come first and the names of the built-ins last. -/
def collectCommands (list : Path → Except ListingError (List String)) (searchPath : String)
    (limit : Nat) : List String × List LogRecord :=
  let (names, entries) := collectNames list limit #[] (searchEntries searchPath)
  (names.toList ++ builtinNames, entries)

variable {σ : Type} [OperatingSystem σ]

def listNames (system : σ) (path : Path) : Except ListingError (List String) :=
  match OperatingSystem.listDir system path with
  | .error cause => .error (.directory path cause)
  | .ok entries => entryNames path entries

/-- The command names of a search path. -/
def commandNames (system : σ) (searchPath : String) : List String × List LogRecord :=
  collectCommands (listNames system) searchPath maxIndexedCommands

/-- The names in a directory. An unreadable directory has none. -/
def fileNames (system : σ) (directory : Path) : List String × List LogRecord :=
  match listNames system directory with
  | .ok names => (names, [])
  | .error error => ([], [⟨.warn, error.message⟩])

def NameIndex.build (system : σ) (searchPath : String) (directory : Path) :
    NameIndex × List LogRecord :=
  let (commands, commandEntries) := commandNames system searchPath
  let (files, fileEntries) := fileNames system directory
  (⟨commands, files⟩, commandEntries ++ fileEntries)

/-- The file names are read anew and the command names stay. -/
def NameIndex.refreshFiles (index : NameIndex) (system : σ) (directory : Path) :
    NameIndex × List LogRecord :=
  let (files, entries) := fileNames system directory
  ({ index with files := files }, entries)

end ChainShell
