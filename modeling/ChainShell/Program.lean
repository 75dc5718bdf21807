/-
This file is the shell program: it reads its arguments, then lines until the input ends.
-/

import ChainShell.History
import ChainShell.Input
import ChainShell.Session

namespace ChainShell

def programName : String := "seqsh"

def programVersion : String := "0.1.0"

inductive ProgramSwitch where
  | noHistory
  | version
  deriving DecidableEq, Repr

def programGrammar : OptionGrammar ProgramSwitch where
  switch? argument :=
    if argument = "-H" ∨ argument = "--no-history" then some .noHistory
    else if argument = "-v" ∨ argument = "--version" then some .version
    else none
  greedy := false

def programHelp : String :=
  "Usage: seqsh [-H] [-v] [--] [<scripts...>]\n\n" ++
  "Interactive command interpreter with \x60;\x60, \x60&&\x60 and \x60||\x60 chaining.\n\n" ++
  "Positional Arguments:\n" ++
  "  scripts           script files; not supported, input is read interactively\n" ++
  "                    only.\n\n" ++
  "Options:\n" ++
  "  -H, --no-history  do not load or save the command history.\n" ++
  "  -v, --version     print the version and exit.\n" ++
  "  --help, help      display usage information\n"

/-- The prompt is shown without a line editor only on these terminals. -/
def plainTerminals : List String := ["dumb", "cons25", "emacs"]

def showsPrompt (pairs : List (String × String)) : Bool :=
  match pairs.lookup "TERM" with
  | none => false
  | some terminal => plainTerminals.contains terminal.toLower

/-- A program ends with a code, and everything it did is in its events. -/
structure ProgramResult (σ : Type) where
  code : ExitCode
  events : List Event
  system : σ

def ProgramResult.ofOutput {σ : Type} (text : String) (system : σ) : ProgramResult σ :=
  ⟨0, [.wrote (encode text)], system⟩

def ProgramResult.ofError {σ : Type} (text : String) (system : σ) : ProgramResult σ :=
  ⟨1, [.complained text], system⟩

/-- The text on standard error for input that is no UTF-8. -/
def invalidInputText : String :=
  let cause := "stream did not contain valid UTF-8"
  "Error: " ++ cause ++ "\n\nCaused by:\n    " ++ cause ++ "\n"

/-- The text on standard error when a backspace cuts a character in two. -/
def tornInputText : String :=
  "a backspace cut a character in two\n"

variable {σ : Type} [OperatingSystem σ]

/-- The state between two lines. -/
structure Interaction (σ : Type) where
  session : Session σ
  history : History
  /-- The bytes that were read and belong to later lines. -/
  pending : List UInt8

/-- The loop ends with the input, with a command that leaves the shell, or at a line that is no
text or was torn by a backspace. -/
inductive LoopEnd where
  | finished
  | invalidInput
  | tornInput
  deriving DecidableEq, Repr

def Interaction.mapShell (interaction : Interaction σ) (change : Shell σ → Shell σ) :
    Interaction σ :=
  { interaction with session.shell := change interaction.session.shell }

/-- Text that is no command output goes straight to standard output. -/
def Interaction.print (interaction : Interaction σ) (text : String) : Interaction σ :=
  interaction.mapShell fun shell => shell.emit (.wrote (encode text))

/-- The prompt is shown, and a line is read. -/
def Interaction.await (prompting : Bool) (fuel : Nat) (interaction : Interaction σ) :
    InputLine × Interaction σ :=
  let prompted := if prompting then interaction.print interaction.session.prompt else interaction
  let (input, pending, system) :=
    readInputLine fuel prompted.pending prompted.session.shell.system
  (input, { prompted with pending := pending, session.shell.system := system })

/-- Each line enters the history before it is evaluated. -/
def Interaction.loop (prompting : Bool) : Nat → Interaction σ → LoopEnd × Interaction σ
  | 0, interaction => (.finished, interaction)
  | fuel + 1, interaction =>
    match interaction.await prompting (fuel + 1) with
    | (.ended, after) => (.finished, after)
    | (.invalid, after) => (.invalidInput, after)
    | (.torn, after) => (.tornInput, after)
    | (.line text, after) =>
      let entered := { after with history := after.history.add text }
      match entered.session.evaluate text with
      | (.exit, session) => (.finished, { entered with session := session })
      | (.proceed, session) => Interaction.loop prompting fuel { entered with session := session }

/-- The history file, if history is wanted and the home directory is no root directory. -/
def historyFile (enabled : Bool) (settings : Settings) : Option Path × List LogRecord :=
  if enabled then
    match settings.historyPath with
    | some path => (some path, [])
    | none => (none, [⟨.warn, "home directory is /, history disabled"⟩])
  else
    (none, [])

/-- A history that cannot be read is empty. -/
def loadHistory (system : σ) (path : Option Path) : History × List LogRecord :=
  match path with
  | none => (.empty, [])
  | some file =>
    match OperatingSystem.fileText system file with
    | .ok text => (.ofFile text, [])
    | .error cause =>
      (.empty, [⟨.debug, "no history loaded from " ++ file.text ++ ": " ++ cause.message⟩])

/-- Only a history that changed is written. -/
def Interaction.saveHistory (interaction : Interaction σ) (path : Option Path) :
    Interaction σ :=
  match path with
  | none => interaction
  | some file =>
    if interaction.history.changed then
      let shell := interaction.session.shell
      match OperatingSystem.storeFile shell.system file interaction.history.toFile with
      | .ok system => { interaction with session.shell.system := system }
      | .error cause =>
        interaction.mapShell fun shell => shell.log .warn
          ("cannot save history to " ++ file.text ++ ": " ++ cause.message)
    else
      interaction

/-- The process moves to the home directory if it can. -/
def enterHome (settings : Settings) (system : σ) : σ × List LogRecord :=
  match OperatingSystem.changeDir system settings.home with
  | .ok moved => (moved, [])
  | .error cause =>
    (system, [⟨.warn, "cannot change to " ++ settings.home.text ++ ": " ++ cause.message⟩])

def Interaction.result (interaction : Interaction σ) (code : ExitCode) : ProgramResult σ :=
  ⟨code, interaction.session.shell.events, interaction.session.shell.system⟩

/-- The process enters the home directory before the session starts there, and the entries of the
history file are loaded. The file itself is returned for the end. -/
def Interaction.start (keepHistory : Bool) (pairs : List (String × String)) (system : σ) :
    Interaction σ × Option Path :=
  let settings := Settings.ofPairs pairs
  let (moved, homeEntries) := enterHome settings system
  let session := Session.start settings pairs moved {}
  let (path, fileEntries) := historyFile keepHistory settings
  let (history, loadEntries) := loadHistory moved path
  (⟨{ session with shell.events := homeEntries.map Event.logged ++ session.shell.events ++
      (fileEntries ++ loadEntries).map Event.logged }, history, []⟩, path)

/-- An interactive session from the home directory to the farewell. -/
def runInteractive (fuel : Nat) (keepHistory : Bool) (pairs : List (String × String))
    (system : σ) : ProgramResult σ :=
  let (started, path) := Interaction.start keepHistory pairs system
  match started.loop (showsPrompt pairs) fuel with
  | (.finished, interaction) => ((interaction.saveHistory path).print "bye!\n").result 0
  | (.invalidInput, interaction) =>
    (interaction.mapShell fun shell => shell.emit (.complained invalidInputText)).result 1
  | (.tornInput, interaction) =>
    (interaction.mapShell fun shell => shell.emit (.complained tornInputText)).result 101

/-- The arguments decide what the program does. Fuel bounds the number of lines. -/
def runProgram (fuel : Nat) (arguments : List String) (pairs : List (String × String))
    (system : σ) : ProgramResult σ :=
  match programGrammar.parse arguments with
  | .error .helpRequested => .ofOutput (programHelp ++ "\n") system
  | .error cause =>
    .ofError (cause.message programHelp ++ "\nRun " ++ programName ++
      " --help for more information.\n") system
  | .ok parsed =>
    if parsed.switches.contains .version then
      .ofOutput (programName ++ " - version " ++ programVersion ++ "\n") system
    else if parsed.words.isEmpty then
      runInteractive fuel (!parsed.switches.contains .noHistory) pairs system
    else
      .ofError ("Error: cannot run script files: " ++ String.intercalate " " parsed.words ++
        "\n") system

end ChainShell
