/-
This file holds the commands that the shell runs itself and their dispatch by name.
-/

import ChainShell.Launch
import ChainShell.Options
import ChainShell.Text.WhiteSpace

namespace ChainShell

/-- Every name that the dispatcher answers to, in the order of completion. -/
def builtinNames : List String :=
  ["cd", "chdir", "exit", "export", "setenv", "getenv", "builtin", "command", "echo", "logout",
    ":", ".", "source", "alias", "unalias"]

/-- The commands in the dispatch table. The word `builtin` is no entry of its own, it only
asks the table again. -/
inductive Builtin where
  | leave
  | changeDirectory
  | assignVariable
  | showVariable
  | runProgram
  | echo
  | doNothing
  /-- The scripting and alias names are reserved and accept everything. -/
  | reserved
  deriving DecidableEq, Repr

/-- The names that call a command. -/
def Builtin.names : Builtin → List String
  | .leave => ["exit", "logout"]
  | .changeDirectory => ["cd", "chdir"]
  | .assignVariable => ["export", "setenv"]
  | .showVariable => ["getenv"]
  | .runProgram => ["command"]
  | .echo => ["echo"]
  | .doNothing => [":"]
  | .reserved => [".", "source", "alias", "unalias"]

/-- The dispatch table is searched in this order. -/
def builtinTable : List Builtin :=
  [.leave, .changeDirectory, .assignVariable, .showVariable, .runProgram, .echo, .doNothing,
    .reserved]

/-- The first entry that owns the name answers. Names are compared exactly. -/
def findBuiltin (table : List Builtin) (name : String) : Option Builtin :=
  table.find? fun entry => entry.names.contains name

/-- A built-in that ran can fail for these causes. -/
inductive BuiltinError where
  | unreachable (path : Path) (cause : OsError)
  | noSuchVariable (name : String)
  | output (cause : WriteError)
  deriving DecidableEq, Repr

def BuiltinError.message : BuiltinError → String
  | .unreachable path cause => "cd: " ++ path.text ++ ": " ++ cause.message
  | .noSuchVariable name => "getenv: " ++ name ++ ": no such variable"
  | .output cause => cause.message

/-- An assignment has a name and a value around its first equals sign. Both are non-empty and
keep their limits. -/
def parseAssignment (argument : String) : Option (String × String) :=
  match argument.toList.span (· != '=') with
  | (name, _ :: value) =>
    if name ≠ [] ∧ value ≠ [] ∧ (String.ofList name).utf8ByteSize ≤ maxVariableNameBytes ∧
        (String.ofList value).utf8ByteSize ≤ maxVariableValueBytes then
      some (String.ofList name, String.ofList value)
    else
      none
  | (_, []) => none

/-- The only switch of `command` asks for the standard search path. -/
inductive CommandSwitch where
  | standardPath
  deriving DecidableEq, Repr

def commandGrammar : OptionGrammar CommandSwitch where
  switch? argument :=
    if argument = "-p" ∨ argument = "--standard-path" then some .standardPath else none
  greedy := true

def commandHelp : String :=
  "Usage: command [-p] [argv...]\n\nRun a program, bypassing shell built-ins.\n\nOptions:\n" ++
  "  -p, --standard-path\n" ++
  "                    search a standard PATH that is guaranteed to find the\n" ++
  "                    standard utilities.\n" ++
  "  --help, help      display usage information\n"

/-- A program to run and the choice of its search path. -/
structure ProgramCall where
  standardPath : Bool
  argv : List String
  deriving DecidableEq, Repr

/-- A call needs a program. Reading that stopped early leaves a text for the log. -/
def parseProgramCall (arguments : List String) : Except (Option String) ProgramCall :=
  match commandGrammar.parse arguments with
  | .ok parsed =>
    if parsed.words.isEmpty then
      .error none
    else
      .ok ⟨parsed.switches.contains .standardPath, parsed.words⟩
  | .error cause =>
    .error (some (String.ofList (trimEnd (cause.message commandHelp).toList)))

/-- The environment in which a called program is searched and run. -/
def ProgramCall.environment (call : ProgramCall) (environment : Environment) : Environment :=
  if call.standardPath then environment.assign "PATH" standardSearchPath else environment

/-- The environment behind a call, from the one in which the program ran. The search path is set
back to its value in front of the call. -/
def ProgramCall.restore (call : ProgramCall) (before during : Environment) : Environment :=
  if call.standardPath then during.restore "PATH" (before.vars.get? "PATH") else during

/-- A call leaves no trace in the environment. -/
@[simp] theorem ProgramCall.restore_environment (call : ProgramCall) (environment : Environment) :
    call.restore environment (call.environment environment) = environment := by
  unfold ProgramCall.restore ProgramCall.environment
  split
  · exact environment.restore_assign "PATH" standardSearchPath
  · rfl

/-- A leading `-e` suppresses the newline and is not written. The newline is a piece of its own. -/
def echoPieces : List String → List String
  | "-e" :: arguments => [String.intercalate " " arguments]
  | arguments => [String.intercalate " " arguments, "\n"]

/-- The directory that `cd` names. Without a target it is the home directory. -/
def cdTarget (environment : Environment) (target : Option String) : Path :=
  match target with
  | some text => if text.isEmpty then environment.currentDir.join environment.homeDir
      else environment.currentDir.join ⟨text⟩
  | none => environment.currentDir.join environment.homeDir

variable {σ : Type} [OperatingSystem σ]

/-- The process directory and the tracked directory change together or not at all. -/
def Shell.changeDirectory (shell : Shell σ) (target : Option String) :
    Except BuiltinError (Shell σ) :=
  let path := cdTarget shell.environment target
  match OperatingSystem.canonicalize shell.system path with
  | .error cause => .error (.unreachable path cause)
  | .ok canonical =>
    match OperatingSystem.changeDir shell.system canonical with
    | .error cause => .error (.unreachable canonical cause)
    | .ok system =>
      .ok { shell with
        system := system
        environment := { shell.environment with currentDir := canonical } }

/-- A failure is reported on standard error and has the code one. -/
def Shell.failBuiltin (shell : Shell σ) (error : BuiltinError) : Outcome × Shell σ :=
  (.failure 1, shell.complain error.message)

/-- The pieces are written as a whole or the command fails. -/
def Shell.printPieces (shell : Shell σ) (pieces : List String) : Outcome × Shell σ :=
  match shell.write pieces with
  | (none, after) => (.success, after)
  | (some cause, after) => after.failBuiltin (.output cause)

/-- The pieces are written and then flushed. -/
def Shell.printFlushed (shell : Shell σ) (pieces : List String) : Outcome × Shell σ :=
  match shell.write pieces with
  | (some cause, after) => after.failBuiltin (.output cause)
  | (none, after) =>
    match after.flushError with
    | none => (.success, after)
    | some cause => after.failBuiltin (.output cause)

/-- The search path is changed for the program and set back before the result is looked at. -/
def Shell.callProgram (shell : Shell σ) (call : ProgramCall) : Outcome × Shell σ :=
  let entered := { shell with environment := call.environment shell.environment }
  let (result, left) := launch entered.environment call.argv entered
  let after := { left with environment := call.restore shell.environment left.environment }
  match result with
  | .ok code => (.ofCode code, after)
  | .error error => (.processError, after.reportLaunchError error)

/-- One entry of the table runs on the words behind its name. -/
def Builtin.invoke (entry : Builtin) (arguments : List String) (shell : Shell σ) :
    Outcome × Shell σ :=
  match entry with
  | .leave => if arguments.isEmpty then (.terminate, shell) else (.arityError, shell)
  | .changeDirectory =>
    match arguments with
    | _ :: _ :: _ => (.arityError, shell)
    | _ =>
      match shell.changeDirectory arguments.head? with
      | .ok after => (.success, after)
      | .error error => shell.failBuiltin error
  | .assignVariable =>
    match arguments with
    | [argument] =>
      match parseAssignment argument with
      | none => (.arityError, shell)
      | some (name, value) =>
        let logged := shell.log .debug ("export " ++ name ++ "=" ++ value)
        (.success, { logged with environment := logged.environment.assign name value })
    | _ => (.arityError, shell)
  | .showVariable =>
    match arguments with
    | [name] =>
      match shell.environment.vars.get? name with
      | none => shell.failBuiltin (.noSuchVariable name)
      | some value => shell.printPieces [value, "\n"]
    | _ => (.arityError, shell)
  | .runProgram =>
    match parseProgramCall arguments with
    | .ok call => shell.callProgram call
    | .error none => (.arityError, shell)
    | .error (some text) => (.arityError, shell.log .debug ("command: " ++ text))
  | .echo => shell.printFlushed (echoPieces arguments)
  | .doNothing => (.success, shell)
  | .reserved => (.success, shell.log .debug "scripting built-in ignored")

/-- The first word selects the entry. The word `builtin` dispatches the words behind it and
turns a name without an entry into a failure. -/
def dispatch : List String → Shell σ → Outcome × Shell σ
  | [], shell => (.success, shell)
  | name :: arguments, shell =>
    if name = "builtin" then
      match arguments with
      | [] => (.arityError, shell)
      | inner :: rest =>
        match dispatch (inner :: rest) shell with
        | (.runExternal, after) =>
          (.failure 1, after.complain ("builtin: " ++ inner ++ ": not a shell builtin"))
        | result => result
    else
      match findBuiltin builtinTable name with
      | none => (.runExternal, shell)
      | some entry => entry.invoke arguments shell

theorem dispatch_builtin (inner : String) (rest : List String) (shell : Shell σ) :
    dispatch ("builtin" :: inner :: rest) shell =
      match dispatch (inner :: rest) shell with
      | (.runExternal, after) =>
        (.failure 1, after.complain ("builtin: " ++ inner ++ ": not a shell builtin"))
      | result => result := by
  rw [dispatch.eq_def]
  rfl

theorem dispatch_name {name : String} (other : name ≠ "builtin") (arguments : List String)
    (shell : Shell σ) :
    dispatch (name :: arguments) shell =
      match findBuiltin builtinTable name with
      | none => (.runExternal, shell)
      | some entry => entry.invoke arguments shell := by
  rw [dispatch.eq_def]
  exact if_neg other

end ChainShell
