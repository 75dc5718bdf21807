/-
This file holds the options of scripts and reads them from arguments.
-/

import ChainShell.Text.Octets

namespace ChainShell

/-- The options that a script can set, in the order in which they are listed. -/
inductive ScriptOption where
  | errexit
  | noglob
  | ignoreeof
  | interactive
  | monitor
  | noexec
  | stdin
  | xtrace
  | verbose
  | vi
  | emacs
  | noclobber
  | allexport
  | notify
  | nounset
  | privileged
  | nolog
  | debug
  deriving DecidableEq, Repr

namespace ScriptOption

def all : List ScriptOption :=
  [.errexit, .noglob, .ignoreeof, .interactive, .monitor, .noexec, .stdin, .xtrace, .verbose, .vi,
    .emacs, .noclobber, .allexport, .notify, .nounset, .privileged, .nolog, .debug]

def name : ScriptOption → String
  | errexit => "errexit"
  | noglob => "noglob"
  | ignoreeof => "ignoreeof"
  | interactive => "interactive"
  | monitor => "monitor"
  | noexec => "noexec"
  | stdin => "stdin"
  | xtrace => "xtrace"
  | verbose => "verbose"
  | vi => "vi"
  | emacs => "emacs"
  | noclobber => "noclobber"
  | allexport => "allexport"
  | notify => "notify"
  | nounset => "nounset"
  | privileged => "privileged"
  | nolog => "nolog"
  | debug => "debug"

/-- The last two options have no letter. -/
def letter? : ScriptOption → Option Char
  | errexit => some 'e'
  | noglob => some 'f'
  | ignoreeof => some 'I'
  | interactive => some 'i'
  | monitor => some 'm'
  | noexec => some 'n'
  | stdin => some 's'
  | xtrace => some 'x'
  | verbose => some 'v'
  | vi => some 'V'
  | emacs => some 'E'
  | noclobber => some 'C'
  | allexport => some 'a'
  | notify => some 'b'
  | nounset => some 'u'
  | privileged => some 'p'
  | nolog => none
  | debug => none

def ofLetter? (letter : Char) : Option ScriptOption :=
  all.find? fun option => option.letter? = some letter

def ofName? (name : String) : Option ScriptOption :=
  all.find? fun option => option.name = name

end ScriptOption

abbrev ScriptOptions := List ScriptOption

namespace ScriptOptions

/-- An option is set or cleared. -/
def switch (options : ScriptOptions) (option : ScriptOption) (isSet : Bool) : ScriptOptions :=
  let others := options.filter (· ≠ option)
  if isSet then option :: others else others

/-- Of the two ways to edit a line, the letter of one takes the other away. -/
def switchLetter (options : ScriptOptions) (option : ScriptOption) (isSet : Bool) :
    ScriptOptions :=
  let changed := options.switch option isSet
  match option, isSet with
  | .vi, true => changed.switch .emacs false
  | .emacs, true => changed.switch .vi false
  | _, _ => changed

/-- The letters of the options that are set, the last option first. -/
def letters (options : ScriptOptions) : String :=
  String.ofList ((ScriptOption.all.reverse.filter options.contains).filterMap
    ScriptOption.letter?)

/-- A listing shows each option as a line, or as a command that sets or clears it again. -/
def listing (options : ScriptOptions) (asCommands : Bool) : String :=
  let line (option : ScriptOption) : String :=
    let isSet := options.contains option
    if asCommands then
      "set " ++ (if isSet then "-o " else "+o ") ++ option.name ++ "\n"
    else
      option.name ++ String.ofList (List.replicate (16 - option.name.length) ' ') ++
        (if isSet then "on" else "off") ++ "\n"
  (if asCommands then "" else "Current option settings\n") ++
    String.join (ScriptOption.all.map line)

end ScriptOptions

/-- The answer of reading the options of a script. -/
structure OptionsRead where
  options : ScriptOptions
  words : List Octets
  /-- The options that were cleared. At a start all others count as set in a listing. -/
  cleared : ScriptOptions := []
  /-- The command comes from the next word. -/
  hasCommand : Bool := false
  /-- The parameters are replaced even if no word follows. -/
  isEnded : Bool := false
  /-- The listings that were asked for. -/
  listings : Octets := ""
  fault : Option Octets := none

namespace OptionsRead

def apply (state : OptionsRead) (options : ScriptOptions) (option : ScriptOption)
    (isSet : Bool) : OptionsRead :=
  { state with
    options := options
    cleared := if isSet then state.cleared else option :: state.cleared }

/-- The options that a listing shows as set. -/
def shown (state : OptionsRead) (isStart : Bool) : ScriptOptions :=
  if isStart then ScriptOption.all.filter fun option => !state.cleared.contains option
  else state.options

/-- Letters behind a sign. Only a new script may be given as a command. A long name is asked for
by its own letter, and without a name the options are listed. -/
def readLetters (isStart isSet : Bool) (state : OptionsRead) : List Char → OptionsRead
  | [] => state
  | 'o' :: rest =>
    match state.words with
    | [] =>
      readLetters isStart isSet { state with
        listings := state.listings ++ (state.shown isStart).listing (!isSet) } rest
    | name :: others =>
      match ScriptOption.ofName? name with
      | some option =>
        let named := { state with words := others }
        readLetters isStart isSet
          (named.apply (named.options.switch option isSet) option isSet) rest
      | none => { state with fault := some ("Illegal option -o " ++ name) }
  | letter :: rest =>
    if isStart && letter == 'c' then
      readLetters isStart isSet { state with hasCommand := true } rest
    else if isStart && letter == 'l' then
      readLetters isStart isSet state rest
    else
      match ScriptOption.ofLetter? letter with
      | some option =>
        readLetters isStart isSet
          (state.apply (state.options.switchLetter option isSet) option isSet) rest
      | none =>
        { state with fault := some ("Illegal option -" ++ String.singleton letter) }

/-- Options start with a dash or a plus sign. One or two dashes alone end them. -/
def read (isStart : Bool) : Nat → OptionsRead → OptionsRead
  | 0, state => state
  | fuel + 1, state =>
    if state.fault.isSome then state
    else
      match state.words with
      | [] => state
      | word :: rest =>
        match word.toList with
        | ['-'] =>
          let cleared := (state.options.switch .xtrace false).switch .verbose false
          { state with words := rest, options := if isStart then state.options else cleared }
        | ['-', '-'] => { state with words := rest, isEnded := true }
        | '-' :: letters =>
          read isStart fuel (readLetters isStart true { state with words := rest } letters)
        | '+' :: letters =>
          read isStart fuel (readLetters isStart false { state with words := rest } letters)
        | _ => state

end OptionsRead

end ChainShell
