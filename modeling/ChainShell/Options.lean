/-
This file reads switches and positional words from an argument list.
-/

namespace ChainShell

/-- A command line knows some switches. A greedy one takes no switch behind its first
positional word. -/
structure OptionGrammar (ι : Type) where
  switch? : String → Option ι
  greedy : Bool

/-- The switches and the positional words that were given, in order. -/
structure ParsedOptions (ι : Type) where
  switches : List ι
  words : List String
  deriving DecidableEq, Repr

/-- Reading stops early for one of these causes. -/
inductive OptionError where
  | unrecognized (argument : String)
  | argumentAfterHelp
  | helpRequested
  deriving DecidableEq, Repr

/-- These words ask for help. -/
def isHelpWord (argument : String) : Bool :=
  argument == "--help" || argument == "help"

def startsWithDash (argument : String) : Bool :=
  argument.toList.head? == some '-'

/-- Arguments are read from left to right. A help word and a double dash count until the
options have ended. -/
def OptionGrammar.parseFrom {ι : Type} (grammar : OptionGrammar ι) :
    Bool → Bool → ParsedOptions ι → List String → Except OptionError (ParsedOptions ι)
  | helpAsked, _, parsed, [] => if helpAsked then .error .helpRequested else .ok parsed
  | helpAsked, true, parsed, argument :: rest =>
    grammar.parseFrom helpAsked true { parsed with words := parsed.words ++ [argument] } rest
  | helpAsked, false, parsed, argument :: rest =>
    if isHelpWord argument then
      grammar.parseFrom true false parsed rest
    else if argument = "--" then
      grammar.parseFrom helpAsked true parsed rest
    else if startsWithDash argument then
      if helpAsked then
        .error .argumentAfterHelp
      else
        match grammar.switch? argument with
        | none => .error (.unrecognized argument)
        | some switch =>
          grammar.parseFrom helpAsked false
            { parsed with switches := parsed.switches ++ [switch] } rest
    else
      grammar.parseFrom helpAsked grammar.greedy
        { parsed with words := parsed.words ++ [argument] } rest

/-- Behind the options every argument is a word. -/
theorem OptionGrammar.parseFrom_words {ι : Type} (grammar : OptionGrammar ι)
    (parsed : ParsedOptions ι) (arguments : List String) :
    grammar.parseFrom false true parsed arguments =
      .ok { parsed with words := parsed.words ++ arguments } := by
  induction arguments generalizing parsed with
  | nil => simp [OptionGrammar.parseFrom]
  | cons argument arguments inductionHypothesis =>
      rw [OptionGrammar.parseFrom, inductionHypothesis]
      simp

def OptionGrammar.parse {ι : Type} (grammar : OptionGrammar ι) (arguments : List String) :
    Except OptionError (ParsedOptions ι) :=
  grammar.parseFrom false false ⟨[], []⟩ arguments

/-- The text of the error, given the text that answers a request for help. -/
def OptionError.message (helpText : String) : OptionError → String
  | .unrecognized argument => "Unrecognized argument: " ++ argument ++ "\n"
  | .argumentAfterHelp => "Trailing arguments are not allowed after \x60help\x60."
  | .helpRequested => helpText

end ChainShell
