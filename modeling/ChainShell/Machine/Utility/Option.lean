/-
This file reads the options of utilities.
-/

import ChainShell.Machine.Utility.Report

namespace ChainShell

/-- Whether an option has an argument. -/
inductive ArgumentNeed where
  | none
  | optional
  | required
  deriving DecidableEq, Repr

/-- What an option stands for. -/
structure OptionMeaning (α : Type) where
  meaning : α
  argument : ArgumentNeed := .none
  deriving DecidableEq

/-- The options that a utility knows, by letter and by name. -/
structure OptionTable (α : Type) where
  letters : List (Char × OptionMeaning α)
  names : List (String × OptionMeaning α)

/-- An option as it was given. -/
structure GivenOption (α : Type) where
  meaning : α
  argument : Option Octets := none
  /-- The last word that belongs to the option. -/
  word : Octets

/-- The options up to the first fault, and all operands. -/
structure OptionsGiven (α : Type) where
  options : List (GivenOption α) := []
  operands : List Octets := []
  fault : Option Octets := none

variable {α : Type}

def OptionsGiven.add (given : OptionsGiven α) (option : GivenOption α) : OptionsGiven α :=
  { given with options := given.options ++ [option] }

def OptionsGiven.refuse (given : OptionsGiven α) (message : Octets) : OptionsGiven α :=
  { given with fault := some message }

/-- The letters of one word. A letter with an argument takes the rest of the word, or the next
word if it has to. The words that are left come with the answer. -/
def OptionTable.readLetters (table : OptionTable α) (given : OptionsGiven α) (word : Octets)
    (following : List Octets) : List Char → OptionsGiven α × List Octets
  | [] => (given, following)
  | letter :: rest =>
    match table.letters.lookup letter with
    | none => (given.refuse ("invalid option -- '" ++ String.singleton letter ++ "'"), following)
    | some ⟨meaning, .none⟩ =>
      table.readLetters (given.add ⟨meaning, none, word⟩) word following rest
    | some ⟨meaning, argument⟩ =>
      if !rest.isEmpty then
        (given.add ⟨meaning, some (String.ofList rest), word⟩, following)
      else if argument = .optional then
        (given.add ⟨meaning, none, word⟩, following)
      else
        match following with
        | [] =>
          (given.refuse ("option requires an argument -- '" ++ String.singleton letter ++ "'"),
            following)
        | next :: others => (given.add ⟨meaning, some next, next⟩, others)

/-- The option with a name. The name may be cut short as long as one meaning is left. -/
def OptionTable.named [DecidableEq α] (table : OptionTable α) (name text : String) :
    Except Octets (String × OptionMeaning α) :=
  match table.names.find? fun entry => entry.1 = name with
  | some entry => .ok entry
  | none =>
    match table.names.filter fun entry => entry.1.startsWith name with
    | [] => .error ("unrecognized option '--" ++ text ++ "'")
    | first :: others =>
      let rivals := others.filter fun entry => entry.2 ≠ first.2
      if rivals.isEmpty then .ok first
      else
        .error ("option '--" ++ text ++ "' is ambiguous; possibilities:" ++
          String.join ((first :: rivals).map fun entry => " '--" ++ entry.1 ++ "'"))

/-- An option by name. Its argument stands behind an equals sign, or in the next word if it must
be there. -/
def OptionTable.readName [DecidableEq α] (table : OptionTable α) (given : OptionsGiven α)
    (word : Octets) (following : List Octets) : OptionsGiven α × List Octets :=
  let text := word.toList.drop 2
  let name := text.takeWhile (· != '=')
  let value := text.drop name.length
  match table.named (String.ofList name) (String.ofList text) with
  | .error message => (given.refuse message, following)
  | .ok (known, ⟨meaning, argument⟩) =>
    if !value.isEmpty then
      if argument = .none then
        (given.refuse ("option '--" ++ known ++ "' doesn't allow an argument"), following)
      else
        (given.add ⟨meaning, some (String.ofList (value.drop 1)), word⟩, following)
    else if argument = .required then
      match following with
      | [] => (given.refuse ("option '--" ++ known ++ "' requires an argument"), following)
      | next :: others => (given.add ⟨meaning, some next, next⟩, others)
    else
      (given.add ⟨meaning, none, word⟩, following)

/-- Options and operands may be mixed, unless the first operand is to end the options. A double
dash ends them in any case. -/
def OptionTable.read [DecidableEq α] (table : OptionTable α) (isStrict : Bool) :
    Nat → OptionsGiven α → List Octets → OptionsGiven α
  | 0, given, _ => given
  | _ + 1, given, [] => given
  | fuel + 1, given, word :: rest =>
    match word.toList with
    | ['-', '-'] => { given with operands := given.operands ++ rest }
    | '-' :: letter :: letters =>
      let (after, left) :=
        if letter == '-' then table.readName given word rest
        else table.readLetters given word rest (letter :: letters)
      if after.fault.isSome then after else table.read isStrict fuel after left
    | _ =>
      if isStrict then { given with operands := given.operands ++ word :: rest }
      else table.read isStrict fuel { given with operands := given.operands ++ [word] } rest

/-- The options take effect one after the other, up to a fault. -/
def withOptions {β : Type} [DecidableEq α] (table : OptionTable α) (arguments : List Octets)
    (start : β) (apply : β → GivenOption α → UtilityM β) : UtilityM (β × List Octets) := do
  let given := table.read (← followsStandard) (arguments.length + 1) {} arguments
  let result ← given.options.foldlM apply start
  match given.fault with
  | some message => misuse message
  | none => return (result, given.operands)

end ChainShell
