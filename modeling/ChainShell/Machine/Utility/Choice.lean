/-
This file reads words that must be chosen from a list.
-/

import ChainShell.Machine.Utility.Report

namespace ChainShell

/-- The words to choose from, with their meanings. Words of one meaning stand together. -/
abbrev Choices (α : Type) := List (String × α)

inductive ChoiceFault where
  | unknown
  | ambiguous
  deriving DecidableEq, Repr

/-- A word may be cut short as long as one meaning is left. -/
def choose {α : Type} [DecidableEq α] (choices : Choices α) (word : Octets) :
    Except ChoiceFault α :=
  match choices.lookup word with
  | some meaning => .ok meaning
  | none =>
    match (choices.filter fun choice => choice.1.startsWith word).map Prod.snd with
    | [] => .error .unknown
    | meaning :: others =>
      if others.all (· = meaning) then .ok meaning else .error .ambiguous

/-- One line for each meaning. -/
def choiceLines {α : Type} [DecidableEq α] : Option α → Choices α → Octets
  | _, [] => ""
  | last, (word, meaning) :: rest =>
    (if last = some meaning then ", " else "\n  - ") ++ quoteWord word ++
      choiceLines (some meaning) rest

/-- A word that cannot be chosen ends the utility. -/
def chosen {α : Type} [DecidableEq α] (context : Octets) (choices : Choices α) (word : Octets) :
    UtilityM α := do
  match choose choices word with
  | .ok meaning => return meaning
  | .error fault =>
    let kind := if fault = .unknown then "invalid" else "ambiguous"
    complainOf (kind ++ " argument " ++ quoteWord word ++ " for " ++ quoteWord context)
    tell ("Valid arguments are:" ++ choiceLines none choices ++ "\n")
    pointToHelp

end ChainShell
