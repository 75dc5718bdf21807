/-
This file finds the next option among the parameters of a script.
-/

import ChainShell.Text.Octets

namespace ChainShell

/-- The place where the next option is looked for. Words are counted from one on. -/
structure OptionPlace where
  word : Nat := 1
  /-- The letters of the word in front that were already read, while some are left. -/
  offset : Option Nat := none
  deriving DecidableEq, Repr

/-- What becomes of the argument of an option. -/
inductive OptionArgument where
  | kept
  | removed
  | given (text : Octets)
  deriving DecidableEq, Repr

/-- The option that was found. -/
structure ParameterOption where
  letter : Char
  argument : OptionArgument
  message : Option Octets := none
  place : OptionPlace
  isDone : Bool := false

/-- The description of the options behind a letter. A colon belongs to the letter in front. -/
def behindLetter? (letter : Char) : List Char → Option (List Char)
  | [] => none
  | first :: ':' :: rest =>
    if first == letter then some (':' :: rest) else behindLetter? letter rest
  | first :: rest => if first == letter then some rest else behindLetter? letter rest

/-- A colon in front of the description asks for silence. -/
def isSilent (description : List Char) : Bool :=
  description.head? = some ':'

/-- The letters of an option group that are left to read, and the word behind the group. -/
inductive OptionGroup where
  | finished (next : Nat)
  | letters (letter : Char) (rest : List Char) (next : Nat)

/-- The rest of the current word, or the next word if it starts with a dash. -/
def optionGroup (words : List Octets) (place : OptionPlace) : OptionGroup :=
  let before := (words[place.word - 2]?.getD "").toList
  let left :=
    match place.offset with
    | some offset => if 1 < place.word then before.drop offset else []
    | none => []
  match left with
  | letter :: rest => .letters letter rest (place.word - 1)
  | [] =>
    match (words[place.word - 1]?.getD "").toList with
    | ['-', '-'] => .finished place.word
    | '-' :: letter :: rest => .letters letter rest place.word
    | _ => .finished (place.word - 1)

/-- The next option among the words. -/
def nextOption (description : List Char) (words : List Octets) (place : OptionPlace) :
    ParameterOption :=
  match optionGroup words place with
  | .finished next => ⟨'?', .kept, none, ⟨next + 1, none⟩, true⟩
  | .letters letter rest next =>
    let length := (words[next - 1]?.getD "").length
    let inWord : OptionPlace := ⟨next + 1, some (length - rest.length)⟩
    let name := String.singleton letter
    let refuse (silent : Char) (message : Octets) (after : OptionPlace) : ParameterOption :=
      if isSilent description then ⟨silent, .given name, none, after, false⟩
      else ⟨'?', .removed, some message, after, false⟩
    match behindLetter? letter description with
    | none => refuse '?' ("Illegal option -" ++ name) inWord
    | some (':' :: _) =>
      if !rest.isEmpty then
        ⟨letter, .given (String.ofList rest), none, ⟨next + 1, none⟩, false⟩
      else
        match words[next]? with
        | some word => ⟨letter, .given word, none, ⟨next + 2, none⟩, false⟩
        | none => refuse ':' ("No arg for -" ++ name ++ " option") ⟨next + 1, none⟩
    | some _ => ⟨letter, .given "", none, inWord, false⟩

end ChainShell
