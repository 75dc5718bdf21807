/-
This file matches texts against patterns.
-/

import ChainShell.Text.Octets

namespace ChainShell

/-- A character of an expanded word. A quoted one has no special meaning. -/
structure WordChar where
  char : Char
  isQuoted : Bool
  deriving DecidableEq, Repr

abbrev Field := List WordChar

def Field.ofText (isQuoted : Bool) (text : List Char) : Field :=
  text.map fun char => ⟨char, isQuoted⟩

def Field.text (field : Field) : Octets :=
  String.ofList (field.map WordChar.char)

inductive SetMember where
  | range (first last : Char)
  | named (name : String)
  deriving DecidableEq, Repr

inductive PatternItem where
  | exact (char : Char)
  | one
  | many
  | set (isNegated : Bool) (members : List SetMember)
  deriving DecidableEq, Repr

def isPunctuation (char : Char) : Bool :=
  0x20 < char.toNat && char.toNat < 0x7F && !char.isAlphanum

/-- The classes of characters that have a name. -/
def namedClassTest? (name : String) : Option (Char → Bool) :=
  match name with
  | "alnum" => some Char.isAlphanum
  | "alpha" => some Char.isAlpha
  | "blank" => some fun char => char == ' ' || char == '\t'
  | "cntrl" => some fun char => char.toNat < 0x20 || char.toNat == 0x7F
  | "digit" => some Char.isDigit
  | "graph" => some fun char => 0x20 < char.toNat && char.toNat < 0x7F
  | "lower" => some Char.isLower
  | "print" => some fun char => 0x20 ≤ char.toNat && char.toNat < 0x7F
  | "punct" => some isPunctuation
  | "space" => some fun char => char == ' ' || (0x09 ≤ char.toNat && char.toNat ≤ 0x0D)
  | "upper" => some Char.isUpper
  | "xdigit" => some fun char =>
    char.isDigit || ('a' ≤ char && char ≤ 'f') || ('A' ≤ char && char ≤ 'F')
  | _ => none

/-- The order of bytes in a range. Bytes with the eighth bit come before all others. -/
def byteRank (char : Char) : Nat :=
  (char.toNat + 0x80) % 0x100

def SetMember.contains (member : SetMember) (char : Char) : Bool :=
  match member with
  | .range first last => byteRank first ≤ byteRank char && byteRank char ≤ byteRank last
  | .named name => (namedClassTest? name).any fun test => test char

def PatternItem.accepts (item : PatternItem) (char : Char) : Bool :=
  match item with
  | .exact expected => char == expected
  | .one => true
  | .many => true
  | .set isNegated members => (members.any fun member => member.contains char) != isNegated

/-- The name of a class up to a colon and a bracket. A name that is not known means nothing. -/
def namedClass? : Field → Option (String × Field)
  | ⟨'[', false⟩ :: ⟨':', false⟩ :: rest =>
    let name := rest.takeWhile fun item => item.char.isAlpha
    match rest.drop name.length with
    | ⟨':', false⟩ :: ⟨']', false⟩ :: following =>
      if (namedClassTest? (Field.text name)).isSome then some (Field.text name, following)
      else none
    | _ => none
  | _ => none

/-- The members of a set up to its closing bracket. The first member may be a bracket itself. -/
def setMembers : Nat → Bool → Field → Option (List SetMember × Field)
  | 0, _, _ => none
  | _ + 1, _, [] => none
  | fuel + 1, isFirst, ⟨char, isQuoted⟩ :: rest =>
    if char == ']' && !isQuoted && !isFirst then
      some ([], rest)
    else
      match namedClass? (⟨char, isQuoted⟩ :: rest) with
      | some (name, following) =>
        (setMembers fuel false following).map fun (members, after) =>
          (.named name :: members, after)
      | none =>
        match rest with
        | ⟨'-', false⟩ :: ⟨last, lastQuoted⟩ :: following =>
          if last == ']' && !lastQuoted then
            (setMembers fuel false rest).map fun (members, after) =>
              (.range char char :: members, after)
          else
            (setMembers fuel false following).map fun (members, after) =>
              (.range char last :: members, after)
        | _ =>
          (setMembers fuel false rest).map fun (members, after) =>
            (.range char char :: members, after)

/-- An unquoted bracket without a closing one means itself. -/
def patternItems : Nat → Field → List PatternItem
  | 0, _ => []
  | _ + 1, [] => []
  | fuel + 1, ⟨char, isQuoted⟩ :: rest =>
    if isQuoted then .exact char :: patternItems fuel rest
    else
      match char with
      | '*' => .many :: patternItems fuel rest
      | '?' => .one :: patternItems fuel rest
      | '[' =>
        let (isNegated, body) :=
          match rest with
          | ⟨'!', false⟩ :: following => (true, following)
          | _ => (false, rest)
        match setMembers (body.length + 1) true body with
        | some (members, following) => .set isNegated members :: patternItems fuel following
        | none => .exact '[' :: patternItems fuel rest
      | _ => .exact char :: patternItems fuel rest

abbrev TextPattern := List PatternItem

/-- Quotes keep their mark only on these characters. -/
def isMarkedInQuotes (char : Char) : Bool :=
  ['!', '*', '?', '[', '=', '~', ':', '/', '-', ']'].contains char

/-- An unquoted backslash comes from a value and protects the character behind it. In front of a
mark of quoting it protects the mark, so that the backslash stays and the quoting is lost. -/
def Field.withoutEscapes : Field → Field
  | [] => []
  | ⟨'\\', false⟩ :: ⟨char, isQuoted⟩ :: rest =>
    if isQuoted && isMarkedInQuotes char then
      ⟨'\\', true⟩ :: ⟨char, false⟩ :: Field.withoutEscapes rest
    else
      ⟨char, true⟩ :: Field.withoutEscapes rest
  | item :: rest => item :: Field.withoutEscapes rest

def Field.pattern (field : Field) : TextPattern :=
  patternItems (field.length + 1) field.withoutEscapes

/-- What may be left of a pattern before the next character. A star can match nothing more. -/
def TextPattern.starts : TextPattern → List TextPattern
  | .many :: items => (.many :: items) :: TextPattern.starts items
  | pattern => [pattern]

/-- What may be left of a pattern behind a character. A star can match more. -/
def TextPattern.following (char : Char) : TextPattern → List TextPattern
  | [] => []
  | .many :: items => TextPattern.starts (.many :: items)
  | item :: items => if item.accepts char then TextPattern.starts items else []

/-- All that is left is an end of one pattern, so its length tells it apart. -/
def nextPatterns (patterns : List TextPattern) (char : Char) : List TextPattern :=
  (patterns.flatMap (TextPattern.following char)).eraseDupsBy fun left right =>
    left.length == right.length

/-- The whole text must match. -/
def TextPattern.matches (pattern : TextPattern) (text : List Char) : Bool :=
  (text.foldl nextPatterns pattern.starts).any List.isEmpty

/-- The lengths of the parts at the start of a text that match, the longest first. The count is
the length of what was read before. -/
def matchLengths : List TextPattern → Nat → List Nat → List Char → List Nat
  | patterns, count, found, text =>
    let known := if patterns.any List.isEmpty then count :: found else found
    match text with
    | [] => known
    | char :: rest => matchLengths (nextPatterns patterns char) (count + 1) known rest

/-- Some character of the field asks for a pattern. -/
def Field.isPattern (field : Field) : Bool :=
  field.withoutEscapes.any fun item => !item.isQuoted && ['*', '?', '['].contains item.char

/-- The text without the part that a pattern takes off at its start, the shortest or the
longest. -/
def TextPattern.trimStart? (pattern : TextPattern) (isLongest : Bool) (text : List Char) :
    Option (List Char) :=
  let lengths := matchLengths pattern.starts 0 [] text
  (if isLongest then lengths.head? else lengths.getLast?).map text.drop

/-- At the end of a text the pattern is read backwards. -/
def TextPattern.trim? (pattern : TextPattern) (atEnd isLongest : Bool) (text : List Char) :
    Option (List Char) :=
  if atEnd then (TextPattern.trimStart? pattern.reverse isLongest text.reverse).map List.reverse
  else pattern.trimStart? isLongest text

end ChainShell
