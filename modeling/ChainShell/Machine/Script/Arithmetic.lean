/-
This file evaluates the integer expressions of scripts.
-/

import ChainShell.Machine.Script.Number
import ChainShell.Machine.Script.Token

namespace ChainShell

inductive ArithmeticToken where
  | number (value : Int)
  | symbol (name : String)
  | operator (text : String)
  | unknown
  deriving DecidableEq, Repr

/-- The operators, longer ones first. -/
def arithmeticOperators : List String :=
  ["<<=", ">>=", "<<", ">>", "<=", ">=", "==", "!=", "&&", "||", "*=", "/=", "%=", "+=", "-=",
    "&=", "^=", "|=", "(", ")", "*", "/", "%", "+", "-", "<", ">", "=", "&", "^", "|", "!", "~",
    "?", ":"]

def arithmeticOperator? (text : List Char) : Option String :=
  arithmeticOperators.find? fun operator => operator.toList.isPrefixOf text

/-- A character that starts no token ends the tokens. -/
def arithmeticTokens : Nat → List Char → List ArithmeticToken
  | 0, _ => []
  | _ + 1, [] => []
  | fuel + 1, char :: rest =>
    if char == ' ' || char == '\t' || char == '\n' then
      arithmeticTokens fuel rest
    else if char.isDigit then
      match scanInteger true (char :: rest) with
      | some scanned => .number scanned.value :: arithmeticTokens fuel scanned.rest
      | none => [.unknown]
    else if isNameStart char then
      .symbol (String.ofList ((char :: rest).takeWhile isNameChar)) ::
        arithmeticTokens fuel ((char :: rest).dropWhile isNameChar)
    else
      match arithmeticOperator? (char :: rest) with
      | some operator =>
        .operator operator :: arithmeticTokens fuel ((char :: rest).drop operator.length)
      | none => [.unknown]

/-- The names that the expression has given a value, the latest first. -/
structure ArithmeticState where
  tokens : List ArithmeticToken
  assigned : List (String × Int)

/-- An expression is faulty, or its value is too large for the division that asks for it. -/
inductive ArithmeticFault where
  | message (text : Octets)
  | overflow

/-- What was assigned before a fault stays. -/
abbrev ArithmeticM := EStateM ArithmeticFault ArithmeticState

/-- What an expression is evaluated in: its own text and the values of the variables. -/
structure ArithmeticScope where
  text : Octets
  value : String → Octets

def ArithmeticScope.fault {α : Type} (scope : ArithmeticScope) (text : String) : ArithmeticM α :=
  throw (.message ("arithmetic expression: " ++ text ++ ": \"" ++ scope.text ++ "\""))

def ArithmeticScope.lookup (scope : ArithmeticScope) (name : String) : ArithmeticM Int := do
  match (← get).assigned.lookup name with
  | some value => return value
  | none =>
    match variableInteger (scope.value name) with
    | .ok value => return value
    | .error text => throw (.message text)

def peekOperator : ArithmeticM (Option String) := do
  match (← get).tokens with
  | .operator text :: _ => return some text
  | _ => return none

def dropToken : ArithmeticM Unit :=
  modify fun state => { state with tokens := state.tokens.drop 1 }

/-- The rank of a binary operator. A higher rank binds more closely. -/
def operatorRank : String → Nat
  | "*" | "/" | "%" => 10
  | "+" | "-" => 9
  | "<<" | ">>" => 8
  | "<" | "<=" | ">" | ">=" => 7
  | "==" | "!=" => 6
  | "&" => 5
  | "^" => 4
  | "|" => 3
  | _ => 0

def truth (condition : Bool) : Int :=
  if condition then 1 else 0

/-- The bits of an integer as a natural number. -/
def integerBits (value : Int) : Nat :=
  (value % 0x10000000000000000).toNat

/-- A shift takes its count by the lowest six bits. -/
def shiftCount (value : Int) : Nat :=
  integerBits value % 64

/-- The smallest integer has no counterpart, so it cannot be divided by minus one. -/
def ArithmeticScope.divide (scope : ArithmeticScope) (left right result : Int) :
    ArithmeticM Int :=
  if right = 0 then scope.fault "division by zero"
  else if left = smallestInteger && right = -1 then throw .overflow
  else return result

def ArithmeticScope.binary (scope : ArithmeticScope) (operator : String) (left right : Int) :
    ArithmeticM Int :=
  match operator with
  | "*" => return wrapInteger (left * right)
  | "/" => scope.divide left right (left.tdiv right)
  | "%" => scope.divide left right (left.tmod right)
  | "+" => return wrapInteger (left + right)
  | "-" => return wrapInteger (left - right)
  | "<<" => return wrapInteger (integerBits left <<< shiftCount right)
  | ">>" => return left >>> shiftCount right
  | "<" => return truth (left < right)
  | "<=" => return truth (left ≤ right)
  | ">" => return truth (right < left)
  | ">=" => return truth (right ≤ left)
  | "==" => return truth (left = right)
  | "!=" => return truth (left ≠ right)
  | "&" => return wrapInteger (integerBits left &&& integerBits right)
  | "^" => return wrapInteger (integerBits left ^^^ integerBits right)
  | "|" => return wrapInteger (integerBits left ||| integerBits right)
  | _ => return 0

/-- The operator that an assignment applies, empty for a plain one. -/
def assignmentOperator? (text : String) : Option String :=
  if ["=", "*=", "/=", "%=", "+=", "-=", "<<=", ">>=", "&=", "^=", "|="].contains text then
    some (String.ofList text.toList.dropLast)
  else
    none

mutual
/-- An assignment, or a condition. A part that is skipped has no effect. -/
def evaluateAssignment (fuel : Nat) (scope : ArithmeticScope) (isSkipped : Bool) :
    ArithmeticM Int := do
  match fuel with
  | 0 => scope.fault "expression too deep"
  | fuel + 1 =>
    match (← get).tokens with
    | .symbol name :: .operator text :: _ =>
      match assignmentOperator? text with
      | none => evaluateCondition fuel scope isSkipped
      | some operator =>
        dropToken
        dropToken
        let right ← evaluateAssignment fuel scope isSkipped
        if isSkipped then
          return right
        else
          let value ←
            if operator = "" then pure right
            else scope.binary operator (← scope.lookup name) right
          modify fun state => { state with assigned := (name, value) :: state.assigned }
          return value
    | _ => evaluateCondition fuel scope isSkipped

def evaluateCondition (fuel : Nat) (scope : ArithmeticScope) (isSkipped : Bool) :
    ArithmeticM Int := do
  match fuel with
  | 0 => scope.fault "expression too deep"
  | fuel + 1 =>
    let test ← evaluateOr fuel scope isSkipped
    if (← peekOperator) == some "?" then
      dropToken
      let yes ← evaluateAssignment fuel scope (isSkipped || test = 0)
      if (← peekOperator) == some ":" then
        dropToken
        let no ← evaluateCondition fuel scope (isSkipped || test ≠ 0)
        return if test ≠ 0 then yes else no
      else
        scope.fault "expecting ':'"
    else
      return test

def evaluateOr (fuel : Nat) (scope : ArithmeticScope) (isSkipped : Bool) : ArithmeticM Int := do
  match fuel with
  | 0 => scope.fault "expression too deep"
  | fuel + 1 =>
    let left ← evaluateAnd fuel scope isSkipped
    if (← peekOperator) == some "||" then
      dropToken
      let right ← evaluateOr fuel scope (isSkipped || left ≠ 0)
      return truth (left ≠ 0 || right ≠ 0)
    else
      return left

def evaluateAnd (fuel : Nat) (scope : ArithmeticScope) (isSkipped : Bool) : ArithmeticM Int := do
  match fuel with
  | 0 => scope.fault "expression too deep"
  | fuel + 1 =>
    let left ← evaluatePrimary fuel scope isSkipped
    let whole ← evaluateBinary fuel scope isSkipped 1 left
    if (← peekOperator) == some "&&" then
      dropToken
      let right ← evaluateAnd fuel scope (isSkipped || whole = 0)
      return truth (whole ≠ 0 && right ≠ 0)
    else
      return whole

/-- Operators from a given rank on are applied to the left operand. -/
def evaluateBinary (fuel : Nat) (scope : ArithmeticScope) (isSkipped : Bool) (rank : Nat)
    (left : Int) : ArithmeticM Int := do
  match fuel with
  | 0 => scope.fault "expression too deep"
  | fuel + 1 =>
    match ← peekOperator with
    | none => return left
    | some operator =>
      let found := operatorRank operator
      if found < rank || found = 0 then
        return left
      else
        dropToken
        let first ← evaluatePrimary fuel scope isSkipped
        let right ← evaluateBinary fuel scope isSkipped (found + 1) first
        let value ← if isSkipped then pure right else scope.binary operator left right
        evaluateBinary fuel scope isSkipped rank value

def evaluatePrimary (fuel : Nat) (scope : ArithmeticScope) (isSkipped : Bool) :
    ArithmeticM Int := do
  match fuel with
  | 0 => scope.fault "expression too deep"
  | fuel + 1 =>
    match (← get).tokens with
    | .number value :: _ =>
      dropToken
      return value
    | .symbol name :: _ =>
      dropToken
      if isSkipped then return 0 else scope.lookup name
    | .operator "(" :: _ =>
      dropToken
      let value ← evaluateAssignment fuel scope isSkipped
      if (← peekOperator) == some ")" then
        dropToken
        return value
      else
        scope.fault "expecting ')'"
    | .operator "+" :: _ =>
      dropToken
      evaluatePrimary fuel scope isSkipped
    | .operator "-" :: _ =>
      dropToken
      return wrapInteger (-(← evaluatePrimary fuel scope isSkipped))
    | .operator "!" :: _ =>
      dropToken
      return truth ((← evaluatePrimary fuel scope isSkipped) = 0)
    | .operator "~" :: _ =>
      dropToken
      return -(← evaluatePrimary fuel scope isSkipped) - 1
    | _ => scope.fault "expecting primary"
end

/-- The value of an expression, and the assignments that it made, in order. -/
def evaluateArithmetic (text : Octets) (value : String → Octets) :
    Except ArithmeticFault Int × List (String × Int) :=
  let scope : ArithmeticScope := ⟨text, value⟩
  let tokens := arithmeticTokens (text.length + 1) text.toList
  let evaluation : ArithmeticM Int := do
    let result ← evaluateAssignment (8 * text.length + 16) scope false
    if (← get).tokens.isEmpty then return result else scope.fault "expecting EOF"
  match evaluation ⟨tokens, []⟩ with
  | .ok result state => (.ok result, state.assigned.reverse)
  | .error fault state => (.error fault, state.assigned.reverse)

end ChainShell
