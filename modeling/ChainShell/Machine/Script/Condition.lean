/-
This file decides the conditions of `test`.
-/

import ChainShell.Machine.Basic
import ChainShell.Machine.Script.Number

namespace ChainShell

/-- The tests that take one operand. -/
def unaryTests : List Octets :=
  ["-r", "-w", "-x", "-e", "-f", "-d", "-c", "-b", "-p", "-u", "-g", "-k", "-s", "-t", "-z", "-n",
    "-h", "-O", "-G", "-L", "-S"]

/-- The tests that stand between two operands. -/
def binaryTests : List Octets :=
  ["=", "!=", "<", ">", "-eq", "-ne", "-ge", "-gt", "-le", "-lt", "-nt", "-ot", "-ef"]

inductive TestToken where
  | endOfTest
  | not
  | and
  | or
  | openParen
  | closeParen
  | unary (operator : Octets)
  | binary (operator : Octets)
  | operand
  deriving DecidableEq, Repr

/-- A word with the form of a unary test is an operand when a binary test follows it, or
nothing. -/
def isTestOperand : List Octets → Bool
  | [] | [_] => true
  | [_, _] => false
  | _ :: second :: _ => binaryTests.contains second

def testToken (words : List Octets) : TestToken :=
  match words with
  | [] => .endOfTest
  | word :: rest =>
    if word = "!" then .not
    else if word = "-a" then .and
    else if word = "-o" then .or
    else if word = "(" then (if rest.isEmpty then .operand else .openParen)
    else if word = ")" then .closeParen
    else if binaryTests.contains word then .binary word
    else if unaryTests.contains word && !isTestOperand words then .unary word
    else .operand

def Node.isRegular : Node → Bool
  | .file _ _ => true
  | _ => false

def Node.isFolder : Node → Bool
  | .directory _ _ _ => true
  | _ => false

/-- A test of the file behind a path, or of a text. -/
def unaryTest (machine : Machine) (operator operand : Octets) : Except Octets Bool :=
  let path := octetsPath operand
  let node := machine.node? path
  let allows (permission : Permission) : Bool := node.any fun found =>
    found.access.allows permission
  match operator with
  | "-n" => .ok (operand ≠ "")
  | "-z" => .ok (operand = "")
  | "-t" => (wholeInteger operand).map fun _ => false
  | "-r" => .ok (allows .read)
  | "-w" => .ok (allows .write)
  | "-x" => .ok (allows .execute)
  | "-e" => .ok node.isSome
  | "-f" => .ok (node.any Node.isRegular)
  | "-d" => .ok (node.any Node.isFolder)
  | "-c" => .ok (node.any fun found => match found with
    | .device _ (.pipe _) => false
    | .device _ _ => true
    | _ => false)
  | "-p" => .ok (node.any fun found => match found with
    | .device _ (.pipe _) => true
    | _ => false)
  | "-u" => .ok (node.any fun found => found.access.mode &&& 0o4000 != 0)
  | "-g" => .ok (node.any fun found => found.access.mode &&& 0o2000 != 0)
  | "-k" => .ok (node.any fun found => found.access.mode &&& 0o1000 != 0)
  | "-s" => .ok (node.any fun found => match found with
    | .file _ (.data octets) => octets ≠ ""
    | .device _ _ => false
    | _ => true)
  | "-O" | "-G" => .ok (node.any fun found => !found.access.isSystem)
  | "-h" | "-L" =>
    .ok (match machine.tree.locate machine.directory false path with
      | .ok located => match machine.tree.node? located.id with
        | some (.link _) => true
        | _ => false
      | .error _ => false)
  | _ => .ok false

def numberTest (left right : Octets) (compare : Int → Int → Bool) : Except Octets Bool := do
  let first ← wholeInteger left
  let second ← wholeInteger right
  return compare first second

/-- A test of the nodes behind two paths. Both must be there. -/
def nodeTest (machine : Machine) (left right : Octets) (compare : NodeId → NodeId → Bool) :
    Bool :=
  match machine.resolve (octetsPath left), machine.resolve (octetsPath right) with
  | .ok first, .ok second => compare first second
  | _, _ => false

def binaryTest (machine : Machine) (left operator right : Octets) : Except Octets Bool :=
  match operator with
  | "=" => .ok (left = right)
  | "!=" => .ok (left ≠ right)
  | "<" => .ok (left < right)
  | ">" => .ok (right < left)
  | "-eq" => numberTest left right fun first second => first = second
  | "-ne" => numberTest left right fun first second => first ≠ second
  | "-ge" => numberTest left right fun first second => second ≤ first
  | "-gt" => numberTest left right fun first second => second < first
  | "-le" => numberTest left right fun first second => first ≤ second
  | "-lt" => numberTest left right fun first second => first < second
  | "-ef" => .ok (nodeTest machine left right fun first second => first = second)
  | "-nt" =>
    .ok (nodeTest machine left right fun first second =>
      machine.tree.time second < machine.tree.time first)
  | "-ot" =>
    .ok (nodeTest machine left right fun first second =>
      machine.tree.time first < machine.tree.time second)
  | _ => .ok false

/-- The words from the one that was read last. -/
abbrev TestM := StateT (List Octets) (Except Octets)

def skipTestWords (count : Nat) : TestM Unit :=
  modify fun words => words.drop count

def testTooDeep : Octets := "test too deep"

mutual
/-- Alternatives. The token is that of the first word. -/
def testOr (fuel : Nat) (machine : Machine) (token : TestToken) : TestM Bool := do
  match fuel with
  | 0 => throw testTooDeep
  | fuel + 1 =>
    let first ← testAnd fuel machine token
    if testToken ((← get).drop 1) = .or then
      skipTestWords 2
      let second ← testOr fuel machine (testToken (← get))
      return first || second
    else
      return first

def testAnd (fuel : Nat) (machine : Machine) (token : TestToken) : TestM Bool := do
  match fuel with
  | 0 => throw testTooDeep
  | fuel + 1 =>
    let first ← testNot fuel machine token
    if testToken ((← get).drop 1) = .and then
      skipTestWords 2
      let second ← testAnd fuel machine (testToken (← get))
      return first && second
    else
      return first

def testNot (fuel : Nat) (machine : Machine) (token : TestToken) : TestM Bool := do
  match fuel with
  | 0 => throw testTooDeep
  | fuel + 1 =>
    if token = .not then
      skipTestWords 1
      return !(← testNot fuel machine (testToken (← get)))
    else
      testPrimary fuel machine token

def testPrimary (fuel : Nat) (machine : Machine) (token : TestToken) : TestM Bool := do
  match fuel with
  | 0 => throw testTooDeep
  | fuel + 1 =>
    match token with
    | .endOfTest => return false
    | .openParen =>
      skipTestWords 1
      let inner := testToken (← get)
      if inner = .closeParen then
        return false
      else
        let result ← testOr fuel machine inner
        skipTestWords 1
        if testToken (← get) = .closeParen then return result
        else throw "closing paren expected"
    | .unary operator =>
      skipTestWords 1
      match (← get).head? with
      | none => throw (operator ++ ": argument expected")
      | some operand => unaryTest machine operator operand
    | _ =>
      let words ← get
      match testToken (words.drop 1) with
      | .binary operator =>
        skipTestWords 2
        match (← get).head? with
        | none => throw (operator ++ ": argument expected")
        | some right => binaryTest machine (words.headD "") operator right
      | _ => return words.headD "" ≠ ""
end

/-- Words that are left over behind the test are a fault. -/
def testWords (machine : Machine) (token : TestToken) (words : List Octets) :
    Except Octets Bool := do
  let (result, left) ← (testOr (8 * words.length + 8) machine token).run words
  match left with
  | "" :: _ :: _ => throw "unexpected operator"
  | first :: _ :: _ => throw (first ++ ": unexpected operator")
  | _ => return result

/-- With three words a binary test in the middle comes first. With three or four words parentheses
around the others are dropped, and a leading negation is applied last. More than one such negation
counts as one. -/
def scriptTest (machine : Machine) : Bool → List Octets → Except Octets Bool
  | isNegated, [] => .ok isNegated
  | isNegated, first :: rest =>
    let words := first :: rest
    let plain (inner : List Octets) : Except Octets Bool :=
      (testWords machine (testToken inner) inner).map (· != isNegated)
    let isBinary :=
      match rest with
      | [operator, _] => binaryTests.contains operator
      | _ => false
    if isBinary then
      (testWords machine .operand words).map (· != isNegated)
    else if words.length ≠ 3 && words.length ≠ 4 then
      plain words
    else if first = "(" && rest.getLast? = some ")" then
      plain rest.dropLast
    else if first = "!" then
      scriptTest machine true rest
    else
      plain words

end ChainShell
