/-
This file holds the structure of scripts for the program `sh`.
-/

import ChainShell.Text.Octets

namespace ChainShell

def isNameStart (char : Char) : Bool :=
  char.isAlpha || char == '_'

def isNameChar (char : Char) : Bool :=
  char.isAlphanum || char == '_'

/-- A variable name starts with a letter or an underscore. -/
def isVariableName (name : String) : Bool :=
  name.toList.head?.any isNameStart && name.toList.all isNameChar

/-- How a redirection opens its file. -/
inductive RedirectKind where
  | read
  | write
  /-- Writes even where files are protected. -/
  | clobber
  | append
  | readWrite
  deriving DecidableEq, Repr

mutual
/-- A part of a script word. Quoting decides whether a value is split into fields. -/
inductive WordPart where
  | literal (isQuoted : Bool) (text : Octets)
  | parameter (isQuoted : Bool) (name : String) (substitution : Substitution)
  | command (isQuoted : Bool) (body : Option Script)
  | arithmetic (isQuoted : Bool) (parts : List WordPart)

/-- What is done with the value of a parameter. A flag tells whether an empty value counts as
unset. -/
inductive Substitution where
  | value
  | length
  | fallback (emptyIsUnset : Bool) (parts : List WordPart)
  | alternative (emptyIsUnset : Bool) (parts : List WordPart)
  | assign (emptyIsUnset : Bool) (parts : List WordPart)
  | require (emptyIsUnset : Bool) (parts : List WordPart)
  | trim (atEnd isLongest : Bool) (parts : List WordPart)
  | invalid

/-- A descriptor leads to a file, to where another descriptor leads, or to a text in the script. -/
inductive Redirect where
  | file (descriptor : Nat) (kind : RedirectKind) (target : List WordPart)
  | duplicate (descriptor : Nat) (source : List WordPart)
  | document (descriptor : Nat) (index : Nat)

/-- The line is the one on which a command starts. -/
inductive Script where
  | simple (line : Nat) (assignments words : List (List WordPart)) (redirects : List Redirect)
  | pipeline (inBackground : Bool) (stages : List Script)
  | sequence (first second : Script)
  | andThen (first second : Script)
  | orElse (first second : Script)
  | negate (script : Script)
  | background (line : Nat) (body : Script) (redirects : List Redirect)
  | subshell (line : Nat) (body : Script) (redirects : List Redirect)
  | redirected (line : Nat) (body : Script) (redirects : List Redirect)
  | conditional (test yes : Script) (no : Option Script)
  | loop (untilSuccess : Bool) (test body : Script)
  | forEach (line : Nat) (name : String) (words : List (List WordPart)) (body : Script)
  | select (line : Nat) (subject : List WordPart) (branches : List CaseBranch)
  | define (line : Nat) (name : String) (body : Script)

/-- The body runs when one of the patterns matches. -/
inductive CaseBranch where
  | branch (patterns : List (List WordPart)) (body : Option Script)
end

abbrev ScriptWord := List WordPart

end ChainShell
