/-
This file takes the texts of paths apart and puts them together.
-/

import ChainShell.Text.Octets

namespace ChainShell

/-- A path text: what stands in front of the last name, the last name, and the slashes behind it.
A root has no name. -/
structure PathParts where
  before : List Char
  name : List Char
  slashes : List Char

def pathParts (path : Octets) : PathParts :=
  let reversed := path.toList.reverse
  let slashes := reversed.takeWhile (· == '/')
  let rest := reversed.drop slashes.length
  let name := rest.takeWhile (· != '/')
  ⟨(rest.drop name.length).reverse, name.reverse, slashes⟩

/-- The last name of a path, without slashes. -/
def lastName (path : Octets) : Octets :=
  String.ofList (pathParts path).name

/-- The last name of a path with the slashes behind it. -/
def lastComponent (path : Octets) : Octets :=
  let parts := pathParts path
  if parts.name.isEmpty then "" else String.ofList (parts.name ++ parts.slashes)

/-- A path of slashes only becomes one slash. -/
def withoutSlashes (path : Octets) : Octets :=
  let parts := pathParts path
  if parts.name.isEmpty then (if parts.slashes.isEmpty then "" else "/")
  else String.ofList (parts.before ++ parts.name)

/-- The path of the directory that has the last name. -/
def directoryText (path : Octets) : Octets :=
  let before := (pathParts path).before
  if before.isEmpty then (if path.startsWith "/" then "/" else ".")
  else
    let trimmed := (before.reverse.dropWhile (· == '/')).reverse
    if trimmed.isEmpty then "/" else String.ofList trimmed

/-- The path of an entry. One slash stands between the two, and a root has its own already. -/
def joinedPath (directory name : Octets) : Octets :=
  if (pathParts directory).name.isEmpty then
    if name.startsWith "/" && directory ≠ "" then directory ++ "." ++ name else directory ++ name
  else
    withoutSlashes directory ++ (if name.startsWith "/" then "" else "/") ++ name

def isDotName (path : Octets) : Bool :=
  lastName path = "." || lastName path = ".."

end ChainShell
