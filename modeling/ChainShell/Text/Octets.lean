/-
This file holds byte strings and their relation to text.
-/

import ChainShell.Text.Bytes

namespace ChainShell

/-- A byte string. Each character stands for the byte with its number. -/
abbrev Octets := String

def octetsOfBytes (bytes : List UInt8) : Octets :=
  String.ofList (bytes.map fun byte => Char.ofNat byte.toNat)

def bytesOfOctets (octets : Octets) : List UInt8 :=
  octets.toList.map fun char => char.toNat.toUInt8

/-- The UTF-8 encoding of a text. -/
def octetsOfText (text : String) : Octets :=
  if text.toList.all fun char => char.toNat < 0x80 then text else octetsOfBytes (encode text)

/-- The text behind an encoding. There is no answer for bytes that encode no text. -/
def textOfOctets? (octets : Octets) : Option String :=
  String.fromUTF8? ⟨(bytesOfOctets octets).toArray⟩

/-- The number of bytes behind a first byte, and the range of the first of them. -/
def continuationRange (first : Nat) : Option (Nat × Nat × Nat) :=
  if 0xC2 ≤ first && first ≤ 0xDF then some (1, 0x80, 0xBF)
  else if first = 0xE0 then some (2, 0xA0, 0xBF)
  else if first = 0xED then some (2, 0x80, 0x9F)
  else if 0xE1 ≤ first && first ≤ 0xEF then some (2, 0x80, 0xBF)
  else if first = 0xF0 then some (3, 0x90, 0xBF)
  else if first = 0xF4 then some (3, 0x80, 0x8F)
  else if 0xF1 ≤ first && first ≤ 0xF3 then some (3, 0x80, 0xBF)
  else none

/-- What stands in for bytes that encode no text. -/
def replacementChar : Char := '\uFFFD'

/-- The code point of a sequence so far, and the bytes that are still to come. -/
structure PartialChar where
  code : Nat
  missing : Nat
  low : Nat
  high : Nat

/-- The decoder reads byte by byte. A sequence that breaks off becomes one replacement, and the
byte that broke it is read again. -/
def decodeLossy (part : Option PartialChar) : List Nat → List Char
  | [] => if part.isSome then [replacementChar] else []
  | byte :: rest =>
    let started : List Char × Option PartialChar :=
      if byte < 0x80 then ([Char.ofNat byte], none)
      else
        match continuationRange byte with
        | none => ([replacementChar], none)
        | some (missing, low, high) =>
          let code := if missing = 1 then byte % 32 else if missing = 2 then byte % 16 else byte % 8
          ([], some ⟨code, missing, low, high⟩)
    match part with
    | none => started.1 ++ decodeLossy started.2 rest
    | some begun =>
      if begun.low ≤ byte && byte ≤ begun.high then
        let code := 64 * begun.code + byte % 64
        if begun.missing ≤ 1 then Char.ofNat code :: decodeLossy none rest
        else decodeLossy (some ⟨code, begun.missing - 1, 0x80, 0xBF⟩) rest
      else
        replacementChar :: (started.1 ++ decodeLossy started.2 rest)

/-- The text of a byte string, with replacements where the bytes encode none. -/
def textOfOctets (octets : Octets) : String :=
  if octets.toList.all fun char => char.toNat < 0x80 then octets
  else String.ofList (decodeLossy none (octets.toList.map Char.toNat))

/-- The text of a sequence of bytes, with replacements where the bytes encode none. -/
def decode (bytes : List UInt8) : String :=
  textOfOctets (octetsOfBytes bytes)

end ChainShell
