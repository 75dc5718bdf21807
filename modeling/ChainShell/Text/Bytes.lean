/-
This file measures and cuts text by the bytes of its UTF-8 encoding.
-/

namespace ChainShell

/-- The first characters that take exactly the given number of bytes. There is no answer when
the cut lies past the end or inside a character. -/
def takeBytes? : Nat → List Char → Option (List Char)
  | 0, _ => some []
  | _ + 1, [] => none
  | count + 1, char :: rest =>
    if char.utf8Size ≤ count + 1 then
      (takeBytes? (count + 1 - char.utf8Size) rest).map (char :: ·)
    else
      none

/-- Every character with the byte at which it starts, counted on from the given offset. -/
def charOffsets : Nat → List Char → List (Nat × Char)
  | _, [] => []
  | offset, char :: rest => (offset, char) :: charOffsets (offset + char.utf8Size) rest

/-- The bytes of the encoding, in order. -/
def encode (text : String) : List UInt8 :=
  text.toUTF8.data.toList

@[simp] theorem encode_empty : encode "" = [] := rfl

@[simp] theorem encode_append (first second : String) :
    encode (first ++ second) = encode first ++ encode second := by
  simp [encode]

end ChainShell
