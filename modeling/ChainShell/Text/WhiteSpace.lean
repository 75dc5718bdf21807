/-
This file holds the Unicode class White_Space and the trimming of text by it.
-/

namespace ChainShell

/-- These closed ranges list the code points of the Unicode property White_Space. -/
def whiteSpaceRanges : List (Nat × Nat) :=
  [(0x09, 0x0D), (0x20, 0x20), (0x85, 0x85), (0xA0, 0xA0), (0x1680, 0x1680), (0x2000, 0x200A),
    (0x2028, 0x2029), (0x202F, 0x202F), (0x205F, 0x205F), (0x3000, 0x3000)]

/-- A character is white space exactly when one of the ranges holds its code point. -/
def isWhiteSpace (char : Char) : Bool :=
  whiteSpaceRanges.any fun range => range.1 ≤ char.toNat && char.toNat ≤ range.2

/-- The longest run of white space at the start is removed. -/
def trimStart (text : List Char) : List Char :=
  text.dropWhile isWhiteSpace

/-- The longest run of white space at the end is removed. -/
def trimEnd (text : List Char) : List Char :=
  (text.reverse.dropWhile isWhiteSpace).reverse

/-- Both ends lose their white space. -/
def trim (text : List Char) : List Char :=
  trimEnd (trimStart text)

end ChainShell
