/-
This file reads a text character by character. The next character can be looked at before it is
taken.
-/

namespace ChainShell

/-- A reader holds what was looked at and not yet taken. This is a character with the byte offset at
which it starts, or the end of the text. -/
structure CharReader where
  rest : List Char
  offset : Nat
  held : Option (Option (Nat × Char))

def CharReader.ofText (text : List Char) : CharReader := ⟨text, 0, none⟩

/-- The text itself moves on whether a character is taken or only looked at. -/
def CharReader.advance (reader : CharReader) : Option (Nat × Char) × CharReader :=
  match reader.rest with
  | [] => (none, reader)
  | char :: rest =>
    (some (reader.offset, char), ⟨rest, reader.offset + char.utf8Size, reader.held⟩)

/-- What is held is handed out first. -/
def CharReader.take (reader : CharReader) : Option (Nat × Char) × CharReader :=
  match reader.held with
  | some item => (item, { reader with held := none })
  | none => reader.advance

/-- What was looked at stays held. -/
def CharReader.peek (reader : CharReader) : Option (Nat × Char) × CharReader :=
  match reader.held with
  | some item => (item, reader)
  | none =>
    let (item, after) := reader.advance
    (item, { after with held := some item })

end ChainShell
