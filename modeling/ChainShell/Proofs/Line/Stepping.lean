/-
This file compares the splitter and the tokenizer with loops that step through a scanner. Such a
loop takes one item after the other, and it peeks behind a sign that may be doubled.
-/

import ChainShell.Line.Word
import ChainShell.Proofs.Line.Peeking

namespace ChainShell

/-- The number of characters that are not yet handed out. One that is held is among them. -/
def CharReader.remaining (reader : CharReader) : Nat :=
  match reader.held with
  | some (some _) => reader.rest.length + 1
  | _ => reader.rest.length

theorem CharReader.remaining_peek (reader : CharReader) :
    reader.peek.2.remaining = reader.remaining := by
  obtain ⟨rest, offset, held⟩ := reader
  cases held with
  | some item => rfl
  | none => cases rest <;> rfl

theorem CharReader.remaining_take (reader : CharReader) :
    reader.take.2.remaining + reader.take.1.toList.length = reader.remaining := by
  obtain ⟨rest, offset, held⟩ := reader
  rcases held with _ | _ | item
  · cases rest <;> rfl
  · rfl
  · rfl

section Measure

variable (scanner : Scanner)

def Scanner.remaining : Nat := scanner.reader.remaining

theorem Scanner.remaining_peekBare : scanner.peekBare.2.remaining = scanner.remaining := by
  rw [Scanner.peekBare]
  split
  · rfl
  · exact scanner.reader.remaining_peek

theorem Scanner.remaining_next :
    scanner.next.2.remaining + scanner.next.1.toList.length = scanner.remaining := by
  have taken := scanner.reader.remaining_take
  rw [Scanner.next]
  split
  · next ended => rwa [ended] at taken
  · next position char reader took =>
      rw [took] at taken
      cases scanner.mode.escaped with
      | true => exact taken
      | false => exact (congrArg (· + 1) reader.remaining_peek).trans taken

end Measure

/-- The operator that starts with an item. -/
def Scanner.operatorAt (scanner : Scanner) (item : Scanned) : Option Operator × Scanner :=
  if item.role ≠ .bare then
    (none, scanner)
  else if item.char = ';' then
    (some .sequence, scanner)
  else if item.char = '&' then
    (if scanner.peekBare.1 = some '&' then some .andThen else none, scanner.peekBare.2)
  else if item.char = '|' then
    (if scanner.peekBare.1 = some '|' then some .orElse else none, scanner.peekBare.2)
  else
    (none, scanner)

theorem Scanner.remaining_operatorAt (scanner : Scanner) (item : Scanned) :
    (scanner.operatorAt item).2.remaining = scanner.remaining := by
  fun_cases Scanner.operatorAt scanner item <;> simp [Scanner.remaining_peekBare]

/-- The loop of the splitter. Behind the first half of a doubled sign it takes the second. -/
def Scanner.spans (length : Nat) (operator : Operator) (start : Nat) (scanner : Scanner) :
    List Span :=
  match _ : scanner.next.1 with
  | none => [⟨operator, start, length⟩]
  | some item =>
    let answer := scanner.next.2.operatorAt item
    match answer.1 with
    | none => answer.2.spans length operator start
    | some .sequence =>
      ⟨operator, start, item.position⟩ :: answer.2.spans length .sequence (item.position + 1)
    | some doubled =>
      ⟨operator, start, item.position⟩ ::
        answer.2.next.2.spans length doubled (item.position + 2)
termination_by scanner.remaining
decreasing_by
  all_goals
    have stepped := scanner.remaining_next
    have peeked := scanner.next.2.remaining_operatorAt item
    have taken := (scanner.next.2.operatorAt item).2.remaining_next
    rw [‹scanner.next.1 = some item›, Option.toList_some, List.length_singleton] at stepped
    omega

/-- The loop of the tokenizer. -/
def Scanner.words (current : Option (List Char)) (scanner : Scanner) : List (List Char) :=
  match _ : scanner.next.1 with
  | none => (current.map List.reverse).toList
  | some item =>
    match item.role with
    | .bare | .literal => scanner.next.2.words (some (item.char :: current.getD []))
    | .quote | .escape => scanner.next.2.words (some (current.getD []))
    | .blank => (current.map List.reverse).toList ++ scanner.next.2.words none
termination_by scanner.remaining
decreasing_by
  all_goals
    have stepped := scanner.remaining_next
    rw [‹scanner.next.1 = some item›, Option.toList_some, List.length_singleton] at stepped
    omega

section Unfolding

variable {scanner : Scanner} {item : Scanned} (length : Nat) (operator : Operator) (start : Nat)
  (current : Option (List Char))

theorem Scanner.spans_of_ended (ended : scanner.next.1 = none) :
    scanner.spans length operator start = [⟨operator, start, length⟩] := by
  rw [Scanner.spans]
  split
  · rfl
  · next read => simp [ended] at read

theorem Scanner.spans_of_read (read : scanner.next.1 = some item) :
    scanner.spans length operator start =
      match (scanner.next.2.operatorAt item).1 with
      | none => (scanner.next.2.operatorAt item).2.spans length operator start
      | some .sequence =>
        ⟨operator, start, item.position⟩ ::
          (scanner.next.2.operatorAt item).2.spans length .sequence (item.position + 1)
      | some doubled =>
        ⟨operator, start, item.position⟩ ::
          (scanner.next.2.operatorAt item).2.next.2.spans length doubled (item.position + 2) := by
  rw [Scanner.spans]
  split
  · next ended => simp [ended] at read
  · next other same =>
      obtain rfl : other = item := by simpa [same] using read
      rfl

theorem Scanner.words_of_ended (ended : scanner.next.1 = none) :
    scanner.words current = (current.map List.reverse).toList := by
  rw [Scanner.words]
  split
  · rfl
  · next read => simp [ended] at read

theorem Scanner.words_of_read (read : scanner.next.1 = some item) :
    scanner.words current =
      match item.role with
      | .bare | .literal => scanner.next.2.words (some (item.char :: current.getD []))
      | .quote | .escape => scanner.next.2.words (some (current.getD []))
      | .blank => (current.map List.reverse).toList ++ scanner.next.2.words none := by
  rw [Scanner.words]
  split
  · next ended => simp [ended] at read
  · next other same =>
      obtain rfl : other = item := by simpa [same] using read
      rfl

end Unfolding

namespace Scanner.StandsBefore

variable {scanner : Scanner} {mode : Mode} {position : Nat} {text : List Char}

theorem operatorAt (stands : scanner.StandsBefore mode position text) (item : Scanned) :
    (scanner.operatorAt item).1 = boundary item.role item.char (mode.peekBare text) ∧
      (scanner.operatorAt item).2.StandsBefore mode position text := by
  obtain ⟨offered, held⟩ := stands.peekBare
  rw [Scanner.operatorAt, boundary, offered]
  split_ifs <;> simp_all

/-- One turn of the splitter's loop takes one character and looks at the next at most. -/
theorem spans_cons {char : Char} {rest : List Char} {following : Mode} {role : Role}
    (stands : scanner.StandsBefore mode position (char :: rest))
    (stepped : mode.step char rest.head? = (following, role)) (length : Nat) (operator : Operator)
    (start : Nat) :
    ∃ behind : Scanner, behind.StandsBefore following (position + char.utf8Size) rest ∧
      scanner.spans length operator start =
        match boundary role char (following.peekBare rest) with
        | none => behind.spans length operator start
        | some .sequence =>
          ⟨operator, start, position⟩ :: behind.spans length .sequence (position + 1)
        | some doubled =>
          ⟨operator, start, position⟩ :: behind.next.2.spans length doubled (position + 2) := by
  obtain ⟨read, after⟩ := stands.next_cons
  rw [stepped] at read after
  obtain ⟨found, held⟩ := after.operatorAt ⟨position, char, role⟩
  exact ⟨_, held, by rw [Scanner.spans_of_read length operator start read, found]⟩

/-- The loop of the splitter finds its spans. -/
theorem spans_eq (stands : scanner.StandsBefore mode position text) (length : Nat)
    (operator : Operator) (start : Nat) :
    scanner.spans length operator start = spansFrom length operator start mode position text := by
  fun_induction spansFrom length operator start mode position text generalizing scanner with
  | case1 operator start mode position =>
      exact Scanner.spans_of_ended length operator start stands.next_nil.1
  | case2 operator start mode position char rest following role stepped uncut inductionHypothesis =>
      obtain ⟨behind, held, turned⟩ := stands.spans_cons stepped length operator start
      rw [turned, uncut]
      exact inductionHypothesis held
  | case3 operator start mode position char rest following role stepped cut inductionHypothesis =>
      obtain ⟨behind, held, turned⟩ := stands.spans_cons stepped length operator start
      rw [turned, cut]
      exact congrArg (List.cons _) (inductionHypothesis held)
  | case4 operator start mode position char following role doubled other stepped cut =>
      obtain ⟨behind, held, turned⟩ := stands.spans_cons stepped length operator start
      have ended := held.next_nil.2.next_nil.1
      rw [turned, cut]
      cases doubled with
      | sequence => exact absurd rfl other
      | first | andThen | orElse =>
          exact congrArg (List.cons _) (Scanner.spans_of_ended length _ (position + 2) ended)
  | case5 operator start mode position char following role doubled other second rest stepped cut
      inductionHypothesis =>
      obtain ⟨behind, held, turned⟩ := stands.spans_cons stepped length operator start
      rw [turned, cut]
      cases doubled with
      | sequence => exact absurd rfl other
      | first | andThen | orElse =>
          exact congrArg (List.cons _) (inductionHypothesis held.next_cons.2)

/-- The loop of the tokenizer finds its words. -/
theorem words_eq (stands : scanner.StandsBefore mode position text)
    (current : Option (List Char)) :
    scanner.words current = wordsFrom mode current text := by
  induction text generalizing scanner mode position current with
  | nil =>
      rw [Scanner.words_of_ended current stands.next_nil.1]
      cases current <;> rfl
  | cons char rest inductionHypothesis =>
      obtain ⟨read, behind⟩ := stands.next_cons
      rw [Scanner.words_of_read current read, wordsFrom]
      simp only [inductionHypothesis behind]
      cases (mode.step char rest.head?).2 <;> cases current <;> rfl

end Scanner.StandsBefore

/-- The splitter cuts a line where its loop over a scanner does. -/
theorem splitChain_eq_spans (line : String) :
    splitChain line =
      ((Scanner.ofText line.toList).spans line.utf8ByteSize .first 0).map (Span.segment line) := by
  rw [(Scanner.standsBefore_ofText line.toList).spans_eq]
  rfl

/-- The tokenizer reads the words that its loop over a scanner does. -/
theorem tokenize_eq_words (text : String) :
    tokenize text = ((Scanner.ofText text.toList).words none).map String.ofList := by
  rw [(Scanner.standsBefore_ofText text.toList).words_eq]
  rfl

end ChainShell
