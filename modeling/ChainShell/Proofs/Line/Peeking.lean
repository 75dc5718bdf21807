/-
This file shows that peeking leaves no trace in the steps of a scanner, and that it tells which
character the next step would read as chain syntax.
-/

import ChainShell.Proofs.Line.Cutting

namespace ChainShell

open String (utf8Len)

/-- A reader stands at a byte offset in front of a text. What it holds is a part of that text. -/
inductive CharReader.StandsBefore : CharReader → Nat → List Char → Prop
  | fresh (position : Nat) (text : List Char) : StandsBefore ⟨text, position, none⟩ position text
  | holding (position : Nat) (char : Char) (rest : List Char) :
    StandsBefore ⟨rest, position + char.utf8Size, some (some (position, char))⟩ position
      (char :: rest)
  | ended (position : Nat) : StandsBefore ⟨[], position, some none⟩ position []

namespace CharReader.StandsBefore

variable {reader : CharReader} {position : Nat} {text : List Char}

/-- Looking at the next character does not move the reader. -/
theorem peek (stands : reader.StandsBefore position text) :
    reader.peek.1 = text.head?.map (position, ·) ∧ reader.peek.2.StandsBefore position text := by
  cases stands with
  | fresh =>
      cases text with
      | nil => exact ⟨rfl, .ended position⟩
      | cons char rest => exact ⟨rfl, .holding position char rest⟩
  | holding _ char rest => exact ⟨rfl, .holding position char rest⟩
  | ended => exact ⟨rfl, .ended position⟩

theorem take_nil (stands : reader.StandsBefore position []) :
    reader.take.1 = none ∧ reader.take.2.StandsBefore position [] := by
  cases stands with
  | fresh => exact ⟨rfl, .fresh position []⟩
  | ended => exact ⟨rfl, .fresh position []⟩

theorem take_cons {char : Char} {rest : List Char}
    (stands : reader.StandsBefore position (char :: rest)) :
    reader.take.1 = some (position, char) ∧
      reader.take.2.StandsBefore (position + char.utf8Size) rest := by
  cases stands with
  | fresh => exact ⟨rfl, .fresh _ rest⟩
  | holding => exact ⟨rfl, .fresh _ rest⟩

end CharReader.StandsBefore

/-- A scanner stands in front of a text that it scans in the given mode. -/
structure Scanner.StandsBefore (scanner : Scanner) (mode : Mode) (position : Nat)
    (text : List Char) : Prop where
  mode : scanner.mode = mode
  reader : scanner.reader.StandsBefore position text

theorem Scanner.standsBefore_ofText (text : List Char) :
    (Scanner.ofText text).StandsBefore .initial 0 text :=
  ⟨rfl, .fresh 0 text⟩

/-- A pending escape makes the role independent of the following character. -/
theorem Mode.step_of_escaped {mode : Mode} (escaped : mode.escaped = true) (char : Char)
    (first second : Option Char) : mode.step char first = mode.step char second := by
  rw [Mode.step, Mode.step, escaped]
  rfl

namespace Scanner.StandsBefore

variable {scanner : Scanner} {mode : Mode} {position : Nat} {text : List Char}

theorem peekBare (stands : scanner.StandsBefore mode position text) :
    scanner.peekBare.1 = mode.peekBare text ∧
      scanner.peekBare.2.StandsBefore mode position text := by
  obtain ⟨reader, mode⟩ := scanner
  obtain ⟨rfl, stands⟩ := stands
  rw [Scanner.peekBare]
  split
  · rename_i closed
    exact ⟨by rw [Mode.peekBare, if_pos closed], rfl, stands⟩
  · obtain ⟨seen, held⟩ := stands.peek
    refine ⟨?_, rfl, held⟩
    simp only [seen]
    cases text <;> rfl

theorem next_nil (stands : scanner.StandsBefore mode position []) :
    scanner.next.1 = none ∧ scanner.next.2.StandsBefore mode position [] := by
  obtain ⟨sameMode, stands⟩ := stands
  cases took : scanner.reader.take with
  | mk item reader =>
      obtain ⟨taken, behind⟩ := stands.take_nil
      rw [took] at taken behind
      obtain rfl : item = none := taken
      rw [Scanner.next, took]
      exact ⟨rfl, sameMode, behind⟩

theorem next_cons {char : Char} {rest : List Char}
    (stands : scanner.StandsBefore mode position (char :: rest)) :
    scanner.next.1 = some ⟨position, char, (mode.step char rest.head?).2⟩ ∧
      scanner.next.2.StandsBefore (mode.step char rest.head?).1 (position + char.utf8Size)
        rest := by
  obtain ⟨rfl, stands⟩ := stands
  cases took : scanner.reader.take with
  | mk item reader =>
      obtain ⟨taken, behind⟩ := stands.take_cons
      rw [took] at taken behind
      obtain rfl : item = some (position, char) := taken
      rw [Scanner.next, took]
      cases escaped : scanner.mode.escaped with
      | true =>
          -- The scanner did not look at what follows, and its role does not depend on it.
          rw [Mode.step_of_escaped escaped char rest.head? none]
          exact ⟨rfl, rfl, behind⟩
      | false =>
          obtain ⟨seen, held⟩ := behind.peek
          have following : reader.peek.1.map Prod.snd = rest.head? := by
            rw [seen, Option.map_map]
            exact Option.map_id'
          rw [← following]
          exact ⟨rfl, rfl, held⟩

end Scanner.StandsBefore

/-- What the steps among the calls read, in order. -/
def readItems (answers : List ScannerAnswer) : List (Option Scanned) :=
  answers.filterMap fun
    | .read item => some item
    | .offered _ => none

/-- The scanner behind some calls. -/
def Scanner.after (scanner : Scanner) (calls : List ScannerCall) : Scanner :=
  calls.foldl (fun scanner call => (scanner.call call).2) scanner

theorem Scanner.after_concat (scanner : Scanner) (calls : List ScannerCall) (call : ScannerCall) :
    scanner.after (calls ++ [call]) = ((scanner.after calls).call call).2 :=
  List.foldl_concat ..

theorem Scanner.length_answers (scanner : Scanner) (calls : List ScannerCall) :
    (scanner.answers calls).length = calls.length := by
  induction calls generalizing scanner with
  | nil => rfl
  | cons call calls inductionHypothesis =>
      rw [Scanner.answers, List.length_cons, inductionHypothesis, List.length_cons]

theorem Scanner.answers_append (scanner : Scanner) (first second : List ScannerCall) :
    scanner.answers (first ++ second) =
      scanner.answers first ++ (scanner.after first).answers second := by
  induction first generalizing scanner with
  | nil => rfl
  | cons call first inductionHypothesis =>
      exact congrArg (List.cons _) (inductionHypothesis (scanner.call call).2)

namespace Scanner.StandsBefore

variable {scanner : Scanner} {mode : Mode} {position : Nat} {text : List Char}

theorem call (stands : scanner.StandsBefore mode position text) (call : ScannerCall) :
    ∃ mode position text, (scanner.call call).2.StandsBefore mode position text := by
  cases call with
  | peek => exact ⟨mode, position, text, stands.peekBare.2⟩
  | next =>
      cases text with
      | nil => exact ⟨mode, position, [], stands.next_nil.2⟩
      | cons char rest => exact ⟨_, _, rest, stands.next_cons.2⟩

/-- No calls bring a scanner out of step with its text. -/
theorem after (stands : scanner.StandsBefore mode position text) (calls : List ScannerCall) :
    ∃ mode position text, (scanner.after calls).StandsBefore mode position text := by
  induction calls generalizing scanner mode position text with
  | nil => exact ⟨mode, position, text, stands⟩
  | cons first calls inductionHypothesis =>
      obtain ⟨_, _, _, behind⟩ := stands.call first
      exact inductionHypothesis behind

/-- The steps read the items of the scan and then its end, whatever was peeked at between them. -/
theorem readItems_answers (stands : scanner.StandsBefore mode position text)
    (calls : List ScannerCall) :
    readItems (scanner.answers calls) =
      (List.range (calls.count .next)).map fun index => (scanFrom mode position text)[index]? := by
  induction calls generalizing scanner mode position text with
  | nil => rfl
  | cons call calls inductionHypothesis =>
      cases call with
      | peek =>
          rw [List.count_cons_of_ne (by decide)]
          exact inductionHypothesis stands.peekBare.2
      | next =>
          rw [List.count_cons_self, List.range_succ_eq_map, List.map_cons, List.map_map]
          cases text with
          | nil =>
              obtain ⟨ended, behind⟩ := stands.next_nil
              exact congrArg₂ List.cons ended (inductionHypothesis behind)
          | cons char rest =>
              obtain ⟨read, behind⟩ := stands.next_cons
              exact congrArg₂ List.cons read (inductionHypothesis behind)

end Scanner.StandsBefore

/-- An item of a scan carries its character and the number of bytes in front of it. -/
theorem getElem?_scanFrom (mode : Mode) (position : Nat) (text : List Char) (index : Nat) :
    (scanFrom mode position text)[index]?.map (fun item => (item.position, item.char)) =
      text[index]?.map fun char => (position + utf8Len (text.take index), char) := by
  induction text generalizing mode position index with
  | nil => rfl
  | cons char rest inductionHypothesis =>
      cases index with
      | zero => rfl
      | succ index =>
          rw [scanFrom, List.getElem?_cons_succ, List.getElem?_cons_succ, inductionHypothesis]
          simp only [List.take_succ_cons, String.utf8Len_cons, Nat.add_assoc,
            Nat.add_comm char.utf8Size]

/-- Outside quotes the classification and the list of the peek name the same characters, apart from
a backslash. -/
theorem Mode.step_initial_bare {char : Char} {next : Option Char} :
    char ≠ '\\' ∧ (Mode.initial.step char next).2 = .bare ↔
      char ∉ [' ', '\t', '\'', '"', '\\'] := by
  simp only [Mode.step, Mode.initial, QuoteState.classify, isBlank]
  grind

theorem Mode.eq_initial_of_peekBare {mode : Mode} {text : List Char} {char : Char}
    (offered : mode.peekBare text = some char) : mode = .initial := by
  obtain ⟨state, escaped⟩ := mode
  cases escaped with
  | true => simp [Mode.peekBare] at offered
  | false =>
      cases state with
      | unquoted => rfl
      | inSingleQuote | inDoubleQuote => simp [Mode.peekBare] at offered

/-- A character is offered exactly if it is no backslash and would be read as bare. -/
theorem Mode.peekBare_eq_some {mode : Mode} {text : List Char} {char : Char} :
    mode.peekBare text = some char ↔
      char ≠ '\\' ∧ ∃ rest, text = char :: rest ∧ (mode.step char rest.head?).2 = .bare := by
  constructor
  · intro offered
    obtain rfl := Mode.eq_initial_of_peekBare offered
    obtain ⟨rest, rfl⟩ := Mode.eq_cons_of_peekBare offered
    have ordinary : char ∉ [' ', '\t', '\'', '"', '\\'] := by
      simpa [Mode.peekBare, Mode.initial] using offered
    obtain ⟨other, bare⟩ := Mode.step_initial_bare.mpr ordinary
    exact ⟨other, rest, rfl, bare⟩
  · rintro ⟨other, rest, rfl, bare⟩
    obtain rfl := Mode.eq_initial_of_bare bare
    have ordinary := Mode.step_initial_bare.mp ⟨other, bare⟩
    simpa [Mode.peekBare, Mode.initial] using ordinary

/-- A peek offers exactly the bare character that the next step reads, unless this is a
backslash. -/
theorem Scanner.StandsBefore.peekBare_eq_some {scanner : Scanner} {mode : Mode} {position : Nat}
    {text : List Char} (stands : scanner.StandsBefore mode position text) {char : Char} :
    scanner.peekBare.1 = some char ↔
      char ≠ '\\' ∧ ∃ position, scanner.peekBare.2.next.1 = some ⟨position, char, .bare⟩ := by
  obtain ⟨offers, held⟩ := stands.peekBare
  rw [offers, Mode.peekBare_eq_some]
  refine and_congr_right fun _ => ?_
  cases text with
  | nil => simp [held.next_nil.1]
  | cons next rest =>
      rw [held.next_cons.1]
      constructor
      · rintro ⟨_, ⟨⟩, bare⟩
        exact ⟨position, by rw [bare]⟩
      · rintro ⟨_, read⟩
        obtain ⟨rfl, rfl, bare⟩ := Scanned.mk.inj (Option.some.inj read)
        exact ⟨rest, rfl, bare⟩

/-- The steps of a scanner read the items of the scan, as many as there are steps and whatever is
peeked at between them. Each item carries its character and the number of bytes in front of it. A
peek offers exactly the bare character that the next step would read, unless this is a
backslash. -/
theorem peeking_foretells_steps (text : String) :
    (∀ calls : List ScannerCall,
      readItems ((Scanner.ofText text.toList).answers calls) =
          readItems ((Scanner.ofText text.toList).answers (calls.filter (· = .next))) ∧
        readItems ((Scanner.ofText text.toList).answers calls) =
          (List.range (calls.count .next)).map fun index => (scan text.toList)[index]?) ∧
    (∀ index : Nat,
      (scan text.toList)[index]?.map (fun item => (item.position, item.char)) =
        text.toList[index]?.map fun char => (utf8Len (text.toList.take index), char)) ∧
    ∀ before after : List ScannerCall, ∃ offered,
      ((Scanner.ofText text.toList).answers (before ++ .peek :: after))[before.length]? =
          some (.offered offered) ∧
        ∀ char, offered = some char ↔ char ≠ '\\' ∧ ∃ position,
          ((Scanner.ofText text.toList).after (before ++ [.peek])).next.1 =
            some ⟨position, char, .bare⟩ := by
  have start := Scanner.standsBefore_ofText text.toList
  refine ⟨fun calls => ⟨?_, start.readItems_answers calls⟩, fun index => ?_, fun before after => ?_⟩
  · rw [start.readItems_answers, start.readItems_answers, List.count_filter (by decide)]
  · rw [scan, getElem?_scanFrom]
    simp only [Nat.zero_add]
  · obtain ⟨_, _, _, stands⟩ := start.after before
    refine ⟨((Scanner.ofText text.toList).after before).peekBare.1, ?_, fun char => ?_⟩
    · rw [Scanner.answers_append, List.getElem?_append_right (by rw [Scanner.length_answers]),
        Scanner.length_answers, Nat.sub_self]
      rfl
    · rw [stands.peekBare_eq_some, Scanner.after_concat]
      rfl

/-- Behind an escape nothing is offered, and a second peek offers the same character again. -/
example : (Scanner.ofText "\\;&".toList).answers
      [.next, .peek, .next, .peek, .peek, .next, .peek, .next] =
    [.read (some ⟨0, '\\', .escape⟩), .offered none, .read (some ⟨1, ';', .literal⟩),
      .offered (some '&'), .offered (some '&'), .read (some ⟨2, '&', .bare⟩), .offered none,
      .read none] := by decide

end ChainShell
