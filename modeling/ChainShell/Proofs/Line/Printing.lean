/-
This file prints chains of argument vectors as lines. The splitter and the tokenizer read every
printed line back, whatever text the words hold.
-/

import ChainShell.Proofs.Line.Layout
import ChainShell.Proofs.Line.Words

namespace ChainShell

/-- A double quote and a backslash are printed behind a backslash. -/
def printChar (char : Char) : List Char :=
  if char = '"' ∨ char = '\\' then ['\\', char] else [char]

/-- A word is printed between double quotes. -/
def printWord (word : String) : String :=
  String.ofList ('"' :: (word.toList.flatMap printChar ++ ['"']))

/-- One space stands between two words. -/
def printWords (words : List String) : String :=
  String.intercalate " " (words.map printWord)

/-- An operator is printed between two spaces. -/
def Operator.joint : Operator → String
  | .first => ""
  | .sequence => " ; "
  | .andThen => " && "
  | .orElse => " || "

/-- The operator of a command stands in front of its words. -/
def printChain (chain : List (Operator × List String)) : String :=
  String.join (chain.map fun command => command.1.joint ++ printWords command.2)

theorem Operator.toList_joint {operator : Operator} (real : operator ≠ .first) :
    operator.joint.toList = ' ' :: (operator.mark ++ [' ']) := by
  cases operator with
  | first => contradiction
  | sequence | andThen | orElse => rfl

@[simp] theorem toList_printChain_nil : (printChain []).toList = [] := rfl

theorem toList_printChain_cons (command : Operator × List String)
    (later : List (Operator × List String)) :
    (printChain (command :: later)).toList =
      command.1.joint.toList ++ ((printWords command.2).toList ++ (printChain later).toList) := by
  simp [printChain]

@[simp] theorem toList_printWords_nil : (printWords []).toList = [] := rfl

@[simp] theorem toList_printWords_singleton (word : String) :
    (printWords [word]).toList = (printWord word).toList := by
  simp [printWords]

theorem toList_printWords_cons (word next : String) (words : List String) :
    (printWords (word :: next :: words)).toList =
      (printWord word).toList ++ ([' '] ++ (printWords (next :: words)).toList) := by
  simp [printWords, List.intercalate]

/-- A printed vector starts with the quote of its first word. -/
theorem head_printWords {words : List String} (nonempty : words ≠ []) (rest : List Char) :
    ((printWords words).toList ++ rest).head? = some '"' := by
  cases words with
  | nil => contradiction
  | cons word words =>
      cases words with
      | nil => simp [printWord]
      | cons next words => simp [toList_printWords_cons, printWord]

/-- A text is self-contained when it has no operator and leaves the scanner as it found it,
whatever follows. -/
def SelfContained (text : List Char) : Prop :=
  ∀ rest, Unbroken .initial text rest ∧ modeAfter .initial text rest = .initial

theorem SelfContained.append {first second : List Char} (left : SelfContained first)
    (right : SelfContained second) : SelfContained (first ++ second) := by
  intro rest
  obtain ⟨firstWhole, firstEnd⟩ := left (second ++ rest)
  obtain ⟨secondWhole, secondEnd⟩ := right rest
  constructor
  · rw [unbroken_append, firstEnd]
    exact ⟨firstWhole, secondWhole⟩
  · rw [modeAfter_append, firstEnd, secondEnd]

/-- White space is no operator. -/
theorem selfContained_whiteSpace {gap : List Char} (white : ∀ char ∈ gap, isWhiteSpace char) :
    SelfContained gap := by
  intro rest
  refine ⟨?_, modeAfter_whiteSpace rest white⟩
  induction gap with
  | nil => trivial
  | cons char gap inductionHypothesis =>
      have here := white char List.mem_cons_self
      have later := inductionHypothesis fun other member => white other (List.mem_cons_of_mem _ member)
      have plain : char ≠ ';' ∧ char ≠ '&' ∧ char ≠ '|' := by
        refine ⟨?_, ?_, ?_⟩ <;> (rintro rfl; exact absurd here (by decide))
      constructor
      · simp [boundary, plain]
      · rw [Mode.step_initial_of_whiteSpace _ here]
        exact later

theorem space_separates : ∀ char ∈ [' '], Separates char := by
  simp [Separates]

theorem space_whiteSpace : ∀ char ∈ [' '], isWhiteSpace char := by
  intro char member
  rw [List.mem_singleton.mp member]
  rfl

/-- A printed character keeps the scanner between the double quotes. -/
theorem printChar_inside (char : Char) (rest : List Char) :
    Unbroken ⟨.inDoubleQuote, false⟩ (printChar char) rest ∧
      modeAfter ⟨.inDoubleQuote, false⟩ (printChar char) rest = ⟨.inDoubleQuote, false⟩ := by
  by_cases special : char = '"' ∨ char = '\\'
  · have escape : Mode.step ⟨.inDoubleQuote, false⟩ '\\' (some char) =
        (⟨.inDoubleQuote, true⟩, .escape) := by
      rcases special with rfl | rfl <;> rfl
    have literal (next : Option Char) : Mode.step ⟨.inDoubleQuote, true⟩ char next =
        (⟨.inDoubleQuote, false⟩, .literal) := rfl
    simp [printChar, special, Unbroken, modeAfter, escape, literal, boundary]
  · have read (next : Option Char) : Mode.step ⟨.inDoubleQuote, false⟩ char next =
        (⟨.inDoubleQuote, false⟩, .literal) := by
      rw [not_or] at special
      simp [Mode.step, QuoteState.classify, special]
    simp [printChar, special, Unbroken, modeAfter, read, boundary]

theorem printChars_inside (word rest : List Char) :
    Unbroken ⟨.inDoubleQuote, false⟩ (word.flatMap printChar) rest ∧
      modeAfter ⟨.inDoubleQuote, false⟩ (word.flatMap printChar) rest =
        ⟨.inDoubleQuote, false⟩ := by
  induction word with
  | nil => exact ⟨trivial, rfl⟩
  | cons char word inductionHypothesis =>
      obtain ⟨here, stays⟩ := printChar_inside char (word.flatMap printChar ++ rest)
      rw [List.flatMap_cons, unbroken_append, modeAfter_append, stays]
      exact ⟨⟨here, inductionHypothesis.1⟩, inductionHypothesis.2⟩

theorem selfContained_printWord (word : String) : SelfContained (printWord word).toList := by
  intro rest
  have opened (next : Option Char) : Mode.initial.step '"' next =
      (⟨.inDoubleQuote, false⟩, .quote) := rfl
  have closed (next : Option Char) : Mode.step ⟨.inDoubleQuote, false⟩ '"' next =
      (.initial, .quote) := rfl
  obtain ⟨inside, stays⟩ := printChars_inside word.toList ('"' :: rest)
  rw [printWord, String.toList_ofList]
  constructor
  · refine ⟨by simp [opened, boundary], ?_⟩
    rw [opened, unbroken_append, List.singleton_append, stays]
    exact ⟨inside, by simp [closed, boundary], trivial⟩
  · rw [modeAfter_cons, opened, modeAfter_append, List.singleton_append, stays]
    rfl

theorem selfContained_printWords (words : List String) :
    SelfContained (printWords words).toList := by
  induction words with
  | nil => exact fun _ => ⟨trivial, rfl⟩
  | cons word words inductionHypothesis =>
      cases words with
      | nil =>
          rw [toList_printWords_singleton]
          exact selfContained_printWord word
      | cons next words =>
          have gap := selfContained_whiteSpace space_whiteSpace
          rw [toList_printWords_cons]
          exact (selfContained_printWord word).append (gap.append inductionHypothesis)

/-- Between double quotes a printed character is one item of the body. -/
def BodyItem.ofChar (char : Char) : BodyItem :=
  if char = '"' ∨ char = '\\' then .escaped char else .plain char

theorem BodyItem.spelling_ofChar (char : Char) : (BodyItem.ofChar char).spelling = printChar char := by
  unfold BodyItem.ofChar printChar
  split <;> rfl

theorem BodyItem.value_ofChar (char : Char) : (BodyItem.ofChar char).value = char := by
  unfold BodyItem.ofChar
  split <;> rfl

theorem BodyItem.fits_ofChar (char : Char) (rest : List Char) :
    (BodyItem.ofChar char).Fits rest := by
  unfold BodyItem.ofChar
  split
  · assumption
  · rename_i plain
    rw [not_or] at plain
    exact ⟨plain.1, fun backslash => absurd backslash plain.2⟩

theorem bodyFits_ofChar (word rest : List Char) : BodyFits (word.map BodyItem.ofChar) rest := by
  induction word with
  | nil => trivial
  | cons char word inductionHypothesis =>
      exact ⟨BodyItem.fits_ofChar char _, inductionHypothesis⟩

/-- A printed word with the separators behind it is one word of the grammar of quoting. -/
theorem wordsFrom_printWord (word : String) {gap : List Char} (rest : List Char)
    (separators : ∀ char ∈ gap, Separates char) (ends : gap = [] → rest = []) :
    wordsFrom .initial none ((printWord word).toList ++ (gap ++ rest)) =
      word.toList :: wordsFrom .initial none rest := by
  let piece : WordPiece := .doubleQuoted (word.toList.map BodyItem.ofChar) true
  have spelled : piece.spelling = (printWord word).toList := by
    simp [piece, WordPiece.spelling, closing, printWord, List.flatMap_map, BodyItem.spelling_ofChar]
  have valued : piece.value = word.toList := by
    simp [piece, WordPiece.value, Function.comp_def, BodyItem.value_ofChar]
  have fits : piece.Fits (gap ++ rest) := ⟨bodyFits_ofChar _ _, by simp⟩
  have read := wordsFrom_entry ⟨[piece], gap, by simp, separators⟩ ⟨fits, trivial⟩ ends
  simpa [WordEntry.spelling, WordEntry.value, spelled, valued] using read

/-- The tokenizer undoes the printing of a vector, also with a gap behind it. -/
theorem wordsFrom_printWords (words : List String) {gap : List Char}
    (separators : ∀ char ∈ gap, Separates char) :
    wordsFrom .initial none ((printWords words).toList ++ gap) = words.map String.toList := by
  induction words with
  | nil =>
      have empty := wordsFrom_gap [] separators
      rwa [List.append_nil] at empty
  | cons word words inductionHypothesis =>
      cases words with
      | nil =>
          have read := wordsFrom_printWord word [] separators fun _ => rfl
          rwa [List.append_nil, ← toList_printWords_singleton] at read
      | cons next words =>
          rw [toList_printWords_cons, List.append_assoc, List.append_assoc,
            wordsFrom_printWord word _ space_separates (by simp), inductionHypothesis]
          rfl

/-- A part that holds one printed vector between two gaps reads as this vector. -/
theorem read_printedPart (operator : Operator) {words : List String} (nonempty : words ≠ [])
    {front : List Char} (frontWhite : ∀ char ∈ front, isWhiteSpace char) {gap : List Char}
    (separators : ∀ char ∈ gap, Separates char) :
    let part := LinePart.ofRaw operator (front ++ ((printWords words).toList ++ gap))
    (part.segment.operator, tokenize part.segment.text) = (operator, words) := by
  have trimmed : ∀ char ∈ ((printWords words).toList ++ gap).head?, isWhiteSpace char = false := by
    rw [head_printWords nonempty]
    rintro char ⟨⟩
    decide
  have text : trimStart (front ++ ((printWords words).toList ++ gap)) =
      (printWords words).toList ++ gap := trimStart_append frontWhite trimmed
  simp only [LinePart.segment, LinePart.ofRaw, text, tokenize, String.toList_ofList, wordsOf,
    wordsFrom_printWords words separators, List.map_map]
  simp [Function.comp_def]

/-- From the start of a command on, a printed chain is a sequence of correctly cut parts that read
as its commands. -/
theorem wellCut_printChain (operator : Operator) {words : List String}
    {later : List (Operator × List String)} {front : List Char}
    (frontWhite : ∀ char ∈ front, isWhiteSpace char) (nonempty : words ≠ [])
    (laterFit : ∀ command ∈ later, command.1 ≠ .first ∧ command.2 ≠ []) :
    ∃ part parts, part.operator = operator ∧ WellCut part parts ∧
      front ++ ((printWords words).toList ++ (printChain later).toList) =
        part.raw ++ spelling parts ∧
      (part :: parts).map (fun part => (part.segment.operator, tokenize part.segment.text)) =
        (operator, words) :: later := by
  induction later generalizing operator words front with
  | nil =>
      have contained := (selfContained_whiteSpace frontWhite).append (selfContained_printWords words)
      have noGap : ∀ char ∈ ([] : List Char), Separates char := by simp
      have read := read_printedPart operator nonempty frontWhite noGap
      rw [List.append_nil] at read
      refine ⟨.ofRaw operator (front ++ (printWords words).toList), [], rfl, ?_, ?_, ?_⟩
      · simpa [WellCut] using (contained []).1
      · simp [spelling]
      · rw [List.map_singleton, read]
  | cons command later inductionHypothesis =>
      obtain ⟨next, nextWords⟩ := command
      obtain ⟨real, nextNonempty⟩ := laterFit _ List.mem_cons_self
      obtain ⟨part, parts, rfl, cut, spelled, reads⟩ :=
        inductionHypothesis next space_whiteSpace nextNonempty
          fun other member => laterFit other (List.mem_cons_of_mem _ member)
      have contained := (selfContained_whiteSpace frontWhite).append
        ((selfContained_printWords words).append (selfContained_whiteSpace space_whiteSpace))
      obtain ⟨whole, ending⟩ := contained (spelling (part :: parts))
      refine ⟨.ofRaw operator (front ++ ((printWords words).toList ++ [' '])), part :: parts, rfl,
        ⟨real, by simpa using whole, by simpa using ending, cut⟩, ?_, ?_⟩
      · rw [toList_printChain_cons, Operator.toList_joint real, LinePart.raw_ofRaw, spelling_cons,
          ← spelled]
        simp
      · rw [List.map_cons, reads, read_printedPart operator nonempty frontWhite space_separates]

/-- Every chain of argument vectors can be written as a line. Splitting the line and tokenizing
its commands gives the operators and the vectors back, whatever text the words hold. -/
theorem splitChain_printChain {words : List String} {later : List (Operator × List String)}
    (nonempty : words ≠ []) (laterFit : ∀ command ∈ later, command.1 ≠ .first ∧ command.2 ≠ []) :
    (splitChain (printChain ((.first, words) :: later))).map
        (fun segment => (segment.operator, tokenize segment.text)) =
      (.first, words) :: later := by
  have noFront : ∀ char ∈ ([] : List Char), isWhiteSpace char := by simp
  obtain ⟨part, parts, front, cut, spelled, reads⟩ :=
    wellCut_printChain .first noFront nonempty laterFit
  have line : (printChain ((.first, words) :: later)).toList = part.raw ++ spelling parts := by
    rw [toList_printChain_cons, ← spelled]
    rfl
  rw [splitChain_of_wellCut cut front line, List.map_map]
  exact reads

/-- The words hold operators, quotes, backslashes and line breaks, and one of them is empty. -/
theorem splitChain_printChain_syntax :
    (["echo", "a;b", "\"&& \\"] ≠ [] ∧
      ∀ command ∈ [(Operator.orElse, ["", "'\n\\\""]), (Operator.sequence, ["\u3000"])],
        command.1 ≠ .first ∧ command.2 ≠ []) ∧
    (splitChain (printChain [(.first, ["echo", "a;b", "\"&& \\"]), (.orElse, ["", "'\n\\\""]),
        (.sequence, ["\u3000"])])).map (fun segment => (segment.operator, tokenize segment.text)) =
      [(.first, ["echo", "a;b", "\"&& \\"]), (.orElse, ["", "'\n\\\""]),
        (.sequence, ["\u3000"])] :=
  ⟨⟨by decide, by decide⟩, splitChain_printChain (by decide) (by decide)⟩

end ChainShell
