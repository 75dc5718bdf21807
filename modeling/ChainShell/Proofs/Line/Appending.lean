/-
This file adds text to the end of a line. A word without operators goes to the last command, and
when the last word of this command is still open it goes to that word. Nothing else changes.
-/

import ChainShell.Proofs.Line.Joining
import ChainShell.Proofs.Line.Relexing

namespace ChainShell

/-- A plain character is neither a quote nor a backslash. -/
def IsPlain (char : Char) : Prop := char ≠ '\'' ∧ char ≠ '"' ∧ char ≠ '\\'

instance (char : Char) : Decidable (IsPlain char) := inferInstanceAs (Decidable (_ ∧ _))

section Plain

variable {text : List Char}

/-- Outside quotes a plain character is a blank or a bare character, whatever follows. -/
theorem step_plain {char : Char} (plain : IsPlain char) (next : Option Char) :
    Mode.initial.step char next = (.initial, if isBlank char then .blank else .bare) := by
  obtain ⟨quote, double, backslash⟩ := plain
  cases blank : isBlank char <;>
    simp [Mode.step, Mode.initial, QuoteState.classify, blank, quote, double, backslash]

theorem modeAfter_plain (plain : ∀ char ∈ text, IsPlain char) (rest : List Char) :
    modeAfter .initial text rest = .initial := by
  induction text with
  | nil => rfl
  | cons char text inductionHypothesis =>
      rw [List.forall_mem_cons] at plain
      rw [modeAfter_cons, step_plain plain.1]
      exact inductionHypothesis plain.2

/-- Text without quotes and backslashes is closed. -/
theorem closedText_plain (plain : ∀ char ∈ text, IsPlain char) : ClosedText text := by
  refine ⟨by rw [modeAfter_plain plain]; rfl, ?_⟩
  rintro item last ⟨backslash, -⟩
  rcases List.eq_nil_or_concat text with rfl | ⟨front, char, rfl⟩
  · simp [scan, scanFrom] at last
  · rw [List.concat_eq_append] at last plain
    obtain rfl := Option.some.inj ((getLast?_scanFrom .initial 0 front char).symm.trans last)
    exact (plain char (by simp)).2.2 backslash

/-- So is every text that such a text starts with. -/
theorem closedText_of_prefix {front : List Char} (plain : ∀ char ∈ text, IsPlain char)
    (starts : front <+: text) : ClosedText (String.ofList front).toList := by
  rw [String.toList_ofList]
  exact closedText_plain fun char member => plain char (starts.subset member)

/-- The last character of a plain text is a blank or a bare character. -/
theorem endsBare_plain {char : Char} (plain : IsPlain char) (visible : isBlank char = false)
    (front : List Char) (frontPlain : ∀ other ∈ front, IsPlain other) :
    EndsBare char (front ++ [char]) := by
  rw [endsBare_concat, modeAfter_plain frontPlain, step_plain plain, visible]
  exact ⟨rfl, rfl⟩

theorem scanFrom_plain_bare (plain : ∀ char ∈ text, IsPlain char ∧ isBlank char = false)
    (position : Nat) : ∀ item ∈ scanFrom .initial position text, item.role = .bare := by
  induction text generalizing position with
  | nil => simp [scanFrom]
  | cons char text inductionHypothesis =>
      rw [List.forall_mem_cons] at plain
      simp only [scanFrom, step_plain plain.1.1, plain.1.2, List.forall_mem_cons]
      exact ⟨rfl, inductionHypothesis plain.2 _⟩

end Plain

/-- A scan keeps the characters of its text. -/
theorem map_char_scanFrom (mode : Mode) (position : Nat) (text : List Char) :
    (scanFrom mode position text).map Scanned.char = text := by
  induction text generalizing mode position with
  | nil => rfl
  | cons char text inductionHypothesis => simp [scanFrom, inductionHypothesis]

/-- No operator starts in a text without the signs of operators. -/
theorem unbroken_signless {text : List Char}
    (signless : ∀ char ∈ text, char ≠ ';' ∧ char ≠ '&' ∧ char ≠ '|') (mode : Mode)
    (rest : List Char) : Unbroken mode text rest := by
  induction text generalizing mode with
  | nil => trivial
  | cons char text inductionHypothesis =>
      rw [List.forall_mem_cons] at signless
      exact ⟨by simp [boundary, signless.1], inductionHypothesis signless.2 _⟩

/-- A word without such signs starts no operator at the place where it is added either. -/
theorem unbroken_append_signless {text word : List Char} (whole : Unbroken .initial text [])
    (settled : (modeAfter .initial text word).escaped = false)
    (signless : ∀ char ∈ word, char ≠ ';' ∧ char ≠ '&' ∧ char ≠ '|') :
    Unbroken .initial (text ++ word) [] := by
  rw [unbroken_append, List.append_nil]
  refine ⟨?_, unbroken_signless signless _ _⟩
  cases word with
  | nil => exact whole
  | cons char rest =>
      have sign := signless char List.mem_cons_self
      exact unbroken_extend 0 whole settled fun _ _ _ _ => sign.2

/-- Text behind a command belongs to it. -/
def Segment.append (segment : Segment) (word : String) : Segment :=
  { segment with text := segment.text ++ word }

/-- A part goes on with a text that starts with no white space. -/
def LinePart.append (part : LinePart) (word : List Char)
    (visible : ∀ char ∈ word.head?, isWhiteSpace char = false) : LinePart where
  operator := part.operator
  gap := part.gap
  text := part.text ++ word
  gapWhite := part.gapWhite
  textTrimmed char member := by
    rw [List.head?_append] at member
    rcases Option.or_eq_some_iff.mp member with inText | ⟨-, inWord⟩
    · exact part.textTrimmed char inText
    · exact visible char inWord

section Word

variable {word : List Char} (visible : ∀ char ∈ word.head?, isWhiteSpace char = false)

theorem LinePart.raw_append (part : LinePart) : (part.append word visible).raw = part.raw ++ word :=
  (List.append_assoc ..).symm

theorem LinePart.segment_append (part : LinePart) :
    (part.append word visible).segment = part.segment.append (String.ofList word) := by
  simp [LinePart.segment, LinePart.append, Segment.append]

/-- A correctly cut line stays so when its last part goes on without an operator. -/
theorem WellCut.append_word {part : LinePart} {later : List LinePart} (cut : WellCut part later)
    (whole : ∀ last ∈ (part :: later).getLast?, Unbroken .initial (last.raw ++ word) []) :
    ∃ grown others earlier last, grown.operator = part.operator ∧ WellCut grown others ∧
      grown.raw ++ spelling others = part.raw ++ (spelling later ++ word) ∧
      part :: later = earlier ++ [last] ∧
      grown :: others = earlier ++ [last.append word visible] := by
  induction later generalizing part with
  | nil =>
      refine ⟨part.append word visible, [], [], part, rfl, ?_, ?_, rfl, rfl⟩
      · rw [WellCut, LinePart.raw_append]
        exact whole part rfl
      · simp [LinePart.raw_append, spelling]
  | cons next later inductionHypothesis =>
      obtain ⟨real, here, ending, rest⟩ := cut
      obtain ⟨grown, others, earlier, last, same, grownCut, spelled, divided, grownDivided⟩ :=
        inductionHypothesis rest fun last member => whole last (by simpa using member)
      have longer : spelling (grown :: others) = spelling (next :: later) ++ word := by
        rw [spelling_cons, spelled, same, spelling_cons]
        simp
      have goesOn : (spelling (grown :: others)).head? = (spelling (next :: later)).head? := by
        rw [longer, head?_spelling_append real]
      refine ⟨part, grown :: others, part :: earlier, last, rfl, ⟨by rwa [same], ?_, ?_, grownCut⟩,
        by rw [longer], by rw [divided]; rfl, by rw [grownDivided]; rfl⟩
      · exact (unbroken_congr goesOn).mpr here
      · exact (modeAfter_congr goesOn).trans ending

end Word

/-- A word without operators behind a closed line belongs to the last command of the line. -/
theorem splitChain_append_word {line word : String} (closed : ClosedText line.toList)
    (signless : ∀ char ∈ word.toList, char ≠ ';' ∧ char ≠ '&' ∧ char ≠ '|')
    (visible : ∀ char ∈ word.toList.head?, isWhiteSpace char = false) :
    ∃ earlier last, splitChain line = earlier ++ [last] ∧
      splitChain (line ++ word) = earlier ++ [last.append word] := by
  obtain ⟨part, parts, front, spelled, cut⟩ := wellCut_exists .first line.toList
  have whole : ∀ last ∈ (part :: parts).getLast?,
      Unbroken .initial (last.raw ++ word.toList) [] := by
    intro last member
    obtain ⟨ending, same, alone, reached⟩ := cut.last word.toList
    obtain rfl : ending = last := Option.some.inj (same.symm.trans member)
    rw [← spelled, closed.modeAfter_eq] at reached
    -- The part ends where the line does, outside quotes and with no escape pending.
    exact unbroken_append_signless alone (by rw [← reached]; rfl) signless
  obtain ⟨grown, others, earlier, last, same, grownCut, longer, divided, grownDivided⟩ :=
    cut.append_word visible whole
  have grownLine : (line ++ word).toList = grown.raw ++ spelling others := by
    rw [longer, ← List.append_assoc, ← spelled, String.toList_append]
  refine ⟨earlier.map LinePart.segment, last.segment, ?_, ?_⟩
  · rw [splitChain_of_wellCut cut front spelled, divided, List.map_append, List.map_singleton]
  · rw [splitChain_of_wellCut grownCut (same.trans front) grownLine, grownDivided, List.map_append,
      List.map_singleton, LinePart.segment_append, String.ofList_toList]

/-- Bare characters go to the open word. -/
theorem gatherWords_bare (word : List Char) {items : List Scanned}
    (bare : ∀ item ∈ items, item.role = .bare) :
    gatherWords (some word) items = [word.reverse ++ items.map Scanned.char] := by
  induction items generalizing word with
  | nil => simp [gatherWords]
  | cons item items inductionHypothesis =>
      rw [List.forall_mem_cons] at bare
      simp [gatherWords, bare.1, inductionHypothesis _ bare.2]

/-- Bare characters behind items that leave a word open go to this word. -/
theorem gatherWords_append_bare (current : Option (List Char)) {items extra : List Scanned}
    (bare : ∀ item ∈ extra, item.role = .bare) (started : items = [] → current.isSome)
    (inWord : ∀ item ∈ items.getLast?, item.role ≠ .blank) :
    ∃ words word, gatherWords current items = words ++ [word] ∧
      gatherWords current (items ++ extra) = words ++ [word ++ extra.map Scanned.char] := by
  induction items generalizing current with
  | nil =>
      obtain ⟨word, rfl⟩ := Option.isSome_iff_exists.mp (started rfl)
      exact ⟨[], word.reverse, rfl, gatherWords_bare word bare⟩
  | cons item items inductionHypothesis =>
      have laterInWord : ∀ later ∈ items.getLast?, later.role ≠ .blank := by
        intro later member
        refine inWord later ?_
        cases items with
        | nil => simp at member
        | cons next items => simpa using member
      cases role : item.role with
      | bare | literal =>
          have opened := inductionHypothesis (some (item.char :: current.getD []))
            (fun _ => rfl) laterInWord
          cases current <;> simpa [gatherWords, role] using opened
      | quote | escape =>
          have opened := inductionHypothesis (some (current.getD []))
            (fun _ => rfl) laterInWord
          cases current <;> simpa [gatherWords, role] using opened
      | blank =>
          -- The last item is no blank, so a word follows behind this one.
          have goesOn : items ≠ [] := by
            rintro rfl
            exact inWord item rfl role
          obtain ⟨words, word, read, readOn⟩ := inductionHypothesis none
            (fun empty => absurd empty goesOn) laterInWord
          cases current with
          | none => exact ⟨words, word, by simp [gatherWords, role, read, readOn]⟩
          | some first =>
              exact ⟨first.reverse :: words, word, by simp [gatherWords, role, read, readOn]⟩

/-- Plain characters behind a closed text that ends inside a word go to this word. -/
theorem tokenize_append_word {text word : String} {sign : Char} (closed : ClosedText text.toList)
    (inWord : EndsBare sign text.toList)
    (plain : ∀ char ∈ word.toList, IsPlain char ∧ isBlank char = false) :
    ∃ words last, tokenize text = words ++ [last] ∧
      tokenize (text ++ word) = words ++ [last ++ word] := by
  have reached := closed.modeAfter_eq word.toList
  have settled : (modeAfter .initial text.toList word.toList).escaped = false := by
    rw [reached]
    rfl
  obtain ⟨item, ending, -, role⟩ := inWord
  have nonempty : scan text.toList ≠ [] := by
    intro empty
    simp [empty] at ending
  have notBlank : ∀ other ∈ (scan text.toList).getLast?, other.role ≠ .blank := by
    intro other member
    obtain rfl := Option.some.inj (ending.symm.trans member)
    rw [role]
    exact Role.noConfusion
  obtain ⟨words, last, read, readOn⟩ := gatherWords_append_bare none
    (scanFrom_plain_bare plain (0 + String.utf8Len text.toList))
    (fun empty => absurd empty nonempty) notBlank
  refine ⟨words.map String.ofList, String.ofList last, ?_, ?_⟩
  · rw [tokenize, wordsOf_eq_gatherWords, read, List.map_append, List.map_singleton]
  · rw [map_char_scanFrom] at readOn
    rw [tokenize, wordsOf_eq_gatherWords, String.toList_append, scan, scanFrom_append 0 settled,
      reached, ← scan, readOn]
    simp

/-- A plain word is read as itself. -/
theorem tokenize_word {word : String} (nonempty : word ≠ "")
    (plain : ∀ char ∈ word.toList, IsPlain char ∧ isBlank char = false) :
    tokenize word = [word] := by
  have bare := scanFrom_plain_bare plain 0
  have letters := map_char_scanFrom .initial 0 word.toList
  rw [tokenize, wordsOf_eq_gatherWords, scan]
  cases scanned : scanFrom .initial 0 word.toList with
  | nil =>
      rw [scanned] at letters
      exact absurd (by simpa using letters.symm) nonempty
  | cons item items =>
      rw [scanned, List.forall_mem_cons] at bare
      rw [scanned] at letters
      have read := gatherWords_bare [item.char] bare.2
      simp only [gatherWords, bare.1, Option.getD_none, read]
      simpa using congrArg String.ofList letters

end ChainShell
