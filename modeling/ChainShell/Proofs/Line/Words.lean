/-
This file shows that the words of a command are the values of its words in the grammar of
quoting. A command that is more than white space has a word.
-/

import ChainShell.Line.Chain
import ChainShell.Line.Word
import ChainShell.Proofs.Line.Grammar

namespace ChainShell

/-- A character that stands for itself joins the open word. -/
theorem wordsFrom_text {mode following : Mode} {role : Role} {char : Char} {rest : List Char}
    (current : Option (List Char)) (stands : role = .bare ∨ role = .literal)
    (read : mode.step char rest.head? = (following, role)) :
    wordsFrom mode current (char :: rest) =
      wordsFrom following (some (char :: current.getD [])) rest := by
  rcases stands with rfl | rfl <;> cases current <;> simp [wordsFrom, read]

/-- A quote or an escape opens a word and adds nothing to it. -/
theorem wordsFrom_sign {mode following : Mode} {role : Role} {char : Char} {rest : List Char}
    (current : Option (List Char)) (sign : role = .quote ∨ role = .escape)
    (read : mode.step char rest.head? = (following, role)) :
    wordsFrom mode current (char :: rest) = wordsFrom following (some (current.getD [])) rest := by
  rcases sign with rfl | rfl <;> cases current <;> simp [wordsFrom, read]

theorem step_separator {char : Char} (next : Option Char) (separates : Separates char) :
    Mode.initial.step char next = (.initial, .blank) := by
  rcases separates with rfl | rfl <;> rfl

/-- Separators in front of a word add nothing. -/
theorem wordsFrom_gap {gap : List Char} (rest : List Char)
    (separators : ∀ char ∈ gap, Separates char) :
    wordsFrom .initial none (gap ++ rest) = wordsFrom .initial none rest := by
  induction gap with
  | nil => rfl
  | cons char gap inductionHypothesis =>
      have separates := separators char List.mem_cons_self
      simp only [List.cons_append, wordsFrom, step_separator _ separates]
      exact inductionHypothesis fun other member => separators other (List.mem_cons_of_mem _ member)

/-- Separators and the end of the text close the open word. -/
theorem wordsFrom_gap_some {gap : List Char} (word rest : List Char)
    (separators : ∀ char ∈ gap, Separates char) (ends : gap = [] → rest = []) :
    wordsFrom .initial (some word) (gap ++ rest) =
      word.reverse :: wordsFrom .initial none rest := by
  cases gap with
  | nil =>
      obtain rfl := ends rfl
      rfl
  | cons char gap =>
      have separates := separators char List.mem_cons_self
      simp only [List.cons_append, wordsFrom, step_separator _ separates]
      rw [wordsFrom_gap rest fun other member => separators other (List.mem_cons_of_mem _ member)]

/-- Between single quotes every character stands for itself. -/
theorem wordsFrom_singleBody {body : List Char} (word rest : List Char) (absent : '\'' ∉ body) :
    wordsFrom ⟨.inSingleQuote, false⟩ (some word) (body ++ rest) =
      wordsFrom ⟨.inSingleQuote, false⟩ (some (body.reverse ++ word)) rest := by
  induction body generalizing word with
  | nil => rfl
  | cons char body inductionHypothesis =>
      have other : char ≠ '\'' := fun quote => absent (quote ▸ List.mem_cons_self)
      have read : Mode.step ⟨.inSingleQuote, false⟩ char (body ++ rest).head? =
          (⟨.inSingleQuote, false⟩, .literal) := by
        simp [Mode.step, QuoteState.classify, other]
      rw [List.cons_append, wordsFrom_text _ (.inr rfl) read,
        inductionHypothesis _ (List.not_mem_of_not_mem_cons absent)]
      simp

/-- Between double quotes every item adds the character it stands for. -/
theorem wordsFrom_doubleBody {body : List BodyItem} {rest : List Char} (word : List Char)
    (fits : BodyFits body rest) :
    wordsFrom ⟨.inDoubleQuote, false⟩ (some word) (body.flatMap BodyItem.spelling ++ rest) =
      wordsFrom ⟨.inDoubleQuote, false⟩ (some ((body.map BodyItem.value).reverse ++ word))
        rest := by
  induction body generalizing word with
  | nil => rfl
  | cons item body inductionHypothesis =>
      obtain ⟨itemFits, bodyFits⟩ := fits
      have continued := fun word => inductionHypothesis word bodyFits
      cases item with
      | plain char =>
          obtain ⟨other, alone⟩ := itemFits
          have read : Mode.step ⟨.inDoubleQuote, false⟩ char
              (body.flatMap BodyItem.spelling ++ rest).head? =
              (⟨.inDoubleQuote, false⟩, .literal) := by
            simp only [Mode.step, QuoteState.classify, escapes, escapableInDoubleQuote]
            cases next : (body.flatMap BodyItem.spelling ++ rest).head? <;> grind
          rw [List.flatMap_cons, List.append_assoc]
          simp only [BodyItem.spelling, List.cons_append, List.nil_append]
          rw [wordsFrom_text _ (.inr rfl) read, continued]
          simp [BodyItem.value]
      | escaped char =>
          have escape : Mode.step ⟨.inDoubleQuote, false⟩ '\\'
              (char :: (body.flatMap BodyItem.spelling ++ rest)).head? =
              (⟨.inDoubleQuote, true⟩, .escape) := by
            rcases itemFits with rfl | rfl <;> rfl
          have read : Mode.step ⟨.inDoubleQuote, true⟩ char
              (body.flatMap BodyItem.spelling ++ rest).head? =
              (⟨.inDoubleQuote, false⟩, .literal) := rfl
          rw [List.flatMap_cons, List.append_assoc]
          simp only [BodyItem.spelling, List.cons_append, List.nil_append]
          rw [wordsFrom_sign _ (.inr rfl) escape, wordsFrom_text _ (.inr rfl) read, continued]
          simp [BodyItem.value]

/-- A closing quote ends the quoted stretch, and so does the end of the text. -/
theorem wordsFrom_closing {state : QuoteState} {quote : Char} {closed : Bool} {rest : List Char}
    (word : List Char)
    (closes : ∀ next, Mode.step ⟨state, false⟩ quote next = (.initial, .quote))
    (openEnd : closed = false → rest = []) :
    wordsFrom ⟨state, false⟩ (some word) (closing quote closed ++ rest) =
      wordsFrom .initial (some word) rest := by
  cases closed with
  | true => exact wordsFrom_sign _ (.inl rfl) (closes _)
  | false =>
      obtain rfl := openEnd rfl
      rfl

/-- A piece adds its value to the open word and leaves the tokenizer outside quotes. -/
theorem wordsFrom_piece {piece : WordPiece} {rest : List Char} (current : Option (List Char))
    (fits : piece.Fits rest) :
    wordsFrom .initial current (piece.spelling ++ rest) =
      wordsFrom .initial (some (piece.value.reverse ++ current.getD [])) rest := by
  cases piece with
  | bare char =>
      have read : Mode.initial.step char rest.head? = (.initial, .bare) := by
        simp only [WordPiece.Fits] at fits
        simp only [Mode.step, Mode.initial, QuoteState.classify, isBlank]
        grind
      exact wordsFrom_text _ (.inl rfl) read
  | backslash =>
      have read : Mode.initial.step '\\' rest.head? = (.initial, .bare) := by
        simp only [WordPiece.Fits] at fits
        simp only [Mode.step, Mode.initial, QuoteState.classify, isBlank, escapes,
          escapableUnquoted]
        cases next : rest.head? <;> grind
      exact wordsFrom_text _ (.inl rfl) read
  | escaped char =>
      have escape : Mode.initial.step '\\' (char :: rest).head? =
          (⟨.unquoted, true⟩, .escape) := by
        simp only [WordPiece.Fits] at fits
        simp only [Mode.step, Mode.initial, QuoteState.classify, isBlank, escapes,
          escapableUnquoted, List.head?_cons]
        grind
      have read : Mode.step ⟨.unquoted, true⟩ char rest.head? = (.initial, .literal) := rfl
      simp only [WordPiece.spelling, List.cons_append, List.nil_append]
      rw [wordsFrom_sign _ (.inr rfl) escape, wordsFrom_text _ (.inr rfl) read]
      rfl
  | singleQuoted body closed =>
      obtain ⟨absent, openEnd⟩ := fits
      have quote : Mode.initial.step '\'' (body ++ (closing '\'' closed ++ rest)).head? =
          (⟨.inSingleQuote, false⟩, .quote) := rfl
      simp only [WordPiece.spelling, List.cons_append, List.append_assoc]
      rw [wordsFrom_sign _ (.inl rfl) quote, wordsFrom_singleBody _ _ absent,
        wordsFrom_closing _ (fun _ => rfl) openEnd]
      rfl
  | doubleQuoted body closed =>
      obtain ⟨bodyFits, openEnd⟩ := fits
      have quote : Mode.initial.step '"'
          (body.flatMap BodyItem.spelling ++ (closing '"' closed ++ rest)).head? =
          (⟨.inDoubleQuote, false⟩, .quote) := rfl
      simp only [WordPiece.spelling, List.cons_append, List.append_assoc]
      rw [wordsFrom_sign _ (.inl rfl) quote, wordsFrom_doubleBody _ bodyFits,
        wordsFrom_closing _ (fun _ => rfl) openEnd]
      rfl

/-- The pieces of a word add their values in order. -/
theorem wordsFrom_pieces {pieces : List WordPiece} {rest : List Char} (word : List Char)
    (fits : EachFits WordPiece.spelling WordPiece.Fits pieces rest) :
    wordsFrom .initial (some word) (pieces.flatMap WordPiece.spelling ++ rest) =
      wordsFrom .initial (some ((pieces.flatMap WordPiece.value).reverse ++ word)) rest := by
  induction pieces generalizing word with
  | nil => rfl
  | cons piece pieces inductionHypothesis =>
      rw [List.flatMap_cons, List.append_assoc, wordsFrom_piece _ fits.1,
        inductionHypothesis _ fits.2]
      simp

/-- A word in front of a gap is read as its value. -/
theorem wordsFrom_entry (entry : WordEntry) {rest : List Char}
    (fits : EachFits WordPiece.spelling WordPiece.Fits entry.pieces (entry.gap ++ rest))
    (ends : entry.gap = [] → rest = []) :
    wordsFrom .initial none (entry.spelling ++ rest) =
      entry.value :: wordsFrom .initial none rest := by
  obtain ⟨pieces, gap, nonempty, separators⟩ := entry
  obtain ⟨piece, pieces, rfl⟩ := List.exists_cons_of_ne_nil nonempty
  obtain ⟨pieceFits, piecesFit⟩ := fits
  simp only [WordEntry.spelling, List.flatMap_cons, List.append_assoc]
  rw [wordsFrom_piece _ pieceFits, wordsFrom_pieces _ piecesFit,
    wordsFrom_gap_some _ _ separators ends]
  simp [WordEntry.value]

theorem wordsFrom_entries {entries : List WordEntry} (fits : EntriesFit entries) :
    wordsFrom .initial none (entries.flatMap WordEntry.spelling) =
      entries.map WordEntry.value := by
  induction entries with
  | nil => rfl
  | cons entry later inductionHypothesis =>
      obtain ⟨piecesFit, parted, laterFit⟩ := fits
      have ends : entry.gap = [] → later.flatMap WordEntry.spelling = [] := by
        intro gap
        have last : later = [] := not_imp_not.mp parted gap
        rw [last]
        rfl
      rw [List.flatMap_cons, wordsFrom_entry entry piecesFit ends, inductionHypothesis laterFit]
      rfl

/-- The tokenizer returns the values of the words of a command. -/
theorem tokenize_spelling (layout : CommandLayout) :
    tokenize (String.ofList layout.spelling) = layout.values.map String.ofList := by
  rw [tokenize, String.toList_ofList, wordsOf, CommandLayout.spelling,
    wordsFrom_gap _ layout.separators, wordsFrom_entries layout.fits]
  rfl

/-- Every text can be written in the grammar of quoting in exactly one way, and the tokenizer
returns the values of the words written there. -/
theorem tokenize_layout (text : String) :
    (∃! layout : CommandLayout, layout.spelling = text.toList) ∧
      ∀ layout : CommandLayout, layout.spelling = text.toList →
        tokenize text = layout.values.map String.ofList := by
  refine ⟨existsUnique_layout text.toList, ?_⟩
  intro layout spelled
  rw [← tokenize_spelling, spelled, String.ofList_toList]

/-- A command is blank when it is white space all through. -/
theorem Segment.isBlank_iff {segment : Segment} :
    segment.isBlank = true ↔ ∀ char ∈ segment.text.toList, isWhiteSpace char = true := by
  rw [Segment.isBlank, List.isEmpty_iff, trim, trimEnd, List.reverse_eq_nil_iff,
    List.dropWhile_eq_nil_iff]
  simp only [List.mem_reverse]
  constructor
  · intro behind char member
    rw [← List.takeWhile_append_dropWhile (p := isWhiteSpace) (l := segment.text.toList)] at member
    rcases List.mem_append.mp member with inGap | inText
    · exact List.mem_takeWhile_imp inGap
    · exact behind char inText
  · exact fun white char member => white char ((List.dropWhile_suffix _).subset member)

/-- A command that is more than white space has a word. -/
theorem tokenize_ne_nil {segment : Segment} (content : segment.isBlank = false) :
    tokenize segment.text ≠ [] := by
  obtain ⟨layout, spelled, -⟩ := existsUnique_layout segment.text.toList
  intro wordless
  have noEntry : layout.entries = [] := by
    rw [← String.ofList_toList (s := segment.text), ← spelled, tokenize_spelling] at wordless
    simpa [CommandLayout.values] using wordless
  have allWhite : ∀ char ∈ segment.text.toList, isWhiteSpace char = true := by
    intro char member
    rw [← spelled, CommandLayout.spelling, noEntry, List.flatMap_nil, List.append_nil] at member
    rcases layout.separators char member with rfl | rfl <;> rfl
  exact Bool.eq_false_iff.mp content (Segment.isBlank_iff.mpr allWhite)

end ChainShell
