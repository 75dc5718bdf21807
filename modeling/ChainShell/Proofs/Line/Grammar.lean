/-
This file states the grammar of quoting. A command is a sequence of words between runs of
separators, and a word is a sequence of pieces. Every text can be written in this grammar in
exactly one way.
-/

import ChainShell.Proofs.Text.Reading
import Mathlib.Data.List.TakeWhile

namespace ChainShell

/-- Every text starts with a run of characters of one kind, maybe an empty one. -/
theorem exists_run (Inside : Char → Prop) (text : List Char) :
    ∃ run rest, text = run ++ rest ∧ (∀ char ∈ run, Inside char) ∧
      ∀ next ∈ rest.head?, ¬ Inside next := by
  induction text with
  | nil => exact ⟨[], [], rfl, by simp, by simp⟩
  | cons char text inductionHypothesis =>
      by_cases inside : Inside char
      · obtain ⟨run, rest, rfl, all, ends⟩ := inductionHypothesis
        exact ⟨char :: run, rest, rfl, by simpa [inside] using all, ends⟩
      · exact ⟨[], char :: text, rfl, by simp, by simpa using inside⟩

/-- A run of characters of one kind is known from a text in which it ends. -/
theorem run_unique (Inside : Char → Prop) {first second rest other : List Char}
    (firstInside : ∀ char ∈ first, Inside char) (secondInside : ∀ char ∈ second, Inside char)
    (restEnds : ∀ next ∈ rest.head?, ¬ Inside next)
    (otherEnds : ∀ next ∈ other.head?, ¬ Inside next)
    (same : first ++ rest = second ++ other) : first = second ∧ rest = other := by
  induction first generalizing second with
  | nil =>
      cases second with
      | nil => exact ⟨rfl, same⟩
      | cons char second =>
          have outside := restEnds char (by rw [show rest = _ from same]; rfl)
          exact absurd (secondInside char List.mem_cons_self) outside
  | cons char first inductionHypothesis =>
      cases second with
      | nil =>
          have outside := otherEnds char (by rw [← show _ = other from same]; rfl)
          exact absurd (firstInside char List.mem_cons_self) outside
      | cons partner second =>
          obtain ⟨rfl, tails⟩ := List.cons.inj same
          obtain ⟨rfl, rests⟩ := inductionHypothesis
            (fun other member => firstInside other (List.mem_cons_of_mem _ member))
            (fun other member => secondInside other (List.mem_cons_of_mem _ member)) tails
          exact ⟨rfl, rests⟩

/-- One character between double quotes. -/
inductive BodyItem where
  | plain (char : Char)
  | escaped (char : Char)
  deriving DecidableEq, Repr

def BodyItem.spelling : BodyItem → List Char
  | .plain char => [char]
  | .escaped char => ['\\', char]

def BodyItem.value : BodyItem → Char
  | .plain char | .escaped char => char

/-- A backslash directly in front of a double quote or a backslash is always an escape, and any
other backslash stands for itself. -/
def BodyItem.Fits : BodyItem → List Char → Prop
  | .plain char, rest =>
    char ≠ '"' ∧ (char = '\\' → ∀ next ∈ rest.head?, next ≠ '"' ∧ next ≠ '\\')
  | .escaped char, _ => char = '"' ∨ char = '\\'

/-- A body ends at the first double quote that is not escaped, or with the text. -/
def BodyEnds (rest : List Char) : Prop := ∀ next ∈ rest.head?, next = '"'

def BodyFits (body : List BodyItem) (rest : List Char) : Prop :=
  EachFits BodyItem.spelling BodyItem.Fits body rest

theorem bodyItem_readsUniquely : ReadsUniquely BodyItem.spelling BodyItem.Fits BodyEnds where
  unique first second rest other firstFits secondFits same := by
    cases first <;> cases second <;>
      simp only [BodyItem.spelling, BodyItem.Fits, List.cons_append, List.nil_append] at * <;>
      grind
  goesOn item rest fits ends := by
    cases item with
    | plain char => exact fits.1 (ends char rfl)
    | escaped char => exact absurd (ends '\\' rfl) (by decide)

/-- A text between double quotes can be read up to its end. -/
theorem exists_body (text : List Char) :
    ∃ body rest, text = body.flatMap BodyItem.spelling ++ rest ∧ BodyFits body rest ∧
      BodyEnds rest := by
  refine exists_sequence (fun text goesOn => ?_) text
  cases text with
  | nil => exact absurd (by simp [BodyEnds]) goesOn
  | cons char rest =>
      have notQuote : char ≠ '"' := by simpa [BodyEnds] using goesOn
      by_cases escape : char = '\\' ∧ ∃ next ∈ rest.head?, next = '"' ∨ next = '\\'
      · obtain ⟨rfl, next, member, escapable⟩ := escape
        obtain ⟨rest, rfl⟩ : ∃ later, rest = next :: later := by
          cases rest <;> simp_all
        exact ⟨.escaped next, rest, rfl, escapable, by simp only [List.length_cons]; omega⟩
      · exact ⟨.plain char, rest, rfl, ⟨notQuote, by grind⟩, by simp⟩

/-- The closing quote of a quoted piece, if it is there. -/
def closing (quote : Char) (closed : Bool) : List Char := if closed then [quote] else []

/-- One piece of a word. A quoted piece may lack its closing quote at the end of the text. -/
inductive WordPiece where
  | bare (char : Char)
  | backslash
  | escaped (char : Char)
  | singleQuoted (body : List Char) (closed : Bool)
  | doubleQuoted (body : List BodyItem) (closed : Bool)
  deriving DecidableEq, Repr

def WordPiece.spelling : WordPiece → List Char
  | .bare char => [char]
  | .backslash => ['\\']
  | .escaped char => ['\\', char]
  | .singleQuoted body closed => '\'' :: (body ++ closing '\'' closed)
  | .doubleQuoted body closed => '"' :: (body.flatMap BodyItem.spelling ++ closing '"' closed)

def WordPiece.value : WordPiece → List Char
  | .bare char | .escaped char => [char]
  | .backslash => ['\\']
  | .singleQuoted body _ => body
  | .doubleQuoted body _ => body.map BodyItem.value

/-- The text behind a piece decides whether a backslash escapes and whether a quote may stay
open. -/
def WordPiece.Fits : WordPiece → List Char → Prop
  | .bare char, _ => char ∉ [' ', '\t', '\'', '"', '\\']
  | .backslash, rest => ∀ next ∈ rest.head?, next ∉ [' ', '\t', '"', '\'', '\\', ';', '&', '|']
  | .escaped char, _ => char ∈ [' ', '\t', '"', '\'', '\\', ';', '&', '|']
  | .singleQuoted body closed, rest => '\'' ∉ body ∧ (closed = false → rest = [])
  | .doubleQuoted body closed, rest =>
    BodyFits body (closing '"' closed ++ rest) ∧ (closed = false → rest = [])

/-- Words stand between spaces and tabs. -/
def Separates (char : Char) : Prop := char = ' ' ∨ char = '\t'

/-- A word ends in front of a separator and with the text. -/
def WordEnds (rest : List Char) : Prop := ∀ next ∈ rest.head?, Separates next

/-- A body between double quotes is known from its text, and so is whether it is closed. -/
theorem bodyFits_unique {first second : List BodyItem} {rest other : List Char}
    (firstFits : BodyFits first rest) (secondFits : BodyFits second other)
    (restEnds : BodyEnds rest) (otherEnds : BodyEnds other)
    (same : first.flatMap BodyItem.spelling ++ rest = second.flatMap BodyItem.spelling ++ other) :
    first = second ∧ rest = other :=
  bodyItem_readsUniquely.sequence firstFits secondFits restEnds otherEnds same

/-- A quote that stays open has nothing behind it. -/
theorem head_closing_append {quote : Char} {closed : Bool} {rest : List Char}
    (openEnd : closed = false → rest = []) :
    ∀ next ∈ (closing quote closed ++ rest).head?, next = quote := by
  cases closed with
  | true => simp [closing]
  | false => simp [closing, openEnd rfl]

theorem closing_unique {quote : Char} {closed shut : Bool} {rest other : List Char}
    (openEnd : closed = false → rest = []) (otherEnd : shut = false → other = [])
    (same : closing quote closed ++ rest = closing quote shut ++ other) :
    closed = shut ∧ rest = other := by
  cases closed <;> cases shut <;> simp_all [closing]

/-- Every piece starts with a character that is no separator. -/
theorem WordPiece.spelling_eq_cons {piece : WordPiece} {rest : List Char}
    (fits : piece.Fits rest) : ∃ char text, piece.spelling = char :: text ∧ ¬ Separates char := by
  cases piece with
  | bare char =>
      refine ⟨char, [], rfl, ?_⟩
      simp only [WordPiece.Fits] at fits
      rintro (rfl | rfl) <;> simp at fits
  | backslash | escaped | singleQuoted | doubleQuoted =>
      exact ⟨_, _, rfl, by simp [Separates]⟩

/-- A piece is known from its text. The first character tells the kinds apart, apart from a
backslash, where the second character decides. -/
theorem WordPiece.spelling_unique {first second : WordPiece} {rest other : List Char}
    (firstFits : first.Fits rest) (secondFits : second.Fits other)
    (same : first.spelling ++ rest = second.spelling ++ other) :
    first = second ∧ rest = other := by
  cases first with
  | bare char =>
      cases second <;>
        simp only [WordPiece.spelling, WordPiece.Fits, List.cons_append, List.nil_append] at * <;>
        grind
  | backslash =>
      cases second <;>
        simp only [WordPiece.spelling, WordPiece.Fits, List.cons_append, List.nil_append] at * <;>
        grind
  | escaped char =>
      cases second <;>
        simp only [WordPiece.spelling, WordPiece.Fits, List.cons_append, List.nil_append] at * <;>
        grind
  | singleQuoted body closed =>
      cases second with
      | singleQuoted partner shut =>
          obtain ⟨free, openEnd⟩ := firstFits
          obtain ⟨partnerFree, otherEnd⟩ := secondFits
          simp only [WordPiece.spelling, List.cons_append, List.cons.injEq, true_and,
            List.append_assoc] at same
          obtain ⟨rfl, ends⟩ := run_unique (· ≠ '\'')
            (fun _ member => ne_of_mem_of_not_mem member free)
            (fun _ member => ne_of_mem_of_not_mem member partnerFree)
            (fun next member inside => inside (head_closing_append openEnd next member))
            (fun next member inside => inside (head_closing_append otherEnd next member)) same
          obtain ⟨rfl, rests⟩ := closing_unique openEnd otherEnd ends
          exact ⟨rfl, rests⟩
      | bare | backslash | escaped | doubleQuoted =>
          simp only [WordPiece.spelling, WordPiece.Fits, List.cons_append] at secondFits same
          grind
  | doubleQuoted body closed =>
      cases second with
      | doubleQuoted partner shut =>
          obtain ⟨fits, openEnd⟩ := firstFits
          obtain ⟨partnerFits, otherEnd⟩ := secondFits
          simp only [WordPiece.spelling, List.cons_append, List.cons.injEq, true_and,
            List.append_assoc] at same
          obtain ⟨rfl, ends⟩ := bodyFits_unique fits partnerFits (head_closing_append openEnd)
            (head_closing_append otherEnd) same
          obtain ⟨rfl, rests⟩ := closing_unique openEnd otherEnd ends
          exact ⟨rfl, rests⟩
      | bare | backslash | escaped | singleQuoted =>
          simp only [WordPiece.spelling, WordPiece.Fits, List.cons_append] at secondFits same
          grind

theorem wordPiece_readsUniquely :
    ReadsUniquely WordPiece.spelling WordPiece.Fits WordEnds where
  unique _ _ _ _ firstFits secondFits same :=
    WordPiece.spelling_unique firstFits secondFits same
  goesOn piece rest fits ends := by
    obtain ⟨char, text, spelled, ordinary⟩ := WordPiece.spelling_eq_cons fits
    exact ordinary (ends char (by rw [spelled]; rfl))

/-- A single-quoted piece goes up to the next single quote or to the end of the text. -/
theorem exists_singlePiece (text : List Char) :
    ∃ piece rest, '\'' :: text = WordPiece.spelling piece ++ rest ∧ piece.Fits rest ∧
      rest.length ≤ text.length := by
  obtain ⟨body, behind, rfl, free, ends⟩ := exists_run (· ≠ '\'') text
  have absent : '\'' ∉ body := fun member => free _ member rfl
  cases behind with
  | nil =>
      exact ⟨.singleQuoted body false, [], by simp [WordPiece.spelling, closing],
        ⟨absent, fun _ => rfl⟩, Nat.zero_le _⟩
  | cons char rest =>
      obtain rfl : char = '\'' := by simpa using ends char rfl
      refine ⟨.singleQuoted body true, rest, by simp [WordPiece.spelling, closing],
        ⟨absent, by simp⟩, ?_⟩
      rw [List.length_append, List.length_cons]
      omega

/-- A double-quoted piece goes up to the first quote that is not escaped or to the end of the
text. -/
theorem exists_doublePiece (text : List Char) :
    ∃ piece rest, '"' :: text = WordPiece.spelling piece ++ rest ∧ piece.Fits rest ∧
      rest.length ≤ text.length := by
  obtain ⟨body, behind, rfl, fits, ends⟩ := exists_body text
  cases behind with
  | nil =>
      exact ⟨.doubleQuoted body false, [], by simp [WordPiece.spelling, closing],
        ⟨fits, fun _ => rfl⟩, Nat.zero_le _⟩
  | cons char rest =>
      obtain rfl : char = '"' := ends char rfl
      refine ⟨.doubleQuoted body true, rest, by simp [WordPiece.spelling, closing],
        ⟨fits, by simp⟩, ?_⟩
      rw [List.length_append, List.length_cons]
      omega

/-- Where a word goes on, a piece can be read. -/
theorem exists_wordPiece (text : List Char) (goesOn : ¬ WordEnds text) :
    ∃ piece rest, text = WordPiece.spelling piece ++ rest ∧ piece.Fits rest ∧
      rest.length < text.length := by
  cases text with
  | nil => exact absurd (by simp [WordEnds]) goesOn
  | cons char text =>
      have ordinary : ¬ Separates char := by simpa [WordEnds] using goesOn
      by_cases single : char = '\''
      · obtain ⟨piece, rest, spelled, fits, shorter⟩ := exists_singlePiece text
        exact ⟨piece, rest, single ▸ spelled, fits, Nat.lt_succ_of_le shorter⟩
      by_cases double : char = '"'
      · obtain ⟨piece, rest, spelled, fits, shorter⟩ := exists_doublePiece text
        exact ⟨piece, rest, double ▸ spelled, fits, Nat.lt_succ_of_le shorter⟩
      by_cases backslash : char = '\\'
      · subst backslash
        by_cases escape : ∃ next ∈ text.head?, next ∈ [' ', '\t', '"', '\'', '\\', ';', '&', '|']
        · obtain ⟨next, member, escapable⟩ := escape
          obtain ⟨rest, rfl⟩ : ∃ later, text = next :: later := by
            cases text <;> simp_all
          exact ⟨.escaped next, rest, rfl, escapable, by simp only [List.length_cons]; omega⟩
        · exact ⟨.backslash, text, rfl, fun next member escapable =>
            escape ⟨next, member, escapable⟩, by simp⟩
      · refine ⟨.bare char, text, rfl, ?_, by simp⟩
        simp only [Separates, not_or] at ordinary
        simp [WordPiece.Fits, ordinary, single, double, backslash]

/-- A word with the run of separators behind it. -/
@[ext] structure WordEntry where
  pieces : List WordPiece
  gap : List Char
  nonempty : pieces ≠ []
  separators : ∀ char ∈ gap, Separates char

def WordEntry.spelling (entry : WordEntry) : List Char :=
  entry.pieces.flatMap WordPiece.spelling ++ entry.gap

def WordEntry.value (entry : WordEntry) : List Char :=
  entry.pieces.flatMap WordPiece.value

/-- Only the last word may have no separator behind it. -/
def EntriesFit : List WordEntry → Prop
  | [] => True
  | entry :: later =>
    EachFits WordPiece.spelling WordPiece.Fits entry.pieces
        (entry.gap ++ later.flatMap WordEntry.spelling) ∧
      (later ≠ [] → entry.gap ≠ []) ∧ EntriesFit later

/-- A command is a run of separators and then words with the runs behind them. -/
@[ext] structure CommandLayout where
  leading : List Char
  entries : List WordEntry
  separators : ∀ char ∈ leading, Separates char
  fits : EntriesFit entries

def CommandLayout.spelling (layout : CommandLayout) : List Char :=
  layout.leading ++ layout.entries.flatMap WordEntry.spelling

def CommandLayout.values (layout : CommandLayout) : List (List Char) :=
  layout.entries.map WordEntry.value

/-- A word is never spelled by nothing. -/
theorem pieces_spelling_ne_nil {pieces : List WordPiece} {rest : List Char}
    (nonempty : pieces ≠ []) (fits : EachFits WordPiece.spelling WordPiece.Fits pieces rest) :
    pieces.flatMap WordPiece.spelling ≠ [] := by
  obtain ⟨piece, pieces, rfl⟩ := List.exists_cons_of_ne_nil nonempty
  obtain ⟨char, text, spelled, -⟩ := WordPiece.spelling_eq_cons fits.1
  simp [spelled]

theorem entries_spelling_ne_nil {entries : List WordEntry} (fits : EntriesFit entries)
    (further : entries ≠ []) : entries.flatMap WordEntry.spelling ≠ [] := by
  obtain ⟨entry, later, rfl⟩ := List.exists_cons_of_ne_nil further
  have nonempty := pieces_spelling_ne_nil entry.nonempty fits.1
  simp [WordEntry.spelling, nonempty]

/-- An entry starts with a character that is no separator. -/
theorem entries_head {entries : List WordEntry} (fits : EntriesFit entries) :
    ∀ next ∈ (entries.flatMap WordEntry.spelling).head?, ¬ Separates next := by
  cases entries with
  | nil => simp
  | cons entry later =>
      obtain ⟨piecesFit, -, -⟩ := fits
      obtain ⟨pieces, gap, nonempty, separators⟩ := entry
      obtain ⟨piece, pieces, rfl⟩ := List.exists_cons_of_ne_nil nonempty
      obtain ⟨char, text, spelled, ordinary⟩ := WordPiece.spelling_eq_cons piecesFit.1
      simp [WordEntry.spelling, spelled, ordinary]

/-- Behind the pieces of an entry the word ends. -/
theorem wordEnds_gap {entry : WordEntry} {later : List WordEntry}
    (parted : later ≠ [] → entry.gap ≠ []) :
    WordEnds (entry.gap ++ later.flatMap WordEntry.spelling) := by
  intro next member
  cases gap : entry.gap with
  | nil =>
      have last : later = [] := not_imp_not.mp parted gap
      simp [gap, last] at member
  | cons char rest =>
      obtain rfl : char = next := by simpa [gap] using member
      exact entry.separators char (by simp [gap])

theorem entries_unique {first second : List WordEntry} (firstFits : EntriesFit first)
    (secondFits : EntriesFit second)
    (same : first.flatMap WordEntry.spelling = second.flatMap WordEntry.spelling) :
    first = second := by
  induction first generalizing second with
  | nil =>
      cases second with
      | nil => rfl
      | cons entry later =>
          have spelled := entries_spelling_ne_nil secondFits (List.cons_ne_nil _ _)
          exact absurd same.symm spelled
  | cons entry later inductionHypothesis =>
      cases second with
      | nil =>
          have spelled := entries_spelling_ne_nil firstFits (List.cons_ne_nil _ _)
          exact absurd same spelled
      | cons partner others =>
          obtain ⟨piecesFit, parted, laterFit⟩ := firstFits
          obtain ⟨partnerFit, otherParted, othersFit⟩ := secondFits
          simp only [List.flatMap_cons, WordEntry.spelling, List.append_assoc] at same
          obtain ⟨samePieces, behind⟩ := wordPiece_readsUniquely.sequence piecesFit partnerFit
            (wordEnds_gap parted) (wordEnds_gap otherParted) same
          obtain ⟨sameGap, rests⟩ := run_unique Separates entry.separators partner.separators
            (entries_head laterFit) (entries_head othersFit) behind
          rw [WordEntry.ext samePieces sameGap, inductionHypothesis laterFit othersFit rests]

/-- A text that starts with no separator can be read as words. -/
theorem exists_entries (text : List Char) (starts : ∀ next ∈ text.head?, ¬ Separates next) :
    ∃ entries, EntriesFit entries ∧ entries.flatMap WordEntry.spelling = text := by
  induction size : text.length using Nat.strong_induction_on generalizing text with
  | _ count inductionHypothesis =>
      by_cases empty : text = []
      · exact ⟨[], trivial, empty.symm⟩
      obtain ⟨pieces, behind, rfl, piecesFit, ends⟩ := exists_sequence exists_wordPiece text
      obtain ⟨gap, rest, rfl, separators, restStarts⟩ := exists_run Separates behind
      have nonempty : pieces ≠ [] := by
        rintro rfl
        obtain ⟨char, tail, spelled⟩ := List.exists_cons_of_ne_nil empty
        have first : char ∈ (List.flatMap WordPiece.spelling [] ++ (gap ++ rest)).head? := by
          rw [spelled]
          rfl
        exact starts char first (ends char first)
      have shorter : rest.length < count := by
        have positive := List.length_pos_iff.mpr (pieces_spelling_ne_nil nonempty piecesFit)
        rw [← size, List.length_append, List.length_append]
        omega
      obtain ⟨entries, entriesFit, rfl⟩ := inductionHypothesis _ shorter rest restStarts rfl
      refine ⟨⟨pieces, gap, nonempty, separators⟩ :: entries, ⟨piecesFit, ?_, entriesFit⟩,
        by simp [WordEntry.spelling]⟩
      rintro further rfl
      obtain ⟨char, tail, spelled⟩ :=
        List.exists_cons_of_ne_nil (entries_spelling_ne_nil entriesFit further)
      rw [spelled] at ends restStarts
      exact restStarts char rfl (ends char rfl)

/-- Every text can be written as a command in exactly one way. -/
theorem existsUnique_layout (text : List Char) :
    ∃! layout : CommandLayout, layout.spelling = text := by
  obtain ⟨leading, rest, rfl, separators, starts⟩ := exists_run Separates text
  obtain ⟨entries, fits, rfl⟩ := exists_entries rest starts
  refine ⟨⟨leading, entries, separators, fits⟩, rfl, ?_⟩
  intro other spelled
  obtain ⟨sameLeading, sameEntries⟩ := run_unique Separates other.separators separators
    (entries_head other.fits) starts spelled
  exact CommandLayout.ext sameLeading (entries_unique other.fits fits sameEntries)

end ChainShell
