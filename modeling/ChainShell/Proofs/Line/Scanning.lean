/-
This file relates the scan of a text to the scans of its parts. A part scanned alone keeps its
roles as long as no escape reaches over its end.
-/

import ChainShell.Line.Scan
import ChainShell.Text.WhiteSpace
import Mathlib.Data.String.Basic

namespace ChainShell

open String (utf8Len)

/-- The mode behind a text when the given rest follows it. -/
def modeAfter : Mode → List Char → List Char → Mode
  | mode, [], _ => mode
  | mode, char :: text, rest => modeAfter (mode.step char (text ++ rest).head?).1 text rest

@[simp] theorem modeAfter_nil (mode : Mode) (rest : List Char) : modeAfter mode [] rest = mode := rfl

theorem modeAfter_cons (mode : Mode) (char : Char) (text rest : List Char) :
    modeAfter mode (char :: text) rest =
      modeAfter (mode.step char (text ++ rest).head?).1 text rest := rfl

theorem modeAfter_append (mode : Mode) (first second rest : List Char) :
    modeAfter mode (first ++ second) rest =
      modeAfter (modeAfter mode first (second ++ rest)) second rest := by
  induction first generalizing mode with
  | nil => rfl
  | cons char first inductionHypothesis =>
      rw [List.cons_append, modeAfter_cons, modeAfter_cons, inductionHypothesis,
        List.append_assoc]

/-- A character that starts no escape has the same role at the end of the text. -/
theorem Mode.step_eq_step_none {mode : Mode} {char : Char} {next : Option Char}
    (settled : (mode.step char next).1.escaped = false) :
    mode.step char next = mode.step char none := by
  obtain ⟨state, escaped⟩ := mode
  cases escaped with
  | true => rfl
  | false =>
      cases state <;>
        simp only [Mode.step, QuoteState.classify, escapes] at settled ⊢ <;>
        grind

/-- A bare character stands outside quotes, behind no pending escape. -/
theorem Mode.eq_initial_of_bare {mode : Mode} {char : Char} {next : Option Char}
    (bare : (mode.step char next).2 = .bare) : mode = .initial := by
  obtain ⟨state, escaped⟩ := mode
  cases escaped with
  | true => simp [Mode.step] at bare
  | false =>
      cases state with
      | unquoted => rfl
      | inSingleQuote =>
          simp only [Mode.step, QuoteState.classify] at bare
          grind
      | inDoubleQuote =>
          simp only [Mode.step, QuoteState.classify] at bare
          grind

/-- The first character of a settled text has the same role whatever follows the text. -/
theorem step_append_of_settled {mode : Mode} {char : Char} {text rest : List Char}
    (settled : (modeAfter mode (char :: text) rest).escaped = false) :
    mode.step char (text ++ rest).head? = mode.step char text.head? := by
  cases text with
  | nil => exact Mode.step_eq_step_none settled
  | cons next text => rfl

/-- The scan of a line falls apart behind every settled text. -/
theorem scanFrom_append {mode : Mode} {text rest : List Char} (position : Nat)
    (settled : (modeAfter mode text rest).escaped = false) :
    scanFrom mode position (text ++ rest) =
      scanFrom mode position text ++
        scanFrom (modeAfter mode text rest) (position + utf8Len text) rest := by
  induction text generalizing mode position with
  | nil => rfl
  | cons char text inductionHypothesis =>
      have sameStep := step_append_of_settled settled
      rw [modeAfter_cons] at settled
      simp only [List.cons_append, scanFrom]
      rw [inductionHypothesis _ settled, modeAfter_cons, sameStep]
      simp [Nat.add_assoc, Nat.add_comm]

/-- The positions of a scan lie inside the scanned bytes. -/
theorem position_mem_scanFrom {mode : Mode} {position : Nat} {text : List Char} {item : Scanned}
    (member : item ∈ scanFrom mode position text) :
    position ≤ item.position ∧ item.position < position + utf8Len text := by
  induction text generalizing mode position with
  | nil => simp [scanFrom] at member
  | cons char text inductionHypothesis =>
      have size := char.utf8Size_pos
      simp only [String.utf8Len_cons]
      rcases List.mem_cons.mp member with rfl | later
      · exact ⟨Nat.le_refl _, by simp only; omega⟩
      · have bounds := inductionHypothesis later
        omega

/-- The same character at a later position. -/
def Scanned.advance (offset : Nat) (item : Scanned) : Scanned :=
  { item with position := offset + item.position }

/-- A later start moves every position and changes no role. -/
theorem scanFrom_advance (mode : Mode) (offset position : Nat) (text : List Char) :
    scanFrom mode (offset + position) text =
      (scanFrom mode position text).map (Scanned.advance offset) := by
  induction text generalizing mode position with
  | nil => rfl
  | cons char text inductionHypothesis =>
      simp only [scanFrom, List.map_cons, Scanned.advance]
      rw [Nat.add_assoc, inductionHypothesis]

/-- The part of a scan between two byte offsets. -/
def stretch (start stop : Nat) (items : List Scanned) : List Scanned :=
  items.filter fun item => start ≤ item.position && item.position < stop

theorem stretch_append (start stop : Nat) (first second : List Scanned) :
    stretch start stop (first ++ second) =
      stretch start stop first ++ stretch start stop second :=
  List.filter_append ..

theorem stretch_scanFrom_inside (mode : Mode) (start : Nat) (text : List Char) :
    stretch start (start + utf8Len text) (scanFrom mode start text) = scanFrom mode start text := by
  apply List.filter_eq_self.mpr
  intro item member
  have bounds := position_mem_scanFrom member
  simpa using bounds

/-- Scanned bytes outside the offsets add nothing to the stretch. -/
theorem stretch_scanFrom_outside (mode : Mode) (position start stop : Nat) (text : List Char)
    (outside : position + utf8Len text ≤ start ∨ stop ≤ position) :
    stretch start stop (scanFrom mode position text) = [] := by
  apply List.filter_eq_nil_iff.mpr
  intro item member
  have bounds := position_mem_scanFrom member
  simp only [Bool.and_eq_true, decide_eq_true_eq]
  omega

/-- White space outside quotes leaves the scanner as it found it. -/
theorem Mode.step_initial_of_whiteSpace {char : Char} (next : Option Char)
    (white : isWhiteSpace char) : (Mode.initial.step char next).1 = .initial := by
  have notQuote : char ≠ '\'' := by rintro rfl; exact absurd white (by decide)
  have notDouble : char ≠ '"' := by rintro rfl; exact absurd white (by decide)
  have notBackslash : char ≠ '\\' := by rintro rfl; exact absurd white (by decide)
  by_cases blank : isBlank char <;>
    simp [Mode.step, Mode.initial, QuoteState.classify, blank, notQuote, notDouble, notBackslash]

theorem modeAfter_whiteSpace {gap : List Char} (rest : List Char)
    (white : ∀ char ∈ gap, isWhiteSpace char) : modeAfter .initial gap rest = .initial := by
  induction gap with
  | nil => rfl
  | cons char gap inductionHypothesis =>
      rw [modeAfter_cons, Mode.step_initial_of_whiteSpace _ (white char (by simp))]
      exact inductionHypothesis fun other member => white other (by simp [member])

end ChainShell
