/-
This file describes where a line is cut. A line is a sequence of parts, no part contains an
operator outside quotes, and the byte offsets of the splitter are the borders of the parts.
-/

import ChainShell.Line.Chain
import ChainShell.Proofs.Line.Scanning
import Mathlib.Data.List.TakeWhile

namespace ChainShell

open String (utf8Len)

/-- The text of an operator in a line. -/
def Operator.mark : Operator → List Char
  | .first => []
  | .sequence => [';']
  | .andThen => ['&', '&']
  | .orElse => ['|', '|']

theorem Operator.mark_length_pos {operator : Operator} (real : operator ≠ .first) :
    0 < operator.mark.length := by
  cases operator with
  | first => contradiction
  | sequence => decide
  | andThen => decide
  | orElse => decide

/-- One command of a line with the operator and the white space in front of it. -/
structure LinePart where
  operator : Operator
  gap : List Char
  text : List Char
  gapWhite : ∀ char ∈ gap, isWhiteSpace char = true
  textTrimmed : ∀ char ∈ text.head?, isWhiteSpace char = false

def LinePart.ofRaw (operator : Operator) (raw : List Char) : LinePart where
  operator := operator
  gap := raw.takeWhile isWhiteSpace
  text := trimStart raw
  gapWhite _ member := List.mem_takeWhile_imp member
  textTrimmed char member := by
    have notWhite := List.head?_dropWhile_not isWhiteSpace raw
    simp only [trimStart, Option.mem_def] at member
    simpa [member] using notWhite

def LinePart.raw (part : LinePart) : List Char := part.gap ++ part.text

def LinePart.segment (part : LinePart) : Segment := ⟨part.operator, String.ofList part.text⟩

/-- The text of a part as it stands in the line. -/
def LinePart.spelling (part : LinePart) : List Char :=
  part.operator.mark ++ part.gap ++ part.text

def spelling (parts : List LinePart) : List Char := parts.flatMap LinePart.spelling

@[simp] theorem LinePart.raw_ofRaw (operator : Operator) (raw : List Char) :
    (LinePart.ofRaw operator raw).raw = raw :=
  List.takeWhile_append_dropWhile ..

theorem spelling_cons (part : LinePart) (later : List LinePart) :
    spelling (part :: later) = part.operator.mark ++ (part.raw ++ spelling later) := by
  simp [spelling, LinePart.spelling, LinePart.raw]

theorem spelling_singleton (part : LinePart) :
    spelling [part] = part.operator.mark ++ part.raw := by
  rw [spelling_cons]
  simp [spelling]

theorem spelling_eq_append (part : LinePart) (later : List LinePart) :
    spelling (part :: later) = spelling [part] ++ spelling later := by
  rw [spelling_cons, spelling_singleton, List.append_assoc]

/-- A text that starts with no white space is left as it is. -/
theorem trimStart_of_trimmed {text : List Char}
    (trimmed : ∀ char ∈ text.head?, isWhiteSpace char = false) : trimStart text = text := by
  cases text with
  | nil => rfl
  | cons char text => simp [trimStart, trimmed char rfl]

theorem trimStart_append {gap text : List Char} (white : ∀ char ∈ gap, isWhiteSpace char = true)
    (trimmed : ∀ char ∈ text.head?, isWhiteSpace char = false) :
    trimStart (gap ++ text) = text := by
  rw [trimStart, List.dropWhile_append_of_pos white]
  exact trimStart_of_trimmed trimmed

theorem LinePart.segment_eq (part : LinePart) :
    Segment.ofText part.operator part.raw = part.segment := by
  rw [Segment.ofText, LinePart.raw, trimStart_append part.gapWhite part.textTrimmed]
  rfl

/-- No operator starts inside a text when the given rest follows it. -/
def Unbroken : Mode → List Char → List Char → Prop
  | _, [], _ => True
  | mode, char :: text, rest =>
    boundary (mode.step char (text ++ rest).head?).2 char
        ((mode.step char (text ++ rest).head?).1.peekBare (text ++ rest)) = none ∧
      Unbroken (mode.step char (text ++ rest).head?).1 text rest

theorem unbroken_append (mode : Mode) (first second rest : List Char) :
    Unbroken mode (first ++ second) rest ↔
      Unbroken mode first (second ++ rest) ∧
        Unbroken (modeAfter mode first (second ++ rest)) second rest := by
  induction first generalizing mode with
  | nil => simp [Unbroken]
  | cons char first inductionHypothesis =>
      simp only [List.cons_append, Unbroken, modeAfter, List.append_assoc]
      rw [inductionHypothesis, and_assoc]

theorem Mode.peekBare_nil (mode : Mode) : mode.peekBare [] = none := by
  simp [Mode.peekBare]

/-- Only the next character of the text is ever offered. -/
theorem Mode.eq_cons_of_peekBare {mode : Mode} {rest : List Char} {char : Char}
    (offered : mode.peekBare rest = some char) : ∃ later, rest = char :: later := by
  cases rest with
  | nil => simp [Mode.peekBare_nil] at offered
  | cons next later =>
      simp only [Mode.peekBare, List.head?_cons, Option.filter] at offered
      split at offered
      · contradiction
      · split at offered
        · exact ⟨later, by rw [Option.some.inj offered]⟩
        · contradiction

/-- Without its second half a doubled sign is ordinary text. -/
theorem boundary_none_of_none {role : Role} {char : Char} {next : Option Char}
    (whole : boundary role char next = none) : boundary role char none = none := by
  simp only [boundary] at whole ⊢
  grind

/-- A settled text without operators has none when it stands alone. -/
theorem unbroken_alone {mode : Mode} {text rest : List Char}
    (settled : (modeAfter mode text rest).escaped = false) (whole : Unbroken mode text rest) :
    Unbroken mode text [] := by
  induction text generalizing mode with
  | nil => trivial
  | cons char text inductionHypothesis =>
      have sameStep := step_append_of_settled settled
      rw [modeAfter_cons] at settled
      obtain ⟨here, later⟩ := whole
      have laterAlone := inductionHypothesis settled later
      rw [sameStep] at here laterAlone
      simp only [Unbroken, List.append_nil]
      refine ⟨?_, laterAlone⟩
      cases text with
      | nil =>
          rw [Mode.peekBare_nil]
          exact boundary_none_of_none here
      | cons next text => exact here

/-- A boundary is one of the three operators, at a bare character. -/
theorem boundary_eq_some {role : Role} {char : Char} {following : Option Char}
    {operator : Operator} (found : boundary role char following = some operator) :
    role = .bare ∧
      ((char = ';' ∧ operator = .sequence) ∨
        (char = '&' ∧ following = some '&' ∧ operator = .andThen) ∨
        (char = '|' ∧ following = some '|' ∧ operator = .orElse)) := by
  simp only [boundary] at found
  grind

/-- An operator that starts a boundary is spelled by the next characters of the text. -/
theorem mark_of_boundary {mode : Mode} {char : Char} {rest : List Char} {operator : Operator}
    (found : boundary (mode.step char rest.head?).2 char
      ((mode.step char rest.head?).1.peekBare rest) = some operator) :
    mode = .initial ∧ operator ≠ .first ∧ ∃ later, char :: rest = operator.mark ++ later := by
  obtain ⟨bare, spelled⟩ := boundary_eq_some found
  refine ⟨Mode.eq_initial_of_bare bare, ?_⟩
  rcases spelled with ⟨rfl, rfl⟩ | ⟨rfl, offered, rfl⟩ | ⟨rfl, offered, rfl⟩
  · exact ⟨by decide, rest, rfl⟩
  · obtain ⟨later, rfl⟩ := Mode.eq_cons_of_peekBare offered
    exact ⟨by decide, later, rfl⟩
  · obtain ⟨later, rfl⟩ := Mode.eq_cons_of_peekBare offered
    exact ⟨by decide, later, rfl⟩

/-- A text either has no operator or falls apart at its first one. -/
theorem unbroken_or_mark (mode : Mode) (text : List Char) :
    Unbroken mode text [] ∨
      ∃ (raw : List Char) (operator : Operator) (rest : List Char),
        text = raw ++ (operator.mark ++ rest) ∧ operator ≠ .first ∧
        Unbroken mode raw (operator.mark ++ rest) ∧
        modeAfter mode raw (operator.mark ++ rest) = .initial := by
  induction text generalizing mode with
  | nil => exact .inl trivial
  | cons char text inductionHypothesis =>
      cases found : boundary (mode.step char text.head?).2 char
          ((mode.step char text.head?).1.peekBare text) with
      | some operator =>
          obtain ⟨started, real, rest, spelled⟩ := mark_of_boundary found
          exact .inr ⟨[], operator, rest, spelled, real, trivial, started⟩
      | none =>
          rcases inductionHypothesis (mode.step char text.head?).1 with
            whole | ⟨raw, operator, rest, rfl, real, whole, ending⟩
          · exact .inl ⟨by simpa using found, by simpa using whole⟩
          · exact .inr ⟨char :: raw, operator, rest, rfl, real, ⟨found, whole⟩, ending⟩

/-- The parts of a line are cut correctly: each is free of operators, and each operator stands
outside quotes behind its part. -/
def WellCut : LinePart → List LinePart → Prop
  | part, [] => Unbroken .initial part.raw []
  | part, next :: later =>
    next.operator ≠ .first ∧ Unbroken .initial part.raw (spelling (next :: later)) ∧
      modeAfter .initial part.raw (spelling (next :: later)) = .initial ∧ WellCut next later

/-- Every text is a sequence of correctly cut parts. -/
theorem wellCut_exists (operator : Operator) (text : List Char) :
    ∃ part later, part.operator = operator ∧ text = part.raw ++ spelling later ∧
      WellCut part later := by
  induction size : text.length using Nat.strong_induction_on generalizing operator text with
  | _ count inductionHypothesis =>
      rcases unbroken_or_mark .initial text with
        whole | ⟨raw, next, rest, rfl, real, whole, ending⟩
      · exact ⟨.ofRaw operator text, [], rfl, by simp [spelling], by simpa [WellCut] using whole⟩
      · have taken := Operator.mark_length_pos real
        have shorter : rest.length < count := by
          rw [← size, List.length_append, List.length_append]
          omega
        obtain ⟨part, later, rfl, rfl, cut⟩ := inductionHypothesis _ shorter next rest rfl
        rw [← spelling_cons] at whole ending ⊢
        exact ⟨.ofRaw operator raw, part :: later, rfl, by simp, real, by simpa using whole,
          by simpa using ending, cut⟩

/-- A later part never carries the operator of the first one. -/
theorem WellCut.operator_ne_first {part : LinePart} {later : List LinePart}
    (cut : WellCut part later) : ∀ other ∈ later, other.operator ≠ .first := by
  induction later generalizing part with
  | nil => simp
  | cons next later inductionHypothesis =>
      obtain ⟨real, -, -, rest⟩ := cut
      intro other member
      rcases List.mem_cons.mp member with rfl | further
      · exact real
      · exact inductionHypothesis rest other further

/-- The splitter reads over a text without operators. -/
theorem spansFrom_unbroken (length : Nat) (operator : Operator) (start position : Nat)
    {mode : Mode} {text rest : List Char} (whole : Unbroken mode text rest) :
    spansFrom length operator start mode position (text ++ rest) =
      spansFrom length operator start (modeAfter mode text rest) (position + utf8Len text) rest := by
  induction text generalizing mode position with
  | nil => rfl
  | cons char text inductionHypothesis =>
      obtain ⟨here, later⟩ := whole
      rw [List.cons_append, spansFrom]
      simp only [here]
      rw [inductionHypothesis _ later, modeAfter_cons, String.utf8Len_cons, Nat.add_assoc,
        Nat.add_comm char.utf8Size]

/-- At an operator the splitter ends one span and starts the next one behind the operator. -/
theorem spansFrom_mark (length : Nat) (operator : Operator) (start position : Nat)
    {next : Operator} (rest : List Char) (real : next ≠ .first) :
    spansFrom length operator start .initial position (next.mark ++ rest) =
      ⟨operator, start, position⟩ ::
        spansFrom length next (position + utf8Len next.mark) .initial
          (position + utf8Len next.mark) rest := by
  cases next with
  | first => contradiction
  | sequence => rfl
  | andThen => rfl
  | orElse => rfl

end ChainShell
