/-
This file joins two lines at an operator. When the first line is closed, the splitter finds the
commands of both lines, one list behind the other.
-/

import ChainShell.Proofs.Line.Layout

namespace ChainShell

open String (utf8Len)

/-- A text is closed when its scan ends outside quotes and the last character is no bare
backslash, which could escape what follows. -/
def ClosedText (text : List Char) : Prop :=
  (modeAfter .initial text []).state = .unquoted ∧
    ∀ item ∈ (scan text).getLast?, ¬ (item.char = '\\' ∧ item.role = .bare)

instance (text : List Char) : Decidable (ClosedText text) := inferInstanceAs (Decidable (_ ∧ _))

/-- The texts in front of two rests go on with the same character when the rests do. -/
theorem head?_append_congr (text : List Char) {rest other : List Char}
    (same : rest.head? = other.head?) : (text ++ rest).head? = (text ++ other).head? := by
  cases text with
  | nil => exact same
  | cons char text => rfl

/-- Only the next character behind a text has a say in its mode. -/
theorem modeAfter_congr {mode : Mode} {text rest other : List Char}
    (same : rest.head? = other.head?) : modeAfter mode text rest = modeAfter mode text other := by
  induction text generalizing mode with
  | nil => rfl
  | cons char text inductionHypothesis =>
      rw [modeAfter_cons, modeAfter_cons, head?_append_congr text same, inductionHypothesis]

/-- Only the next character behind a text decides whether an operator starts inside it. -/
theorem unbroken_congr {mode : Mode} {text rest other : List Char}
    (same : rest.head? = other.head?) : Unbroken mode text rest ↔ Unbroken mode text other := by
  induction text generalizing mode with
  | nil => exact Iff.rfl
  | cons char text inductionHypothesis =>
      have next := head?_append_congr text same
      simp only [Unbroken, Mode.peekBare, next, inductionHypothesis]

/-- The last item of a scan holds the last character with the role that it has at the end. -/
theorem getLast?_scanFrom (mode : Mode) (position : Nat) (front : List Char) (char : Char) :
    (scanFrom mode position (front ++ [char])).getLast? =
      some ⟨position + utf8Len front, char, ((modeAfter mode front [char]).step char none).2⟩ := by
  induction front generalizing mode position with
  | nil => rfl
  | cons first front inductionHypothesis =>
      have nonempty : scanFrom (mode.step first (front ++ [char]).head?).1
          (position + first.utf8Size) (front ++ [char]) ≠ [] := by
        cases front <;> simp [scanFrom]
      rw [List.cons_append, scanFrom, List.getLast?_cons_of_ne_nil nonempty, inductionHypothesis,
        modeAfter_cons, String.utf8Len_cons, Nat.add_assoc, Nat.add_comm first.utf8Size]

/-- Behind a closed text the scanner stands as at the start of a line, whatever follows. -/
theorem ClosedText.modeAfter_eq {text : List Char} (closed : ClosedText text)
    (rest : List Char) : modeAfter .initial text rest = .initial := by
  obtain ⟨outside, settled⟩ := closed
  rcases List.eq_nil_or_concat text with rfl | ⟨front, char, rfl⟩
  · rfl
  rw [List.concat_eq_append] at outside settled ⊢
  have sameFront : modeAfter .initial front ([char] ++ rest) = modeAfter .initial front [char] :=
    modeAfter_congr rfl
  rw [modeAfter_append, List.append_nil] at outside
  have noBackslash := settled _ (getLast?_scanFrom .initial 0 front char)
  rw [modeAfter_append, sameFront]
  generalize modeAfter .initial front [char] = mode at outside noBackslash ⊢
  obtain ⟨state, escaped⟩ := mode
  cases escaped with
  | true =>
      obtain rfl : state = .unquoted := outside
      rfl
  | false =>
      cases state <;>
        simp only [modeAfter, Mode.initial, Mode.step, QuoteState.classify, escapes, List.nil_append,
          List.head?_nil] at outside noBackslash ⊢ <;>
        grind

/-- A character that stands alone as ordinary text starts an operator only with a second half
behind it. -/
theorem boundary_eq_none_of_parted {role : Role} {char next : Char} {offered : Option Char}
    (alone : boundary role char none = none) (only : ∀ other ∈ offered, other = next)
    (parted : role = .bare → char = next → next ≠ '&' ∧ next ≠ '|') :
    boundary role char offered = none := by
  cases found : boundary role char offered with
  | none => rfl
  | some operator =>
      obtain ⟨bare, spelled⟩ := boundary_eq_some found
      rcases spelled with ⟨rfl, rfl⟩ | ⟨rfl, second, rfl⟩ | ⟨rfl, second, rfl⟩
      · simp [boundary, bare] at alone
      · exact absurd (only _ second).symm (parted bare (only _ second)).1
      · exact absurd (only _ second).symm (parted bare (only _ second)).2

/-- A text without operators has none in front of a character that completes no doubled sign. -/
theorem unbroken_extend {mode : Mode} {text : List Char} {next : Char} {rest : List Char}
    (position : Nat) (whole : Unbroken mode text [])
    (settled : (modeAfter mode text (next :: rest)).escaped = false)
    (parted : ∀ item ∈ (scanFrom mode position text).getLast?,
      item.role = .bare → item.char = next → next ≠ '&' ∧ next ≠ '|') :
    Unbroken mode text (next :: rest) := by
  induction text generalizing mode position with
  | nil => trivial
  | cons char text inductionHypothesis =>
      have sameStep := step_append_of_settled settled
      obtain ⟨here, later⟩ := whole
      rw [List.append_nil] at here later
      rw [modeAfter_cons, sameStep] at settled
      simp only [Unbroken, sameStep]
      cases text with
      | nil =>
          rw [Mode.peekBare_nil] at here
          refine ⟨boundary_eq_none_of_parted here ?_ (parted _ rfl), trivial⟩
          intro other offered
          obtain ⟨others, same⟩ := Mode.eq_cons_of_peekBare offered
          exact (List.cons.inj same).1.symm
      | cons second text =>
          refine ⟨here, inductionHypothesis (position + char.utf8Size) later settled ?_⟩
          intro item member
          exact parted item (by simpa [scanFrom] using member)

theorem spelling_append (parts others : List LinePart) :
    spelling (parts ++ others) = spelling parts ++ spelling others :=
  List.flatMap_append

theorem Operator.mark_ne_nil {operator : Operator} (real : operator ≠ .first) :
    operator.mark ≠ [] :=
  List.ne_nil_of_length_pos (Operator.mark_length_pos real)

/-- A doubled mark is made of ampersands or bars. -/
theorem Operator.of_doubled {operator : Operator} {sign : Char}
    (doubled : operator.mark = [sign, sign]) :
    operator ≠ .first ∧ (sign = '&' ∨ sign = '|') := by
  cases operator <;> simp [Operator.mark] at doubled <;> subst doubled <;> simp

/-- Behind the first part of a line every other part starts with its operator. -/
theorem head?_spelling_append {part : LinePart} (real : part.operator ≠ .first)
    (later : List LinePart) (rest : List Char) :
    (spelling (part :: later) ++ rest).head? = (spelling (part :: later)).head? := by
  rw [spelling_cons]
  cases mark : part.operator.mark with
  | nil => exact absurd mark (Operator.mark_ne_nil real)
  | cons char chars => rfl

/-- The last part of a line has no operator, and the line ends in the mode in which its last part
ends. -/
theorem WellCut.last {part : LinePart} {later : List LinePart} (cut : WellCut part later)
    (rest : List Char) :
    ∃ last ∈ (part :: later).getLast?, Unbroken .initial last.raw [] ∧
      modeAfter .initial (part.raw ++ spelling later) rest = modeAfter .initial last.raw rest := by
  induction later generalizing part with
  | nil => exact ⟨part, rfl, cut, by simp [spelling]⟩
  | cons next later inductionHypothesis =>
      obtain ⟨real, -, ending, others⟩ := cut
      obtain ⟨last, member, whole, same⟩ := inductionHypothesis others
      refine ⟨last, by simpa using member, whole, ?_⟩
      have goesOn := head?_spelling_append real later rest
      rw [modeAfter_append, modeAfter_congr goesOn, ending, spelling_cons, modeAfter_append,
        modeAfter_mark, same]

/-- Two correctly cut lines can be joined at an operator when the last part of the first line ends
outside quotes and the operator does not grow into it. -/
theorem WellCut.append {part next : LinePart} {later others : List LinePart}
    (cut : WellCut part later) (real : next.operator ≠ .first) (otherCut : WellCut next others)
    (edge : ∀ last ∈ (part :: later).getLast?,
      Unbroken .initial last.raw (spelling (next :: others)) ∧
        modeAfter .initial last.raw (spelling (next :: others)) = .initial) :
    WellCut part (later ++ next :: others) := by
  induction later generalizing part with
  | nil =>
      obtain ⟨whole, ending⟩ := edge part rfl
      exact ⟨real, whole, ending, otherCut⟩
  | cons second later inductionHypothesis =>
      obtain ⟨secondReal, whole, ending, remaining⟩ := cut
      have goesOn : (spelling (second :: later ++ next :: others)).head? =
          (spelling (second :: later)).head? := by
        rw [spelling_append, head?_spelling_append secondReal]
      refine ⟨secondReal, (unbroken_congr goesOn).mpr whole, ?_, ?_⟩
      · exact (modeAfter_congr goesOn).trans ending
      · exact inductionHypothesis remaining fun last member => edge last (by simpa using member)

/-- The last character of a text is the given one, and it may carry chain syntax. -/
def EndsBare (sign : Char) (text : List Char) : Prop :=
  ∃ item ∈ (scan text).getLast?, item.char = sign ∧ item.role = .bare

instance (sign : Char) (text : List Char) : Decidable (EndsBare sign text) :=
  inferInstanceAs (Decidable (∃ item ∈ _, _))

theorem endsBare_concat {sign char : Char} {front : List Char} :
    EndsBare sign (front ++ [char]) ↔
      char = sign ∧ ((modeAfter .initial front [char]).step char none).2 = .bare := by
  simp [EndsBare, scan, getLast?_scanFrom]

/-- White space in front of a text has no part in how the text ends. -/
theorem endsBare_append {sign : Char} (visible : isWhiteSpace sign = false) {gap : List Char}
    (white : ∀ char ∈ gap, isWhiteSpace char = true) (text : List Char) :
    EndsBare sign (gap ++ text) ↔ EndsBare sign text := by
  rcases List.eq_nil_or_concat text with rfl | ⟨front, char, rfl⟩
  · rcases List.eq_nil_or_concat gap with rfl | ⟨front, char, rfl⟩
    · rfl
    · have other : char ≠ sign := by
        rintro rfl
        rw [white char (by simp)] at visible
        contradiction
      rw [List.append_nil, List.concat_eq_append, endsBare_concat]
      simp [other, EndsBare, scan, scanFrom]
  · rw [List.concat_eq_append, ← List.append_assoc, endsBare_concat, endsBare_concat,
      modeAfter_append, modeAfter_whiteSpace _ white]

/-- A text without operators has none in front of an operator whose sign it does not end in. -/
theorem unbroken_mark {operator : Operator} (real : operator ≠ .first) {text rest : List Char}
    (whole : Unbroken .initial text [])
    (reached : modeAfter .initial text (operator.mark ++ rest) = .initial)
    (parted : ∀ sign, operator.mark = [sign, sign] → ¬ EndsBare sign text) :
    Unbroken .initial text (operator.mark ++ rest) := by
  have settled : (modeAfter .initial text (operator.mark ++ rest)).escaped = false := by
    rw [reached]
    rfl
  cases operator with
  | first => contradiction
  | sequence => exact unbroken_extend 0 whole settled fun _ _ _ _ => by decide
  | andThen | orElse =>
      exact unbroken_extend 0 whole settled fun item last bare same =>
        absurd ⟨item, last, same, bare⟩ (parted _ rfl)

/-- The first command of a line gets another operator. -/
def standBehind (operator : Operator) : List Segment → List Segment
  | [] => []
  | segment :: later => { segment with operator := operator } :: later

theorem splitChain_eq_cons (line : String) :
    ∃ segment later, splitChain line = segment :: later ∧ segment.operator = .first := by
  obtain ⟨part, parts, front, spelled, cut⟩ := wellCut_exists .first line.toList
  exact ⟨part.segment, _, splitChain_of_wellCut cut front spelled, front⟩

/-- An operator behind a closed line joins it to another line. The commands of the second line
follow those of the first one. A doubled sign must not meet the same sign at the end of the first
line, which would pair with its first half. -/
theorem splitChain_joined {first mark : String} {operator : Operator}
    (real : operator ≠ .first) (marked : mark.toList = operator.mark)
    (closed : ClosedText first.toList)
    (parted : ∀ sign, operator.mark = [sign, sign] →
      ∀ segment ∈ (splitChain first).getLast?, ¬ EndsBare sign segment.text.toList)
    (second : String) :
    splitChain (first ++ mark ++ second) =
      splitChain first ++ standBehind operator (splitChain second) := by
  obtain ⟨part, parts, front, spelled, cut⟩ := wellCut_exists .first first.toList
  obtain ⟨next, others, nextFront, otherSpelled, otherCut⟩ := wellCut_exists .first second.toList
  rw [splitChain_of_wellCut cut front spelled] at parted
  let joint : LinePart := { next with operator := operator }
  have jointCut : WellCut joint others := by
    cases others with
    | nil => exact otherCut
    | cons => exact otherCut
  have behind : spelling (joint :: others) = operator.mark ++ second.toList := by
    rw [spelling_cons, otherSpelled]
    rfl
  have joined : WellCut part (parts ++ joint :: others) := by
    refine cut.append real jointCut fun last member => ?_
    obtain ⟨ending, same, whole, reached⟩ := cut.last (operator.mark ++ second.toList)
    obtain rfl : ending = last := Option.some.inj (same.symm.trans member)
    have segment : ending.segment ∈ ((part :: parts).map LinePart.segment).getLast? := by
      rw [List.getLast?_map]
      exact Option.mem_map_of_mem _ same
    rw [← spelled, closed.modeAfter_eq] at reached
    rw [behind]
    refine ⟨unbroken_mark real whole reached.symm fun sign doubled => ?_, reached.symm⟩
    have visible : isWhiteSpace sign = false := by
      rcases (Operator.of_doubled doubled).2 with rfl | rfl <;> decide
    rw [LinePart.raw, endsBare_append visible ending.gapWhite]
    simpa [LinePart.segment] using parted sign doubled ending.segment segment
  have line : (first ++ mark ++ second).toList =
      part.raw ++ spelling (parts ++ joint :: others) := by
    rw [spelling_append, behind, ← List.append_assoc, ← spelled, ← marked]
    simp
  rw [splitChain_of_wellCut joined front line, splitChain_of_wellCut cut front spelled,
    splitChain_of_wellCut otherCut nextFront otherSpelled]
  simp [standBehind, joint, LinePart.segment]

/-- A first command becomes one that runs in any case. -/
def Segment.resume (segment : Segment) : Segment := { segment with operator := .sequence }

/-- A semicolon joins any closed line to another line. -/
theorem splitChain_sequence {first : String} (closed : ClosedText first.toList)
    (second : String) :
    ∃ segment later, splitChain second = segment :: later ∧ segment.operator = .first ∧
      splitChain (first ++ ";" ++ second) = splitChain first ++ segment.resume :: later := by
  obtain ⟨segment, later, split, front⟩ := splitChain_eq_cons second
  have real : Operator.sequence ≠ .first := Operator.noConfusion
  refine ⟨segment, later, split, front, ?_⟩
  rw [splitChain_joined real rfl closed (by simp [Operator.mark]), split]
  rfl

end ChainShell
