/-
This file looks at the last command of a line. The command ends the line, and it is blank exactly
when nothing but white space stands behind the last operator.
-/

import ChainShell.Proofs.Line.Joining
import ChainShell.Proofs.Line.Words
import Mathlib.Data.List.DropRight

namespace ChainShell

/-- The last command of a line is still blank, so a word behind the line is the first one of a
command. -/
def AwaitsCommand (line : String) : Prop :=
  ∃ segment ∈ (splitChain line).getLast?, segment.isBlank = true

instance (line : String) : Decidable (AwaitsCommand line) :=
  inferInstanceAs (Decidable (∃ segment ∈ _, _))

/-- White space is all that is trimmed. -/
theorem trimEnd_append_rtakeWhile (text : List Char) :
    trimEnd text ++ text.rtakeWhile isWhiteSpace = text :=
  List.rdropWhile_append_rtakeWhile

theorem trimEnd_append_gap (text : List Char) {gap : List Char}
    (white : ∀ char ∈ gap, isWhiteSpace char = true) : trimEnd (text ++ gap) = trimEnd text := by
  have reversed : ∀ char ∈ gap.reverse, isWhiteSpace char = true :=
    fun char member => white char (List.mem_reverse.mp member)
  rw [trimEnd, List.reverse_append, List.dropWhile_append_of_pos reversed, trimEnd]

theorem trimEnd_concat (front : List Char) {char : Char} (visible : isWhiteSpace char = false) :
    trimEnd (front ++ [char]) = front ++ [char] :=
  List.rdropWhile_concat_neg isWhiteSpace front char (by simp [visible])

/-- A command starts with no white space, so it is blank only when it has no text. -/
theorem LinePart.isBlank_segment_iff (part : LinePart) :
    part.segment.isBlank = true ↔ part.text = [] := by
  rw [Segment.isBlank_iff, LinePart.segment, String.toList_ofList]
  constructor
  · intro white
    cases text : part.text with
    | nil => rfl
    | cons char rest =>
        have visible := part.textTrimmed char (by rw [text]; rfl)
        rw [white char (by rw [text]; exact List.mem_cons_self)] at visible
        contradiction
  · intro empty
    simp [empty]

theorem LinePart.segment_text_eq_empty (part : LinePart) :
    part.segment.text = "" ↔ part.text = [] := by
  rw [LinePart.segment, ← String.toList_inj, String.toList_ofList]
  rfl

section Last

variable {line : String} {segment : Segment}

/-- A line ends with the operator, the white space and the text of its last command. -/
theorem exists_part_of_last (last : segment ∈ (splitChain line).getLast?) :
    ∃ (front : List Char) (part : LinePart), part.segment = segment ∧
      line.toList = front ++ (part.operator.mark ++ part.raw) ∧
      (part.operator = .first → front = []) := by
  obtain ⟨part, parts, isFirst, spelled, cut⟩ := wellCut_exists .first line.toList
  rw [splitChain_of_wellCut cut isFirst spelled] at last
  rcases List.eq_nil_or_concat parts with rfl | ⟨earlier, final, rfl⟩
  · obtain rfl := Option.some.inj last
    refine ⟨[], part, rfl, ?_, fun _ => rfl⟩
    rw [spelled, isFirst]
    simp [Operator.mark, spelling]
  · rw [List.concat_eq_append] at spelled cut last
    have real := cut.operator_ne_first final (by simp)
    rw [← List.cons_append, List.map_append, List.map_singleton, List.getLast?_concat] at last
    obtain rfl := Option.some.inj last
    refine ⟨part.raw ++ spelling earlier, final, rfl, ?_, fun front => absurd front real⟩
    rw [spelled, spelling_append, spelling_singleton, List.append_assoc]

/-- The last command ends the line. -/
theorem text_isSuffix_of_last (last : segment ∈ (splitChain line).getLast?) :
    segment.text.toList <:+ line.toList := by
  obtain ⟨front, part, rfl, spelled, -⟩ := exists_part_of_last last
  rw [spelled, LinePart.raw, LinePart.segment, String.toList_ofList, ← List.append_assoc,
    ← List.append_assoc]
  exact List.suffix_append ..

/-- The last command ends in a sign only where its line does. -/
theorem not_endsBare_of_last {sign : Char} (other : sign ∉ line.toList.getLast?)
    (last : segment ∈ (splitChain line).getLast?) : ¬ EndsBare sign segment.text.toList := by
  intro bare
  obtain ⟨before, divided⟩ := text_isSuffix_of_last last
  rcases List.eq_nil_or_concat segment.text.toList with empty | ⟨start, final, text⟩
  · simp [EndsBare, scan, scanFrom, empty] at bare
  · rw [List.concat_eq_append] at text
    rw [text] at bare divided
    obtain ⟨rfl, -⟩ := endsBare_concat.mp bare
    rw [← divided, ← List.append_assoc, List.getLast?_concat] at other
    exact other rfl

/-- A blank last command has no text, and only white space stands behind its operator. -/
theorem spelled_of_last_isBlank (last : segment ∈ (splitChain line).getLast?)
    (blank : segment.isBlank = true) :
    segment.text = "" ∧ ∃ front gap, line.toList = front ++ segment.operator.mark ++ gap ∧
      (∀ char ∈ gap, isWhiteSpace char = true) ∧ (segment.operator = .first → front = []) := by
  obtain ⟨front, part, rfl, spelled, isFirst⟩ := exists_part_of_last last
  have empty := part.isBlank_segment_iff.mp blank
  refine ⟨by rw [LinePart.segment, empty], front, part.gap, ?_, part.gapWhite, isFirst⟩
  rw [spelled, LinePart.raw, empty, List.append_nil, ← List.append_assoc]
  rfl

/-- Behind a blank command a line ends with white space or with the operator. -/
theorem end_of_last_isBlank (last : segment ∈ (splitChain line).getLast?)
    (blank : segment.isBlank = true) :
    ∀ char ∈ line.toList.getLast?, isWhiteSpace char = true ∨
      ∃ operator : Operator, char ∈ operator.mark := by
  obtain ⟨-, front, gap, spelled, white, isFirst⟩ := spelled_of_last_isBlank last blank
  intro char ending
  rw [spelled, List.append_assoc] at ending
  by_cases nothing : segment.operator.mark ++ gap = []
  · have first : segment.operator = .first := by
      by_contra real
      exact Operator.mark_ne_nil real (List.append_eq_nil_iff.mp nothing).1
    simp [nothing, isFirst first] at ending
  · rw [List.getLast?_append_of_ne_nil _ nothing] at ending
    rcases List.mem_append.mp (List.mem_of_getLast? ending) with inMark | inGap
    · exact .inr ⟨_, inMark⟩
    · exact .inl (white char inGap)

/-- A visible character at the end of a line that belongs to no operator ends the last command. -/
theorem text_of_last_concat {front : List Char} {char : Char}
    (spelled : line.toList = front ++ [char]) (visible : isWhiteSpace char = false)
    (signless : ∀ operator : Operator, char ∉ operator.mark)
    (last : segment ∈ (splitChain line).getLast?) :
    ∃ start, segment.text.toList = start ++ [char] := by
  obtain ⟨before, divided⟩ := text_isSuffix_of_last last
  rw [spelled] at divided
  rcases List.eq_nil_or_concat segment.text.toList with empty | ⟨start, final, text⟩
  · have blank : segment.isBlank = true := by
      rw [Segment.isBlank, empty]
      rfl
    rcases end_of_last_isBlank last blank char (by rw [spelled]; simp) with white | ⟨operator, sign⟩
    · simp [visible] at white
    · exact absurd sign (signless operator)
  · rw [List.concat_eq_append] at text
    rw [text, ← List.append_assoc] at divided
    have same := (List.append_inj' divided rfl).2
    obtain rfl : final = char := List.singleton_inj.mp same
    exact ⟨start, text⟩

end Last

/-- A line joined by an operator ends as its second side does. -/
theorem awaitsCommand_joined {first mark : String} {operator : Operator}
    (real : operator ≠ .first) (marked : mark.toList = operator.mark)
    (closed : ClosedText first.toList)
    (parted : ∀ sign, operator.mark = [sign, sign] →
      ∀ segment ∈ (splitChain first).getLast?, ¬ EndsBare sign segment.text.toList)
    (second : String) : AwaitsCommand (first ++ mark ++ second) ↔ AwaitsCommand second := by
  obtain ⟨segment, later, split, -⟩ := splitChain_eq_cons second
  rw [AwaitsCommand, AwaitsCommand, splitChain_joined real marked closed parted, split]
  cases later with
  | nil => simp [standBehind, List.getLast?_append, Segment.isBlank]
  | cons next later => simp [standBehind, List.getLast?_append]

end ChainShell
