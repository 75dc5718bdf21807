/-
This file compares two answers to the question whether the next word names a command. Completion
looks at the end of the text, and the splitter reads all of it. They differ only where the splitter
leaves the last sign of a run unpaired, or where the text is quoted.
-/

import ChainShell.Completion
import ChainShell.Proofs.Line.Appending
import ChainShell.Proofs.Line.LastCommand

namespace ChainShell

/-- The number of equal signs at the end of a text. -/
def trailingRun (sign : Char) (text : List Char) : Nat :=
  (text.rtakeWhile (· == sign)).length

/-- A run of three or more signs, odd in number, ends with a sign that finds no partner. -/
def EndsUnpaired (sign : Char) (text : List Char) : Prop :=
  3 ≤ trailingRun sign text ∧ trailingRun sign text % 2 = 1

instance (sign : Char) (text : List Char) : Decidable (EndsUnpaired sign text) :=
  inferInstanceAs (Decidable (_ ∧ _))

theorem eq_append_trailingRun (sign : Char) (text : List Char) :
    text = text.rdropWhile (· == sign) ++ List.replicate (trailingRun sign text) sign := by
  have run : text.rtakeWhile (· == sign) = List.replicate (trailingRun sign text) sign :=
    List.eq_replicate_of_mem fun char member => by simpa using List.mem_rtakeWhile_imp member
  rw [← run]
  exact List.rdropWhile_append_rtakeWhile.symm

theorem two_le_trailingRun (sign : Char) (front : List Char) :
    2 ≤ trailingRun sign (front ++ [sign, sign]) := by
  simp [trailingRun, List.rtakeWhile]

/-- A word names a command at the start of a line and behind an operator. -/
theorem isFirstWord_iff (before : List Char) :
    isFirstWord before = true ↔
      trimEnd before = [] ∨ ∃ operator : Operator, operator ≠ .first ∧
        operator.mark <:+ trimEnd before := by
  simp only [isFirstWord, Bool.or_eq_true, List.isEmpty_iff, List.isSuffixOf_iff_suffix, or_assoc]
  refine or_congr Iff.rfl ⟨?_, ?_⟩
  · rintro (ends | ends | ends)
    · exact ⟨.sequence, Operator.noConfusion, ends⟩
    · exact ⟨.andThen, Operator.noConfusion, ends⟩
    · exact ⟨.orElse, Operator.noConfusion, ends⟩
  · rintro ⟨operator, real, ends⟩
    cases operator with
    | first => contradiction
    | sequence => exact .inl ends
    | andThen => exact .inr (.inl ends)
    | orElse => exact .inr (.inr ends)

theorem Operator.trimEnd_mark {operator : Operator} (real : operator ≠ .first)
    (front : List Char) : trimEnd (front ++ operator.mark) = front ++ operator.mark := by
  cases operator with
  | first => contradiction
  | sequence => exact trimEnd_concat front (by decide)
  | andThen | orElse =>
      rw [Operator.mark, List.append_cons]
      exact trimEnd_concat _ (by decide)

/-- Where the splitter expects a command, completion offers commands. -/
theorem AwaitsCommand.isFirstWord {before : String} (awaits : AwaitsCommand before) :
    isFirstWord before.toList = true := by
  obtain ⟨segment, last, blank⟩ := awaits
  obtain ⟨-, front, gap, spelled, white, isFirst⟩ := spelled_of_last_isBlank last blank
  rw [isFirstWord_iff, spelled, trimEnd_append_gap _ white]
  by_cases first : segment.operator = .first
  · left
    rw [isFirst first, first]
    rfl
  · right
    refine ⟨segment.operator, first, ?_⟩
    rw [Operator.trimEnd_mark first]
    exact List.suffix_append ..

section Gap

variable {gap : List Char} (white : ∀ char ∈ gap, isWhiteSpace char = true)

include white

theorem signless_of_white : ∀ char ∈ gap, char ≠ ';' ∧ char ≠ '&' ∧ char ≠ '|' := by
  intro char member
  have whiteChar := white char member
  refine ⟨?_, ?_, ?_⟩ <;> (rintro rfl; exact absurd whiteChar (by decide))

theorem awaitsCommand_gap : AwaitsCommand (String.ofList gap) := by
  let part : LinePart := ⟨.first, gap, [], white, by simp⟩
  have cut : WellCut part [] := by
    rw [WellCut, LinePart.raw, List.append_nil]
    exact unbroken_signless (signless_of_white white) _ _
  rw [AwaitsCommand, splitChain_of_wellCut cut rfl (by simp [part, LinePart.raw, spelling])]
  exact ⟨part.segment, rfl, part.isBlank_segment_iff.mpr rfl⟩

/-- A single sign in front of white space is ordinary text. -/
theorem not_awaitsCommand_sign {sign : Char} (single : sign = '&' ∨ sign = '|') :
    ¬ AwaitsCommand (String.ofList (sign :: gap)) := by
  have visible : isWhiteSpace sign = false := by
    rcases single with rfl | rfl <;> decide
  have plain : IsPlain sign := by
    rcases single with rfl | rfl <;> decide
  have alone : Unbroken .initial [sign] [] := by
    rcases single with rfl | rfl <;> simp [Unbroken, boundary, Mode.peekBare]
  have settled : (modeAfter .initial [sign] gap).escaped = false := by
    rw [modeAfter_plain (by simpa using plain)]
    rfl
  have whole := unbroken_append_signless alone settled (signless_of_white white)
  have split := splitChain_unbroken whole (by rintro char ⟨⟩; exact visible)
  rintro ⟨segment, last, blank⟩
  have empty := (spelled_of_last_isBlank last blank).1
  rw [List.singleton_append] at split
  rw [split] at last
  obtain rfl := Option.some.inj last
  simp at empty

/-- A run of signs is read in pairs from its start, so a command is awaited behind it exactly when
no sign is left over. -/
theorem awaitsCommand_run {operator : Operator} {sign : Char}
    (doubled : operator.mark = [sign, sign]) (count : Nat) :
    AwaitsCommand (String.ofList (List.replicate count sign ++ gap)) ↔ count % 2 = 0 := by
  obtain ⟨real, single⟩ := Operator.of_doubled doubled
  induction count using Nat.twoStepInduction with
  | zero => simpa using awaitsCommand_gap white
  | one => simpa using not_awaitsCommand_sign white single
  | more count inductionHypothesis _ =>
      -- The first two signs are an operator, and the shorter run behind it starts a line anew.
      have divided : String.ofList (List.replicate (count + 2) sign ++ gap) =
          "" ++ String.ofList operator.mark ++
            String.ofList (List.replicate count sign ++ gap) := by
        rw [doubled, String.empty_append, ← String.ofList_append]
        rfl
      have parted : ∀ other, operator.mark = [other, other] →
          ∀ segment ∈ (splitChain "").getLast?, ¬ EndsBare other segment.text.toList :=
        fun _ _ _ last => not_endsBare_of_last (by simp) last
      rw [divided, awaitsCommand_joined real (String.toList_ofList) (by decide) parted,
        inductionHypothesis]
      omega

/-- The same holds behind plain text, where the splitter starts to pair the signs at the first sign
of the run. -/
theorem awaitsCommand_trailingRun {operator : Operator} {sign : Char}
    (doubled : operator.mark = [sign, sign]) {text : List Char}
    (plain : ∀ char ∈ text, IsPlain char) (pair : 2 ≤ trailingRun sign text) :
    AwaitsCommand (String.ofList (text ++ gap)) ↔ trailingRun sign text % 2 = 0 := by
  obtain ⟨count, run⟩ : ∃ count, trailingRun sign text = count + 2 :=
    ⟨_, (Nat.sub_add_cancel pair).symm⟩
  let front := text.rdropWhile (· == sign)
  have spelled : text = front ++ List.replicate (count + 2) sign :=
    run ▸ eq_append_trailingRun sign text
  have divided : String.ofList (text ++ gap) =
      String.ofList front ++ String.ofList operator.mark ++
        String.ofList (List.replicate count sign ++ gap) := by
    rw [spelled, doubled, ← String.ofList_append, ← String.ofList_append]
    simp [List.replicate_succ]
  have closed := closedText_of_prefix plain (List.rdropWhile_prefix (· == sign) text)
  -- No equal sign stands in front of the run that could pair with its first one.
  have parted : ∀ other, operator.mark = [other, other] →
      ∀ segment ∈ (splitChain (String.ofList front)).getLast?,
        ¬ EndsBare other segment.text.toList := by
    intro other same segment last
    obtain rfl : sign = other := (List.cons.inj (doubled.symm.trans same)).1
    refine not_endsBare_of_last (fun final => ?_) last
    rw [String.toList_ofList] at final
    have nonempty : front ≠ [] := List.ne_nil_of_mem (List.mem_of_getLast? final)
    rw [List.getLast?_eq_some_getLast nonempty] at final
    exact List.rdropWhile_last_not _ _ nonempty (by simpa using Option.some.inj final)
  rw [divided, awaitsCommand_joined (Operator.of_doubled doubled).1 String.toList_ofList closed
    parted, awaitsCommand_run white doubled, run]
  omega

theorem not_endsUnpaired_of_awaitsCommand {text : List Char}
    (plain : ∀ char ∈ text, IsPlain char) (awaits : AwaitsCommand (String.ofList (text ++ gap))) :
    ∀ sign ∈ ['&', '|'], ¬ EndsUnpaired sign text := by
  have paired (operator : Operator) {sign : Char} (doubled : operator.mark = [sign, sign]) :
      ¬ EndsUnpaired sign text := by
    rintro ⟨long, odd⟩
    have even := (awaitsCommand_trailingRun white doubled plain (by omega)).mp awaits
    omega
  intro sign member
  simp only [List.mem_cons, List.not_mem_nil, or_false] at member
  rcases member with rfl | rfl
  · exact paired .andThen rfl
  · exact paired .orElse rfl

/-- Behind an operator whose signs are all paired a command is awaited. -/
theorem awaitsCommand_of_mark {operator : Operator} (real : operator ≠ .first) {text : List Char}
    (plain : ∀ char ∈ text, IsPlain char) (ends : operator.mark <:+ text)
    (allPaired : ∀ sign ∈ ['&', '|'], ¬ EndsUnpaired sign text) :
    AwaitsCommand (String.ofList (text ++ gap)) := by
  obtain ⟨front, rfl⟩ := ends
  have paired {sign : Char} (doubled : operator.mark = [sign, sign]) :
      AwaitsCommand (String.ofList (front ++ operator.mark ++ gap)) := by
    have pair : 2 ≤ trailingRun sign (front ++ operator.mark) := by
      rw [doubled]
      exact two_le_trailingRun sign front
    have even := allPaired sign (by simpa using (Operator.of_doubled doubled).2)
    rw [awaitsCommand_trailingRun white doubled plain pair]
    rw [EndsUnpaired] at even
    omega
  cases operator with
  | first => contradiction
  | sequence =>
      have closed := closedText_of_prefix plain (List.prefix_append front _)
      rw [String.ofList_append, String.ofList_append,
        awaitsCommand_joined real String.toList_ofList closed (by simp [Operator.mark])]
      exact awaitsCommand_gap white
  | andThen | orElse => exact paired rfl

end Gap

/-- Completion expects a command wherever the splitter does. In text without quotes and
backslashes the splitter expects one wherever completion does, unless the text ends in an unpaired
sign. -/
theorem isFirstWord_iff_awaitsCommand (before : String) :
    (AwaitsCommand before → isFirstWord before.toList = true) ∧
      ((∀ char ∈ before.toList, IsPlain char) →
        (AwaitsCommand before ↔ isFirstWord before.toList = true ∧
          ∀ sign ∈ ['&', '|'], ¬ EndsUnpaired sign (trimEnd before.toList))) := by
  refine ⟨AwaitsCommand.isFirstWord, fun plain => ?_⟩
  have white : ∀ char ∈ before.toList.rtakeWhile isWhiteSpace, isWhiteSpace char = true :=
    fun _ => List.mem_rtakeWhile_imp
  have line := congrArg String.ofList (trimEnd_append_rtakeWhile before.toList)
  rw [String.ofList_toList] at line
  have trimmedPlain : ∀ char ∈ trimEnd before.toList, IsPlain char := fun char member =>
    plain char ((List.rdropWhile_prefix isWhiteSpace _).subset member)
  constructor
  · intro awaits
    refine ⟨awaits.isFirstWord, not_endsUnpaired_of_awaitsCommand white trimmedPlain ?_⟩
    rwa [line]
  · rintro ⟨first, allPaired⟩
    rw [← line]
    rcases (isFirstWord_iff before.toList).mp first with empty | ⟨operator, real, ends⟩
    · rw [empty]
      exact awaitsCommand_gap white
    · exact awaitsCommand_of_mark white real trimmedPlain ends allPaired

/-- Four bars are two operators, and the white space behind them is no blank of the tokenizer. -/
theorem isFirstWord_iff_awaitsCommand_bars :
    (∀ char ∈ "cd /usr ||||\u3000".toList, IsPlain char) ∧ AwaitsCommand "cd /usr ||||\u3000" ∧
      isFirstWord "cd /usr ||||\u3000".toList = true ∧
      ∀ sign ∈ ['&', '|'], ¬ EndsUnpaired sign (trimEnd "cd /usr ||||\u3000".toList) :=
  have plain : ∀ char ∈ "cd /usr ||||\u3000".toList, IsPlain char := by simp [IsPlain]
  have awaits : AwaitsCommand "cd /usr ||||\u3000" := by decide
  have ⟨offers, agrees⟩ := isFirstWord_iff_awaitsCommand "cd /usr ||||\u3000"
  ⟨plain, awaits, offers awaits, ((agrees plain).mp awaits).2⟩

/-- Behind three ampersands completion offers commands, and the splitter has started one with the
last of them. -/
example : isFirstWord "cd /usr &&&".toList = true ∧ ¬ AwaitsCommand "cd /usr &&&" := by decide

end ChainShell
