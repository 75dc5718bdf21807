/-
This file shows what a separator does to the text around it. Behind a closed text an operator
divides a line into two chains, and a run of blanks divides a command into two lists of words.
-/

import ChainShell.Proofs.Line.Joining
import ChainShell.Proofs.Line.Relexing
import ChainShell.Proofs.Line.Words

namespace ChainShell

/-- A blank ends the words in front of it, and the words behind it start anew. -/
theorem gatherWords_append_blank (current : Option (List Char)) (items : List Scanned)
    {separator : Scanned} (blank : separator.role = .blank) (rest : List Scanned) :
    gatherWords current (items ++ separator :: rest) =
      gatherWords current items ++ gatherWords none rest := by
  induction items generalizing current with
  | nil => cases current <;> simp [gatherWords, blank]
  | cons item items inductionHypothesis =>
      cases role : item.role with
      | bare | literal | quote | escape =>
          cases current <;> simp [gatherWords, role, inductionHypothesis]
      | blank => cases current <;> simp [gatherWords, role, inductionHypothesis]

/-- The words around a gap are those of the two texts when the first one is closed. -/
theorem wordsOf_append_gap {first gap : List Char} (closed : ClosedText first)
    (nonempty : gap ≠ []) (separators : ∀ char ∈ gap, Separates char) (second : List Char) :
    wordsOf (first ++ (gap ++ second)) = wordsOf first ++ wordsOf second := by
  obtain ⟨separator, gap, rfl⟩ := List.exists_cons_of_ne_nil nonempty
  rw [List.forall_mem_cons] at separators
  have reached := closed.modeAfter_eq (separator :: gap ++ second)
  have settled : (modeAfter .initial first (separator :: gap ++ second)).escaped = false := by
    rw [reached]
    rfl
  have read : wordsFrom .initial none (gap ++ second) = wordsOf second :=
    wordsFrom_gap second separators.2
  rw [wordsOf_eq_gatherWords, scan, scanFrom_append 0 settled, reached, List.cons_append, scanFrom]
  simp only [step_separator _ separators.1]
  rw [gatherWords_append_blank _ _ rfl, ← wordsFrom_eq_gatherWords, ← wordsFrom_eq_gatherWords,
    read]
  rfl

/-- Behind a closed text the separators divide a line. The commands of a line that is joined by an
operator are those of its two sides, with the operator in front of the first command of the
second side, as long as a doubled sign does not meet its own half at the end of the first side. The
words of a text that is joined by blanks are those of its two sides. -/
theorem separators_divide {first : String} (closed : ClosedText first.toList)
    (second : String) :
    splitChain (first ++ ";" ++ second) =
        splitChain first ++ standBehind .sequence (splitChain second) ∧
      ((∀ segment ∈ (splitChain first).getLast?, ¬ EndsBare '&' segment.text.toList) →
        splitChain (first ++ "&&" ++ second) =
          splitChain first ++ standBehind .andThen (splitChain second)) ∧
      ((∀ segment ∈ (splitChain first).getLast?, ¬ EndsBare '|' segment.text.toList) →
        splitChain (first ++ "||" ++ second) =
          splitChain first ++ standBehind .orElse (splitChain second)) ∧
      ∀ gap : String, gap ≠ "" → (∀ char ∈ gap.toList, Separates char) →
        tokenize (first ++ gap ++ second) = tokenize first ++ tokenize second := by
  refine ⟨?_, fun parted => ?_, fun parted => ?_, fun gap nonempty separators => ?_⟩
  · exact splitChain_joined Operator.noConfusion rfl closed (by simp [Operator.mark]) second
  · refine splitChain_joined Operator.noConfusion rfl closed (fun sign doubled => ?_) second
    obtain rfl : '&' = sign := by simpa [Operator.mark] using doubled
    exact parted
  · refine splitChain_joined Operator.noConfusion rfl closed (fun sign doubled => ?_) second
    obtain rfl : '|' = sign := by simpa [Operator.mark] using doubled
    exact parted
  · have filled : gap.toList ≠ [] := by simpa using nonempty
    have divided := wordsOf_append_gap closed filled separators second.toList
    simp only [tokenize, String.toList_append, List.append_assoc, divided, List.map_append]

/-- The first side ends in an escaped ampersand, which a doubled ampersand may follow, and the
second side starts with one. -/
theorem separators_divide_escaped :
    (ClosedText "echo 'a;' \\&".toList ∧
      (∀ segment ∈ (splitChain "echo 'a;' \\&").getLast?, ¬ EndsBare '&' segment.text.toList) ∧
      (∀ segment ∈ (splitChain "echo 'a;' \\&").getLast?, ¬ EndsBare '|' segment.text.toList) ∧
      " \t" ≠ "" ∧ ∀ char ∈ " \t".toList, Separates char) ∧
    splitChain ("echo 'a;' \\&" ++ ";" ++ "& b || c") =
        splitChain "echo 'a;' \\&" ++ standBehind .sequence (splitChain "& b || c") ∧
      splitChain ("echo 'a;' \\&" ++ "&&" ++ "& b || c") =
        splitChain "echo 'a;' \\&" ++ standBehind .andThen (splitChain "& b || c") ∧
      splitChain ("echo 'a;' \\&" ++ "||" ++ "& b || c") =
        splitChain "echo 'a;' \\&" ++ standBehind .orElse (splitChain "& b || c") ∧
      tokenize ("echo 'a;' \\&" ++ " \t" ++ "& b || c") =
        tokenize "echo 'a;' \\&" ++ tokenize "& b || c" :=
  have closed : ClosedText "echo 'a;' \\&".toList := by decide
  have noAmpersand : ∀ segment ∈ (splitChain "echo 'a;' \\&").getLast?,
      ¬ EndsBare '&' segment.text.toList := by decide
  have noBar : ∀ segment ∈ (splitChain "echo 'a;' \\&").getLast?,
      ¬ EndsBare '|' segment.text.toList := by decide
  have separators : ∀ char ∈ " \t".toList, Separates char := by simp [Separates]
  have ⟨sequence, andThen, orElse, words⟩ := separators_divide closed "& b || c"
  ⟨⟨closed, noAmpersand, noBar, by decide, separators⟩, sequence, andThen noAmpersand, orElse noBar,
    words " \t" (by decide) separators⟩

end ChainShell
