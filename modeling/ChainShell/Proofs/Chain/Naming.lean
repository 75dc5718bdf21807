/-
This file shows that every command that runs has a name. The splitter leaves no white space in front
of a command, so a command is blank exactly when it has no words.
-/

import ChainShell.Proofs.Chain.AndOr
import ChainShell.Proofs.Line.LastCommand

namespace ChainShell

/-- The chain runs without a test for an empty argument vector. There is no result where a command
without a name would run. -/
def runNamedChain {τ : Type} (runner : ChainRunner τ) :
    List Segment → Status → τ → Option (Flow × τ)
  | [], _, state => some (.proceed, state)
  | segment :: rest, last, state =>
    if segment.isBlank then
      runNamedChain runner rest last state
    else if segment.operator.permits last then
      match (tokenize segment.text).head? with
      | none => none
      | some _ =>
        match runner.run (tokenize segment.text) state with
        | (none, after) => some (.exit, after)
        | (some status, after) => runNamedChain runner rest status after
    else
      runNamedChain runner rest last (runner.skip segment last state)

/-- A name is never missing, so the test for an empty argument vector decides nothing. -/
theorem runNamedChain_eq_some {τ : Type} (runner : ChainRunner τ) (segments : List Segment)
    (last : Status) (state : τ) :
    runNamedChain runner segments last state = some (runChain runner segments last state) := by
  induction segments generalizing last state with
  | nil => rfl
  | cons segment rest inductionHypothesis =>
      cases blank : segment.isBlank with
      | true =>
          rw [runNamedChain, runChain]
          simpa [blank] using inductionHypothesis last state
      | false =>
          obtain ⟨name, arguments, words⟩ := List.exists_cons_of_ne_nil (tokenize_ne_nil blank)
          rw [runNamedChain, runChain, words]
          simp only [blank, Bool.false_eq_true, ↓reduceIte, List.head?_cons]
          cases segment.operator.permits last with
          | false => exact inductionHypothesis last (runner.skip segment last state)
          | true =>
              cases performed : runner.run (name :: arguments) state with
              | mk answer after =>
                  cases answer with
                  | none => rfl
                  | some status => exact inductionHypothesis status after

/-- Separators are white space, so a command that starts with none has words unless it is empty. -/
theorem LinePart.tokenize_eq_nil (part : LinePart) :
    tokenize part.segment.text = [] ↔ part.text = [] := by
  constructor
  · intro wordless
    by_contra text
    have content : part.segment.isBlank = false :=
      Bool.eq_false_iff.mpr (mt part.isBlank_segment_iff.mp text)
    exact tokenize_ne_nil content wordless
  · intro empty
    rw [part.segment_text_eq_empty.mpr empty]
    rfl

/-- A command of a line is blank exactly when it has no text, and it has no text exactly when it has
no words. So a command that runs is named by the first of its words, and a line is evaluated in the
same way without a test for commands that have none. -/
theorem blank_commands_have_no_words (line : String) :
    (∀ segment ∈ splitChain line,
      (segment.isBlank = true ↔ segment.text = "") ∧
        (segment.text = "" ↔ tokenize segment.text = [])) ∧
    (∀ (τ : Type) (runner : ChainRunner τ) (last : Status) (state : τ),
      runNamedChain runner (splitChain line) last state =
        some (runChain runner (splitChain line) last state)) ∧
    ∀ (σ : Type) [OperatingSystem σ] (session : Session σ),
      runNamedChain Session.runner (splitChain line) .initial session =
        some (session.evaluate line) := by
  refine ⟨fun segment member => ?_, fun τ runner last state => ?_, fun σ system session => ?_⟩
  · obtain ⟨part, rfl⟩ := exists_part_of_mem member
    have empty := part.segment_text_eq_empty
    exact ⟨part.isBlank_segment_iff.trans empty.symm, empty.trans part.tokenize_eq_nil.symm⟩
  · exact runNamedChain_eq_some runner (splitChain line) last state
  · exact runNamedChain_eq_some Session.runner (splitChain line) .initial session

/-- A no-break space is white space and separates no words. Only the splitter keeps it from the
start of a command. -/
example : (Segment.mk .first "\u00A0").isBlank = true ∧ tokenize "\u00A0" = ["\u00A0"] ∧
    splitChain "\u00A0" = [⟨.first, ""⟩] := by decide

end ChainShell
