/-
This file says where a run of commands ends. It goes on to the end of its lines unless a command
ends the shell, and then it stops right behind the first such command.
-/

import ChainShell.Proofs.Chain.Tracing

namespace ChainShell

variable {τ υ : Type}

/-- Lines are entered one after the other until one of them ends the shell. -/
def enterLines (runner : ChainRunner τ) : List String → τ → Flow × τ
  | [], state => (.proceed, state)
  | line :: later, state =>
    match runChain runner (splitChain line) .initial state with
    | (.exit, after) => (.exit, after)
    | (.proceed, after) => enterLines runner later after

theorem enterLines_singleton (runner : ChainRunner τ) (line : String) (state : τ) :
    enterLines runner [line] state = runChain runner (splitChain line) .initial state := by
  rw [enterLines]
  split
  · next evaluated => rw [evaluated]
  · next evaluated => rw [evaluated, enterLines]

theorem ChainRunner.Projects.enterLines {finer : ChainRunner υ} {runner : ChainRunner τ}
    {project : υ → τ} (projects : finer.Projects runner project) (lines : List String)
    (state : υ) :
    ChainShell.enterLines runner lines (project state) =
      ((ChainShell.enterLines finer lines state).1,
        project (ChainShell.enterLines finer lines state).2) := by
  induction lines generalizing state with
  | nil => rfl
  | cons line lines inductionHypothesis =>
      rw [ChainShell.enterLines, ChainShell.enterLines,
        projects.runChain (splitChain line) .initial state]
      cases evaluated : ChainShell.runChain finer (splitChain line) .initial state with
      | mk flow after =>
          cases flow with
          | exit => rfl
          | proceed => exact inductionHypothesis after

/-- Lines behind one that ends the shell are not evaluated. -/
theorem exists_entered (runner : ChainRunner τ) (lines : List String) (state : τ) :
    ∃ entered later, lines = entered ++ later ∧
      (enterLines runner lines state).2 = runLines runner entered state := by
  induction lines generalizing state with
  | nil => exact ⟨[], [], rfl, rfl⟩
  | cons line lines inductionHypothesis =>
      rw [enterLines]
      cases evaluated : runChain runner (splitChain line) .initial state with
      | mk flow after =>
          have first : runLines runner [line] state = after := by simp [runLines, evaluated]
          cases flow with
          | exit => exact ⟨[line], lines, rfl, first.symm⟩
          | proceed =>
              obtain ⟨entered, later, rfl, reached⟩ := inductionHypothesis after
              refine ⟨line :: entered, later, rfl, reached.trans ?_⟩
              rw [← first]
              rfl

/-- A traced run goes on if no command ends the shell. Otherwise the first one that does is its
last step. -/
def EndsBehind (Ends : List String → Prop) : Flow × τ × List (ChainStep τ) → Prop
  | (.proceed, _, steps) => ∀ argv ∈ vectorsIn steps, ¬ Ends argv
  | (.exit, final, steps) => ∃ earlier argv before,
      steps = earlier ++ [⟨some argv, before, final⟩] ∧ Ends argv ∧
        ∀ other ∈ vectorsIn earlier, ¬ Ends other

section Ending

variable {runner : ChainRunner τ} {Ends : List String → Prop}

/-- One command either keeps the run going or is its last step. -/
theorem perform_endsBehind (ends : ∀ argv state, (runner.run argv state).1 = none ↔ Ends argv)
    (segment : Segment) (last : Status) {state : τ × List (ChainStep τ)}
    (quiet : ∀ argv ∈ vectorsIn state.2, ¬ Ends argv) :
    match runner.tracing.perform segment last state with
    | (none, after) => EndsBehind Ends (.exit, after)
    | (some _, after) => ∀ argv ∈ vectorsIn after.2, ¬ Ends argv := by
  rw [ChainRunner.perform]
  by_cases permitted : segment.operator.permits last
  · let argv := tokenize segment.text
    have answered := ends argv state.1
    rw [if_pos permitted, tracing_run]
    cases ran : runner.run argv state.1 with
    | mk answer after =>
        rw [ran] at answered
        cases answer with
        | none => exact ⟨state.2, argv, state.1, rfl, answered.mp rfl, quiet⟩
        | some status =>
            have stays : ¬ Ends argv := fun ended => by simpa using answered.mpr ended
            simp only [vectorsIn_append, List.forall_mem_append]
            exact ⟨quiet, by simpa [vectorsIn] using stays⟩
  · rw [if_neg permitted, tracing_skip]
    simp only [vectorsIn_append, List.forall_mem_append]
    exact ⟨quiet, by simp [vectorsIn]⟩

theorem runChain_endsBehind (ends : ∀ argv state, (runner.run argv state).1 = none ↔ Ends argv)
    (segments : List Segment) (last : Status) {state : τ × List (ChainStep τ)}
    (quiet : ∀ argv ∈ vectorsIn state.2, ¬ Ends argv) :
    EndsBehind Ends (runChain runner.tracing segments last state) := by
  induction segments generalizing last state with
  | nil => exact quiet
  | cons segment later inductionHypothesis =>
      cases blank : segment.isBlank with
      | true =>
          rw [runChain]
          simpa [blank] using inductionHypothesis last quiet
      | false =>
          have step := perform_endsBehind ends segment last quiet
          rw [runChain_cons runner.tracing later last state blank]
          cases performed : runner.tracing.perform segment last state with
          | mk answer after =>
              rw [performed] at step
              cases answer with
              | none => exact step
              | some status => exact inductionHypothesis status step

theorem enterLines_endsBehind
    (ends : ∀ argv state, (runner.run argv state).1 = none ↔ Ends argv)
    (lines : List String) {state : τ × List (ChainStep τ)}
    (quiet : ∀ argv ∈ vectorsIn state.2, ¬ Ends argv) :
    EndsBehind Ends (enterLines runner.tracing lines state) := by
  induction lines generalizing state with
  | nil => exact quiet
  | cons line lines inductionHypothesis =>
      have first := runChain_endsBehind ends (splitChain line) .initial quiet
      rw [enterLines]
      cases evaluated : runChain runner.tracing (splitChain line) .initial state with
      | mk flow after =>
          rw [evaluated] at first
          cases flow with
          | exit => exact first
          | proceed => exact inductionHypothesis first

end Ending

end ChainShell
