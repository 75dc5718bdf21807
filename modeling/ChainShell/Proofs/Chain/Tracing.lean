/-
This file watches the chain evaluator at work. A tracing runner keeps every command that ran or
was skipped with the states around it, over any number of lines, and changes nothing else.
-/

import ChainShell.Proofs.Chain.AndOr

namespace ChainShell

variable {τ υ : Type}

/-- One step of the evaluator. A command that was skipped ran no argument vector. -/
structure ChainStep (τ : Type) where
  ran : Option (List String)
  before : τ
  after : τ

/-- The steps that were taken are kept in order beside the state. -/
def ChainRunner.tracing (runner : ChainRunner τ) : ChainRunner (τ × List (ChainStep τ)) where
  run argv state :=
    let (answer, after) := runner.run argv state.1
    (answer, after, state.2 ++ [⟨some argv, state.1, after⟩])
  skip segment last state :=
    let after := runner.skip segment last state.1
    (after, state.2 ++ [⟨none, state.1, after⟩])

theorem tracing_run (runner : ChainRunner τ) (argv : List String)
    (state : τ × List (ChainStep τ)) :
    runner.tracing.run argv state =
      ((runner.run argv state.1).1, (runner.run argv state.1).2,
        state.2 ++ [⟨some argv, state.1, (runner.run argv state.1).2⟩]) :=
  rfl

theorem tracing_skip (runner : ChainRunner τ) (segment : Segment) (last : Status)
    (state : τ × List (ChainStep τ)) :
    runner.tracing.skip segment last state =
      (runner.skip segment last state.1,
        state.2 ++ [⟨none, state.1, runner.skip segment last state.1⟩]) :=
  rfl

/-- The argument vectors that ran. -/
def vectorsIn (steps : List (ChainStep τ)) : List (List String) :=
  steps.filterMap ChainStep.ran

@[simp] theorem vectorsIn_cons (step : ChainStep τ) (later : List (ChainStep τ)) :
    vectorsIn (step :: later) = step.ran.toList ++ vectorsIn later := by
  cases ran : step.ran <;> simp [vectorsIn, ran]

theorem vectorsIn_append (earlier later : List (ChainStep τ)) :
    vectorsIn (earlier ++ later) = vectorsIn earlier ++ vectorsIn later :=
  List.filterMap_append

/-- The steps lead from one state to another, and each of them starts where the one before it
stopped. -/
def Connects : τ → List (ChainStep τ) → τ → Prop
  | first, [], last => first = last
  | first, step :: later, last => step.before = first ∧ Connects step.after later last

theorem connects_append {first last : τ} {earlier later : List (ChainStep τ)} :
    Connects first (earlier ++ later) last ↔
      ∃ middle, Connects first earlier middle ∧ Connects middle later last := by
  induction earlier generalizing first with
  | nil => simp [Connects]
  | cons step earlier inductionHypothesis => simp [Connects, inductionHypothesis, and_assoc]

/-- A relation between two states and what ran between them holds along gapless steps when every
step can be put in front. -/
theorem Connects.relates (Relation : List (List String) → τ → τ → Prop)
    {steps : List (ChainStep τ)} {first last : τ} (connects : Connects first steps last)
    (stays : ∀ state, Relation [] state state)
    (goesOn : ∀ step ∈ steps, ∀ vectors final, Relation vectors step.after final →
      Relation (step.ran.toList ++ vectors) step.before final) :
    Relation (vectorsIn steps) first last := by
  induction steps generalizing first with
  | nil =>
      obtain rfl := connects
      exact stays first
  | cons step later inductionHypothesis =>
      obtain ⟨rfl, rest⟩ := connects
      rw [List.forall_mem_cons] at goesOn
      rw [vectorsIn_cons]
      exact goesOn.1 _ _ (inductionHypothesis rest goesOn.2)

/-- Lines are evaluated one after the other, also behind a line that leaves the shell. -/
def runLines (runner : ChainRunner τ) (lines : List String) (state : τ) : τ :=
  lines.foldl (fun state line => (runChain runner (splitChain line) .initial state).2) state

/-- What running and skipping one command keeps, a chain keeps. -/
theorem runChain_invariant {runner : ChainRunner τ} {Invariant : τ → Prop}
    (runs : ∀ argv state, Invariant state → Invariant (runner.run argv state).2)
    (skips : ∀ segment last state, Invariant state → Invariant (runner.skip segment last state))
    (segments : List Segment) (last : Status) {state : τ} (holds : Invariant state) :
    Invariant (runChain runner segments last state).2 := by
  induction segments generalizing last state with
  | nil => exact holds
  | cons segment later inductionHypothesis =>
      cases blank : segment.isBlank with
      | true =>
          rw [runChain]
          simpa [blank] using inductionHypothesis last holds
      | false =>
          have performs : Invariant (runner.perform segment last state).2 := by
            rw [ChainRunner.perform]
            split
            · exact runs _ _ holds
            · exact skips _ _ _ holds
          rw [runChain_cons runner later last state blank]
          cases performed : runner.perform segment last state with
          | mk answer after =>
              rw [performed] at performs
              cases answer with
              | none => exact performs
              | some status => exact inductionHypothesis status performs

/-- What running and skipping one command keeps, any number of lines keeps. -/
theorem runLines_invariant {runner : ChainRunner τ} (Invariant : τ → Prop)
    (runs : ∀ argv state, Invariant state → Invariant (runner.run argv state).2)
    (skips : ∀ segment last state, Invariant state → Invariant (runner.skip segment last state))
    (lines : List String) {state : τ} (holds : Invariant state) :
    Invariant (runLines runner lines state) := by
  induction lines generalizing state with
  | nil => exact holds
  | cons line lines inductionHypothesis =>
      exact inductionHypothesis (runChain_invariant runs skips (splitChain line) .initial holds)

/-- A runner that does the same and keeps more beside its state. -/
structure ChainRunner.Projects (finer : ChainRunner υ) (runner : ChainRunner τ)
    (project : υ → τ) : Prop where
  run : ∀ argv state, runner.run argv (project state) =
    ((finer.run argv state).1, project (finer.run argv state).2)
  skip : ∀ segment last state, runner.skip segment last (project state) =
    project (finer.skip segment last state)

theorem ChainRunner.Projects.perform {finer : ChainRunner υ} {runner : ChainRunner τ}
    {project : υ → τ} (projects : finer.Projects runner project) (segment : Segment)
    (last : Status) (state : υ) :
    runner.perform segment last (project state) =
      ((finer.perform segment last state).1, project (finer.perform segment last state).2) := by
  rw [ChainRunner.perform, ChainRunner.perform]
  split
  · exact projects.run _ _
  · exact Prod.ext rfl (projects.skip _ _ _)

theorem ChainRunner.Projects.runChain {finer : ChainRunner υ} {runner : ChainRunner τ}
    {project : υ → τ} (projects : finer.Projects runner project) (segments : List Segment)
    (last : Status) (state : υ) :
    ChainShell.runChain runner segments last (project state) =
      ((ChainShell.runChain finer segments last state).1,
        project (ChainShell.runChain finer segments last state).2) := by
  induction segments generalizing last state with
  | nil => rfl
  | cons segment later inductionHypothesis =>
      cases blank : segment.isBlank with
      | true =>
          rw [ChainShell.runChain, ChainShell.runChain]
          simpa [blank] using inductionHypothesis last state
      | false =>
          rw [runChain_cons runner later last _ blank, runChain_cons finer later last _ blank,
            projects.perform]
          cases performed : finer.perform segment last state with
          | mk answer after =>
              cases answer with
              | none => rfl
              | some status => exact inductionHypothesis status after

theorem ChainRunner.Projects.runLines {finer : ChainRunner υ} {runner : ChainRunner τ}
    {project : υ → τ} (projects : finer.Projects runner project) (lines : List String)
    (state : υ) :
    ChainShell.runLines runner lines (project state) =
      project (ChainShell.runLines finer lines state) := by
  induction lines generalizing state with
  | nil => rfl
  | cons line lines inductionHypothesis =>
      have line := congrArg Prod.snd (projects.runChain (splitChain line) .initial state)
      simp only [ChainShell.runLines, List.foldl_cons] at inductionHypothesis ⊢
      rw [line, inductionHypothesis]

/-- A trace belongs to the run that it watches. -/
theorem tracing_projects (runner : ChainRunner τ) : runner.tracing.Projects runner Prod.fst where
  run _ _ := rfl
  skip _ _ _ := rfl

/-- A trace has no gaps. -/
theorem tracing_connects (runner : ChainRunner τ) (lines : List String) (start : τ) :
    Connects start (runLines runner.tracing lines (start, [])).2
      (runLines runner.tracing lines (start, [])).1 := by
  have extended (state : τ × List (ChainStep τ)) (step : ChainStep τ)
      (goesOn : step.before = state.1) (holds : Connects start state.2 state.1) :
      Connects start (state.2 ++ [step]) step.after :=
    connects_append.mpr ⟨state.1, holds, goesOn, rfl⟩
  exact runLines_invariant
    (fun state : τ × List (ChainStep τ) => Connects start state.2 state.1)
    (fun _ state holds => extended state _ rfl holds)
    (fun _ _ state holds => extended state _ rfl holds) lines rfl

/-- A law of every command that runs and of every one that is skipped holds for a whole trace. -/
theorem tracing_forall {runner : ChainRunner τ} {Law : ChainStep τ → Prop}
    (runs : ∀ argv state, Law ⟨some argv, state, (runner.run argv state).2⟩)
    (skips : ∀ segment last state, Law ⟨none, state, runner.skip segment last state⟩)
    (lines : List String) (start : τ) :
    ∀ step ∈ (runLines runner.tracing lines (start, [])).2, Law step := by
  exact runLines_invariant
    (fun state : τ × List (ChainStep τ) => ∀ step ∈ state.2, Law step)
    (fun argv state holds =>
      List.forall_mem_append.mpr ⟨holds, List.forall_mem_singleton.mpr (runs argv state.1)⟩)
    (fun segment last state holds =>
      List.forall_mem_append.mpr ⟨holds, List.forall_mem_singleton.mpr (skips segment last state.1)⟩)
    lines (by simp)

end ChainShell
