/-
This file shows that a semicolon between two lines runs one line behind the other. The first line
leaves nothing for the second one but its state.
-/

import ChainShell.Machine.Layout
import ChainShell.Proofs.Chain.AndOr
import ChainShell.Proofs.Line.Joining

namespace ChainShell

variable {τ : Type}

/-- What comes behind a line happens only if the shell reads on. -/
def continueWith (result : Flow × τ) (next : τ → Flow × τ) : Flow × τ :=
  match result with
  | (.exit, after) => (.exit, after)
  | (.proceed, after) => next after

/-- Commands that do not look at the last status run behind other commands as at the start of a
line. -/
theorem runChain_append (runner : ChainRunner τ) (first : List Segment) {second : List Segment}
    (independent : ∀ last state,
      runChain runner second last state = runChain runner second .initial state)
    (last : Status) (state : τ) :
    runChain runner (first ++ second) last state =
      continueWith (runChain runner first last state) (runChain runner second .initial) := by
  induction first generalizing last state with
  | nil => exact independent last state
  | cons segment first inductionHypothesis =>
      cases blank : segment.isBlank with
      | true =>
          rw [List.cons_append, runChain, runChain]
          simpa [blank] using inductionHypothesis last state
      | false =>
          rw [List.cons_append, runChain_cons runner _ last state blank,
            runChain_cons runner first last state blank]
          cases performed : runner.perform segment last state with
          | mk answer after =>
              cases answer with
              | none => rfl
              | some status => exact inductionHypothesis status after

/-- A command that runs in any case hides the last status from the commands behind it. -/
theorem runChain_resume (runner : ChainRunner τ) {segment : Segment} (later : List Segment)
    (content : segment.isBlank = false) (front : segment.operator = .first) (last : Status)
    (state : τ) :
    runChain runner (segment.resume :: later) last state =
      runChain runner (segment :: later) .initial state := by
  have resumedContent : segment.resume.isBlank = false := content
  have performed : runner.perform segment.resume last state =
      runner.perform segment .initial state := by
    rw [ChainRunner.perform, ChainRunner.perform, front]
    rfl
  rw [runChain_cons runner later last state resumedContent,
    runChain_cons runner later .initial state content, performed]

/-- A line joined behind a closed one by a semicolon runs as if it were entered next. -/
theorem runChain_sequence (runner : ChainRunner τ) {first second : String}
    (closed : ClosedText first.toList)
    (content : ∀ segment ∈ (splitChain second).head?, segment.isBlank = false) (state : τ) :
    runChain runner (splitChain (first ++ ";" ++ second)) .initial state =
      continueWith (runChain runner (splitChain first) .initial state)
        (runChain runner (splitChain second) .initial) := by
  obtain ⟨segment, later, split, front, joined⟩ := splitChain_sequence closed second
  have filled : segment.isBlank = false := content segment (by rw [split]; rfl)
  have resumed := runChain_resume runner later filled front
  rw [joined, runChain_append runner (splitChain first)
    fun last after => (resumed last after).trans (resumed .initial after).symm]
  rw [split]
  exact congrArg (continueWith _) (funext fun after => resumed .initial after)

/-- Behind a closed line a semicolon is sequential composition, whatever one command does. The
same commands are dispatched in the same order, and the status that the first line leaves plays no
part in the second one. So a session ends with the same variables, directories, names, events and
system as after two lines, and it ends behind the first line if that line leaves the shell. -/
theorem evaluate_sequence {first second : String} (closed : ClosedText first.toList)
    (content : ∀ segment ∈ (splitChain second).head?, segment.isBlank = false) :
    (∀ (τ : Type) (runner : ChainRunner τ) (state : τ),
      runChain runner (splitChain (first ++ ";" ++ second)) .initial state =
        continueWith (runChain runner (splitChain first) .initial state)
          (runChain runner (splitChain second) .initial) ∧
      runChain runner.recording (splitChain (first ++ ";" ++ second)) .initial (state, []) =
        continueWith (runChain runner.recording (splitChain first) .initial (state, []))
          (runChain runner.recording (splitChain second) .initial)) ∧
    ∀ (σ : Type) [OperatingSystem σ] (session : Session σ),
      session.evaluate (first ++ ";" ++ second) =
        continueWith (session.evaluate first) (Session.evaluate second) := by
  refine ⟨fun τ runner state => ⟨?_, ?_⟩, fun σ system session => ?_⟩
  · exact runChain_sequence runner closed content state
  · exact runChain_sequence runner.recording closed content (state, [])
  · exact runChain_sequence Session.runner closed content session

/-- The first line holds a quoted and an escaped semicolon and ends behind a connective. -/
theorem evaluate_sequence_quoted :
    let session := Session.start (.ofPairs []) [] (Machine.standard []) {}
    (ClosedText "echo ';' \\; || exit".toList ∧
      ∀ segment ∈ (splitChain " echo b && :").head?, segment.isBlank = false) ∧
    session.evaluate ("echo ';' \\; || exit" ++ ";" ++ " echo b && :") =
      continueWith (session.evaluate "echo ';' \\; || exit")
        (Session.evaluate " echo b && :") :=
  have closed : ClosedText "echo ';' \\; || exit".toList := by decide
  have content : ∀ segment ∈ (splitChain " echo b && :").head?, segment.isBlank = false := by decide
  ⟨⟨closed, content⟩, (evaluate_sequence closed content).2 Machine _⟩

end ChainShell
