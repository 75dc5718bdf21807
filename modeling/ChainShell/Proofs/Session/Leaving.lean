/-
This file says which commands leave the shell. A line or a session ends early behind one of them
and behind nothing else, and the command itself changes nothing that can be seen.
-/

import ChainShell.Proofs.Chain.Ending
import ChainShell.Proofs.Session.Dispatch
import ChainShell.Proofs.Session.Visible

namespace ChainShell

/-- The word `exit` or `logout` stands alone behind any number of words `builtin`. -/
def LeavesShell (argv : List String) : Prop :=
  ∃ count, ∃ name ∈ ["exit", "logout"], argv = List.replicate count "builtin" ++ [name]

theorem LeavesShell.builtin {argv : List String} (leaves : LeavesShell argv) :
    LeavesShell ("builtin" :: argv) := by
  obtain ⟨count, name, named, rfl⟩ := leaves
  exact ⟨count + 1, name, named, rfl⟩

section Commands

variable {σ : Type} [OperatingSystem σ]

/-- A leaving vector ends the shell, and nothing happens to it. -/
theorem dispatch_leaving {argv : List String} (leaves : LeavesShell argv) (shell : Shell σ) :
    dispatch argv shell = (.terminate, shell) := by
  obtain ⟨count, name, named, rfl⟩ := leaves
  have owns : name ∈ Builtin.leave.names := named
  have answered : dispatch [name] shell = (.terminate, shell) := dispatch_owned owns [] shell
  rw [dispatch_builtins count (by simp [answered]), answered]

/-- No other vector ends the shell. -/
theorem leavesShell_of_dispatch {argv : List String} {shell : Shell σ}
    (ended : (dispatch argv shell).1 = .terminate) : LeavesShell argv := by
  have answers := dispatch_answers argv shell
  generalize dispatch argv shell = answer at answers ended
  induction answers with
  | nothing | bare | refused | external => contradiction
  | passed behind claimed inductionHypothesis => exact (inductionHypothesis ended).builtin
  | @owned entry name arguments owns =>
      obtain ⟨rfl, rfl⟩ := (entry.invoke_outcome arguments shell).2 ended
      exact ⟨0, name, owns, rfl⟩

/-- A program always leaves a status, and so does every built-in that does not end the shell. -/
theorem Shell.runCommand_eq_none (argv : List String) (shell : Shell σ) :
    (shell.runCommand argv).1 = none ↔ (dispatch argv shell).1 = .terminate := by
  rw [Shell.runCommand]
  cases dispatched : dispatch argv shell with
  | mk outcome after => cases outcome <;> simp [Outcome.status]

theorem Session.run_eq_none (argv : List String) (session : Session σ) :
    (Session.run argv session).1 = none ↔ LeavesShell argv := by
  have ends := (session.shell.log .debug ("argv: " ++ quotedList argv)).runCommand_eq_none argv
  rw [Session.run]
  cases ran : (session.shell.log .debug ("argv: " ++ quotedList argv)).runCommand argv with
  | mk answer after =>
      have leaves : answer = none ↔ LeavesShell argv := by
        rw [ran] at ends
        exact ends.trans
          ⟨leavesShell_of_dispatch, fun leaves => by rw [dispatch_leaving leaves]⟩
      rw [← leaves]
      cases answer <;> simp

/-- A leaving command is only logged. -/
theorem Session.run_leaving {argv : List String} (leaves : LeavesShell argv)
    (session : Session σ) : (Session.run argv session).2.withoutLog = session.withoutLog := by
  rw [Session.run, Shell.runCommand, dispatch_leaving leaves]
  simp [Session.withoutLog]

end Commands

variable {σ : Type}

/-- The steps of a run lead from its start to its end, and they say why it ended. -/
structure Session.EndsByLeaving (start : Session σ) (flow : Flow) (final : Session σ)
    (steps : List (ChainStep (Session σ))) : Prop where
  connects : Connects start steps final
  exit_iff : flow = .exit ↔ ∃ argv ∈ vectorsIn steps, LeavesShell argv
  /-- Nothing runs behind a leaving command, and no leaving command ran before it. -/
  last : ∀ argv ∈ vectorsIn steps, LeavesShell argv → ∃ earlier before,
    steps = earlier ++ [⟨some argv, before, final⟩] ∧
      ∀ other ∈ vectorsIn earlier, ¬ LeavesShell other
  /-- From the command that ran before it on, a leaving command finds and keeps the same
  environment, names, system and output. -/
  unchanged : ∀ earlier behind argv, steps = earlier ++ behind → vectorsIn behind = [argv] →
    LeavesShell argv → ∃ point, Connects start earlier point ∧ Connects point behind final ∧
      final.withoutLog = point.withoutLog

/-- A step without a command that stays is seen in the log at most. -/
def ChainStep.LeavesQuietly (step : ChainStep (Session σ)) : Prop :=
  (∀ argv ∈ step.ran, LeavesShell argv) → step.after.withoutLog = step.before.withoutLog

theorem Connects.withoutLog {steps : List (ChainStep (Session σ))} {first last : Session σ}
    (connects : Connects first steps last) (quiet : ∀ step ∈ steps, step.LeavesQuietly)
    (leaving : ∀ argv ∈ vectorsIn steps, LeavesShell argv) :
    last.withoutLog = first.withoutLog := by
  refine Connects.relates
    (fun vectors (before after : Session σ) =>
      (∀ argv ∈ vectors, LeavesShell argv) → after.withoutLog = before.withoutLog)
    connects (fun _ _ => rfl) ?_ leaving
  intro step member vectors final behind leaves
  rw [List.forall_mem_append] at leaves
  have here : step.after.withoutLog = step.before.withoutLog :=
    quiet step member fun argv ran => leaves.1 argv (Option.mem_toList.mpr ran)
  exact (behind leaves.2).trans here

/-- A run without gaps that ends behind its first leaving command ends as a session should. -/
theorem Session.EndsByLeaving.of_endsBehind {start final : Session σ} {flow : Flow}
    {steps : List (ChainStep (Session σ))} (connects : Connects start steps final)
    (quiet : ∀ step ∈ steps, step.LeavesQuietly)
    (ends : EndsBehind LeavesShell (flow, final, steps)) :
    start.EndsByLeaving flow final steps where
  connects := connects
  exit_iff := by
    cases flow with
    | proceed =>
        have none : ¬ ∃ argv ∈ vectorsIn steps, LeavesShell argv :=
          fun ⟨argv, member, leaves⟩ => ends argv member leaves
        simp [none]
    | exit =>
        obtain ⟨earlier, argv, before, rfl, leaves, -⟩ := ends
        have member : argv ∈ vectorsIn (earlier ++ [⟨some argv, before, final⟩]) := by
          simp [vectorsIn_append]
        exact ⟨fun _ => ⟨argv, member, leaves⟩, fun _ => rfl⟩
  last argv member leaves := by
    cases flow with
    | proceed => exact absurd leaves (ends argv member)
    | exit =>
        obtain ⟨earlier, ending, before, rfl, -, others⟩ := ends
        rw [vectorsIn_append] at member
        rcases List.mem_append.mp member with inEarlier | same
        · exact absurd leaves (others argv inEarlier)
        · obtain rfl : argv = ending := by simpa [vectorsIn] using same
          exact ⟨earlier, before, rfl, others⟩
  unchanged earlier behind argv divided only leaves := by
    subst divided
    obtain ⟨point, toPoint, toFinal⟩ := connects_append.mp connects
    rw [List.forall_mem_append] at quiet
    exact ⟨point, toPoint, toFinal, toFinal.withoutLog quiet.2 (by simpa [only] using leaves)⟩

variable [OperatingSystem σ]

theorem Session.endsByLeaving (lines : List String) (session : Session σ) :
    let (flow, final, steps) := enterLines Session.runner.tracing lines (session, [])
    enterLines Session.runner lines session = (flow, final) ∧
      session.EndsByLeaving flow final steps := by
  have watched := (tracing_projects Session.runner).enterLines lines (session, [])
  have ends : EndsBehind LeavesShell (enterLines Session.runner.tracing lines (session, [])) :=
    enterLines_endsBehind Session.run_eq_none lines (by simp [vectorsIn])
  -- Only the lines up to the end are evaluated, and their trace has no gaps.
  obtain ⟨entered, later, -, reached⟩ :=
    exists_entered Session.runner.tracing lines (session, [])
  have connects := tracing_connects Session.runner entered session
  have quiet : ∀ step ∈ (runLines Session.runner.tracing entered (session, [])).2,
      step.LeavesQuietly := by
    refine tracing_forall (fun argv state leaves => ?_) (fun segment last state _ => ?_)
      entered session
    · exact Session.run_leaving (leaves argv rfl) state
    · simp [Session.runner, Session.skip, Session.withoutLog]
  rw [← reached] at connects quiet
  generalize enterLines Session.runner.tracing lines (session, []) = trace at *
  obtain ⟨flow, final, steps⟩ := trace
  exact ⟨watched, .of_endsBehind connects quiet ends⟩

/-- Whatever the system and the writer do, a command ends the shell exactly when it is the word
`exit` or `logout` alone behind any number of words `builtin`. So a line, or a session of lines,
ends early exactly when such a command runs. It is then the last one, and it changes nothing but
the log. -/
theorem evaluate_exit (session : Session σ) :
    (∀ argv, (Session.run argv session).1 = none ↔ LeavesShell argv) ∧
      (∀ line,
        let (flow, final, steps) :=
          runChain Session.runner.tracing (splitChain line) .initial (session, [])
        session.evaluate line = (flow, final) ∧ session.EndsByLeaving flow final steps) ∧
      ∀ lines,
        let (flow, final, steps) := enterLines Session.runner.tracing lines (session, [])
        enterLines Session.runner lines session = (flow, final) ∧
          session.EndsByLeaving flow final steps := by
  refine ⟨fun argv => Session.run_eq_none argv session, fun line => ?_,
    fun lines => session.endsByLeaving lines⟩
  have single := session.endsByLeaving [line]
  rwa [enterLines_singleton, enterLines_singleton] at single

end ChainShell
