/-
This file follows the names for completion through whole sessions. Wherever a session stands, its
file names are those of the tracked directory, and its command names are those of the start.
-/

import ChainShell.Machine.Layout
import ChainShell.Proofs.Session.Leaving

namespace ChainShell

variable {σ : Type} [OperatingSystem σ]

/-- The names that the system lists in a directory. An unreadable directory has none, and one with
an unreadable entry has none either. -/
def directoryNames (system : σ) (directory : Path) : List String :=
  match OperatingSystem.listDir system directory with
  | .ok entries => (entries.mapM Except.toOption).getD []
  | .error _ => []

/-- The file names of a session are those of the tracked directory as the system lists them now. -/
def Session.ListsDirectory (session : Session σ) : Prop :=
  session.index.files =
    directoryNames session.shell.system session.shell.environment.currentDir

/-- A listing is read as a whole. -/
theorem toOption_entryNames (path : Path) (entries : List (Except OsError String)) :
    (entryNames path entries).toOption = entries.mapM Except.toOption := by
  induction entries with
  | nil => rfl
  | cons entry entries inductionHypothesis =>
      rw [List.mapM_cons, ← inductionHypothesis]
      cases entry with
      | error cause => rfl
      | ok name =>
          rw [entryNames]
          cases entryNames path entries <;> rfl

theorem fileNames_names (system : σ) (directory : Path) :
    (fileNames system directory).1 = directoryNames system directory := by
  rw [fileNames, directoryNames, listNames]
  cases OperatingSystem.listDir system directory with
  | error cause => rfl
  | ok entries =>
      simp only [← toOption_entryNames directory]
      cases entryNames directory entries <;> rfl

section Start

variable (settings : Settings) (pairs : List (String × String)) (system : σ) (writer : Writer)

theorem Session.start_commands :
    (Session.start settings pairs system writer).index.commands =
      (commandNames system
        (Session.start settings pairs system writer).shell.environment.searchPath).1 := by
  simp only [Session.start, NameIndex.build]

theorem Session.start_listsDirectory :
    (Session.start settings pairs system writer).ListsDirectory :=
  fileNames_names system _

end Start

theorem Session.refresh_listsDirectory (session : Session σ) : session.refresh.ListsDirectory :=
  fileNames_names session.shell.system session.shell.environment.currentDir

/-- The log plays no part in what is listed. -/
theorem Session.ListsDirectory.of_withoutLog {before after : Session σ}
    (lists : before.ListsDirectory) (same : after.withoutLog = before.withoutLog) :
    after.ListsDirectory := by
  have listed : before.withoutLog.ListsDirectory := lists
  rw [← same] at listed
  exact listed

/-- A command keeps the command names, and the file names are listed behind it unless it leaves the
shell. -/
theorem Session.run_names (argv : List String) (session : Session σ) :
    (Session.run argv session).2.index.commands = session.index.commands ∧
      ((Session.run argv session).1 ≠ none → (Session.run argv session).2.ListsDirectory) := by
  rw [Session.run]
  cases (session.shell.log .debug ("argv: " ++ quotedList argv)).runCommand argv with
  | mk answer after =>
      cases answer with
      | none => exact ⟨rfl, fun ended => absurd rfl ended⟩
      | some status => exact ⟨rfl, fun _ => Session.refresh_listsDirectory _⟩

theorem Session.run_listsDirectory (argv : List String) {session : Session σ}
    (lists : session.ListsDirectory) : (Session.run argv session).2.ListsDirectory := by
  by_cases ended : (Session.run argv session).1 = none
  · -- A command that leaves the shell lists nothing anew, but it touches the log at most.
    have leaves := (Session.run_eq_none argv session).mp ended
    exact lists.of_withoutLog (Session.run_leaving leaves session)
  · exact (Session.run_names argv session).2 ended

/-- What one step does to the names. -/
structure ChainStep.KeepsNames (step : ChainStep (Session σ)) : Prop where
  commands : step.after.index.commands = step.before.index.commands
  /-- Behind every command that runs and does not leave the shell the directory is listed, whatever
  the status of the command is. -/
  listed : ∀ argv ∈ step.ran, (Session.run argv step.before).1 ≠ none → step.after.ListsDirectory
  skipped : step.ran = none → step.after.index = step.before.index
  stays : step.before.ListsDirectory → step.after.ListsDirectory

theorem Session.run_keepsNames (argv : List String) (session : Session σ) :
    ChainStep.KeepsNames ⟨some argv, session, (Session.run argv session).2⟩ where
  commands := (Session.run_names argv session).1
  listed := by
    rintro _ ⟨⟩
    exact (Session.run_names argv session).2
  skipped ran := by contradiction
  stays := Session.run_listsDirectory argv

theorem Session.skip_keepsNames (segment : Segment) (last : Status) (session : Session σ) :
    ChainStep.KeepsNames ⟨none, session, Session.skip segment last session⟩ where
  commands := rfl
  listed := by simp
  skipped _ := rfl
  stays lists := lists

/-- Along steps without gaps the names stay as they should. -/
theorem Connects.keepsNames {steps : List (ChainStep (Session σ))} {first last : Session σ}
    (connects : Connects first steps last) (keeps : ∀ step ∈ steps, step.KeepsNames)
    (lists : first.ListsDirectory) :
    last.ListsDirectory ∧ last.index.commands = first.index.commands := by
  refine Connects.relates
    (fun _ (before after : Session σ) => before.ListsDirectory →
      after.ListsDirectory ∧ after.index.commands = before.index.commands)
    connects (fun _ lists => ⟨lists, rfl⟩) ?_ lists
  intro step member vectors final behind lists
  have reached := behind ((keeps step member).stays lists)
  exact ⟨reached.1, reached.2.trans (keeps step member).commands⟩

/-- Whatever lines are evaluated and whatever the system does, the file names at every point of a
session are those that the system lists in the tracked directory at this point, and the command
names are those that were collected from the search path at the start. A command that runs has the
directory listed anew before the next one is dispatched, a skipped one changes no name, and a blank
one takes no step at all. -/
theorem names_follow_session (settings : Settings) (pairs : List (String × String)) (system : σ)
    (writer : Writer) (lines : List String) :
    let start := Session.start settings pairs system writer
    let (final, steps) := runLines Session.runner.tracing lines (start, [])
    start.index.commands = (commandNames system start.shell.environment.searchPath).1 ∧
      final = runLines Session.runner lines start ∧
      (∀ step ∈ steps, step.KeepsNames) ∧
      (∀ earlier later, steps = earlier ++ later →
        ∃ point, Connects start earlier point ∧ Connects point later final ∧
          point.ListsDirectory ∧ point.index.commands = start.index.commands) ∧
      ∀ line last state,
        runChain Session.runner.tracing (splitChain line) last state =
          runChain (Session.runner (σ := σ)).tracing ((splitChain line).filter Segment.hasText) last
            state := by
  intro start
  have watched := (tracing_projects Session.runner).runLines lines (start, [])
  have connects := tracing_connects Session.runner lines start
  have keeps : ∀ step ∈ (runLines Session.runner.tracing lines (start, [])).2, step.KeepsNames :=
    tracing_forall Session.run_keepsNames Session.skip_keepsNames lines start
  generalize runLines Session.runner.tracing lines (start, []) = trace at *
  obtain ⟨final, steps⟩ := trace
  refine ⟨Session.start_commands settings pairs system writer, watched.symm, keeps, ?_,
    fun line => runChain_filter _ (splitChain line)⟩
  rintro earlier later rfl
  obtain ⟨point, toPoint, toFinal⟩ := connects_append.mp connects
  rw [List.forall_mem_append] at keeps
  exact ⟨point, toPoint, toFinal,
    toPoint.keepsNames keeps.1 (Session.start_listsDirectory settings pairs system writer)⟩

end ChainShell
