/-
This file follows the environment through whole sessions. At every point it is the environment of
the start with the accepted assignments of the commands that ran, and children start in it.
-/

import ChainShell.Proofs.Chain.Tracing
import ChainShell.Proofs.Session.Assignment
import ChainShell.Proofs.Session.Effects

namespace ChainShell

/-- Between two points of a session nothing but the accepted assignments of the vectors that ran
there changes a variable. The last assignment of a name wins, no variable is lost, and the home
stays. -/
structure Environment.Develops (before : Environment) (ran : List (List String))
    (after : Environment) : Prop where
  vars : after.vars = before.vars.overlay (ran.filterMap acceptedAssignment)
  lastWins : ∀ name, after.vars.get? name =
    ((ran.filterMap acceptedAssignment).reverse.lookup name).or (before.vars.get? name)
  kept : ∀ name, (before.vars.get? name).isSome → (after.vars.get? name).isSome
  home : after.homeDir = before.homeDir

/-- The search path is a variable, so the default is never used. It is not empty if that of the
settings is not. -/
structure Environment.HasSearchPath (settings : Settings) (environment : Environment) : Prop where
  set : environment.vars.get? "PATH" = some environment.searchPath
  filled : settings.searchPath ≠ "" → environment.searchPath ≠ ""

theorem Environment.Develops.of_overlay {before after : Environment} {ran : List (List String)}
    (vars : after.vars = before.vars.overlay (ran.filterMap acceptedAssignment))
    (home : after.homeDir = before.homeDir) : before.Develops ran after where
  vars := vars
  lastWins name := by rw [vars, Variables.get?_overlay]
  kept name present := by
    rw [vars, Variables.get?_overlay]
    simp [present]
  home := home

theorem Environment.Develops.trans {before middle after : Environment}
    {first second : List (List String)} (earlier : before.Develops first middle)
    (later : middle.Develops second after) : before.Develops (first ++ second) after :=
  .of_overlay (by rw [later.vars, earlier.vars, List.filterMap_append, Variables.overlay_append])
    (later.home.trans earlier.home)

/-- An accepted assignment has a value. -/
theorem acceptedAssignment_value {argv : List String} {pair : String × String}
    (accepted : acceptedAssignment argv = some pair) : pair.2 ≠ "" := by
  induction argv with
  | nil => simp [acceptedAssignment] at accepted
  | cons name arguments inductionHypothesis =>
      unfold acceptedAssignment at accepted
      split at accepted
      · exact inductionHypothesis accepted
      · split at accepted
        · split at accepted
          · exact (parseAssignment_eq_some.mp accepted).valued
          · contradiction
        · contradiction

theorem Environment.searchPath_of_get? {environment : Environment} {value : String}
    (set : environment.vars.get? "PATH" = some value) : environment.searchPath = value := by
  rw [Environment.searchPath, set, Option.getD_some]

/-- A search path is only ever replaced by another one. -/
theorem Environment.HasSearchPath.develops {settings : Settings} {before after : Environment}
    {ran : List (List String)} (has : before.HasSearchPath settings)
    (develops : before.Develops ran after) : after.HasSearchPath settings := by
  have found := develops.lastWins "PATH"
  cases assigned : (ran.filterMap acceptedAssignment).reverse.lookup "PATH" with
  | none =>
      rw [assigned, has.set, Option.none_or] at found
      have same := Environment.searchPath_of_get? found
      exact ⟨by rw [found, same], by rw [same]; exact has.filled⟩
  | some value =>
      rw [assigned, Option.some_or] at found
      have replaced := Environment.searchPath_of_get? found
      obtain ⟨later, earlier, divided, -⟩ := List.lookup_eq_some_iff.mp assigned
      have member : ("PATH", value) ∈ ran.filterMap acceptedAssignment := by
        rw [← List.mem_reverse, divided]
        simp
      obtain ⟨argv, -, accepted⟩ := List.mem_filterMap.mp member
      exact ⟨by rw [found, replaced],
        fun _ => by rw [replaced]; exact acceptedAssignment_value accepted⟩

variable {σ : Type}

/-- Every child of a step is started by the vector that ran, in the environment in front of the
step. -/
def ChainStep.StartsChildren (step : ChainStep (Session σ)) : Prop :=
  ∃ added, step.after.shell.events = step.before.shell.events ++ added ∧
    ∀ request ∈ spawnRequests added, ∃ argv, step.ran = some argv ∧
      StartsIn (childEnvironment argv step.before.shell.environment) request

/-- One step makes the accepted assignment of its vector, and it starts no other children. -/
structure ChainStep.Lawful (step : ChainStep (Session σ)) : Prop where
  develops : step.before.shell.environment.Develops step.ran.toList step.after.shell.environment
  children : step.StartsChildren

/-- Gapless steps add up. -/
theorem Connects.develops {steps : List (ChainStep (Session σ))} {first last : Session σ}
    (connects : Connects first steps last) (lawful : ∀ step ∈ steps, step.Lawful) :
    first.shell.environment.Develops (vectorsIn steps) last.shell.environment := by
  refine Connects.relates
    (fun vectors (before after : Session σ) =>
      before.shell.environment.Develops vectors after.shell.environment)
    connects (fun _ => .of_overlay rfl rfl) ?_
  intro step member vectors final behind
  exact (lawful step member).develops.trans behind

theorem Session.skip_lawful (segment : Segment) (last : Status) (session : Session σ) :
    ChainStep.Lawful ⟨none, session, Session.skip segment last session⟩ := by
  have follows : session.shell.Follows session.shell.environment (fun _ => False)
      (Session.skip segment last session).shell := Session.skip_follows segment last session
  obtain ⟨reached, added, events, allowed⟩ := follows
  exact ⟨.of_overlay (by rw [reached]; rfl) (by rw [reached]), added, events,
    fun request member => (allowed request member).elim⟩

/-- A session starts with the given variables, the last of each name, and with the search path and
the home of its settings. No child was started yet. -/
structure Session.StartsFrom (settings : Settings) (pairs : List (String × String))
    (session : Session σ) : Prop where
  configured : session.settings = settings
  vars : ∀ name, session.shell.environment.vars.get? name =
    if name = "PATH" then some settings.searchPath else pairs.reverse.lookup name
  home : session.shell.environment.homeDir = settings.home
  children : spawnRequests session.shell.events = []

theorem valueOr_ne_empty (lookup : String → Option String) (name : String) {default : String}
    (nonempty : default ≠ "") : valueOr lookup name default ≠ "" := by
  rw [valueOr]
  split
  · exact nonempty
  · split
    · exact nonempty
    · next value given => simpa using given

/-- Settings that are read from variables have a search path. -/
theorem Settings.searchPath_ofPairs (pairs : List (String × String)) :
    (Settings.ofPairs pairs).searchPath ≠ "" := by
  have default : defaultSearchPath ≠ "" := by decide
  exact valueOr_ne_empty (fun name => pairs.lookup name) "PATH" default

theorem Session.StartsFrom.hasSearchPath {settings : Settings} {pairs : List (String × String)}
    {session : Session σ} (starts : session.StartsFrom settings pairs) :
    session.shell.environment.HasSearchPath settings := by
  have set : session.shell.environment.vars.get? "PATH" = some settings.searchPath := by
    rw [starts.vars, if_pos rfl]
  have given := Environment.searchPath_of_get? set
  exact ⟨by rw [set, given], by rw [given]; exact id⟩

variable [OperatingSystem σ]

theorem Session.start_startsFrom (settings : Settings) (pairs : List (String × String))
    (system : σ) (writer : Writer) :
    (Session.start settings pairs system writer).StartsFrom settings pairs where
  configured := rfl
  vars name := by
    have given : (Variables.ofList pairs).get? name = pairs.reverse.lookup name := by
      have overlay := Variables.empty.get?_overlay pairs name
      rwa [show Variables.empty.get? name = none from rfl, Option.or_none] at overlay
    rw [← given]
    exact (Variables.ofList pairs).get?_assign "PATH" _ name
  home := rfl
  children := by simp [Session.start, spawnRequests]

theorem Session.run_lawful (argv : List String) (session : Session σ) :
    ChainStep.Lawful ⟨some argv, session, (Session.run argv session).2⟩ := by
  obtain ⟨directory, reached, added, events, allowed⟩ := Session.run_performs argv session
  refine ⟨.of_overlay ?_ (by rw [reached]), added, events,
    fun request member => ⟨argv, rfl, allowed request member⟩⟩
  rw [reached]
  cases accepted : acceptedAssignment argv <;> simp [accepted]

/-- Whatever lines are evaluated and whatever the system does, the environment at a point of a
session is the one at any earlier point with the accepted assignments of the commands that ran in
between. It has a search path, which is not empty under settings that were read from variables, and
the children of a command start in it. -/
theorem environment_history (settings : Settings) (pairs : List (String × String)) (system : σ)
    (writer : Writer) (lines : List String) :
    let start := Session.start settings pairs system writer
    let (final, steps) := runLines Session.runner.tracing lines (start, [])
    start.StartsFrom settings pairs ∧ (Settings.ofPairs pairs).searchPath ≠ "" ∧
      final = runLines Session.runner lines start ∧
      (∀ step ∈ steps, step.StartsChildren) ∧
      ∀ earlier middle later, steps = earlier ++ (middle ++ later) →
        ∃ point last, Connects start earlier point ∧ Connects point middle last ∧
          Connects last later final ∧ point.shell.environment.HasSearchPath settings ∧
          point.shell.environment.Develops (vectorsIn middle) last.shell.environment := by
  intro start
  have starts : start.StartsFrom settings pairs :=
    Session.start_startsFrom settings pairs system writer
  -- The trace watches the run itself, it has no gaps, and each of its steps keeps the law.
  have watched := (tracing_projects Session.runner).runLines lines (start, [])
  have connects := tracing_connects Session.runner lines start
  have lawful : ∀ step ∈ (runLines Session.runner.tracing lines (start, [])).2, step.Lawful :=
    tracing_forall Session.run_lawful Session.skip_lawful lines start
  generalize runLines Session.runner.tracing lines (start, []) = trace at *
  obtain ⟨final, steps⟩ := trace
  refine ⟨starts, Settings.searchPath_ofPairs pairs, watched.symm,
    fun step member => (lawful step member).children, ?_⟩
  rintro earlier middle later rfl
  obtain ⟨point, toPoint, behind⟩ := connects_append.mp connects
  obtain ⟨last, between, toFinal⟩ := connects_append.mp behind
  simp only [List.forall_mem_append] at lawful
  have reached := toPoint.develops lawful.1
  exact ⟨point, last, toPoint, between, toFinal, starts.hasSearchPath.develops reached,
    between.develops lawful.2.1⟩

end ChainShell
