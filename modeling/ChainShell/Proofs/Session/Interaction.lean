/-
This file follows the interactive loop. Its session is one that is given line after line, and what
holds of the commands of a session holds of the commands of the loop.
-/

import ChainShell.Program
import ChainShell.Proofs.Chain.Ending
import ChainShell.Proofs.Session.FileNames
import ChainShell.Proofs.Session.History

namespace ChainShell

section EntersLines

variable {τ : Type}

/-- Lines are entered one after the other, up to one that ends the shell. The state may change while
a line is awaited. -/
inductive EntersLines (runner : ChainRunner τ) (Awaits : τ → τ → Prop) :
    List String → τ → Flow × τ → Prop where
  /-- No further line comes. -/
  | ended {state after : τ} (awaits : Awaits state after) :
      EntersLines runner Awaits [] state (.proceed, after)
  | left {line : String} {state ready after : τ} (awaits : Awaits state ready)
      (evaluated : runChain runner (splitChain line) .initial ready = (.exit, after)) :
      EntersLines runner Awaits [line] state (.exit, after)
  | stayed {line : String} {later : List String} {state ready middle : τ} {result : Flow × τ}
      (awaits : Awaits state ready)
      (evaluated : runChain runner (splitChain line) .initial ready = (.proceed, middle))
      (behind : EntersLines runner Awaits later middle result) :
      EntersLines runner Awaits (line :: later) state result

variable {runner : ChainRunner τ} {Awaits : τ → τ → Prop} {lines : List String} {state : τ}

/-- When nothing changes between the lines, they are entered as a list. -/
theorem EntersLines.enterLines_eq {result : Flow × τ}
    (enters : EntersLines runner Eq lines state result) :
    enterLines runner lines state = result := by
  induction enters with
  | ended awaits => exact congrArg (Prod.mk Flow.proceed) awaits
  | left awaits evaluated => rw [enterLines, awaits, evaluated]
  | stayed awaits evaluated _ inductionHypothesis =>
      rw [enterLines, awaits, evaluated]
      exact inductionHypothesis

/-- What running and skipping one command keeps, and waiting too, all lines keep. -/
theorem EntersLines.invariant (Invariant : τ → Prop) {result : Flow × τ}
    (enters : EntersLines runner Awaits lines state result)
    (runs : ∀ argv state, Invariant state → Invariant (runner.run argv state).2)
    (skips : ∀ segment last state, Invariant state → Invariant (runner.skip segment last state))
    (waits : ∀ before after, Awaits before after → Invariant before → Invariant after)
    (holds : Invariant state) : Invariant result.2 := by
  induction enters with
  | ended awaits => exact waits _ _ awaits holds
  | @left line _ _ _ awaits evaluated =>
      have kept := runChain_invariant runs skips (splitChain line) .initial (waits _ _ awaits holds)
      rwa [evaluated] at kept
  | @stayed line _ _ _ _ _ awaits evaluated _ inductionHypothesis =>
      have kept := runChain_invariant runs skips (splitChain line) .initial (waits _ _ awaits holds)
      rw [evaluated] at kept
      exact inductionHypothesis kept

/-- A trace takes no step while a line is awaited. -/
def AwaitsTraced (Awaits : τ → τ → Prop) (before after : τ × List (ChainStep τ)) : Prop :=
  Awaits before.1 after.1 ∧ after.2 = before.2

theorem exists_traced_chain {segments : List Segment} {last : Status} {flow : Flow} {after : τ}
    (evaluated : runChain runner segments last state = (flow, after))
    (earlier : List (ChainStep τ)) :
    ∃ steps, runChain runner.tracing segments last (state, earlier) = (flow, after, steps) := by
  have watched := (tracing_projects runner).runChain segments last (state, earlier)
  rw [evaluated] at watched
  obtain ⟨sameFlow, sameState⟩ := Prod.mk.inj watched
  exact ⟨_, Prod.ext sameFlow.symm (Prod.ext sameState.symm rfl)⟩

theorem awaitsTraced {before after : τ} (awaits : Awaits before after)
    (steps : List (ChainStep τ)) : AwaitsTraced Awaits (before, steps) (after, steps) :=
  ⟨awaits, rfl⟩

/-- Every run has a trace. -/
theorem EntersLines.exists_tracing {result : Flow × τ}
    (enters : EntersLines runner Awaits lines state result) (earlier : List (ChainStep τ)) :
    ∃ steps, EntersLines runner.tracing (AwaitsTraced Awaits) lines (state, earlier)
      (result.1, result.2, steps) := by
  induction enters generalizing earlier with
  | ended awaits => exact ⟨earlier, .ended (awaitsTraced awaits earlier)⟩
  | left awaits evaluated =>
      obtain ⟨steps, traced⟩ := exists_traced_chain evaluated earlier
      exact ⟨steps, .left (awaitsTraced awaits earlier) traced⟩
  | stayed awaits evaluated _ inductionHypothesis =>
      obtain ⟨middle, traced⟩ := exists_traced_chain evaluated earlier
      obtain ⟨steps, behind⟩ := inductionHypothesis middle
      exact ⟨steps, .stayed (awaitsTraced awaits earlier) traced behind⟩

end EntersLines

variable {σ : Type}

/-- What becomes of a session that waits for a line. The prompt is shown at most, and the system
hands out input. -/
structure Session.Awaits (before after : Session σ) : Prop where
  settings : after.settings = before.settings
  index : after.index = before.index
  environment : after.shell.environment = before.shell.environment
  writer : after.shell.writer = before.shell.writer
  events : after.shell.events = before.shell.events ∨
    after.shell.events = before.shell.events ++ [.wrote (encode before.prompt)]

variable [OperatingSystem σ]

theorem Interaction.await_awaits (prompting : Bool) (fuel : Nat) (interaction : Interaction σ) :
    interaction.session.Awaits (interaction.await prompting fuel).2.session ∧
      (interaction.await prompting fuel).2.history = interaction.history := by
  cases prompting with
  | false => exact ⟨⟨rfl, rfl, rfl, rfl, .inl rfl⟩, rfl⟩
  | true => exact ⟨⟨rfl, rfl, rfl, rfl, .inr rfl⟩, rfl⟩

/-- The loop enters lines into its session, and each of them into its history. A command that leaves
the shell finishes it. -/
theorem Interaction.loop_enters (prompting : Bool) (fuel : Nat) (interaction : Interaction σ) :
    ∃ lines flow,
      EntersLines Session.runner Session.Awaits lines interaction.session
        (flow, (interaction.loop prompting fuel).2.session) ∧
      (interaction.loop prompting fuel).2.history = lines.foldl History.add interaction.history ∧
      (flow = .exit → (interaction.loop prompting fuel).1 = .finished) := by
  induction fuel generalizing interaction with
  | zero => exact ⟨[], .proceed, .ended ⟨rfl, rfl, rfl, rfl, .inl rfl⟩, rfl, fun _ => rfl⟩
  | succ fuel inductionHypothesis =>
      obtain ⟨awaits, kept⟩ := interaction.await_awaits prompting (fuel + 1)
      rw [Interaction.loop]
      cases awaited : interaction.await prompting (fuel + 1) with
      | mk input after =>
          rw [awaited] at awaits kept
          cases input with
          | ended | invalid | torn => exact ⟨[], .proceed, .ended awaits, kept, by simp⟩
          | line text =>
              cases evaluated : after.session.evaluate text with
              | mk flow session =>
                  simp only [evaluated]
                  cases flow with
                  | exit =>
                      exact ⟨[text], .exit, .left awaits evaluated, by rw [kept]; rfl, by simp⟩
                  | proceed =>
                      obtain ⟨lines, flow, enters, history, ending⟩ := inductionHypothesis
                        { after with session := session, history := after.history.add text }
                      exact ⟨text :: lines, flow, .stayed awaits evaluated enters,
                        by rw [history, kept]; rfl, ending⟩

/-- A session changes between two points as its commands make it change, whatever happens while it
waits for lines. -/
structure Session.Continues (before : Session σ) (steps : List (ChainStep (Session σ)))
    (after : Session σ) : Prop where
  settings : after.settings = before.settings
  commands : after.index.commands = before.index.commands
  environment : before.shell.environment.Develops (vectorsIn steps) after.shell.environment
  lawful : ∀ step ∈ steps, step.Lawful ∧ step.KeepsNames

section Continues

variable {before middle after : Session σ} {steps : List (ChainStep (Session σ))}

theorem Session.Continues.step {step : ChainStep (Session σ)}
    (continues : before.Continues steps step.before)
    (settings : step.after.settings = step.before.settings) (lawful : step.Lawful)
    (keeps : step.KeepsNames) : before.Continues (steps ++ [step]) step.after where
  settings := settings.trans continues.settings
  commands := keeps.commands.trans continues.commands
  environment := by
    have alone : vectorsIn [step] = step.ran.toList :=
      (vectorsIn_cons step []).trans (List.append_nil _)
    rw [vectorsIn_append, alone]
    exact continues.environment.trans lawful.develops
  lawful := List.forall_mem_append.mpr
    ⟨continues.lawful, List.forall_mem_singleton.mpr ⟨lawful, keeps⟩⟩

theorem Session.Continues.awaits (continues : before.Continues steps middle)
    (awaits : middle.Awaits after) : before.Continues steps after where
  settings := awaits.settings.trans continues.settings
  commands := (congrArg NameIndex.commands awaits.index).trans continues.commands
  environment := by rw [awaits.environment]; exact continues.environment
  lawful := continues.lawful

end Continues

theorem Session.settings_run (argv : List String) (session : Session σ) :
    (Session.run argv session).2.settings = session.settings := by
  rw [Session.run]
  split <;> rfl

/-- The lines of a session change it by their commands alone. -/
theorem EntersLines.continues {lines : List String} {session : Session σ}
    {result : Flow × Session σ × List (ChainStep (Session σ))}
    (enters : EntersLines Session.runner.tracing (AwaitsTraced Session.Awaits) lines (session, [])
      result) : session.Continues result.2.2 result.2.1 := by
  refine EntersLines.invariant (fun state => session.Continues state.2 state.1) enters ?_ ?_ ?_ ?_
  · intro argv state continues
    exact continues.step (Session.settings_run argv state.1) (Session.run_lawful argv state.1)
      (Session.run_keepsNames argv state.1)
  · intro segment last state continues
    exact continues.step rfl (Session.skip_lawful segment last state.1)
      (Session.skip_keepsNames segment last state.1)
  · rintro before after ⟨awaits, same⟩ continues
    rw [same]
    exact continues.awaits awaits
  · exact ⟨rfl, rfl, .of_overlay rfl rfl, by simp⟩

/-- Whatever is typed and whatever the system does, the loop enters lines into its session and into
its history. Its commands change the session as those of any session do, and nothing else does. -/
theorem Interaction.loop_follows_session (prompting : Bool) (fuel : Nat)
    (interaction : Interaction σ) :
    let (ending, final) := interaction.loop prompting fuel
    ∃ lines flow steps,
      EntersLines Session.runner.tracing (AwaitsTraced Session.Awaits) lines
        (interaction.session, []) (flow, final.session, steps) ∧
      final.history = lines.foldl History.add interaction.history ∧
      (flow = .exit → ending = .finished) ∧
      interaction.session.Continues steps final.session := by
  obtain ⟨lines, flow, enters, history, ending⟩ := interaction.loop_enters prompting fuel
  obtain ⟨steps, traced⟩ := enters.exists_tracing []
  exact ⟨lines, flow, steps, traced, history, ending, traced.continues⟩

/-- An interactive session is one that has just started, with more in its log. -/
theorem Interaction.start_startsFrom (keepHistory : Bool) (pairs : List (String × String))
    (system : σ) :
    (Interaction.start keepHistory pairs system).1.session.StartsFrom (.ofPairs pairs) pairs := by
  have starts := Session.start_startsFrom (.ofPairs pairs) pairs
    (enterHome (.ofPairs pairs) system).1 {}
  refine ⟨rfl, starts.vars, rfl, ?_⟩
  have quiet := starts.children
  simp_all [Interaction.start, spawnRequests]

/-- An interactive session never falls back on the default search path, and its search path is never
empty. -/
theorem Interaction.loop_hasSearchPath (prompting keepHistory : Bool) (fuel : Nat)
    (pairs : List (String × String)) (system : σ) :
    let start := (Interaction.start keepHistory pairs system).1
    (start.loop prompting fuel).2.session.shell.environment.HasSearchPath (.ofPairs pairs) ∧
      (start.loop prompting fuel).2.session.shell.environment.searchPath ≠ "" := by
  intro start
  have starts : start.session.StartsFrom (.ofPairs pairs) pairs :=
    Interaction.start_startsFrom keepHistory pairs system
  obtain ⟨_, _, _, -, -, -, continues⟩ := start.loop_follows_session prompting fuel
  have has := starts.hasSearchPath.develops continues.environment
  exact ⟨has, has.filled (Settings.searchPath_ofPairs pairs)⟩

end ChainShell
