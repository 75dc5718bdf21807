/-
This file compares a program that runs under its own name with one that runs behind the word
`command`. The two ways differ in their log only.
-/

import ChainShell.Proofs.Machine.Listing
import ChainShell.Proofs.Path.Resolution
import ChainShell.Proofs.Session.CallGrammar
import ChainShell.Proofs.Session.Effects
import ChainShell.Proofs.Session.Visible

namespace ChainShell

variable {σ : Type}

section WithoutLog

variable (shell : Shell σ)

theorem Shell.conclude_withoutLog (request : SpawnRequest)
    (answer : Except OsError ChildReport) :
    SameButLog (shell.withoutLog.conclude request answer) (shell.conclude request answer) := by
  cases answer with
  | ok report =>
      rw [Shell.conclude, Shell.conclude]
      split <;> simp [SameButLog]
  | error cause =>
      rw [Shell.conclude, Shell.conclude]
      split <;> simp [SameButLog, Shell.reportNotFound]

variable [OperatingSystem σ]

/-- A launch does not read the log. -/
theorem launch_withoutLog (environment : Environment) (argv : List String) :
    SameButLog (launch environment argv shell.withoutLog) (launch environment argv shell) := by
  cases argv with
  | nil => simp [launch, SameButLog]
  | cons name arguments =>
      have system : shell.withoutLog.system = shell.system := rfl
      rw [launch, launch, system]
      split
      · simp [SameButLog, Shell.reportNotFound]
      · next program _ =>
          have spawned (request : SpawnRequest) :
              shell.withoutLog.spawn request =
                ((shell.spawn request).1, (shell.spawn request).2.withoutLog) := by
            simp [Shell.spawn, Shell.withoutLog, Shell.emit, Event.isLogged]
          simp only [spawned]
          exact Shell.conclude_withoutLog _ _ _

theorem Shell.runExternal_withoutLog (argv : List String) :
    SameButLog (shell.withoutLog.runExternal argv) (shell.runExternal argv) := by
  have launches := launch_withoutLog shell shell.environment argv
  have environment : shell.withoutLog.environment = shell.environment := rfl
  rw [Shell.runExternal, Shell.runExternal, environment]
  cases quiet : launch shell.environment argv shell.withoutLog with
  | mk result left =>
      cases logged : launch shell.environment argv shell with
      | mk other after =>
          rw [quiet, logged] at launches
          obtain ⟨rfl, visible⟩ := launches
          cases result <;> simp [SameButLog, Shell.reportLaunchError, visible]

/-- Shells that differ in their log only run a program in the same way. -/
theorem Shell.runExternal_congr {first second : Shell σ} (argv : List String)
    (same : first.withoutLog = second.withoutLog) :
    SameButLog (first.runExternal argv) (second.runExternal argv) := by
  have left := first.runExternal_withoutLog argv
  have right := second.runExternal_withoutLog argv
  rw [same] at left
  exact ⟨left.1.symm.trans right.1, left.2.symm.trans right.2⟩

end WithoutLog

section Answer

/-- The status of a program, given the answer of the system to its request. Of all refusals only
that of a missing file and the two of one that may not be executed leave a code. -/
def programStatus : Option (Except OsError ChildReport) → Status
  | none => .exited 1
  | some (.error .notFound) => .exited 1
  | some (.error .permissionDenied) => .exited 1
  | some (.error .operationNotPermitted) => .exited 1
  | some (.error _) => .creationFailed
  | some (.ok report) =>
    match report.awaited with
    | .ended (.exited code) => .exited code
    | .ended (.signaled _) => .exited 1
    | .failed _ => .creationFailed

/-- A launch that fails leaves no exit code. -/
def launchStatus : Except LaunchError ExitCode → Status
  | .ok code => .exited code
  | .error _ => .creationFailed

theorem launchStatus_creationFailed {result : Except LaunchError ExitCode} :
    launchStatus result = .creationFailed ↔ ∃ error, result = .error error := by
  cases result <;> simp [launchStatus]

theorem Shell.conclude_status (shell : Shell σ) (request : SpawnRequest)
    (answer : Except OsError ChildReport) :
    launchStatus (shell.conclude request answer).1 = programStatus (some answer) := by
  cases answer with
  | ok report =>
      rw [Shell.conclude, programStatus]
      split <;> next awaited => rw [awaited]; rfl
  | error cause => cases cause <;> rfl

theorem Shell.conclude_requests (shell : Shell σ) (request : SpawnRequest)
    (answer : Except OsError ChildReport) :
    spawnRequests (shell.conclude request answer).2.events = spawnRequests shell.events := by
  cases answer with
  | ok report =>
      rw [Shell.conclude]
      split <;> simp [Shell.log, Shell.emit, spawnRequests]
  | error cause =>
      rw [Shell.conclude]
      split <;> simp [Shell.reportNotFound, Shell.complain, Shell.log, Shell.emit, spawnRequests]

theorem Shell.reportLaunchError_requests (shell : Shell σ) (error : LaunchError) :
    spawnRequests (shell.reportLaunchError error).events = spawnRequests shell.events := by
  simp [Shell.reportLaunchError, Shell.complain, Shell.log, Shell.emit, spawnRequests]

variable [OperatingSystem σ]

/-- The request for a program that the search finds. The child gets all variables and the tracked
directory. -/
def Shell.programRequest? (shell : Shell σ) (name : String) (arguments : List String) :
    Option SpawnRequest :=
  (findCommand shell.system shell.environment.searchPath shell.environment.currentDir ⟨name⟩).map
    fun program =>
      { program := program
        name := name
        arguments := arguments
        vars := shell.environment.vars
        directory := shell.environment.currentDir }

theorem Shell.runExternal_launchStatus (shell : Shell σ) (argv : List String) :
    (shell.runExternal argv).1 = launchStatus (launch shell.environment argv shell).1 := by
  rw [Shell.runExternal]
  split <;> next launched => rw [launched, launchStatus]

/-- The search and the answer of the system decide the status. -/
theorem Shell.launch_status (shell : Shell σ) (name : String) (arguments : List String) :
    launchStatus (launch shell.environment (name :: arguments) shell).1 = programStatus
      ((shell.programRequest? name arguments).map fun request =>
        (OperatingSystem.spawn shell.system request).1) := by
  rw [launch, Shell.programRequest?]
  split
  · next missing => rw [missing]; rfl
  · next program found =>
      rw [found]
      exact Shell.conclude_status _ _ _

theorem Shell.launch_requests (shell : Shell σ) (name : String) (arguments : List String) :
    spawnRequests (launch shell.environment (name :: arguments) shell).2.events =
      spawnRequests shell.events ++ (shell.programRequest? name arguments).toList := by
  rw [launch, Shell.programRequest?]
  split
  · next missing =>
      simp [missing, Shell.reportNotFound, Shell.complain, Shell.emit, spawnRequests]
  · next program found =>
      rw [found]
      exact (Shell.conclude_requests _ _ _).trans
        (by simp [Shell.emit, spawnRequests, spawnRequest])

theorem Shell.runExternal_requests (shell : Shell σ) (argv : List String) :
    spawnRequests (shell.runExternal argv).2.events =
      spawnRequests (launch shell.environment argv shell).2.events := by
  rw [Shell.runExternal]
  split <;> next launched => simp [launched, Shell.reportLaunchError_requests]

end Answer

/-- The words behind `command` are a program and its arguments, unless the first of them is a
switch or asks for help. -/
theorem parseProgramCall_program {name : String} (arguments : List String)
    (noSwitch : name.toList.head? ≠ some '-') (noHelp : name ≠ "help") :
    parseProgramCall (name :: arguments) = .ok ⟨false, name :: arguments⟩ :=
  parseProgramCall_eq_ok.mpr
    ⟨[], name :: arguments, rfl, by simp, by simp, by simp,
      .inr ⟨rfl, by simp [noSwitch, noHelp]⟩⟩

theorem Outcome.status_ofCode (code : ExitCode) :
    (Outcome.ofCode code).status = some (.exited code) := by
  rw [Outcome.ofCode]
  split
  · next zero => rw [zero]; rfl
  · rfl

variable [OperatingSystem σ]

/-- A call without a switch has the status and the effect of a program that runs directly. -/
theorem Shell.callProgram_runExternal (shell : Shell σ) (argv : List String) :
    ∃ outcome, shell.callProgram ⟨false, argv⟩ = (outcome, (shell.runExternal argv).2) ∧
      outcome.status = some (shell.runExternal argv).1 ∧ outcome ≠ .runExternal ∧
      outcome ≠ .arityError := by
  cases launched : launch shell.environment argv shell with
  | mk result after =>
      cases result with
      | ok code =>
          have noControl : Outcome.ofCode code ≠ .runExternal ∧
              Outcome.ofCode code ≠ .arityError := by
            rw [Outcome.ofCode]
            split <;> simp
          refine ⟨.ofCode code, ?_, ?_, noControl⟩
          · simp [Shell.callProgram, Shell.runExternal, ProgramCall.environment,
              ProgramCall.restore, launched]
          · rw [Shell.runExternal, launched, Outcome.status_ofCode]
      | error error =>
          refine ⟨.processError, ?_, ?_, by simp, by simp⟩
          · simp [Shell.callProgram, Shell.runExternal, ProgramCall.environment,
              ProgramCall.restore, launched]
          · rw [Shell.runExternal, launched, Outcome.status]

/-- A vector runs a program when it has the status and the visible effect of that program. -/
def RunsAs (σ : Type) [OperatingSystem σ] (argv program : List String) : Prop :=
  ∀ shell : Shell σ, SameButLog (shell.runCommand argv)
    (some (shell.runExternal program).1, (shell.runExternal program).2)

theorem runsAs_direct {name : String} (arguments : List String) (external : name ∉ builtinNames) :
    RunsAs σ (name :: arguments) (name :: arguments) := by
  intro shell
  -- The flush in front of the child is seen in the log at most.
  have runs := Shell.runExternal_congr (name :: arguments) shell.withoutLog_flushBeforeChild
  rw [Shell.runCommand, dispatch_external arguments shell external]
  exact ⟨congrArg some runs.1, runs.2⟩

theorem runsAs_called (count : Nat) {name : String} (arguments : List String)
    (noSwitch : name.toList.head? ≠ some '-') (noHelp : name ≠ "help") :
    RunsAs σ (List.replicate count "builtin" ++ "command" :: name :: arguments)
      (name :: arguments) := by
  intro shell
  obtain ⟨outcome, called, status, claimed, accepted⟩ :=
    shell.callProgram_runExternal (name :: arguments)
  have invoked : dispatch ("command" :: name :: arguments) shell =
      shell.callProgram ⟨false, name :: arguments⟩ := by
    have owns : "command" ∈ Builtin.runProgram.names := by decide
    rw [dispatch_owned owns]
    simp only [Builtin.invoke, parseProgramCall_program arguments noSwitch noHelp]
  -- The call always answers with a status, so the words in front only pass it on.
  have dispatched : dispatch (List.replicate count "builtin" ++ "command" :: name :: arguments)
      shell = (outcome, (shell.runExternal (name :: arguments)).2) := by
    rw [dispatch_builtins count (by rwa [invoked, called]), invoked, called]
  rw [Shell.runCommand, dispatched]
  cases outcome with
  | runExternal => contradiction
  | terminate => contradiction
  | arityError => contradiction
  | success | failure code | processError => exact ⟨status, rfl⟩

/-- A program was run by a session. The shell asked for it at most once, its status is the one
that the answer decides, and the environment is as before. -/
structure Session.RanProgram (name : String) (arguments : List String) (session : Session σ)
    (result : Option Status × Session σ) : Prop where
  environment : result.2.shell.environment = session.shell.environment
  requests : spawnRequests result.2.shell.events = spawnRequests session.shell.events ++
    (session.shell.programRequest? name arguments).toList
  status : result.1 = some (programStatus
    ((session.shell.programRequest? name arguments).map fun request =>
      (OperatingSystem.spawn session.shell.system request).1))
  creationFailed : result.1 = some .creationFailed ↔ ∃ error,
    (launch session.shell.environment (name :: arguments) session.shell).1 = .error error

/-- The file names that a refresh reads do not depend on the log. -/
theorem Session.refresh_congr {first second : Session σ}
    (same : first.withoutLog = second.withoutLog) :
    first.refresh.withoutLog = second.refresh.withoutLog := by
  have visible (session : Session σ) :
      session.refresh.withoutLog = session.withoutLog.refresh.withoutLog := by
    simp only [Session.refresh, Session.withoutLog, Shell.withoutLog_logAll,
      Shell.withoutLog_withoutLog]
    rfl
  rw [visible first, same, ← visible second]

/-- A vector that runs a program does so in a session. -/
theorem RunsAs.session {argv program : List String} (runs : RunsAs σ argv program)
    (session : Session σ) :
    (Session.run argv session).1 = some (session.shell.runExternal program).1 ∧
      (Session.run argv session).2.withoutLog =
        { session with shell := (session.shell.runExternal program).2 }.refresh.withoutLog := by
  let message := "argv: " ++ quotedList argv
  have logged := runs (session.shell.log .debug message)
  have same := Shell.runExternal_congr program (session.shell.withoutLog_log .debug message)
  rw [Session.run]
  cases ran : (session.shell.log .debug message).runCommand argv with
  | mk answer after =>
      rw [ran] at logged
      obtain ⟨rfl, effect⟩ := logged
      refine ⟨congrArg some same.1, Session.refresh_congr ?_⟩
      simp [Session.withoutLog, effect.trans same.2]

theorem RunsAs.ranProgram {argv : List String} {name : String} {arguments : List String}
    (runs : RunsAs σ argv (name :: arguments)) (session : Session σ) :
    session.RanProgram name arguments (Session.run argv session) := by
  obtain ⟨status, effect⟩ := runs.session session
  have shell : (Session.run argv session).2.shell.withoutLog =
      (session.shell.runExternal (name :: arguments)).2.withoutLog :=
    (congrArg Session.shell effect).trans (Shell.withoutLog_logAll _ _)
  have follows : session.shell.Follows session.shell.environment (fun _ => True)
      (session.shell.runExternal (name :: arguments)).2 :=
    session.shell.follows_self.runExternal _ fun _ _ => trivial
  refine ⟨?_, ?_, ?_, ?_⟩
  · exact (congrArg Shell.environment shell).trans follows.environment
  · rw [← spawnRequests_withoutLog, shell, spawnRequests_withoutLog,
      Shell.runExternal_requests, Shell.launch_requests]
  · rw [status, Shell.runExternal_launchStatus, Shell.launch_status]
  · rw [status, Shell.runExternal_launchStatus, Option.some_inj, launchStatus_creationFailed]

/-- A program that no built-in hides runs behind `command` as it runs under its own name, with any
number of words `builtin` in front. Both ways have the same status and the same effect apart from
the log. -/
theorem run_called_program {name : String} (arguments : List String) (count : Nat)
    (session : Session σ) (external : name ∉ builtinNames)
    (noSwitch : name.toList.head? ≠ some '-') (noHelp : name ≠ "help") :
    let direct := Session.run (name :: arguments) session
    let called :=
      Session.run (List.replicate count "builtin" ++ "command" :: name :: arguments) session
    called.1 = direct.1 ∧ called.2.withoutLog = direct.2.withoutLog ∧
      session.RanProgram name arguments direct ∧ session.RanProgram name arguments called := by
  have directly := runsAs_direct (σ := σ) arguments external
  have behind := runsAs_called (σ := σ) count arguments noSwitch noHelp
  obtain ⟨directStatus, directEffect⟩ := directly.session session
  obtain ⟨calledStatus, calledEffect⟩ := behind.session session
  exact ⟨calledStatus.trans directStatus.symm, calledEffect.trans directEffect.symm,
    directly.ranProgram session, behind.ranProgram session⟩

/-- The switch of `command` behind a program belongs to the program, which is found and started. -/
theorem run_called_program_dashed :
    let session := Session.start (.ofPairs []) [] (Machine.standard []) {}
    let direct := Session.run ["sh", "-p"] session
    let called := Session.run ["builtin", "builtin", "command", "sh", "-p"] session
    "sh" ∉ builtinNames ∧ "sh".toList.head? ≠ some '-' ∧ "sh" ≠ "help" ∧
      (session.shell.programRequest? "sh" ["-p"]).map SpawnRequest.program =
        some ⟨"/usr/bin/sh"⟩ ∧
      called.1 = direct.1 ∧ called.2.withoutLog = direct.2.withoutLog ∧
      session.RanProgram "sh" ["-p"] direct ∧ session.RanProgram "sh" ["-p"] called := by
  intro session direct called
  have system : session.shell.system = Machine.standard [] := by simp only [session, Session.start]
  have program : IsProgram (Machine.standard []) ⟨"/usr/bin/sh"⟩ :=
    ⟨_, Machine.metadata_standard_sh, rfl, 0, by simp, rfl⟩
  have directory : session.shell.environment.currentDir = .root := by decide +kernel
  have entries : searchEntries session.shell.environment.searchPath = [⟨"/usr/bin"⟩, ⟨"/bin"⟩] := by
    decide +kernel
  have place : offeredPath .root "sh" "/usr/bin" = ⟨"/usr/bin/sh"⟩ := by decide +kernel
  have first : matchesEntry (Machine.standard []) .root "sh" ⟨"/usr/bin"⟩ =
      some ⟨"/usr/bin/sh"⟩ :=
    matchesEntry_eq_some.mpr ⟨by rw [place]; exact program, place⟩
  have found : (session.shell.programRequest? "sh" ["-p"]).map SpawnRequest.program =
      some ⟨"/usr/bin/sh"⟩ := by
    rw [Shell.programRequest?, system, directory,
      findCommand_of_plain _ _ _ (by decide) (by decide), findInSearchPath, entries,
      List.findSome?_cons, first]
    rfl
  exact ⟨by decide, by decide, by decide, found,
    run_called_program ["-p"] 2 session (by decide) (by decide) (by decide)⟩

end ChainShell
