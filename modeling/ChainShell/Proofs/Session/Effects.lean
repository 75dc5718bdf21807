/-
This file says what one command can do to the shell that runs it. It may assign one variable or
move the tracked directory, it adds events, and its children start in one known environment.
-/

import ChainShell.Session
import ChainShell.Proofs.Session.Output

namespace ChainShell

/-- Assignments are made in order, so the last one of a name wins. -/
def Variables.overlay (vars : Variables) (pairs : List (String × String)) : Variables :=
  pairs.foldl (fun vars pair => vars.assign pair.1 pair.2) vars

@[simp] theorem Variables.overlay_nil (vars : Variables) : vars.overlay [] = vars := rfl

theorem Variables.overlay_append (vars : Variables) (first second : List (String × String)) :
    vars.overlay (first ++ second) = (vars.overlay first).overlay second :=
  List.foldl_append

/-- The last pair of a name gives its value, and other variables keep theirs. -/
theorem Variables.get?_overlay (vars : Variables) (pairs : List (String × String))
    (name : String) :
    (vars.overlay pairs).get? name = (pairs.reverse.lookup name).or (vars.get? name) := by
  induction pairs generalizing vars with
  | nil => rfl
  | cons pair pairs inductionHypothesis =>
      have step : vars.overlay (pair :: pairs) = (vars.assign pair.1 pair.2).overlay pairs := rfl
      rw [step, inductionHypothesis, Variables.get?_assign, List.reverse_cons, List.lookup_append,
        lookup_cons_ite, Option.or_assoc]
      split <;> simp

/-- The name and the value that a vector assigns, behind any number of words `builtin`. A vector
that is no well-formed assignment assigns nothing. -/
def acceptedAssignment : List String → Option (String × String)
  | [] => none
  | name :: arguments =>
    if name = "builtin" then acceptedAssignment arguments
    else if name = "export" ∨ name = "setenv" then
      match arguments with
      | [argument] => parseAssignment argument
      | _ => none
    else none

/-- A vector that calls `command` with its option, behind any number of words `builtin`. -/
def callsStandardPath : List String → Bool
  | [] => false
  | name :: arguments =>
    if name = "builtin" then callsStandardPath arguments
    else if name = "command" then
      match parseProgramCall arguments with
      | .ok call => call.standardPath
      | .error _ => false
    else false

/-- The environment in which a vector starts its child. -/
def childEnvironment (argv : List String) (environment : Environment) : Environment :=
  if callsStandardPath argv then environment.assign "PATH" standardSearchPath else environment

/-- A child is given the variables and the directory of an environment. -/
def StartsIn (environment : Environment) (request : SpawnRequest) : Prop :=
  request.vars = environment.vars ∧ request.directory = environment.currentDir

variable {σ : Type}

/-- A shell goes on from another one in the given environment. It adds events to the earlier
ones, with allowed requests for children only. -/
structure Shell.Follows (environment : Environment) (Allowed : SpawnRequest → Prop)
    (before after : Shell σ) : Prop where
  environment : after.environment = environment
  events : ∃ added, after.events = before.events ++ added ∧
    ∀ request ∈ spawnRequests added, Allowed request

section Follows

variable {environment : Environment} {Allowed : SpawnRequest → Prop} {before after : Shell σ}

theorem Shell.follows_self (shell : Shell σ) :
    shell.Follows shell.environment Allowed shell :=
  ⟨rfl, [], by simp, by simp [spawnRequests]⟩

/-- More events may be added behind a step when their requests are allowed too. The system and the
writer are free to change. -/
theorem Shell.Follows.extend {target : Environment} {last : Shell σ}
    (follows : before.Follows environment Allowed after) (added : List Event)
    (reached : last.environment = target) (events : last.events = after.events ++ added)
    (allowed : ∀ request ∈ spawnRequests added, Allowed request) :
    before.Follows target Allowed last := by
  obtain ⟨-, earlier, earlierEvents, earlierAllowed⟩ := follows
  refine ⟨reached, earlier ++ added, by rw [events, earlierEvents, List.append_assoc], ?_⟩
  intro request member
  rw [spawnRequests, List.filterMap_append] at member
  rcases List.mem_append.mp member with inEarlier | inAdded
  · exact earlierAllowed request inEarlier
  · exact allowed request inAdded

theorem Shell.Follows.trans {target : Environment} {last : Shell σ}
    (first : before.Follows environment Allowed after)
    (second : after.Follows target Allowed last) : before.Follows target Allowed last := by
  obtain ⟨reached, added, events, allowed⟩ := second
  exact first.extend added reached events allowed

theorem Shell.Follows.log (follows : before.Follows environment Allowed after) (level : Level)
    (message : String) : before.Follows environment Allowed (after.log level message) :=
  follows.extend [.logged ⟨level, message⟩] follows.environment rfl (by simp [spawnRequests])

theorem Shell.Follows.complain (follows : before.Follows environment Allowed after)
    (line : String) : before.Follows environment Allowed (after.complain line) :=
  follows.extend [.complained (line ++ "\n")] follows.environment rfl (by simp [spawnRequests])

theorem Shell.Follows.logAll (follows : before.Follows environment Allowed after)
    (entries : List LogRecord) : before.Follows environment Allowed (after.logAll entries) :=
  follows.extend (entries.map Event.logged) follows.environment rfl (by simp [spawnRequests])

theorem Shell.Follows.failBuiltin (follows : before.Follows environment Allowed after)
    (error : BuiltinError) : before.Follows environment Allowed (after.failBuiltin error).2 :=
  follows.complain error.message

theorem Shell.Follows.reportLaunchError (follows : before.Follows environment Allowed after)
    (error : LaunchError) : before.Follows environment Allowed (after.reportLaunchError error) :=
  (follows.complain error.chain).log .warn error.details

theorem Shell.Follows.print (follows : before.Follows environment Allowed after)
    {text : String} {flushed : Bool} {answer : Outcome × Shell σ}
    (printed : after.Printed text flushed answer) :
    before.Follows environment Allowed answer.2 := by
  have written : before.Follows environment Allowed (after.written text) :=
    follows.extend [.wrote (after.writer.admits (encode text))] follows.environment rfl
      (by simp [spawnRequests])
  cases printed with
  | complete => exact written
  | incomplete error => exact written.failBuiltin error

theorem Shell.Follows.flushBeforeChild (follows : before.Follows environment Allowed after) :
    before.Follows environment Allowed after.flushBeforeChild := by
  rw [Shell.flushBeforeChild]
  split
  · exact follows
  · exact follows.log .warn _

theorem Shell.Follows.conclude (follows : before.Follows environment Allowed after)
    (request : SpawnRequest) (answer : Except OsError ChildReport) :
    before.Follows environment Allowed (after.conclude request answer).2 := by
  cases answer with
  | ok report =>
      rw [Shell.conclude]
      split
      · exact follows
      · exact follows
      · exact follows.log .warn _
  | error cause =>
      rw [Shell.conclude]
      split
      · exact (follows.log .debug _).complain _
      · exact follows

theorem Session.skip_follows (segment : Segment) (last : Status) (session : Session σ) :
    session.shell.Follows session.shell.environment Allowed
      (Session.skip segment last session).shell :=
  session.shell.follows_self.log .debug _

variable [OperatingSystem σ]

/-- A request is sent once, whatever the system answers. -/
theorem Shell.Follows.spawn (follows : before.Follows environment Allowed after)
    {request : SpawnRequest} (allowed : Allowed request) :
    before.Follows environment Allowed (after.spawn request).2 :=
  follows.extend [.spawned request (OperatingSystem.spawn after.system request).1]
    follows.environment rfl (by simpa [spawnRequests] using allowed)

/-- A launch starts its child in the given environment and leaves that of the shell alone. -/
theorem Shell.Follows.launch (follows : before.Follows environment Allowed after)
    {childEnvironment : Environment} (argv : List String)
    (allowed : ∀ request, StartsIn childEnvironment request → Allowed request) :
    before.Follows environment Allowed (launch childEnvironment argv after).2 := by
  cases argv with
  | nil => exact follows
  | cons name arguments =>
      rw [ChainShell.launch]
      split
      · exact follows.complain _
      · next program _ =>
          have request :
              StartsIn childEnvironment (spawnRequest childEnvironment program name arguments) :=
            ⟨rfl, rfl⟩
          exact (follows.spawn (allowed _ request)).conclude _ _

theorem Shell.Follows.runExternal (follows : before.Follows environment Allowed after)
    (argv : List String)
    (allowed : ∀ request, StartsIn after.environment request → Allowed request) :
    before.Follows environment Allowed (after.runExternal argv).2 := by
  have launched := follows.launch argv allowed
  rw [Shell.runExternal]
  split
  · next same => rwa [same] at launched
  · next same =>
      rw [same] at launched
      exact launched.reportLaunchError _

end Follows

/-- A command makes the assignment of its vector and may move the tracked directory. Its children
start in the environment in front of the command, apart from a standard search path. -/
def Shell.Performs (argv : List String) (before after : Shell σ) : Prop :=
  ∃ directory, before.Follows
    { before.environment with
      vars := before.environment.vars.overlay (acceptedAssignment argv).toList
      currentDir := directory }
    (StartsIn (childEnvironment argv before.environment)) after

/-- A command without an assignment may keep the whole environment. -/
theorem Shell.Performs.of_follows {argv : List String} {before after : Shell σ}
    (unassigned : acceptedAssignment argv = none)
    (follows : before.Follows before.environment
      (StartsIn (childEnvironment argv before.environment)) after) :
    before.Performs argv after := by
  refine ⟨before.environment.currentDir, ?_⟩
  rwa [unassigned]

/-- The word `builtin` in front changes neither the assignment nor the search path. -/
theorem Shell.performs_builtin {arguments : List String} {before after : Shell σ} :
    before.Performs ("builtin" :: arguments) after ↔ before.Performs arguments after := by
  simp [Shell.Performs, acceptedAssignment, childEnvironment, callsStandardPath]

variable [OperatingSystem σ]

/-- A called program runs in the environment of its call. The shell has its own one back behind
the call. -/
theorem Shell.callProgram_follows (shell : Shell σ) (call : ProgramCall) :
    shell.Follows shell.environment (StartsIn (call.environment shell.environment))
      (shell.callProgram call).2 := by
  let entered := { shell with environment := call.environment shell.environment }
  have during : entered.Follows entered.environment (StartsIn entered.environment)
      (launch entered.environment call.argv entered).2 :=
    entered.follows_self.launch call.argv fun _ starts => starts
  -- The search path is back before the result of the launch is looked at.
  have restored : shell.Follows shell.environment (StartsIn entered.environment)
      { (launch entered.environment call.argv entered).2 with
        environment := call.restore shell.environment
          (launch entered.environment call.argv entered).2.environment } :=
    ⟨(congrArg _ during.environment).trans (call.restore_environment _), during.events⟩
  simp only [Shell.callProgram]
  split
  · exact restored
  · exact restored.reportLaunchError _

/-- A change of the directory keeps the variables and the home. -/
theorem Shell.changeDirectory_follows {shell after : Shell σ} {target : Option String}
    {Allowed : SpawnRequest → Prop} (moved : shell.changeDirectory target = .ok after) :
    shell.Follows { shell.environment with currentDir := after.environment.currentDir }
      Allowed after := by
  simp only [Shell.changeDirectory] at moved
  split at moved
  · contradiction
  · split at moved
    · contradiction
    · obtain rfl := Except.ok.inj moved
      exact shell.follows_self.extend [] rfl (by simp) (by simp [spawnRequests])

/-- Only the entry for assignments makes one. -/
theorem acceptedAssignment_eq_none {entry : Builtin} {name : String} (arguments : List String)
    (owns : name ∈ entry.names) (other : entry ≠ .assignVariable) :
    acceptedAssignment (name :: arguments) = none := by
  cases entry with
  | assignVariable => exact absurd rfl other
  | leave | changeDirectory | showVariable | runProgram | echo | doNothing | reserved =>
      simp only [Builtin.names, List.mem_cons, List.not_mem_nil, or_false] at owns
      rcases owns with rfl | rfl | rfl | rfl <;> simp [acceptedAssignment]

/-- A name outside the table makes no assignment. -/
theorem acceptedAssignment_external {name : String} (arguments : List String)
    (external : name ∉ builtinNames) : acceptedAssignment (name :: arguments) = none := by
  simp [builtinNames] at external
  simp [acceptedAssignment, external]

theorem childEnvironment_external {name : String} (arguments : List String)
    (external : name ∉ builtinNames) (environment : Environment) :
    childEnvironment (name :: arguments) environment = environment := by
  simp [builtinNames] at external
  simp [childEnvironment, callsStandardPath, external]

theorem Builtin.changeDirectory_performs {argv : List String}
    (unassigned : acceptedAssignment argv = none) (arguments : List String) (shell : Shell σ) :
    shell.Performs argv (Builtin.changeDirectory.invoke arguments shell).2 := by
  have failed (error : BuiltinError) : shell.Performs argv (shell.failBuiltin error).2 :=
    .of_follows unassigned (shell.follows_self.failBuiltin error)
  have moved {after : Shell σ} (moves : shell.changeDirectory arguments.head? = .ok after) :
      shell.Performs argv after := by
    refine ⟨after.environment.currentDir, ?_⟩
    rw [unassigned]
    exact shell.changeDirectory_follows moves
  rcases arguments with _ | ⟨target, _ | ⟨extra, more⟩⟩
  case nil | cons.nil =>
    simp only [Builtin.invoke]
    split
    · next moves => exact moved moves
    · exact failed _
  case cons.cons => exact .of_follows unassigned shell.follows_self

/-- An accepted assignment is made, and any other vector of the entry changes nothing. -/
theorem Builtin.assignVariable_performs {name : String}
    (exported : name = "export" ∨ name = "setenv") (arguments : List String)
    (shell : Shell σ) :
    shell.Performs (name :: arguments) (Builtin.assignVariable.invoke arguments shell).2 := by
  have other : name ≠ "builtin" := by rcases exported with rfl | rfl <;> simp
  rcases arguments with _ | ⟨argument, _ | ⟨extra, more⟩⟩
  case nil | cons.cons =>
    exact .of_follows (by simp [acceptedAssignment, other]) shell.follows_self
  case cons.nil =>
    have accepted : acceptedAssignment [name, argument] = parseAssignment argument := by
      simp [acceptedAssignment, other, exported]
    cases parsed : parseAssignment argument with
    | none =>
        have unchanged := Shell.Performs.of_follows (accepted.trans parsed) shell.follows_self
        simpa [Builtin.invoke, parsed] using unchanged
    | some pair =>
        let message := "export " ++ pair.1 ++ "=" ++ pair.2
        refine ⟨shell.environment.currentDir, ?_⟩
        rw [accepted, parsed, Builtin.invoke, parsed]
        exact (shell.follows_self.log .debug message).extend [] rfl (by simp [message])
          (by simp [spawnRequests])

/-- An entry of the table keeps to the assignment and the search path of its vector. -/
theorem Builtin.invoke_performs (entry : Builtin) {name : String} (owns : name ∈ entry.names)
    (arguments : List String) (shell : Shell σ) :
    shell.Performs (name :: arguments) (entry.invoke arguments shell).2 := by
  cases entry with
  | leave =>
      refine .of_follows (acceptedAssignment_eq_none arguments owns (by simp)) ?_
      rw [Builtin.invoke]
      split <;> exact shell.follows_self
  | changeDirectory =>
      exact Builtin.changeDirectory_performs (acceptedAssignment_eq_none arguments owns (by simp))
        arguments shell
  | assignVariable =>
      have exported : name = "export" ∨ name = "setenv" := by simpa [Builtin.names] using owns
      exact Builtin.assignVariable_performs exported arguments shell
  | showVariable =>
      refine .of_follows (acceptedAssignment_eq_none arguments owns (by simp)) ?_
      rcases arguments with _ | ⟨key, _ | ⟨extra, more⟩⟩
      · exact shell.follows_self
      · rw [Builtin.invoke]
        split
        · exact shell.follows_self.failBuiltin _
        · exact shell.follows_self.print (shell.printPieces_printed _)
      · exact shell.follows_self
  | runProgram =>
      obtain rfl : name = "command" := by simpa [Builtin.names] using owns
      refine .of_follows (acceptedAssignment_eq_none arguments owns (by simp)) ?_
      rw [Builtin.invoke]
      split
      · next call parsed =>
          have during : childEnvironment ("command" :: arguments) shell.environment =
              call.environment shell.environment := by
            simp [childEnvironment, callsStandardPath, parsed, ProgramCall.environment]
          rw [during]
          exact shell.callProgram_follows call
      · exact shell.follows_self
      · exact shell.follows_self.log .debug _
  | echo =>
      refine .of_follows (acceptedAssignment_eq_none arguments owns (by simp)) ?_
      exact shell.follows_self.print (shell.printFlushed_printed _)
  | doNothing =>
      exact .of_follows (acceptedAssignment_eq_none arguments owns (by simp)) shell.follows_self
  | reserved =>
      exact .of_follows (acceptedAssignment_eq_none arguments owns (by simp))
        (shell.follows_self.log .debug _)

theorem dispatch_performs (argv : List String) (shell : Shell σ) :
    shell.Performs argv (dispatch argv shell).2 := by
  have answers := dispatch_answers argv shell
  generalize dispatch argv shell = answer at answers
  induction answers with
  | nothing | bare => exact .of_follows rfl shell.follows_self
  | passed behind claimed inductionHypothesis => exact Shell.performs_builtin.mpr inductionHypothesis
  | @refused name arguments unnamed =>
      rw [Shell.performs_builtin]
      exact .of_follows (acceptedAssignment_external arguments unnamed)
        (shell.follows_self.complain _)
  | @owned entry name arguments owns => exact entry.invoke_performs owns arguments shell
  | @external name arguments unnamed =>
      exact .of_follows (acceptedAssignment_external arguments unnamed) shell.follows_self

/-- A command that no entry claims runs as a program in the environment of the shell. -/
theorem Shell.runCommand_performs (argv : List String) (shell : Shell σ) :
    shell.Performs argv (shell.runCommand argv).2 := by
  have dispatched := dispatch_performs argv shell
  rw [Shell.runCommand]
  split
  · next same => rwa [same] at dispatched
  · next after external =>
      obtain ⟨name, arguments, rfl, unnamed, unchanged⟩ := dispatch_runExternal external
      rw [unchanged]
      -- The dispatch did nothing, so the program starts in the shell that the vector found.
      have flushed : shell.Follows shell.environment
          (StartsIn (childEnvironment (name :: arguments) shell.environment))
          shell.flushBeforeChild := shell.follows_self.flushBeforeChild
      refine .of_follows (acceptedAssignment_external arguments unnamed)
        (flushed.runExternal (name :: arguments) ?_)
      rw [childEnvironment_external arguments unnamed, flushed.environment]
      exact fun _ starts => starts
  · next same =>
      rw [same] at dispatched
      obtain ⟨directory, follows⟩ := dispatched
      exact ⟨directory, follows.complain _⟩
  · next same => rwa [same] at dispatched

/-- A command in a session does what its vector does to the shell. -/
theorem Session.run_performs (argv : List String) (session : Session σ) :
    session.shell.Performs argv (Session.run argv session).2.shell := by
  have logged : session.shell.Follows session.shell.environment
      (StartsIn (childEnvironment argv session.shell.environment))
      (session.shell.log .debug ("argv: " ++ quotedList argv)) := session.shell.follows_self.log _ _
  obtain ⟨directory, performed⟩ :=
    (session.shell.log .debug ("argv: " ++ quotedList argv)).runCommand_performs argv
  have follows := logged.trans performed
  refine ⟨directory, ?_⟩
  simp only [Session.run]
  split
  · next same => rwa [same] at follows
  · next same =>
      rw [same] at follows
      exact (follows.log .debug _).logAll _

end ChainShell
