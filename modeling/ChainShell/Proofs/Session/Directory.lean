/-
This file compares the directory that a shell tracks with the directory of its process. They change
together or not at all, and a change that fails leaves everything as it was.
-/

import ChainShell.Machine.System
import ChainShell.Proofs.Session.Effects

namespace ChainShell

/-- A system together with the directory of the shell's own process. -/
structure Anchored (σ : Type) where
  system : σ
  directory : Path

/-- The answers are those of the system. A change of the directory that it accepts moves the
process to the path that was asked for, and nothing else moves it. A child has a directory of its
own. -/
instance {σ : Type} [OperatingSystem σ] : OperatingSystem (Anchored σ) where
  workingDir anchored := .ok anchored.directory
  changeDir anchored path :=
    (OperatingSystem.changeDir anchored.system path).map fun system => ⟨system, path⟩
  canonicalize anchored := OperatingSystem.canonicalize anchored.system
  metadata anchored := OperatingSystem.metadata anchored.system
  listDir anchored := OperatingSystem.listDir anchored.system
  spawn anchored request :=
    let (answer, system) := OperatingSystem.spawn anchored.system request
    (answer, { anchored with system := system })
  fileText anchored := OperatingSystem.fileText anchored.system
  storeFile anchored path text :=
    (OperatingSystem.storeFile anchored.system path text).map fun system =>
      { anchored with system := system }
  readInput anchored count :=
    let (bytes, system) := OperatingSystem.readInput anchored.system count
    (bytes, { anchored with system := system })

/-- A change that is accepted ends where it was meant to. -/
theorem Anchored.directory_changeDir {σ : Type} [OperatingSystem σ] {before after : Anchored σ}
    {path : Path} (moved : OperatingSystem.changeDir before path = .ok after) :
    after.directory = path := by
  change (OperatingSystem.changeDir before.system path).map _ = _ at moved
  cases answer : OperatingSystem.changeDir before.system path with
  | error cause =>
      rw [answer] at moved
      contradiction
  | ok system =>
      rw [answer] at moved
      obtain rfl := Except.ok.inj moved
      rfl

/-- A target that is missing or empty means the home directory, and a relative path starts at the
tracked directory. -/
def requestedDirectory (environment : Environment) (target : Option String) : Path :=
  let wanted : Path :=
    match target with
    | none => environment.homeDir
    | some text => if text = "" then environment.homeDir else ⟨text⟩
  if wanted.isAbsolute then wanted else environment.currentDir.join wanted

theorem cdTarget_eq (environment : Environment) (target : Option String) :
    cdTarget environment target = requestedDirectory environment target := by
  have reached (wanted : Path) : environment.currentDir.join wanted =
      if wanted.isAbsolute then wanted else environment.currentDir.join wanted := by
    split
    · next absolute => exact Path.join_of_isAbsolute _ absolute
    · rfl
  cases target with
  | none => exact reached environment.homeDir
  | some text =>
      rw [cdTarget, requestedDirectory]
      by_cases empty : text = ""
      · subst empty
        exact reached environment.homeDir
      · have filled : text.isEmpty = false := by simpa using empty
        simp only [filled, empty, if_false]
        exact reached ⟨text⟩

variable {σ : Type}

/-- Where the shell is by its own account, and where its process is. -/
def Shell.place (shell : Shell (Anchored σ)) : Path × Path :=
  (shell.environment.currentDir, shell.system.directory)

section Place

variable (shell : Shell (Anchored σ))

theorem Shell.Printed.place_eq {shell : Shell (Anchored σ)} {text : String} {flushed : Bool}
    {answer : Outcome × Shell (Anchored σ)} (printed : shell.Printed text flushed answer) :
    answer.2.place = shell.place := by
  cases printed <;> rfl

theorem Shell.place_conclude (request : SpawnRequest) (answer : Except OsError ChildReport) :
    (shell.conclude request answer).2.place = shell.place := by
  cases answer with
  | ok report =>
      rw [Shell.conclude]
      split <;> rfl
  | error cause =>
      rw [Shell.conclude]
      split <;> rfl

end Place

variable [OperatingSystem σ]

/-- The shell tracks the directory of its process. -/
def Shell.TracksDirectory (shell : Shell σ) : Prop :=
  OperatingSystem.workingDir shell.system = .ok shell.environment.currentDir

/-- Vectors are dispatched one after the other. -/
def dispatchAll (vectors : List (List String)) (shell : Shell σ) : Shell σ :=
  vectors.foldl (fun shell argv => (dispatch argv shell).2) shell

/-- A change of the directory moves the shell and its process to the canonical path of what was
asked for. When the system refuses, or with too many arguments, neither of them moves. -/
def DirectoryChange (before : Shell (Anchored σ)) (arguments : List String) :
    Outcome × Shell (Anchored σ) → Prop
  | (.success, after) => arguments.length ≤ 1 ∧ ∃ canonical,
      OperatingSystem.canonicalize before.system
        (requestedDirectory before.environment arguments.head?) = .ok canonical ∧
      OperatingSystem.changeDir before.system canonical = .ok after.system ∧
      after.system.directory = canonical ∧
      after.environment = { before.environment with currentDir := canonical }
  | (.failure code, after) => code = 1 ∧ arguments.length ≤ 1 ∧
      (∃ cause, OperatingSystem.canonicalize before.system
          (requestedDirectory before.environment arguments.head?) = .error cause ∨
        ∃ canonical, OperatingSystem.canonicalize before.system
            (requestedDirectory before.environment arguments.head?) = .ok canonical ∧
          OperatingSystem.changeDir before.system canonical = .error cause) ∧
      after.environment = before.environment ∧ after.system = before.system
  | (.arityError, after) => 2 ≤ arguments.length ∧ after = before
  | _ => False

section Place

variable (shell : Shell (Anchored σ))

/-- A child does not move the process of the shell. -/
theorem Shell.place_launch (environment : Environment) (argv : List String) :
    (launch environment argv shell).2.place = shell.place := by
  cases argv with
  | nil => rfl
  | cons name arguments =>
      rw [launch]
      split
      · rfl
      · exact Shell.place_conclude _ _ _

theorem Shell.place_callProgram (call : ProgramCall) :
    (shell.callProgram call).2.place = shell.place := by
  let entered := { shell with environment := call.environment shell.environment }
  have tracked : (shell.callProgram call).2.environment = shell.environment :=
    (shell.callProgram_follows call).environment
  have launched := congrArg Prod.snd (entered.place_launch entered.environment call.argv)
  have process : (shell.callProgram call).2.system.directory = shell.system.directory := by
    simp only [Shell.callProgram]
    split <;> exact launched
  exact Prod.ext (congrArg Environment.currentDir tracked) process

/-- Only the entry for directories moves the shell or its process. -/
theorem Builtin.place_invoke {entry : Builtin} (other : entry ≠ .changeDirectory)
    (arguments : List String) : (entry.invoke arguments shell).2.place = shell.place := by
  cases entry with
  | changeDirectory => contradiction
  | leave =>
      rw [Builtin.invoke]
      split <;> rfl
  | assignVariable =>
      rcases arguments with _ | ⟨argument, _ | ⟨extra, more⟩⟩
      · rfl
      · rw [Builtin.invoke]
        split <;> rfl
      · rfl
  | showVariable =>
      rcases arguments with _ | ⟨key, _ | ⟨extra, more⟩⟩
      · rfl
      · rw [Builtin.invoke]
        split
        · rfl
        · exact (shell.printPieces_printed _).place_eq
      · rfl
  | runProgram =>
      rw [Builtin.invoke]
      split
      · exact shell.place_callProgram _
      · rfl
      · rfl
  | echo => exact (shell.printFlushed_printed _).place_eq
  | doNothing | reserved => rfl

end Place

section Change

variable {shell : Shell (Anchored σ)} {arguments : List String}

theorem Shell.directoryChange_moved (few : arguments.length ≤ 1)
    {after : Shell (Anchored σ)} (moved : shell.changeDirectory arguments.head? = .ok after) :
    DirectoryChange shell arguments (.success, after) := by
  rw [Shell.changeDirectory, cdTarget_eq] at moved
  split at moved
  · contradiction
  · next canonical found =>
      split at moved
      · contradiction
      · next system entered =>
          obtain rfl := Except.ok.inj moved
          exact ⟨few, canonical, found, entered, Anchored.directory_changeDir entered, rfl⟩

/-- The system is asked twice, and each of its refusals counts. -/
theorem Shell.directoryChange_refused (few : arguments.length ≤ 1)
    {error : BuiltinError} (refused : shell.changeDirectory arguments.head? = .error error) :
    DirectoryChange shell arguments (shell.failBuiltin error) := by
  rw [Shell.changeDirectory, cdTarget_eq] at refused
  split at refused
  · next cause missing => exact ⟨rfl, few, ⟨cause, .inl missing⟩, rfl, rfl⟩
  · next canonical found =>
      split at refused
      · next cause closed =>
          exact ⟨rfl, few, ⟨cause, .inr ⟨canonical, found, closed⟩⟩, rfl, rfl⟩
      · contradiction

theorem Builtin.invoke_changeDirectory (arguments : List String) (shell : Shell (Anchored σ)) :
    DirectoryChange shell arguments (Builtin.changeDirectory.invoke arguments shell) := by
  rcases arguments with _ | ⟨target, _ | ⟨extra, more⟩⟩
  case nil | cons.nil =>
    simp only [Builtin.invoke]
    split
    · next moved => exact Shell.directoryChange_moved (by simp) moved
    · next refused => exact Shell.directoryChange_refused (by simp) refused
  case cons.cons => exact ⟨by simp, rfl⟩

/-- A change of the directory always answers by itself. -/
theorem DirectoryChange.claimed {before : Shell (Anchored σ)}
    {result : Outcome × Shell (Anchored σ)} (change : DirectoryChange before arguments result) :
    result.1 ≠ .runExternal := by
  obtain ⟨outcome, after⟩ := result
  rintro rfl
  exact change

theorem DirectoryChange.tracksDirectory {before : Shell (Anchored σ)}
    {result : Outcome × Shell (Anchored σ)} (change : DirectoryChange before arguments result)
    (tracks : before.TracksDirectory) : result.2.TracksDirectory := by
  obtain ⟨outcome, after⟩ := result
  cases outcome with
  | success =>
      obtain ⟨-, canonical, -, -, process, tracked⟩ := change
      rw [Shell.TracksDirectory, tracked]
      exact congrArg Except.ok process
  | failure code =>
      obtain ⟨-, -, -, environment, system⟩ := change
      rwa [Shell.TracksDirectory, environment, system]
  | arityError =>
      obtain ⟨-, rfl⟩ := change
      exact tracks
  | runExternal | terminate | processError => exact change.elim

end Change

/-- A shell that tracks its process goes on doing so while both stay where they are. -/
theorem Shell.TracksDirectory.of_place {before after : Shell (Anchored σ)}
    (tracks : before.TracksDirectory) (stays : after.place = before.place) :
    after.TracksDirectory := by
  have process : after.system.directory = before.system.directory := congrArg Prod.snd stays
  have tracked : after.environment.currentDir = before.environment.currentDir :=
    congrArg Prod.fst stays
  rw [Shell.TracksDirectory, tracked, ← tracks]
  exact congrArg Except.ok process

theorem dispatch_tracksDirectory (argv : List String) {shell : Shell (Anchored σ)}
    (tracks : shell.TracksDirectory) : (dispatch argv shell).2.TracksDirectory := by
  have answers := dispatch_answers argv shell
  generalize dispatch argv shell = answer at answers
  induction answers with
  | nothing | bare | external => exact tracks
  | refused => exact tracks.of_place rfl
  | passed behind claimed inductionHypothesis => exact inductionHypothesis
  | @owned entry name arguments owns =>
      by_cases moves : entry = .changeDirectory
      · subst moves
        exact (Builtin.invoke_changeDirectory arguments shell).tracksDirectory tracks
      · exact tracks.of_place (Builtin.place_invoke shell moves arguments)

theorem dispatch_changeDirectory (count : Nat) {name : String} (named : name ∈ ["cd", "chdir"])
    (arguments : List String) (shell : Shell (Anchored σ)) :
    DirectoryChange shell arguments
      (dispatch (List.replicate count "builtin" ++ name :: arguments) shell) := by
  have owns : name ∈ Builtin.changeDirectory.names := named
  have answered := dispatch_owned owns arguments shell
  have change := Builtin.invoke_changeDirectory arguments shell
  rw [← answered] at change
  rwa [dispatch_builtins count change.claimed]

theorem dispatchAll_tracksDirectory (vectors : List (List String)) {shell : Shell (Anchored σ)}
    (tracks : shell.TracksDirectory) : (dispatchAll vectors shell).TracksDirectory := by
  induction vectors generalizing shell with
  | nil => exact tracks
  | cons argv vectors inductionHypothesis =>
      exact inductionHypothesis (dispatch_tracksDirectory argv tracks)

/-- Whatever vectors are dispatched and whatever the system answers, a shell that tracks the
directory of its process goes on doing so. A change of the directory moves both to the canonical
path of its target or, when the system refuses or too many arguments are given, leaves everything
as it was. -/
theorem directory_never_drifts (vectors : List (List String)) (shell : Shell (Anchored σ))
    (tracks : shell.TracksDirectory) :
    (dispatchAll vectors shell).TracksDirectory ∧
      ∀ (before : Shell (Anchored σ)) (count : Nat), ∀ name ∈ ["cd", "chdir"],
        ∀ arguments, DirectoryChange before arguments
          (dispatch (List.replicate count "builtin" ++ name :: arguments) before) :=
  ⟨dispatchAll_tracksDirectory vectors tracks, fun before count _ named arguments =>
    dispatch_changeDirectory count named arguments before⟩

/-- The shell moves down, starts a child, and then fails to move to a file and to two targets. -/
theorem directory_never_drifts_usr :
    let shell : Shell (Anchored Machine) :=
      ⟨⟨.empty, .root, ⟨"home"⟩⟩, ⟨Machine.standard [], .root⟩, {}, []⟩
    let vectors := [["cd", "usr"], ["command", "true"], ["builtin", "cd", "bin/sh"]]
    shell.TracksDirectory ∧ (dispatchAll vectors shell).TracksDirectory ∧
      "chdir" ∈ ["cd", "chdir"] ∧
      DirectoryChange (dispatchAll vectors shell) ["a", "b"]
        (dispatch ["builtin", "chdir", "a", "b"] (dispatchAll vectors shell)) := by
  intro shell vectors
  have tracks : shell.TracksDirectory := rfl
  have kept := directory_never_drifts vectors shell tracks
  exact ⟨tracks, kept.1, by decide, kept.2 _ 1 "chdir" (by decide) ["a", "b"]⟩

end ChainShell
