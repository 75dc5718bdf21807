/-
This file follows the environment through a call of `command`. It is back behind the call, whatever
became of the program, and only the search path is another one while the program runs.
-/

import ChainShell.Proofs.Session.ProgramCall

namespace ChainShell

/-- The standard search path stands in for the one of the environment, and nothing else changed. -/
structure Environment.UsesStandardPath (before during : Environment) : Prop where
  searchPath : during.vars.get? "PATH" = some standardSearchPath
  kept : ∀ name, name ≠ "PATH" → during.vars.get? name = before.vars.get? name
  currentDir : during.currentDir = before.currentDir
  homeDir : during.homeDir = before.homeDir

theorem Environment.usesStandardPath_assign (environment : Environment) :
    environment.UsesStandardPath (environment.assign "PATH" standardSearchPath) where
  searchPath := by simp [Environment.assign]
  kept name other := by simp [Environment.assign, other]
  currentDir := rfl
  homeDir := rfl

/-- A call that was accepted has a program. -/
theorem parseProgramCall_argv {arguments : List String} {call : ProgramCall}
    (accepted : parseProgramCall arguments = .ok call) :
    ∃ name words, call.argv = name :: words := by
  obtain ⟨-, -, -, -, -, filled, -⟩ := parseProgramCall_eq_ok.mp accepted
  exact List.exists_cons_of_ne_nil filled

variable {σ : Type} [OperatingSystem σ]

/-- A call asks for the program that is found in its own environment. -/
theorem Shell.callProgram_requests (shell : Shell σ) {call : ProgramCall} {name : String}
    {words : List String} (program : call.argv = name :: words) :
    let entered := { shell with environment := call.environment shell.environment }
    spawnRequests (shell.callProgram call).2.events =
      spawnRequests shell.events ++ (entered.programRequest? name words).toList := by
  intro entered
  have launched := entered.launch_requests name words
  simp only [Shell.callProgram, program]
  split
  · exact launched
  · exact (Shell.reportLaunchError_requests _ _).trans launched

/-- The environment is the same behind `command` as in front of it, whatever its arguments are and
whatever the system answers. With its switch a program is searched in the standard path, and it
starts in an environment that differs in the search path only. -/
theorem command_restores_environment (arguments : List String) (shell : Shell σ) :
    let after := (dispatch ("command" :: arguments) shell).2
    after.environment = shell.environment ∧
      ∀ call, parseProgramCall arguments = .ok call → call.standardPath = true →
        ∃ name words during, call.argv = name :: words ∧
          shell.environment.UsesStandardPath during ∧
          spawnRequests after.events = spawnRequests shell.events ++
            ((findCommand shell.system standardSearchPath shell.environment.currentDir ⟨name⟩).map
              fun program =>
                { program := program
                  name := name
                  arguments := words
                  vars := during.vars
                  directory := shell.environment.currentDir }).toList := by
  intro after
  have owns : "command" ∈ Builtin.runProgram.names := by decide
  have answered : after = (Builtin.runProgram.invoke arguments shell).2 :=
    congrArg Prod.snd (dispatch_owned owns arguments shell)
  cases parsed : parseProgramCall arguments with
  | error text =>
      refine ⟨?_, by simp⟩
      rw [answered, Builtin.invoke, parsed]
      cases text <;> rfl
  | ok call =>
      have called : after = (shell.callProgram call).2 := by
        rw [answered, Builtin.invoke, parsed]
      rw [called]
      refine ⟨(shell.callProgram_follows call).environment, ?_⟩
      rintro _ ⟨rfl⟩ standard
      obtain ⟨name, words, program⟩ := parseProgramCall_argv parsed
      have during : call.environment shell.environment =
          shell.environment.assign "PATH" standardSearchPath := by
        rw [ProgramCall.environment, if_pos standard]
      have uses := shell.environment.usesStandardPath_assign
      refine ⟨name, words, _, program, uses, ?_⟩
      rw [shell.callProgram_requests program, Shell.programRequest?, during]
      have searched : (shell.environment.assign "PATH" standardSearchPath).searchPath =
          standardSearchPath := by
        rw [Environment.searchPath, uses.searchPath, Option.getD_some]
      rw [searched]
      rfl

/-- The words behind the program are its own. -/
example : parseProgramCall ["-p", "sh", "-p"] = .ok ⟨true, ["sh", "-p"]⟩ := by decide

end ChainShell
