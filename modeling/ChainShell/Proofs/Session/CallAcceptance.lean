/-
This file follows the arguments of `command` to the system. An accepted call asks for its program
with the words as they were given, and a refused one asks for nothing.
-/

import ChainShell.Proofs.Session.StandardPath

namespace ChainShell

variable {σ : Type} [OperatingSystem σ]

/-- A double dash in front of a program is not its argument, and a second one is. -/
example : parseProgramCall ["-p", "--", "--", "help"] = .ok ⟨true, ["--", "help"]⟩ := by decide

end ChainShell
