/-
This file says which file a command name leads to. A name of one component is searched in the
entries of the search path, and the first program there decides. Any other name is a path of its
own.
-/

import ChainShell.Proofs.Path.Division
import ChainShell.Resolve

namespace ChainShell

variable {σ : Type} [OperatingSystem σ]

/-- The system finds a regular file behind the path. -/
def IsRegular (system : σ) (path : Path) : Prop :=
  ∃ file, OperatingSystem.metadata system path = .ok file ∧ file.isRegular

/-- A program is a regular file with one of the three execute bits. -/
def IsProgram (system : σ) (path : Path) : Prop :=
  ∃ file, OperatingSystem.metadata system path = .ok file ∧ file.isRegular ∧
    ∃ bit ∈ [0, 3, 6], file.mode.toNat.testBit bit

/-- The path that an entry of the search path offers for a name. An empty entry offers the name in
the current directory. -/
def offeredPath (currentDir : Path) (name entry : String) : Path :=
  let directory := if entry = "" then currentDir else currentDir.join ⟨entry⟩
  directory.join ⟨name⟩

/-- A command name leads to a path in one of three ways. -/
inductive LeadsTo (system : σ) (searchPath : String) (currentDir name : Path) : Path → Prop where
  /-- An absolute name is the path itself. -/
  | absolute (starts : name.isAbsolute) (regular : IsRegular system name) :
      LeadsTo system searchPath currentDir name name
  /-- A name with another step that counts starts at the current directory. -/
  | relative {first : String} {rest : List String} (steps : name.Steps first rest)
      (counting : ∃ step ∈ rest, ¬ IsIdle step)
      (regular : IsRegular system (currentDir.join name)) :
      LeadsTo system searchPath currentDir name (currentDir.join name)
  /-- A name with one step that counts is searched. No entry in front of the one that is taken
  offers a program. -/
  | searched {first : String} {rest earlier later : List String} {entry : String}
      (steps : name.Steps first rest) (idle : ∀ step ∈ rest, IsIdle step)
      (divided : Divides ':' searchPath (earlier ++ entry :: later))
      (passed : ∀ other ∈ earlier, ¬ IsProgram system (offeredPath currentDir first other))
      (program : IsProgram system (offeredPath currentDir first entry)) :
      LeadsTo system searchPath currentDir name (offeredPath currentDir first entry)

theorem testBit_executeBits (bit : Nat) :
    executeBits.toNat.testBit bit = decide (bit ∈ [0, 3, 6]) := by
  by_cases inside : bit < 7
  · revert bit
    decide
  · have above : executeBits.toNat < 2 ^ bit :=
      Nat.lt_of_lt_of_le (by decide) (Nat.pow_le_pow_right (by decide) (Nat.le_of_not_lt inside))
    rw [Nat.testBit_lt_two_pow above, eq_comm, decide_eq_false_iff_not]
    simp only [List.mem_cons, List.not_mem_nil, or_false]
    omega

/-- A mode has one of the three bits when it has a common bit with the mask. -/
theorem exists_executeBit (mode : UInt32) :
    mode &&& executeBits != 0 ↔ ∃ bit ∈ [0, 3, 6], mode.toNat.testBit bit := by
  have chosen (bit : Nat) : (mode &&& executeBits).toNat.testBit bit ↔
      bit ∈ [0, 3, 6] ∧ mode.toNat.testBit bit := by
    rw [UInt32.toNat_and, Nat.testBit_and, testBit_executeBits, Bool.and_eq_true,
      decide_eq_true_iff, and_comm]
  rw [bne_iff_ne, ne_eq, ← UInt32.toNat_inj]
  constructor
  · intro given
    obtain ⟨bit, set⟩ := Nat.exists_testBit_of_ne_zero given
    exact ⟨bit, (chosen bit).mp set⟩
  · rintro ⟨bit, set⟩ blank
    have common := (chosen bit).mpr set
    simp [blank] at common

variable {system : σ} {searchPath : String} {currentDir name : Path}

theorem isRegularFile_iff {path : Path} :
    isRegularFile system path ↔ IsRegular system path := by
  rw [isRegularFile, IsRegular]
  cases OperatingSystem.metadata system path <;> simp

theorem isProgram_iff {path : Path} :
    isRegularFile system path && isExecutable system path ↔ IsProgram system path := by
  rw [isRegularFile, isExecutable, IsProgram]
  cases OperatingSystem.metadata system path with
  | error cause => simp
  | ok file => simp only [Bool.and_eq_true, exists_executeBit, Except.ok.injEq, exists_eq_left']

theorem join_entryDirectory (word entry : String) :
    (entryDirectory currentDir ⟨entry⟩).join ⟨word⟩ = offeredPath currentDir word entry := by
  rw [entryDirectory, offeredPath, Path.isEmpty]
  by_cases blank : entry = "" <;> simp [blank]

theorem matchesEntry_eq_some {word entry : String} {path : Path} :
    matchesEntry system currentDir word ⟨entry⟩ = some path ↔
      IsProgram system (offeredPath currentDir word entry) ∧
        offeredPath currentDir word entry = path := by
  simp only [matchesEntry, join_entryDirectory, isProgram_iff, Option.ite_none_right_eq_some,
    Option.some_inj]

theorem matchesEntry_eq_none {word entry : String} :
    matchesEntry system currentDir word ⟨entry⟩ = none ↔
      ¬ IsProgram system (offeredPath currentDir word entry) := by
  simp only [matchesEntry, join_entryDirectory, isProgram_iff, ite_eq_right_iff, reduceCtorEq,
    imp_false]

theorem findFile_eq_some {path found : Path} :
    findFile system path = some found ↔ IsRegular system path ∧ path = found := by
  simp [findFile, isRegularFile_iff]

section Search

variable {entries : List String}

theorem Divides.findInSearchPath_eq (divided : Divides ':' searchPath entries) (word : String) :
    findInSearchPath system searchPath currentDir word =
      entries.findSome? fun entry => matchesEntry system currentDir word ⟨entry⟩ := by
  rw [findInSearchPath, divided.searchEntries_eq, List.findSome?_map]
  rfl

/-- The search takes the first program that an entry offers. -/
theorem Divides.findInSearchPath_eq_some (divided : Divides ':' searchPath entries)
    {word : String} {path : Path} :
    findInSearchPath system searchPath currentDir word = some path ↔
      ∃ earlier entry later, entries = earlier ++ entry :: later ∧
        (IsProgram system (offeredPath currentDir word entry) ∧
          offeredPath currentDir word entry = path) ∧
        ∀ other ∈ earlier, ¬ IsProgram system (offeredPath currentDir word other) := by
  simp only [divided.findInSearchPath_eq, List.findSome?_eq_some_iff, matchesEntry_eq_some,
    matchesEntry_eq_none]

/-- It fails when no entry offers a program. -/
theorem Divides.findInSearchPath_eq_none (divided : Divides ':' searchPath entries)
    {word : String} :
    findInSearchPath system searchPath currentDir word = none ↔
      ∀ entry ∈ entries, ¬ IsProgram system (offeredPath currentDir word entry) := by
  simp only [divided.findInSearchPath_eq, List.findSome?_eq_none_iff, matchesEntry_eq_none]

end Search

section Shapes

variable {first : String} {rest : List String}

theorem findCommand_of_isAbsolute (starts : name.isAbsolute) :
    findCommand system searchPath currentDir name = findFile system name := by
  rw [findCommand, if_pos starts]

theorem Path.Steps.findCommand_of_counting (steps : name.Steps first rest)
    (counting : ∃ step ∈ rest, ¬ IsIdle step) :
    findCommand system searchPath currentDir name = findFile system (currentDir.join name) := by
  obtain ⟨component, next, others, counted⟩ := steps.components_of_counting counting
  rw [findCommand, steps.isAbsolute, if_neg Bool.false_ne_true, counted]

theorem Path.Steps.findCommand_of_idle (steps : name.Steps first rest)
    (idle : ∀ step ∈ rest, IsIdle step) :
    findCommand system searchPath currentDir name =
      findInSearchPath system searchPath currentDir first := by
  obtain ⟨component, spelled, single⟩ := steps.components_of_idle idle
  rw [findCommand, steps.isAbsolute, if_neg Bool.false_ne_true, single]
  simp only [spelled]

end Shapes

theorem findCommand_eq_some {path : Path} :
    findCommand system searchPath currentDir name = some path ↔
      LeadsTo system searchPath currentDir name path := by
  constructor
  · intro found
    rcases name.shape with starts | rfl | ⟨first, rest, steps, idle | counting⟩
    · rw [findCommand_of_isAbsolute starts, findFile_eq_some] at found
      obtain ⟨regular, rfl⟩ := found
      exact .absolute starts regular
    · rw [findCommand_blank] at found
      contradiction
    · have divided := divides_splitOn ':' searchPath
      rw [steps.findCommand_of_idle idle, divided.findInSearchPath_eq_some] at found
      obtain ⟨earlier, entry, later, split, ⟨program, rfl⟩, passed⟩ := found
      exact .searched steps idle (split ▸ divided) passed program
    · rw [steps.findCommand_of_counting counting, findFile_eq_some] at found
      obtain ⟨regular, rfl⟩ := found
      exact .relative steps counting regular
  · intro leads
    cases leads with
    | absolute starts regular =>
        rw [findCommand_of_isAbsolute starts, findFile_eq_some]
        exact ⟨regular, rfl⟩
    | relative steps counting regular =>
        rw [steps.findCommand_of_counting counting, findFile_eq_some]
        exact ⟨regular, rfl⟩
    | searched steps idle divided passed program =>
        rw [steps.findCommand_of_idle idle, divided.findInSearchPath_eq_some]
        exact ⟨_, _, _, rfl, ⟨program, rfl⟩, passed⟩

/-- A name with more components than one does not depend on the search path. -/
theorem findCommand_congr (unsearched : name.isAbsolute ∨ 1 < name.components.length)
    (other : String) : findCommand system searchPath currentDir name =
      findCommand system other currentDir name := by
  rcases name.shape with starts | rfl | ⟨first, rest, steps, idle | counting⟩
  · rw [findCommand_of_isAbsolute starts, findCommand_of_isAbsolute starts]
  · rw [findCommand_blank, findCommand_blank]
  · have single := steps.length_components.mpr idle
    rcases unsearched with starts | several
    · simp [steps.isAbsolute] at starts
    · omega
  · rw [steps.findCommand_of_counting counting, steps.findCommand_of_counting counting]

/-- The path of a command is the one that its name leads to, and the empty name leads to none. A
name with one component is its first step with idle ones behind it, and it leads to no path exactly
when no entry of the search path offers a program. The search path does not matter to an absolute
name and to one with more components. -/
theorem findCommand_first_match (system : σ) (searchPath : String) (currentDir name : Path) :
    (∀ path, findCommand system searchPath currentDir name = some path ↔
      LeadsTo system searchPath currentDir name path) ∧
    (name.text = "" → findCommand system searchPath currentDir name = none) ∧
    (∀ first rest, name.Steps first rest →
      (name.components.length = 1 ↔ ∀ step ∈ rest, IsIdle step) ∧
      ∀ entries, Divides ':' searchPath entries → name.components.length = 1 →
        (findCommand system searchPath currentDir name = none ↔
          ∀ entry ∈ entries, ¬ IsProgram system (offeredPath currentDir first entry))) ∧
    (name.isAbsolute ∨ 1 < name.components.length → ∀ other,
      findCommand system searchPath currentDir name =
        findCommand system other currentDir name) := by
  refine ⟨fun path => findCommand_eq_some, ?_, ?_, fun unsearched => findCommand_congr unsearched⟩
  · intro blank
    obtain rfl : name = ⟨""⟩ := congrArg Path.mk blank
    exact findCommand_blank system searchPath currentDir
  · intro first rest steps
    refine ⟨steps.length_components, fun entries divided single => ?_⟩
    rw [steps.findCommand_of_idle (steps.length_components.mp single)]
    exact divided.findInSearchPath_eq_none

/-- Idle steps behind a name do not keep it from being searched, and a dot in front of it does. -/
example : Path.components ⟨"tool/./"⟩ = [.normal "tool"] ∧
    Path.components ⟨"./tool"⟩ = [.current, .normal "tool"] := by decide

end ChainShell
