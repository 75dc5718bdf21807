/-
This file divides texts at a separator. A relative path is divided into steps and a search path into
entries, and the components of a path are the steps that count.
-/

import ChainShell.Path

namespace ChainShell

/-- The parts of a text are what stands between its separators. -/
structure Divides (separator : Char) (text : String) (parts : List String) : Prop where
  nonempty : parts ≠ []
  unbroken : ∀ part ∈ parts, separator ∉ part.toList
  joined : (String.singleton separator).intercalate parts = text

/-- What a text is split into does not hold the separator. -/
theorem notMem_of_mem_splitOn {separator : Char} {text part : List Char}
    (member : part ∈ text.splitOn separator) : separator ∉ part := by
  induction text generalizing part with
  | nil =>
      obtain rfl : part = [] := by simpa using member
      exact List.not_mem_nil
  | cons char rest inductionHypothesis =>
      rw [List.splitOn_cons_eq_if_modifyHead] at member
      split at member
      · rcases List.mem_cons.mp member with rfl | behind
        · exact List.not_mem_nil
        · exact inductionHypothesis behind
      · next kept =>
          cases divided : rest.splitOn separator with
          | nil => exact absurd divided (List.splitOn_ne_nil separator rest)
          | cons first others =>
              rw [divided] at member inductionHypothesis
              rcases List.mem_cons.mp member with rfl | behind
              · have unbroken := inductionHypothesis List.mem_cons_self
                rintro (_ | ⟨_, inside⟩)
                · exact kept (beq_self_eq_true _)
                · exact unbroken inside
              · exact inductionHypothesis (List.mem_cons_of_mem first behind)

/-- Every text is divided into what the separator splits it into. -/
theorem divides_splitOn (separator : Char) (text : String) :
    Divides separator text ((text.toList.splitOn separator).map String.ofList) where
  nonempty := by simp
  unbroken part member := by
    obtain ⟨field, split, rfl⟩ := List.mem_map.mp member
    simpa using notMem_of_mem_splitOn split
  joined := by
    rw [← String.toList_inj, String.toList_intercalate]
    simp [Function.comp_def, List.intercalate_splitOn]

/-- There is no other way to divide it. -/
theorem Divides.splitOn_eq {separator : Char} {text : String} {parts : List String}
    (divided : Divides separator text parts) :
    text.toList.splitOn separator = parts.map String.toList := by
  have unbroken : ∀ part ∈ parts.map String.toList, separator ∉ part := by
    simpa using divided.unbroken
  rw [← divided.joined, String.toList_intercalate, String.toList_singleton,
    List.splitOn_intercalate separator unbroken (by simpa using divided.nonempty)]

/-- The entries of a search path are what stands between its colons. -/
theorem Divides.searchEntries_eq {searchPath : String} {entries : List String}
    (divided : Divides ':' searchPath entries) : searchEntries searchPath = entries.map Path.mk := by
  simp [searchEntries, divided.splitOn_eq, Function.comp_def]

/-- A relative path has a first step, and more steps may stand behind it. -/
structure Path.Steps (path : Path) (first : String) (rest : List String) : Prop where
  divided : Divides '/' path.text (first :: rest)
  named : first ≠ ""

/-- An idle step leads nowhere. -/
def IsIdle (step : String) : Prop := step = "" ∨ step = "."

theorem ofField?_eq_none {step : String} :
    Component.ofField? step.toList = none ↔ IsIdle step := by
  have blank : step = "" ↔ step.toList = [] := by simp
  have dot : step = "." ↔ step.toList = ['.'] := by
    rw [← String.toList_inj]
    rfl
  rw [IsIdle, blank, dot, Component.ofField?]
  grind

/-- A path that is neither empty nor absolute has a first step. -/
theorem Path.exists_steps {path : Path} (nonempty : path.text ≠ "")
    (relative : path.isAbsolute = false) : ∃ first rest, path.Steps first rest := by
  have divided := divides_splitOn '/' path.text
  cases given : path.text.toList with
  | nil => exact absurd (by simpa using given) nonempty
  | cons char text =>
      have inside : ¬ (char == '/') := by
        intro slashed
        simp_all [Path.isAbsolute]
      rw [given, List.splitOn_cons_eq_if_modifyHead, if_neg inside] at divided
      cases behind : text.splitOn '/' with
      | nil => exact absurd behind (List.splitOn_ne_nil '/' text)
      | cons first others =>
          rw [behind] at divided
          exact ⟨_, _, divided, by simp⟩

variable {path : Path} {first : String} {rest : List String}

theorem Path.Steps.isAbsolute (steps : path.Steps first rest) : path.isAbsolute = false := by
  have divided := steps.divided.splitOn_eq
  rw [Path.isAbsolute, beq_eq_false_iff_ne]
  intro slashed
  obtain ⟨text, given⟩ := List.head?_eq_some_iff.mp slashed
  rw [given, List.splitOn_cons_eq_if_modifyHead, if_pos (beq_self_eq_true _)] at divided
  exact steps.named (by simpa using (List.cons.inj divided).1)

/-- The first step is a component, and the others count unless they are idle. -/
theorem Path.Steps.components (steps : path.Steps first rest) :
    ∃ component : Component, component.name = first ∧
      path.components = component :: (rest.map String.toList).filterMap Component.ofField? := by
  have named : first.toList ≠ [] := by simpa using steps.named
  obtain ⟨component, counted, name⟩ := Path.components_of_split steps.divided.splitOn_eq named
  exact ⟨component, name.trans String.ofList_toList, counted⟩

theorem Path.Steps.components_of_idle (steps : path.Steps first rest)
    (idle : ∀ step ∈ rest, IsIdle step) :
    ∃ component : Component, component.name = first ∧ path.components = [component] := by
  obtain ⟨component, name, counted⟩ := steps.components
  refine ⟨component, name, counted.trans ?_⟩
  rw [List.filterMap_eq_nil_iff.mpr]
  simpa [ofField?_eq_none] using idle

theorem Path.Steps.components_of_counting (steps : path.Steps first rest)
    (counting : ∃ step ∈ rest, ¬ IsIdle step) :
    ∃ component next others, path.components = component :: next :: others := by
  obtain ⟨component, -, counted⟩ := steps.components
  cases moved : (rest.map String.toList).filterMap Component.ofField? with
  | nil =>
      obtain ⟨step, member, counts⟩ := counting
      have stays := List.filterMap_eq_nil_iff.mp moved _ (List.mem_map_of_mem member)
      exact absurd (ofField?_eq_none.mp stays) counts
  | cons next others => exact ⟨component, next, others, by rw [counted, moved]⟩

/-- A relative path has one component when the steps behind its first one are idle. -/
theorem Path.Steps.length_components (steps : path.Steps first rest) :
    path.components.length = 1 ↔ ∀ step ∈ rest, IsIdle step := by
  constructor
  · intro single step member
    by_cases idle : IsIdle step
    · exact idle
    · obtain ⟨component, next, others, counted⟩ :=
        steps.components_of_counting ⟨step, member, idle⟩
      simp [counted] at single
  · intro idle
    obtain ⟨component, -, single⟩ := steps.components_of_idle idle
    rw [single, List.length_singleton]

/-- A path that is neither absolute nor empty has one step that counts, or more. -/
theorem Path.shape (path : Path) :
    path.isAbsolute ∨ path = ⟨""⟩ ∨ ∃ first rest, path.Steps first rest ∧
      ((∀ step ∈ rest, IsIdle step) ∨ ∃ step ∈ rest, ¬ IsIdle step) := by
  by_cases absolute : path.isAbsolute
  · exact .inl absolute
  · by_cases blank : path.text = ""
    · exact .inr (.inl (congrArg Path.mk blank))
    · obtain ⟨first, rest, steps⟩ := Path.exists_steps blank (by simpa using absolute)
      refine .inr (.inr ⟨first, rest, steps, ?_⟩)
      by_cases idle : ∀ step ∈ rest, IsIdle step
      · exact .inl idle
      · exact .inr (by simpa using idle)

end ChainShell
