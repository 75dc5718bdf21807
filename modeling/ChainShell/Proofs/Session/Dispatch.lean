/-
This file says which vectors the table of built-in commands answers and which it leaves to
programs. The table and the list of names agree, so each name has one entry that answers it.
-/

import ChainShell.Builtin

namespace ChainShell

/-- The table and the list of names agree, apart from the word `builtin`. -/
theorem findBuiltin_eq_none {name : String} (other : name ≠ "builtin") :
    findBuiltin builtinTable name = none ↔ name ∉ builtinNames := by
  rw [findBuiltin, List.find?_eq_none]
  simp only [builtinTable, Builtin.names, builtinNames, List.mem_cons, List.not_mem_nil, or_false,
    List.contains_eq_mem, decide_eq_true_eq, forall_eq_or_imp, forall_eq, not_or]
  grind

/-- The table has every entry. -/
theorem Builtin.mem_builtinTable (entry : Builtin) : entry ∈ builtinTable := by
  cases entry <;> decide

/-- The word `builtin` calls no entry. -/
theorem Builtin.ne_of_mem_names {entry : Builtin} {name : String} (owns : name ∈ entry.names) :
    name ≠ "builtin" := by
  rintro rfl
  cases entry <;> exact absurd owns (by decide)

/-- No two entries claim the same name. -/
theorem Builtin.eq_of_mem_names {first second : Builtin} {name : String}
    (inFirst : name ∈ first.names) (inSecond : name ∈ second.names) : first = second := by
  have disjoint : ∀ first ∈ builtinTable, ∀ second ∈ builtinTable,
      ∀ name ∈ first.names, name ∈ second.names → first = second := by decide
  exact disjoint first first.mem_builtinTable second second.mem_builtinTable name inFirst inSecond

/-- The entry that owns a name answers it, whatever the order of the table. -/
theorem findBuiltin_eq_some {table : List Builtin} {entry : Builtin} {name : String}
    (listed : entry ∈ table) (owns : name ∈ entry.names) :
    findBuiltin table name = some entry := by
  cases found : findBuiltin table name with
  | none =>
      rw [findBuiltin, List.find?_eq_none] at found
      exact absurd (by simpa using owns) (found entry listed)
  | some other =>
      have claims : name ∈ other.names := by simpa using List.find?_some found
      rw [Builtin.eq_of_mem_names claims owns]

/-- Every advertised name has an owner, apart from the word `builtin`. -/
theorem exists_owner {name : String} (named : name ∈ builtinNames) (other : name ≠ "builtin") :
    ∃ owner ∈ builtinTable, name ∈ owner.names := by
  cases claimed : findBuiltin builtinTable name with
  | none => exact absurd named ((findBuiltin_eq_none other).mp claimed)
  | some owner =>
      exact ⟨owner, List.mem_of_find?_eq_some claimed, by simpa using List.find?_some claimed⟩

variable {σ : Type} [OperatingSystem σ]

/-- A vector is answered by the entry that owns its first word. -/
theorem dispatch_owned {entry : Builtin} {name : String} (owns : name ∈ entry.names)
    (arguments : List String) (shell : Shell σ) :
    dispatch (name :: arguments) shell = entry.invoke arguments shell := by
  rw [dispatch_name (Builtin.ne_of_mem_names owns),
    findBuiltin_eq_some entry.mem_builtinTable owns]

/-- A vector with another first word is left to a program. -/
theorem dispatch_external {name : String} (arguments : List String) (shell : Shell σ)
    (external : name ∉ builtinNames) :
    dispatch (name :: arguments) shell = (.runExternal, shell) := by
  have other : name ≠ "builtin" := by
    rintro rfl
    exact external (by decide)
  rw [dispatch_name other, (findBuiltin_eq_none other).mpr external]

/-- Once an entry of the table is chosen, it answers itself. Only the entry for leaving ends the
shell, and only without arguments. -/
theorem Builtin.invoke_outcome (entry : Builtin) (arguments : List String) (shell : Shell σ) :
    (entry.invoke arguments shell).1 ≠ .runExternal ∧
      ((entry.invoke arguments shell).1 = .terminate → entry = .leave ∧ arguments = []) := by
  cases entry with
  | leave => cases arguments <;> simp [Builtin.invoke]
  | changeDirectory | assignVariable | showVariable =>
      rcases arguments with _ | ⟨first, _ | ⟨second, more⟩⟩ <;>
        grind [Builtin.invoke, Shell.printPieces, Shell.failBuiltin]
  | runProgram => grind [Builtin.invoke, Shell.callProgram, Outcome.ofCode]
  | echo => grind [Builtin.invoke, Shell.printFlushed, Shell.failBuiltin]
  | doNothing | reserved => simp [Builtin.invoke]

/-- A vector is answered in one of these ways. -/
inductive Answers (shell : Shell σ) : List String → Outcome × Shell σ → Prop where
  | nothing : Answers shell [] (.success, shell)
  /-- The word `builtin` wants a command. -/
  | bare : Answers shell ["builtin"] (.arityError, shell)
  /-- It passes on what a built-in command answers. -/
  | passed {argv : List String} {answer : Outcome × Shell σ} (behind : Answers shell argv answer)
      (claimed : answer.1 ≠ .runExternal) : Answers shell ("builtin" :: argv) answer
  /-- It refuses a name that calls none. -/
  | refused {name : String} {arguments : List String} (unnamed : name ∉ builtinNames) :
      Answers shell ("builtin" :: name :: arguments)
        (.failure 1, shell.complain ("builtin: " ++ name ++ ": not a shell builtin"))
  | owned {entry : Builtin} {name : String} {arguments : List String}
      (owns : name ∈ entry.names) : Answers shell (name :: arguments) (entry.invoke arguments shell)
  | external {name : String} {arguments : List String} (unnamed : name ∉ builtinNames) :
      Answers shell (name :: arguments) (.runExternal, shell)

/-- Only a name that calls no built-in command is left to a program, and nothing happens before
that. -/
theorem Answers.eq_of_runExternal {argv : List String} {shell : Shell σ}
    {answer : Outcome × Shell σ} (answers : Answers shell argv answer)
    (external : answer.1 = .runExternal) :
    ∃ name arguments, argv = name :: arguments ∧ name ∉ builtinNames ∧ answer.2 = shell := by
  cases answers with
  | nothing | bare | refused => contradiction
  | passed behind claimed => contradiction
  | owned owns => exact absurd external (Builtin.invoke_outcome _ _ _).1
  | external unnamed => exact ⟨_, _, rfl, unnamed, rfl⟩

theorem dispatch_answers (argv : List String) (shell : Shell σ) :
    Answers shell argv (dispatch argv shell) := by
  induction argv with
  | nil => exact .nothing
  | cons name arguments inductionHypothesis =>
      by_cases asksTable : name = "builtin"
      · subst asksTable
        cases arguments with
        | nil => exact .bare
        | cons inner rest =>
            rw [dispatch_builtin]
            split
            · next unclaimed =>
                rw [unclaimed] at inductionHypothesis
                obtain ⟨_, _, divided, unnamed, rfl⟩ := inductionHypothesis.eq_of_runExternal rfl
                obtain ⟨rfl, -⟩ := List.cons.inj divided
                exact .refused unnamed
            · next elsewhere =>
                exact .passed inductionHypothesis fun external =>
                  elsewhere _ (Prod.ext external rfl)
      · rw [dispatch_name asksTable]
        split
        · next unclaimed => exact .external ((findBuiltin_eq_none asksTable).mp unclaimed)
        · next entry claimed => exact .owned (by simpa using List.find?_some claimed)

theorem dispatch_runExternal {argv : List String} {shell after : Shell σ}
    (external : dispatch argv shell = (.runExternal, after)) :
    ∃ name arguments, argv = name :: arguments ∧ name ∉ builtinNames ∧ after = shell := by
  have answers := dispatch_answers argv shell
  rw [external] at answers
  exact answers.eq_of_runExternal rfl

/-- The word `builtin` in front is passed over when the table answers. -/
theorem dispatch_builtins (count : Nat) {name : String} {arguments : List String}
    {shell : Shell σ} (claimed : (dispatch (name :: arguments) shell).1 ≠ .runExternal) :
    dispatch (List.replicate count "builtin" ++ name :: arguments) shell =
      dispatch (name :: arguments) shell := by
  induction count with
  | zero => rfl
  | succ count inductionHypothesis =>
      obtain ⟨inner, rest, divided⟩ : ∃ inner rest,
          List.replicate count "builtin" ++ name :: arguments = inner :: rest :=
        List.exists_cons_of_ne_nil (by simp)
      rw [List.replicate_succ, List.cons_append, divided, dispatch_builtin, ← divided,
        inductionHypothesis]
      split
      · next unclaimed => exact absurd (congrArg Prod.fst unclaimed) claimed
      · rfl

/-- The word `builtin` leaves no vector to a program. -/
theorem dispatch_builtin_claims (argv : List String) (shell : Shell σ) :
    (dispatch ("builtin" :: argv) shell).1 ≠ .runExternal := by
  intro external
  obtain ⟨name, arguments, divided, unnamed, -⟩ := dispatch_runExternal (Prod.ext external rfl)
  obtain ⟨rfl, -⟩ := List.cons.inj divided
  exact unnamed (by decide)

/-- The word `builtin` is transparent at any depth. A built-in command behind it answers as it does
alone. A name that calls none is refused with one line on standard error, however often the word is
repeated, and without a command behind it the word is refused in silence. No such vector is left to
a program. -/
theorem dispatch_behind_builtins (count : Nat) (argv : List String) (shell : Shell σ) :
    let answer := dispatch (List.replicate (count + 1) "builtin" ++ argv) shell
    answer.1 ≠ .runExternal ∧
      match argv with
      | [] => answer = (.arityError, shell)
      | name :: arguments =>
        (name ∈ builtinNames → name ≠ "builtin" →
          answer = dispatch (name :: arguments) shell) ∧
        (name ∉ builtinNames → answer.1 = .failure 1 ∧ answer.2 = { shell with
          events := shell.events ++
            [.complained ("builtin: " ++ name ++ ": not a shell builtin" ++ "\n")] }) := by
  intro answer
  have passed : answer = dispatch ("builtin" :: argv) shell := by
    -- One word of the run is answered, and it passes the others over.
    have claimed := dispatch_builtin_claims argv shell
    have spelled : List.replicate (count + 1) "builtin" ++ argv =
        List.replicate count "builtin" ++ "builtin" :: argv := by
      rw [List.replicate_succ', List.append_assoc, List.singleton_append]
    change dispatch (List.replicate (count + 1) "builtin" ++ argv) shell = _
    rw [spelled, dispatch_builtins count claimed]
  rw [passed]
  refine ⟨dispatch_builtin_claims argv shell, ?_⟩
  cases argv with
  | nil => rw [dispatch, if_pos rfl]
  | cons name arguments =>
      refine ⟨?_, ?_⟩
      · intro named other
        obtain ⟨owner, -, owns⟩ := exists_owner named other
        have claimed : (dispatch (name :: arguments) shell).1 ≠ .runExternal := by
          rw [dispatch_owned owns]
          exact (owner.invoke_outcome arguments shell).1
        exact dispatch_builtins 1 claimed
      · intro unnamed
        rw [dispatch_builtin, dispatch_external arguments shell unnamed]
        exact ⟨rfl, rfl⟩

/-- The table and the advertised names agree. Together with the word `builtin` the entries claim
every advertised name once. A vector is left to a program exactly when its first word is none of
these names, and nothing happens to the shell then. Any other name but `builtin` is answered by
its only owner, in whatever order the table is searched. -/
theorem dispatch_agrees_with_names (argv : List String) (shell : Shell σ) :
    ("builtin" :: builtinTable.flatMap Builtin.names).Perm builtinNames ∧ builtinNames.Nodup ∧
      ((dispatch argv shell).1 = .runExternal ↔
        ∃ name arguments, argv = name :: arguments ∧ name ∉ builtinNames) ∧
      ((dispatch argv shell).1 = .runExternal → (dispatch argv shell).2 = shell) ∧
      ∀ name arguments, argv = name :: arguments → name ∈ builtinNames → name ≠ "builtin" →
        ∃ owner, (∀ entry : Builtin, name ∈ entry.names ↔ entry = owner) ∧
          (∀ table, table.Perm builtinTable → findBuiltin table name = some owner) ∧
          dispatch argv shell = owner.invoke arguments shell := by
  have leftToProgram (external : (dispatch argv shell).1 = .runExternal) :
      ∃ name arguments, argv = name :: arguments ∧ name ∉ builtinNames ∧
        (dispatch argv shell).2 = shell :=
    dispatch_runExternal (Prod.ext external rfl)
  refine ⟨by decide, by decide, ⟨?_, ?_⟩, ?_, ?_⟩
  · intro external
    obtain ⟨name, arguments, divided, unnamed, -⟩ := leftToProgram external
    exact ⟨name, arguments, divided, unnamed⟩
  · rintro ⟨name, arguments, rfl, unnamed⟩
    rw [dispatch_external arguments shell unnamed]
  · intro external
    obtain ⟨_, _, -, -, unchanged⟩ := leftToProgram external
    exact unchanged
  · rintro name arguments rfl named other
    obtain ⟨owner, listed, owns⟩ := exists_owner named other
    refine ⟨owner, fun entry => ⟨fun claims => Builtin.eq_of_mem_names claims owns, ?_⟩, ?_, ?_⟩
    · rintro rfl
      exact owns
    · intro table reordered
      exact findBuiltin_eq_some (reordered.mem_iff.mpr listed) owns
    · rw [dispatch_name other, findBuiltin_eq_some listed owns]

end ChainShell
