/-
This file holds the variables and directories that a shell passes to the programs it starts.
-/

import ChainShell.Settings

namespace ChainShell

/-- The variables in the order in which their names first appeared. No name comes twice. -/
structure Variables where
  entries : List (String × String)
  distinct : (entries.map Prod.fst).Nodup
  deriving DecidableEq, Repr

def Variables.empty : Variables := ⟨[], List.nodup_nil⟩

def Variables.get? (vars : Variables) (name : String) : Option String :=
  vars.entries.lookup name

/-- The first entry of the name takes the value, and a new name goes to the end. -/
def assignEntry (name value : String) : List (String × String) → List (String × String)
  | [] => [(name, value)]
  | entry :: rest =>
    if entry.1 = name then (name, value) :: rest else entry :: assignEntry name value rest

/-- An assignment adds a name at most. -/
theorem mem_assignEntry_names {name value other : String} {entries : List (String × String)}
    (member : other ∈ (assignEntry name value entries).map Prod.fst) :
    other = name ∨ other ∈ entries.map Prod.fst := by
  induction entries with
  | nil => exact .inl (List.mem_singleton.mp member)
  | cons entry rest inductionHypothesis =>
      rw [assignEntry] at member
      split at member <;> rcases List.mem_cons.mp member with rfl | behind
      · exact .inl rfl
      · exact .inr (List.mem_cons_of_mem _ behind)
      · exact .inr List.mem_cons_self
      · exact (inductionHypothesis behind).imp_right (List.mem_cons_of_mem _)

theorem assignEntry_distinct (name value : String) {entries : List (String × String)}
    (distinct : (entries.map Prod.fst).Nodup) :
    ((assignEntry name value entries).map Prod.fst).Nodup := by
  induction entries with
  | nil => simp [assignEntry]
  | cons entry rest inductionHypothesis =>
      obtain ⟨new, behind⟩ := List.nodup_cons.mp distinct
      rw [assignEntry]
      split
      · next same => exact List.nodup_cons.mpr ⟨same ▸ new, behind⟩
      · next differs =>
          refine List.nodup_cons.mpr ⟨?_, inductionHypothesis behind⟩
          intro member
          rcases mem_assignEntry_names member with same | inside
          · exact differs same
          · exact new inside

def Variables.assign (vars : Variables) (name value : String) : Variables :=
  ⟨assignEntry name value vars.entries, assignEntry_distinct name value vars.distinct⟩

def Variables.remove (vars : Variables) (name : String) : Variables :=
  ⟨vars.entries.filter (·.1 != name), vars.distinct.sublist (List.filter_sublist.map Prod.fst)⟩

/-- Later pairs win over earlier ones. -/
def Variables.ofList (pairs : List (String × String)) : Variables :=
  pairs.foldl (fun vars pair => vars.assign pair.1 pair.2) .empty

/-- The name and the value of a variable. The name ends at the first equals sign that is not its
own first character. A text without one is no variable. -/
def variablePair? (text : String) : Option (String × String) :=
  match text.toList with
  | [] => none
  | first :: rest =>
    match rest.span (· != '=') with
    | (_, []) => none
    | (name, _ :: value) => some (String.ofList (first :: name), String.ofList value)

/-- The variables that a process is given, in order. A name may come more than once. -/
def variablePairs (texts : List String) : List (String × String) :=
  texts.filterMap variablePair?

/-- A look-up asks the first entry and then the others. -/
theorem lookup_cons_ite (name : String) (entry : String × String)
    (rest : List (String × String)) :
    (entry :: rest).lookup name = if name = entry.1 then some entry.2 else rest.lookup name := by
  obtain ⟨key, value⟩ := entry
  rw [List.lookup_cons]
  by_cases same : name = key
  · simp [same]
  · have differ : (name == key) = false := by simp [same]
    simp [differ, same]

/-- An assignment changes the look-up of its own name only. -/
theorem lookup_assignEntry (name value other : String) (entries : List (String × String)) :
    (assignEntry name value entries).lookup other =
      if other = name then some value else entries.lookup other := by
  induction entries with
  | nil => rw [assignEntry, lookup_cons_ite]
  | cons entry rest inductionHypothesis =>
      by_cases replaced : entry.1 = name
      · by_cases same : other = name <;> simp [assignEntry, lookup_cons_ite, replaced, same]
      · by_cases same : other = name
        · subst same
          have kept : ¬ other = entry.1 := fun equal => replaced equal.symm
          simp [assignEntry, lookup_cons_ite, inductionHypothesis, replaced, kept]
        · simp [assignEntry, lookup_cons_ite, inductionHypothesis, replaced, same]

/-- A look-up finds exactly the entries, because no name comes twice. -/
theorem Variables.get?_eq_some {vars : Variables} {name value : String} :
    vars.get? name = some value ↔ (name, value) ∈ vars.entries := by
  rw [Variables.get?, List.lookup_eq_some_iff]
  constructor
  · rintro ⟨earlier, later, divided, -⟩
    simp [divided]
  · intro member
    obtain ⟨earlier, later, divided⟩ := List.append_of_mem member
    refine ⟨earlier, later, divided, ?_⟩
    intro other inside
    have distinct := vars.distinct
    rw [divided, List.map_append, List.nodup_append] at distinct
    have differs := distinct.2.2 other.1 (List.mem_map_of_mem inside) name (by simp)
    simpa using differs.symm

@[simp] theorem Variables.get?_assign (vars : Variables) (name value other : String) :
    (vars.assign name value).get? other =
      if other = name then some value else vars.get? other :=
  lookup_assignEntry name value other vars.entries

/-- A shell tracks its variables, its current directory and the target of a bare `cd`. -/
structure Environment where
  vars : Variables
  currentDir : Path
  homeDir : Path
  deriving DecidableEq, Repr

def Environment.assign (environment : Environment) (name value : String) : Environment :=
  { environment with vars := environment.vars.assign name value }

def Environment.remove (environment : Environment) (name : String) : Environment :=
  { environment with vars := environment.vars.remove name }

/-- A variable gets an earlier value again, and one that had none is removed. -/
def Environment.restore (environment : Environment) (name : String) (saved : Option String) :
    Environment :=
  match saved with
  | some value => environment.assign name value
  | none => environment.remove name

/-- A second assignment to a name can bring its first value back. -/
theorem assignEntry_restore {name value : String} (other : String)
    {entries : List (String × String)} (saved : entries.lookup name = some value) :
    assignEntry name value (assignEntry name other entries) = entries := by
  induction entries with
  | nil => simp at saved
  | cons entry rest inductionHypothesis =>
      obtain ⟨key, first⟩ := entry
      rw [lookup_cons_ite] at saved
      by_cases same : name = key
      · obtain rfl : first = value := by simpa [same] using saved
        simp [assignEntry, same]
      · have differ : ¬ key = name := fun equal => same equal.symm
        rw [if_neg same] at saved
        simp [assignEntry, differ, inductionHypothesis saved]

/-- Removing a new name undoes its assignment. -/
theorem filter_assignEntry {name : String} (value : String) {entries : List (String × String)}
    (unset : entries.lookup name = none) :
    (assignEntry name value entries).filter (·.1 != name) = entries := by
  induction entries with
  | nil => simp [assignEntry]
  | cons entry rest inductionHypothesis =>
      obtain ⟨key, first⟩ := entry
      rw [lookup_cons_ite] at unset
      by_cases same : name = key
      · simp [same] at unset
      · have differ : ¬ key = name := fun equal => same equal.symm
        rw [if_neg same] at unset
        simp [assignEntry, differ, inductionHypothesis unset]

/-- A restored variable is as it was before the assignment, set or not. -/
@[simp] theorem Environment.restore_assign (environment : Environment) (name value : String) :
    (environment.assign name value).restore name (environment.vars.get? name) = environment := by
  obtain ⟨⟨entries, distinct⟩, currentDir, homeDir⟩ := environment
  cases saved : entries.lookup name with
  | some earlier =>
      simp [Environment.restore, Environment.assign, Variables.get?, Variables.assign, saved,
        assignEntry_restore value saved]
  | none =>
      simp [Environment.restore, Environment.assign, Environment.remove, Variables.get?,
        Variables.assign, Variables.remove, saved, filter_assignEntry value saved]

/-- Without the variable `PATH` the default applies. An empty value stays empty. -/
def Environment.searchPath (environment : Environment) : String :=
  (environment.vars.get? "PATH").getD defaultSearchPath

/-- A shell starts with the given variables and the home and search path of its settings. -/
def Environment.ofSettings (settings : Settings) (vars : Variables) (currentDir : Path) :
    Environment where
  vars := vars.assign "PATH" settings.searchPath
  currentDir := currentDir
  homeDir := settings.home

end ChainShell
