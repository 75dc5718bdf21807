/-
This file says which names the index collects from a search path. The listings of its directories
stand one behind the other, and the collection keeps as many names as there is room for. Only a
name without room is worth a warning.
-/

import ChainShell.Proofs.Path.Division
import ChainShell.NameIndex
import Mathlib.Data.List.Forall2

namespace ChainShell

/-- An empty entry of a search path and a directory without a listing have no names. -/
def entryListing (list : Path → Except ListingError (List String)) (directory : Path) :
    List String :=
  if directory.isEmpty then [] else (list directory).toOption.getD []

/-- All names that the entries of a search path list, in the order of the entries. -/
def listedNames (list : Path → Except ListingError (List String)) (searchPath : String) :
    List String :=
  (searchEntries searchPath).flatMap (entryListing list)

section Collection

variable {list : Path → Except ListingError (List String)}

theorem entryListing_of_ok {directory : Path} {names : List String}
    (nonempty : directory.isEmpty = false) (listed : list directory = .ok names) :
    entryListing list directory = names := by
  simp [entryListing, nonempty, listed, Except.toOption]

theorem entryListing_of_error {directory : Path} {error : ListingError}
    (failed : list directory = .error error) : entryListing list directory = [] := by
  simp [entryListing, failed, Except.toOption]

/-- As many names are added as there is room for, and only a name without room ends the list. -/
theorem addNames_eq {limit : Nat} {collected : Array String} (within : collected.size ≤ limit)
    (names : List String) :
    addNames limit collected names =
      (((collected.toList ++ names).take limit).toArray,
        decide (limit < (collected.toList ++ names).length)) := by
  induction names generalizing collected with
  | nil => simp [addNames, List.take_of_length_le within, within]
  | cons name names inductionHypothesis =>
      rw [addNames]
      split
      · next full => simp [← full]
      · next room =>
          have within : (collected.push name).size ≤ limit := by
            rw [Array.size_push]
            omega
          rw [inductionHypothesis within, Array.toList_push, List.append_assoc,
            List.singleton_append]

/-- A list that is just full is not cut. -/
example : addNames 3 #["one"] ["two", "three"] = (#["one", "two", "three"], false) ∧
    addNames 2 #["one"] ["two", "three"] = (#["one", "two"], true) := by decide

/-- The names of the entries are added to those that were collected. One warning stands for all
names that found no room, and without such a name there is none. -/
theorem collectNames_eq {limit : Nat} {collected : Array String}
    (within : collected.size ≤ limit) (entries : List Path) :
    let all := collected.toList ++ entries.flatMap (entryListing list)
    (collectNames list limit collected entries).1.toList = all.take limit ∧
      (collectNames list limit collected entries).2.filter (·.level = .warn) =
        if limit < all.length then [truncationWarning limit] else [] := by
  induction entries generalizing collected with
  | nil => simp [collectNames, List.take_of_length_le within, within]
  | cons directory rest inductionHypothesis =>
      rw [collectNames, List.flatMap_cons]
      split
      · next blank =>
          rw [entryListing, if_pos blank, List.nil_append]
          exact inductionHypothesis within
      · next given =>
          have nonempty : directory.isEmpty = false := by simpa using given
          cases listed : list directory with
          | error cause =>
              rw [entryListing_of_error listed, List.nil_append]
              simpa using inductionHypothesis within
          | ok names =>
              rw [entryListing_of_ok nonempty listed, ← List.append_assoc]
              dsimp only
              by_cases full : limit < (collected.toList ++ names).length
              · -- The names of later entries stay out as well.
                have overflow (later : List String) :
                    limit < ((collected.toList ++ names) ++ later).length := by
                  rw [List.length_append]
                  omega
                rw [addNames_eq within, decide_eq_true full, if_pos (overflow _),
                  List.take_append_of_le_length (Nat.le_of_lt full)]
                exact ⟨rfl, rfl⟩
              · have fits : (collected.toList ++ names).length ≤ limit := Nat.le_of_not_lt full
                rw [addNames_eq within, decide_eq_false full, List.take_of_length_le fits]
                exact inductionHypothesis fits

/-- The collected names are the first of all listed ones, with the built-in names behind them. -/
theorem collectCommands_eq (searchPath : String) (limit : Nat) :
    (collectCommands list searchPath limit).1 =
        (listedNames list searchPath).take limit ++ builtinNames ∧
      (collectCommands list searchPath limit).2.filter (·.level = .warn) =
        if limit < (listedNames list searchPath).length then [truncationWarning limit] else [] := by
  have within : (#[] : Array String).size ≤ limit := Nat.zero_le limit
  constructor
  · exact congrArg (· ++ builtinNames) (collectNames_eq within (searchEntries searchPath)).1
  · exact (collectNames_eq within (searchEntries searchPath)).2

/-- With room for everything, no name of a listed directory gets lost. -/
theorem mem_collectCommands {searchPath : String} {limit : Nat} {directory : Path}
    {names : List String} {name : String}
    (room : (listedNames list searchPath).length ≤ limit)
    (entry : directory ∈ searchEntries searchPath) (nonempty : directory.isEmpty = false)
    (listed : list directory = .ok names) (member : name ∈ names) :
    name ∈ (collectCommands list searchPath limit).1 := by
  rw [(collectCommands_eq searchPath limit).1, List.take_of_length_le room]
  apply List.mem_append_left
  apply List.mem_flatMap_of_mem entry
  rw [entryListing_of_ok nonempty listed]
  exact member

end Collection

section System

variable {σ : Type} [OperatingSystem σ] {system : σ}

theorem listNames_of_listDir {path : Path} {names : List String}
    (listed : OperatingSystem.listDir system path = .ok (names.map .ok)) :
    listNames system path = .ok names := by
  have readable : entryNames path (names.map .ok) = .ok names := by
    clear listed
    induction names with
    | nil => rfl
    | cons name names inductionHypothesis => rw [List.map_cons, entryNames, inductionHypothesis]
  rw [listNames, listed]
  exact readable

/-- The names that a system lists for an entry of a search path. Only a listing without any error
counts, and it counts as a whole. -/
inductive Lists (system : σ) : String → List String → Prop where
  | blank : Lists system "" []
  | whole {entry : String} {names : List String} (given : entry ≠ "")
      (listed : OperatingSystem.listDir system ⟨entry⟩ = .ok (names.map .ok)) :
      Lists system entry names
  /-- The directory could not be opened. -/
  | closed {entry : String} {cause : OsError}
      (refused : OperatingSystem.listDir system ⟨entry⟩ = .error cause) : Lists system entry []
  /-- One of its entries could not be read. -/
  | spoiled {entry : String} {items : List (Except OsError String)} {cause : OsError}
      (listed : OperatingSystem.listDir system ⟨entry⟩ = .ok items)
      (member : .error cause ∈ items) : Lists system entry []

theorem entryNames_spoiled (path : Path) {items : List (Except OsError String)} {cause : OsError}
    (member : .error cause ∈ items) : ∃ error, entryNames path items = .error error := by
  induction items with
  | nil => simp at member
  | cons item items inductionHypothesis =>
      cases item with
      | error first => exact ⟨_, rfl⟩
      | ok name =>
          have behind : Except.error cause ∈ items := by simpa using member
          obtain ⟨error, spoiled⟩ := inductionHypothesis behind
          exact ⟨error, by rw [entryNames, spoiled]⟩

/-- A listing has an error, or it is a list of names. -/
theorem spoiled_or_whole (items : List (Except OsError String)) :
    (∃ cause, .error cause ∈ items) ∨ ∃ names : List String, items = names.map .ok := by
  induction items with
  | nil => exact .inr ⟨[], rfl⟩
  | cons item items inductionHypothesis =>
      cases item with
      | error cause => exact .inl ⟨cause, List.mem_cons_self⟩
      | ok name =>
          rcases inductionHypothesis with ⟨cause, member⟩ | ⟨names, rfl⟩
          · exact .inl ⟨cause, List.mem_cons_of_mem _ member⟩
          · exact .inr ⟨name :: names, rfl⟩

/-- The collection takes the names that the system lists. -/
theorem Lists.entryListing_eq {entry : String} {names : List String}
    (lists : Lists system entry names) : entryListing (listNames system) ⟨entry⟩ = names := by
  cases lists with
  | blank => rfl
  | whole given listed =>
      exact entryListing_of_ok (by simpa [Path.isEmpty] using given) (listNames_of_listDir listed)
  | closed refused => exact entryListing_of_error (by rw [listNames, refused])
  | spoiled listed member =>
      obtain ⟨error, spoiled⟩ := entryNames_spoiled ⟨entry⟩ member
      exact entryListing_of_error (by rw [listNames, listed]; exact spoiled)

/-- Every entry is listed in some way. -/
theorem lists_entryListing (entry : String) :
    Lists system entry (entryListing (listNames system) ⟨entry⟩) := by
  have answer {names : List String} (lists : Lists system entry names) :
      Lists system entry (entryListing (listNames system) ⟨entry⟩) :=
    lists.entryListing_eq.symm ▸ lists
  by_cases blank : entry = ""
  · subst blank
    exact .blank
  cases listed : OperatingSystem.listDir system ⟨entry⟩ with
  | error cause => exact answer (.closed listed)
  | ok items =>
      rcases spoiled_or_whole items with ⟨cause, member⟩ | ⟨names, rfl⟩
      · exact answer (.spoiled listed member)
      · exact answer (.whole blank listed)

/-- The listings of the entries are those that the collection reads. -/
theorem Divides.listedNames_eq {searchPath : String} {entries : List String}
    {listings : List (List String)} (divided : Divides ':' searchPath entries)
    (lists : List.Forall₂ (Lists system) entries listings) :
    listedNames (listNames system) searchPath = listings.flatten := by
  rw [listedNames, divided.searchEntries_eq]
  clear divided
  induction lists with
  | nil => rfl
  | cons here _ inductionHypothesis =>
      rw [List.map_cons, List.flatMap_cons, here.entryListing_eq, inductionHypothesis,
        List.flatten_cons]

end System

/-- The collected commands are the first names of all readable entries of the search path, in its
order, with the built-in names behind them. The collection warns once if it leaves a name out, and
otherwise not at all. -/
theorem collectCommands_truncates {σ : Type} [OperatingSystem σ] (system : σ) (searchPath : String)
    (limit : Nat) :
    let collected := collectCommands (listNames system) searchPath limit
    (∃ directories listings, Divides ':' searchPath directories ∧
      List.Forall₂ (Lists system) directories listings) ∧
    ∀ directories listings, Divides ':' searchPath directories →
      List.Forall₂ (Lists system) directories listings →
      collected.1 = listings.flatten.take limit ++ builtinNames ∧
      collected.2.filter (·.level = .warn) =
        if limit < listings.flatten.length then [truncationWarning limit] else [] := by
  constructor
  · have divided := divides_splitOn ':' searchPath
    generalize (searchPath.toList.splitOn ':').map String.ofList = directories at divided
    refine ⟨directories, directories.map fun entry => entryListing (listNames system) ⟨entry⟩,
      divided, ?_⟩
    rw [List.forall₂_map_right_iff, List.forall₂_same]
    exact fun entry _ => lists_entryListing entry
  · intro directories listings divided lists
    rw [← divided.listedNames_eq lists]
    exact collectCommands_eq searchPath limit

end ChainShell
