/-
This file says which arguments are assignments and what a shell holds behind one. What was assigned
under a name is read back under the same name.
-/

import ChainShell.Proofs.Session.Output
import Mathlib.Data.List.TakeDrop
import Mathlib.Data.List.TakeWhile

namespace ChainShell

/-- An assignment is a name and a value with an equals sign between them. The limits count bytes. -/
structure IsAssignment (argument name value : String) : Prop where
  spelled : argument = name ++ "=" ++ value
  named : name ≠ ""
  unbroken : '=' ∉ name.toList
  valued : value ≠ ""
  nameFits : name.utf8ByteSize ≤ 63
  valueFits : value.utf8ByteSize ≤ 1023

/-- The text in front of the first equals sign is cut off. -/
theorem span_equals {text name value : List Char} {sign : Char} :
    text.span (· != '=') = (name, sign :: value) ↔
      sign = '=' ∧ '=' ∉ name ∧ text = name ++ '=' :: value := by
  rw [List.span_eq_takeWhile_dropWhile, Prod.mk.injEq]
  constructor
  · rintro ⟨rfl, behind⟩
    have stops := List.head?_dropWhile_not (· != '=') text
    obtain rfl : sign = '=' := by simpa [behind] using stops
    refine ⟨rfl, ?_, ?_⟩
    · intro member
      simpa using List.mem_takeWhile_imp member
    · rw [← behind, List.takeWhile_append_dropWhile]
  · rintro ⟨rfl, unbroken, rfl⟩
    have inside : ∀ char ∈ name, (char != '=') = true := by
      intro char member
      rw [bne_iff_ne]
      rintro rfl
      exact unbroken member
    rw [List.takeWhile_append_of_pos inside, List.dropWhile_append_of_pos inside]
    simp

/-- Reading accepts exactly the assignments. -/
theorem parseAssignment_eq_some {argument name value : String} :
    parseAssignment argument = some (name, value) ↔ IsAssignment argument name value := by
  constructor
  · intro parsed
    rw [parseAssignment] at parsed
    split at parsed
    · next first sign rest divided =>
        obtain ⟨rfl, unbroken, spelled⟩ := span_equals.mp divided
        split at parsed
        · next limits =>
            obtain ⟨rfl, rfl⟩ := Prod.mk.inj (Option.some.inj parsed)
            refine ⟨?_, by simpa using limits.1, by simpa using unbroken,
              by simpa using limits.2.1, limits.2.2.1, limits.2.2.2⟩
            rw [← String.toList_inj, spelled]
            simp
        · contradiction
    · contradiction
  · rintro ⟨rfl, named, unbroken, valued, nameFits, valueFits⟩
    have divided : (name ++ "=" ++ value).toList.span (· != '=') =
        (name.toList, '=' :: value.toList) :=
      span_equals.mpr ⟨rfl, unbroken, by simp⟩
    rw [parseAssignment, divided]
    simp [named, valued, maxVariableNameBytes, maxVariableValueBytes, nameFits, valueFits]

theorem parseAssignment_eq_none {argument : String} :
    parseAssignment argument = none ↔ ∀ name value, ¬ IsAssignment argument name value := by
  simp only [Option.eq_none_iff_forall_ne_some, Prod.forall, ne_eq, parseAssignment_eq_some]

/-- An argument is an assignment in one way at most. -/
theorem IsAssignment.unique {argument : String} {first second : String × String}
    (left : IsAssignment argument first.1 first.2)
    (right : IsAssignment argument second.1 second.2) : first = second :=
  Option.some.inj ((parseAssignment_eq_some.mpr left).symm.trans (parseAssignment_eq_some.mpr right))

variable {σ : Type} [OperatingSystem σ]

/-- Behind an assignment a shell has the value under the name, and nothing else in its environment
changed. The value is shown to every shell with this environment, whatever it writes to. -/
structure Shell.Assigned (before : Shell σ) (name value : String) (after : Shell σ) : Prop where
  assigned : after.environment.vars.get? name = some value
  kept : ∀ other, other ≠ name →
    after.environment.vars.get? other = before.environment.vars.get? other
  currentDir : after.environment.currentDir = before.environment.currentDir
  homeDir : after.environment.homeDir = before.environment.homeDir
  shown : ∀ reader : Shell σ, reader.environment = after.environment →
    dispatch ["getenv", name] reader = reader.printText (value ++ "\n") ∧
      (reader.writer.capacity = none → dispatch ["getenv", name] reader =
        (.success, { reader with
          events := reader.events ++ [.wrote (value ++ "\n").toUTF8.data.toList] }))

theorem dispatch_getenv {name value : String} {shell : Shell σ}
    (assigned : shell.environment.vars.get? name = some value) :
    dispatch ["getenv", name] shell = shell.printText (value ++ "\n") := by
  have owns : "getenv" ∈ Builtin.showVariable.names := by decide
  rw [dispatch_owned owns, Builtin.invoke, assigned]
  simp [Shell.printPieces_eq]

/-- An accepted argument is assigned and logged. -/
theorem invoke_assignment {argument name value : String}
    (accepted : IsAssignment argument name value) (shell : Shell σ) :
    Builtin.assignVariable.invoke [argument] shell =
      let logged := shell.log .debug ("export " ++ name ++ "=" ++ value)
      (.success, { logged with environment := logged.environment.assign name value }) := by
  rw [Builtin.invoke, parseAssignment_eq_some.mpr accepted]

theorem assigned_of_eq {before after : Shell σ} {name value : String}
    (environment : after.environment = before.environment.assign name value) :
    before.Assigned name value after := by
  have found (other : String) : after.environment.vars.get? other =
      if other = name then some value else before.environment.vars.get? other := by
    rw [environment]
    exact before.environment.vars.get?_assign name value other
  have assigned : after.environment.vars.get? name = some value := by rw [found, if_pos rfl]
  refine ⟨assigned, ?_, ?_, ?_, ?_⟩
  · intro other differ
    rw [found, if_neg differ]
  · rw [environment]
    rfl
  · rw [environment]
    rfl
  · intro reader same
    have printed : dispatch ["getenv", name] reader = reader.printText (value ++ "\n") :=
      dispatch_getenv (same ▸ assigned)
    exact ⟨printed, fun unlimited => printed.trans (Shell.printText_unlimited unlimited _)⟩

/-- An argument is accepted when it is an assignment, and then it is one in a single way. Its name
has its value behind the command, and `getenv` shows it. Any other argument, no argument and more
than one are refused, and nothing happens to the shell. -/
theorem assignment_read_back (argument : String) (shell : Shell σ) :
    (∀ name value, parseAssignment argument = some (name, value) ↔
      IsAssignment argument name value) ∧
    (∀ first second : String × String, IsAssignment argument first.1 first.2 →
      IsAssignment argument second.1 second.2 → first = second) ∧
    ∀ command ∈ ["export", "setenv"],
      (∀ name value, IsAssignment argument name value →
        (dispatch [command, argument] shell).1 = .success ∧
          shell.Assigned name value (dispatch [command, argument] shell).2) ∧
      ((∀ name value, ¬ IsAssignment argument name value) →
        dispatch [command, argument] shell = (.arityError, shell)) ∧
      ∀ arguments : List String, arguments.length ≠ 1 →
        dispatch (command :: arguments) shell = (.arityError, shell) := by
  refine ⟨fun name value => parseAssignment_eq_some, fun first second => IsAssignment.unique, ?_⟩
  intro command named
  have answered (arguments : List String) : dispatch (command :: arguments) shell =
      Builtin.assignVariable.invoke arguments shell := dispatch_owned named arguments shell
  refine ⟨?_, ?_, ?_⟩
  · intro name value accepted
    rw [answered, invoke_assignment accepted]
    exact ⟨rfl, assigned_of_eq rfl⟩
  · intro rejected
    rw [answered, Builtin.invoke, parseAssignment_eq_none.mpr rejected]
  · intro arguments count
    rw [answered]
    rcases arguments with _ | ⟨first, _ | ⟨second, more⟩⟩
    · rfl
    · exact absurd rfl count
    · rfl

end ChainShell
