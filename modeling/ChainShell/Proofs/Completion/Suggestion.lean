/-
This file compares the hint with the completions, and the answers of the line editor's helper with
both. The hint is the first completion, and a completion keeps the text up to the cursor.
-/

import ChainShell.Proofs.Completion.Matching

namespace ChainShell

open String (utf8Len)

theorem takeBytes?_append (front rest : List Char) :
    takeBytes? (utf8Len front) (front ++ rest) = some front := by
  induction front with
  | nil => rw [String.utf8Len_nil, takeBytes?]
  | cons char front inductionHypothesis =>
      obtain ⟨count, size⟩ : ∃ count, char.utf8Size = count + 1 :=
        ⟨_, (Nat.sub_add_cancel char.utf8Size_pos).symm⟩
      rw [String.utf8Len_cons, size, ← Nat.add_assoc, List.cons_append, takeBytes?, size]
      simp [Nat.add_assoc, inductionHypothesis]

/-- A cut is answered exactly where some text ends. -/
theorem takeBytes?_eq_some {position : Nat} {text front : List Char} :
    takeBytes? position text = some front ↔
      ∃ rest, text = front ++ rest ∧ utf8Len front = position := by
  constructor
  · intro taken
    fun_induction takeBytes? position text generalizing front with
    | case1 text =>
        obtain rfl := Option.some.inj taken
        exact ⟨text, rfl, rfl⟩
    | case2 => contradiction
    | case3 count char rest fits inductionHypothesis =>
        obtain ⟨tail, inside, rfl⟩ := Option.map_eq_some_iff.mp taken
        obtain ⟨behind, rfl, length⟩ := inductionHypothesis inside
        exact ⟨behind, rfl, by rw [String.utf8Len_cons]; omega⟩
    | case4 => contradiction
  · rintro ⟨rest, rfl, rfl⟩
    exact takeBytes?_append front rest

/-- A cursor on a character boundary stands behind some text, and its completions are shown. At any
other place there is no answer. -/
theorem LineHelper.complete_eq_some {helper : LineHelper} {line : String} {position : Nat}
    {answer : Nat × List Completion} :
    helper.complete line position = some answer ↔
      ∃ typed rest, line = typed ++ rest ∧ typed.utf8ByteSize = position ∧
        answer = (0, completions typed helper.index) := by
  rw [LineHelper.complete, Option.map_eq_some_iff]
  constructor
  · rintro ⟨typed, taken, rfl⟩
    obtain ⟨rest, spelled, length⟩ := takeBytes?_eq_some.mp taken
    refine ⟨String.ofList typed, String.ofList rest, ?_, ?_, rfl⟩
    · rw [← String.ofList_append, ← spelled, String.ofList_toList]
    · rw [← String.utf8Len_toList, String.toList_ofList, length]
  · rintro ⟨typed, rest, rfl, rfl, rfl⟩
    refine ⟨typed.toList, ?_, by rw [String.ofList_toList]⟩
    rw [takeBytes?_eq_some]
    exact ⟨rest.toList, String.toList_append, String.utf8Len_toList typed⟩

/-- The first candidate is a command exactly when some command starts with the word. -/
theorem command_of_first_candidate (before : String) {firstWord : Bool} {word name : String}
    {index : NameIndex} {kind : HintKind}
    (first : (candidates firstWord word index).head? = some (name, kind)) :
    kind = .command ↔
      extensions before word (if firstWord then index.commands else []) ≠ [] := by
  rw [candidates_eq] at first
  rw [extensions, ne_eq, List.map_eq_nil_iff]
  cases commands : (if firstWord then index.commands else []).filter fun name =>
      word.toList.isPrefixOf name.toList with
  | nil =>
      rw [commands, List.map_nil, List.nil_append] at first
      obtain ⟨file, -, same⟩ := List.mem_map.mp (List.mem_of_head? first)
      obtain ⟨-, rfl⟩ := Prod.mk.inj same
      simp
  | cons command others =>
      rw [commands] at first
      obtain ⟨-, rfl⟩ := Prod.mk.inj (Option.some.inj first)
      simp

section EndsInWord

variable {buffer before word : String} (ends : EndsInWord buffer before word)

include ends

/-- A completion goes on behind the buffer. -/
theorem EndsInWord.isPrefix_of_offered {index : NameIndex} {completed : String}
    (offered : completed ∈ complete buffer index) : buffer.toList <+: completed.toList := by
  rw [ends.complete_candidates] at offered
  split at offered
  · simp at offered
  · obtain ⟨entry, candidate, rfl⟩ := List.mem_map.mp offered
    have start := isPrefix_of_mem_candidates candidate
    rw [ends.spelled, String.toList_append, String.toList_append]
    exact (List.prefix_append_right_inj before.toList).mpr start

/-- The hint is what the first completion adds. -/
theorem EndsInWord.hint_eq_some (index : NameIndex) (suffix : String) (kind : HintKind) :
    hint buffer index = some ⟨suffix, kind⟩ ↔
      suffix ≠ "" ∧ (complete buffer index).head? = some (buffer ++ suffix) ∧
        (kind = .command ↔
          extensions before word (if isFirstWord before.toList then index.commands else []) ≠ []) := by
  rw [hint, ends.cutLastWord_eq, ends.complete_candidates]
  by_cases blank : word = ""
  · simp [blank]
  have given : word.isEmpty = false := by simpa using blank
  simp only [given, Bool.false_eq_true, if_false, if_neg blank, List.head?_map]
  cases offered : candidates (isFirstWord before.toList) word index with
  | nil => simp
  | cons entry others =>
      obtain ⟨name, first⟩ := entry
      have member : (name, first) ∈ candidates (isFirstWord before.toList) word index := by
        rw [offered]
        exact List.mem_cons_self
      have completes := append_missingSuffix (isPrefix_of_mem_candidates member)
      have fromCommands := command_of_first_candidate before
        (by rw [offered]; rfl : (candidates _ word index).head? = some (name, first))
      have added : before ++ name = buffer ++ missingSuffix word name := by
        rw [ends.spelled, String.append_assoc, completes]
      dsimp only
      rw [List.head?_cons, Option.map_some, added, Option.some_inj, String.append_right_inj,
        ← fromCommands]
      constructor
      · intro suggested
        split at suggested
        · contradiction
        · next missing =>
            obtain ⟨rfl, rfl⟩ := Hint.mk.inj (Option.some.inj suggested)
            exact ⟨by simpa using missing, rfl, Iff.rfl⟩
      · rintro ⟨nonempty, rfl, sameList⟩
        obtain rfl : first = kind := by cases first <;> cases kind <;> simp at sameList ⊢
        exact if_neg (by simpa using nonempty)

/-- The buffer is cut where a character starts, and so is every name that is offered. -/
theorem EndsInWord.isValid_cuts (index : NameIndex) :
    String.Pos.Raw.IsValid buffer ⟨lastWordStart buffer⟩ ∧
      ∀ entry ∈ candidates (isFirstWord before.toList) word index,
        String.Pos.Raw.IsValid entry.1 word.rawEndPos := by
  constructor
  · rw [ends.lastWordStart_eq]
    exact String.Pos.Raw.isValid_iff_exists_append.mpr ⟨before, word, ends.spelled, rfl⟩
  · intro entry candidate
    have completes := append_missingSuffix (isPrefix_of_mem_candidates candidate)
    exact String.Pos.Raw.isValid_iff_exists_append.mpr ⟨word, _, completes.symm, rfl⟩

end EndsInWord

/-- Completion offers the names that start with the last word, the commands in front of the files,
each in the place of the word, and nothing for an empty word. The hint is what the first of these
completions adds, unless it adds nothing, and it has the kind of the list that this one comes from.
The helper answers at every character boundary with the completions of the text in front of it.
No text is cut inside a character. -/
theorem complete_and_hint_exact (index : NameIndex) :
    (∀ buffer : String, ∃ before word, EndsInWord buffer before word ∧
      let commands :=
        extensions before word (if isFirstWord before.toList then index.commands else [])
      let files := extensions before word index.files
      complete buffer index = (if word = "" then [] else commands ++ files) ∧
      (∀ completed ∈ complete buffer index, buffer.toList <+: completed.toList) ∧
      (∀ suffix kind, hint buffer index = some ⟨suffix, kind⟩ ↔
        suffix ≠ "" ∧ (complete buffer index).head? = some (buffer ++ suffix) ∧
          (kind = .command ↔ commands ≠ [])) ∧
      String.Pos.Raw.IsValid buffer ⟨lastWordStart buffer⟩ ∧
      ∀ entry ∈ candidates (isFirstWord before.toList) word index,
        String.Pos.Raw.IsValid entry.1 word.rawEndPos) ∧
    ∀ lastHint line position,
      let helper : LineHelper := ⟨index, lastHint⟩
      (String.Pos.Raw.IsValid line ⟨position⟩ →
        ∃ typed rest pairs, line = typed ++ rest ∧ typed.utf8ByteSize = position ∧
          helper.complete line position = some (0, pairs) ∧
          pairs.map Completion.replacement = complete typed index ∧
          ∀ pair ∈ pairs, typed.toList <+: pair.replacement.toList) ∧
      (¬ String.Pos.Raw.IsValid line ⟨position⟩ → helper.complete line position = none) := by
  constructor
  · intro buffer
    have ends := endsInWord_splitLastWord buffer
    exact ⟨_, _, ends, ends.complete_eq index, fun _ => ends.isPrefix_of_offered,
      ends.hint_eq_some index, ends.isValid_cuts index⟩
  · intro lastHint line position helper
    constructor
    · intro valid
      obtain ⟨typed, rest, spelled, length⟩ := String.Pos.Raw.isValid_iff_exists_append.mp valid
      have position : typed.utf8ByteSize = position := (congrArg String.Pos.Raw.byteIdx length).symm
      refine ⟨typed, rest, completions typed index, spelled, position, ?_, rfl, ?_⟩
      · exact LineHelper.complete_eq_some.mpr ⟨typed, rest, spelled, position, rfl⟩
      · intro pair member
        have ends := endsInWord_splitLastWord typed
        exact ends.isPrefix_of_offered (List.mem_map_of_mem member)
    · intro inside
      rw [Option.eq_none_iff_forall_ne_some]
      intro answer answered
      obtain ⟨typed, rest, spelled, rfl, -⟩ := LineHelper.complete_eq_some.mp answered
      exact inside (String.Pos.Raw.isValid_iff_exists_append.mpr ⟨typed, rest, spelled, rfl⟩)

/-- The character that the names share takes two bytes. -/
example : hint "ls;é" ⟨["étoile"], ["été"]⟩ = some ⟨"toile", .command⟩ ∧
    complete "ls;é" ⟨["étoile"], ["été"]⟩ = ["ls;étoile", "ls;été"] := by decide

end ChainShell
