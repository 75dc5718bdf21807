/-
This file follows a completion into the line that it makes. Accepting it lengthens the last word of
the last command, and at the place of a command the completed name is the whole command.
-/

import ChainShell.Proofs.Completion.Matching
import ChainShell.Proofs.Line.Appending
import ChainShell.Proofs.Line.LastCommand

namespace ChainShell

/-- A character that belongs to a word for completion, the splitter and the tokenizer alike. -/
def IsWordCharacter (char : Char) : Prop := IsPlain char ∧ ¬ SeparatesWords char

instance (char : Char) : Decidable (IsWordCharacter char) := inferInstanceAs (Decidable (_ ∧ _))

section Character

variable {char : Char} (inWord : IsWordCharacter char)

include inWord

theorem IsWordCharacter.visible : isWhiteSpace char = false := by
  have unbroken := inWord.2
  rw [SeparatesWords, not_or] at unbroken
  exact Bool.eq_false_iff.mpr unbroken.1

theorem IsWordCharacter.signless : char ≠ ';' ∧ char ≠ '&' ∧ char ≠ '|' := by
  have unbroken := inWord.2
  rw [SeparatesWords, not_or] at unbroken
  simpa using unbroken.2

theorem IsWordCharacter.notMem_mark (operator : Operator) : char ∉ operator.mark := by
  have signless := inWord.signless
  cases operator <;> simp [Operator.mark, signless]

theorem IsWordCharacter.isBlank : isBlank char = false := by
  have visible := inWord.visible
  cases blank : ChainShell.isBlank char with
  | false => rfl
  | true =>
      simp only [ChainShell.isBlank, Bool.or_eq_true, beq_iff_eq] at blank
      rcases blank with rfl | rfl <;> exact absurd visible (by decide)

end Character

/-- A word of such characters behind a closed line belongs to the last command of the line. -/
theorem splitChain_append_inWord {line word : String} (closed : ClosedText line.toList)
    (inWord : ∀ char ∈ word.toList, IsWordCharacter char) :
    ∃ earlier last, splitChain line = earlier ++ [last] ∧
      splitChain (line ++ word) = earlier ++ [last.append word] :=
  splitChain_append_word closed (fun char member => (inWord char member).signless)
    fun char member => (inWord char (List.mem_of_mem_head? member)).visible

/-- Where a command is awaited, a word is a whole command. -/
theorem text_of_last_awaited {line word : String} (closed : ClosedText line.toList)
    (awaits : AwaitsCommand line) (inWord : ∀ char ∈ word.toList, IsWordCharacter char) :
    ∀ last ∈ (splitChain (line ++ word)).getLast?, last.text = word := by
  obtain ⟨earlier, blank, split, splitOn⟩ := splitChain_append_inWord closed inWord
  obtain ⟨segment, member, isBlank⟩ := awaits
  have empty := (spelled_of_last_isBlank member isBlank).1
  rw [split, List.getLast?_concat] at member
  obtain rfl := Option.some.inj member
  intro last final
  rw [splitOn, List.getLast?_concat] at final
  obtain rfl := Option.some.inj final
  rw [Segment.append, empty, String.empty_append]

/-- A completion puts a name of the index in the place of the last word. -/
theorem exists_name_of_offered {buffer completed : String} {index : NameIndex}
    (offered : completed ∈ complete buffer index) :
    (splitLastWord buffer.toList).2 ≠ [] ∧ ∃ name ∈ index.commands ++ index.files,
      String.ofList (splitLastWord buffer.toList).1 ++ name = completed := by
  rw [(endsInWord_splitLastWord buffer).complete_eq, ← extensions_append] at offered
  split at offered
  · simp at offered
  · next given =>
      refine ⟨by simpa using given, ?_⟩
      obtain ⟨name, matched, rfl⟩ := List.mem_map.mp offered
      refine ⟨name, ?_, rfl⟩
      rcases List.mem_append.mp (List.mem_filter.mp matched).1 with command | file
      · split at command
        · exact List.mem_append_left _ command
        · simp at command
      · exact List.mem_append_right _ file

section Accepted

variable {buffer suffix : String} (plain : ∀ char ∈ buffer.toList, IsPlain char)
  (word : (splitLastWord buffer.toList).2 ≠ [])
  (inWord : ∀ char ∈ suffix.toList, IsWordCharacter char)

include plain word

theorem exists_last_character :
    ∃ front char, buffer.toList = front ++ [char] ∧ IsWordCharacter char := by
  have spelled := splitLastWord_spells buffer.toList
  obtain ⟨start, char, divided⟩ := List.eq_nil_or_concat _ |>.resolve_left word
  rw [List.concat_eq_append] at divided
  have whole : buffer.toList = (splitLastWord buffer.toList).1 ++ start ++ [char] := by
    rw [List.append_assoc, ← divided, spelled]
  have unbroken := splitLastWord_unbroken buffer.toList char (by rw [divided]; simp)
  exact ⟨_, char, whole, plain char (by rw [whole]; simp), unbroken⟩

include inWord

/-- The last word of the last command goes on with the suffix. -/
theorem tokenize_last_append {last : Segment} (member : last ∈ (splitChain buffer).getLast?) :
    ∃ words final, tokenize last.text = words ++ [final] ∧
      tokenize (last.append suffix).text = words ++ [final ++ suffix] := by
  obtain ⟨front, char, spelled, character⟩ := exists_last_character plain word
  obtain ⟨start, text⟩ :=
    text_of_last_concat spelled character.visible character.notMem_mark member
  have textPlain : ∀ other ∈ last.text.toList, IsPlain other :=
    fun other inside => plain other ((text_isSuffix_of_last member).subset inside)
  have bare : EndsBare char last.text.toList := by
    rw [text] at textPlain ⊢
    exact endsBare_plain character.1 character.isBlank start
      fun other inside => textPlain other (List.mem_append_left _ inside)
  exact tokenize_append_word (closedText_plain textPlain) bare
    fun other inside => ⟨(inWord other inside).1, (inWord other inside).isBlank⟩

/-- The completed name is made of the last word and the suffix. -/
theorem completedName_inWord {name : String}
    (completed : String.ofList (splitLastWord buffer.toList).1 ++ name = buffer ++ suffix) :
    name ≠ "" ∧ ∀ char ∈ name.toList, IsWordCharacter char := by
  have spelled := splitLastWord_spells buffer.toList
  have unbroken := splitLastWord_unbroken buffer.toList
  have letters := congrArg String.toList completed
  rw [String.toList_append, String.toList_ofList, String.toList_append] at letters
  generalize splitLastWord buffer.toList = parts at *
  obtain ⟨before, start⟩ := parts
  rw [← spelled] at plain
  rw [← spelled, List.append_assoc] at letters
  have named : name.toList = start ++ suffix.toList := List.append_cancel_left letters
  constructor
  · rintro rfl
    simp [word] at named
  · rw [named, List.forall_mem_append]
    exact ⟨fun char inside =>
      ⟨plain char (List.mem_append_right _ inside), unbroken char inside⟩, inWord⟩

end Accepted

/-- Accepting a completion changes the last word of the last command and nothing else. When the
text in front of the completed word awaits a command, the last command is the completed name. -/
theorem complete_extends_last_word {buffer suffix : String} {index : NameIndex}
    (plain : ∀ char ∈ buffer.toList, IsPlain char)
    (offered : buffer ++ suffix ∈ complete buffer index)
    (inWord : ∀ char ∈ suffix.toList, IsWordCharacter char) :
    let before := String.ofList (splitLastWord buffer.toList).1
    ∃ earlier last words word,
      splitChain buffer = earlier ++ [last] ∧
      splitChain (buffer ++ suffix) = earlier ++ [last.append suffix] ∧
      tokenize last.text = words ++ [word] ∧
      tokenize (last.append suffix).text = words ++ [word ++ suffix] ∧
      ∃ name ∈ index.commands ++ index.files, before ++ name = buffer ++ suffix ∧
        (AwaitsCommand before → tokenize (last.append suffix).text = [name]) := by
  intro before
  obtain ⟨given, name, indexed, completed⟩ := exists_name_of_offered offered
  obtain ⟨earlier, last, split, splitOn⟩ :=
    splitChain_append_inWord (closedText_plain plain) inWord
  have member : last ∈ (splitChain buffer).getLast? := by
    rw [split, List.getLast?_concat]
    rfl
  obtain ⟨words, word, read, readOn⟩ := tokenize_last_append plain given inWord member
  refine ⟨earlier, last, words, word, split, splitOn, read, readOn, name, indexed, completed, ?_⟩
  intro awaits
  obtain ⟨nonempty, nameInWord⟩ := completedName_inWord plain given inWord completed
  have closed : ClosedText before.toList :=
    closedText_of_prefix plain ⟨_, splitLastWord_spells buffer.toList⟩
  -- The line is also the text in front followed by the completed name.
  have wholeCommand : (last.append suffix).text = name := by
    refine text_of_last_awaited closed awaits nameInWord _ ?_
    rw [completed, splitOn, List.getLast?_concat]
    rfl
  rw [wholeCommand]
  exact tokenize_word nonempty fun char inside =>
    ⟨(nameInWord char inside).1, (nameInWord char inside).isBlank⟩

/-- The buffer holds an ideographic space, which ends a word for completion and is no blank of the
tokenizer. -/
theorem complete_extends_last_word_echo :
    let buffer := "cd /tmp &&\u3000ec"
    let index : NameIndex := ⟨["cat", "echo"], ["echo.txt", "notes"]⟩
    let before := String.ofList (splitLastWord buffer.toList).1
    ((∀ char ∈ buffer.toList, IsPlain char) ∧ buffer ++ "ho" ∈ complete buffer index ∧
      (∀ char ∈ "ho".toList, IsWordCharacter char) ∧ AwaitsCommand before) ∧
    ∃ earlier last words word,
      splitChain buffer = earlier ++ [last] ∧
      splitChain (buffer ++ "ho") = earlier ++ [last.append "ho"] ∧
      tokenize last.text = words ++ [word] ∧
      tokenize (last.append "ho").text = words ++ [word ++ "ho"] ∧
      ∃ name ∈ index.commands ++ index.files, before ++ name = buffer ++ "ho" ∧
        tokenize (last.append "ho").text = [name] := by
  intro buffer index before
  have plain : ∀ char ∈ buffer.toList, IsPlain char := by simp [buffer, IsPlain]
  have offered : buffer ++ "ho" ∈ complete buffer index := by decide
  have inWord : ∀ char ∈ "ho".toList, IsWordCharacter char :=
    List.forall_mem_cons.mpr ⟨by decide, List.forall_mem_singleton.mpr (by decide)⟩
  have awaits : AwaitsCommand before := by decide
  obtain ⟨earlier, last, words, word, split, splitOn, read, readOn, name, indexed, completed,
    whole⟩ := complete_extends_last_word plain offered inWord
  exact ⟨⟨plain, offered, inWord, awaits⟩, earlier, last, words, word, split, splitOn, read, readOn,
    name, indexed, completed, whole awaits⟩

end ChainShell
