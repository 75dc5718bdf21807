/-
This file says what completion makes of the last word of a buffer. It offers every indexed name
that starts with the word, in the place of the word, and it cuts text only between characters.
-/

import ChainShell.Completion
import Mathlib.Data.List.TakeWhile
import Mathlib.Data.String.Basic

namespace ChainShell

open String (utf8Len)

/-- White space and the characters of the operators stand between words. -/
def SeparatesWords (char : Char) : Prop :=
  isWhiteSpace char ∨ char ∈ [';', '&', '|']

instance (char : Char) : Decidable (SeparatesWords char) := inferInstanceAs (Decidable (_ ∨ _))

theorem isWordBreak_iff {char : Char} : isWordBreak char ↔ SeparatesWords char := by
  simp [isWordBreak, SeparatesWords, or_assoc]

/-- The last word is the longest end of the buffer in which nothing separates words. -/
def splitLastWord (buffer : List Char) : List Char × List Char :=
  ((buffer.reverse.dropWhile fun char => ¬ SeparatesWords char).reverse,
    (buffer.reverse.takeWhile fun char => ¬ SeparatesWords char).reverse)

/-- Text without a separator belongs to the last word. -/
theorem splitLastWord_append (before : List Char) {word : List Char}
    (unbroken : ∀ char ∈ word, ¬ SeparatesWords char) :
    splitLastWord (before ++ word) =
      ((splitLastWord before).1, (splitLastWord before).2 ++ word) := by
  have inside : ∀ char ∈ word.reverse, decide (¬ SeparatesWords char) = true := by
    intro char member
    exact decide_eq_true (unbroken char (List.mem_reverse.mp member))
  simp only [splitLastWord, List.reverse_append, List.takeWhile_append_of_pos inside,
    List.dropWhile_append_of_pos inside, List.reverse_reverse]

theorem splitLastWord_spells (buffer : List Char) :
    (splitLastWord buffer).1 ++ (splitLastWord buffer).2 = buffer := by
  rw [splitLastWord, ← List.reverse_append, List.takeWhile_append_dropWhile, List.reverse_reverse]

theorem splitLastWord_unbroken (buffer : List Char) :
    ∀ char ∈ (splitLastWord buffer).2, ¬ SeparatesWords char := by
  intro char member
  simpa using List.mem_takeWhile_imp (List.mem_reverse.mp member)

/-- A buffer ends in a word. Nothing in the word separates words, and it holds every end that is
like this. -/
structure EndsInWord (buffer before word : String) : Prop where
  spelled : buffer = before ++ word
  unbroken : ∀ char ∈ word.toList, ¬ SeparatesWords char
  longest : ∀ front rest : String, buffer = front ++ rest →
    (∀ char ∈ rest.toList, ¬ SeparatesWords char) → rest.toList <:+ word.toList

/-- Every buffer ends in a word, which may be empty. -/
theorem endsInWord_splitLastWord (buffer : String) :
    EndsInWord buffer (String.ofList (splitLastWord buffer.toList).1)
      (String.ofList (splitLastWord buffer.toList).2) where
  spelled := by rw [← String.ofList_append, splitLastWord_spells, String.ofList_toList]
  unbroken := by
    rw [String.toList_ofList]
    exact splitLastWord_unbroken buffer.toList
  longest := by
    rintro front rest rfl unbroken
    rw [String.toList_append, splitLastWord_append _ unbroken, String.toList_ofList]
    exact List.suffix_append _ _

section EndsInWord

variable {buffer before word : String} (ends : EndsInWord buffer before word)

include ends

/-- The text in front of the word is empty or ends in a separator. -/
theorem EndsInWord.stops : ∀ char ∈ before.toList.getLast?, SeparatesWords char := by
  intro char last
  obtain ⟨front, divided⟩ := List.getLast?_eq_some_iff.mp last
  by_contra breaks
  -- The word could start one character earlier.
  have spelled : buffer = String.ofList front ++ String.ofList (char :: word.toList) := by
    rw [ends.spelled, ← String.toList_inj]
    simp [divided]
  have unbroken : ∀ other ∈ (String.ofList (char :: word.toList)).toList,
      ¬ SeparatesWords other := by
    rw [String.toList_ofList, List.forall_mem_cons]
    exact ⟨breaks, ends.unbroken⟩
  have length := (ends.longest _ _ spelled unbroken).length_le
  rw [String.toList_ofList, List.length_cons] at length
  omega

end EndsInWord

theorem charOffsets_append (offset : Nat) (first second : List Char) :
    charOffsets offset (first ++ second) =
      charOffsets offset first ++ charOffsets (offset + utf8Len first) second := by
  induction first generalizing offset with
  | nil => rfl
  | cons char first inductionHypothesis =>
      simp [charOffsets, inductionHypothesis, Nat.add_assoc, Nat.add_comm char.utf8Size]

theorem mem_of_mem_charOffsets {offset : Nat} {text : List Char} {entry : Nat × Char}
    (member : entry ∈ charOffsets offset text) : entry.2 ∈ text := by
  induction text generalizing offset with
  | nil => simp [charOffsets] at member
  | cons char text inductionHypothesis =>
      rcases List.mem_cons.mp member with rfl | behind
      · exact List.mem_cons_self
      · exact List.mem_cons_of_mem char (inductionHypothesis behind)

/-- The search from the end stops at the byte behind the last separator. -/
theorem EndsInWord.lastWordStart_eq {buffer before word : String}
    (ends : EndsInWord buffer before word) : lastWordStart buffer = before.utf8ByteSize := by
  have passed : (charOffsets (0 + utf8Len before.toList) word.toList).reverse.find?
      (fun entry => isWordBreak entry.2) = none := by
    rw [List.find?_eq_none]
    intro entry member
    rw [isWordBreak_iff]
    exact ends.unbroken entry.2 (mem_of_mem_charOffsets (List.mem_reverse.mp member))
  rw [lastWordStart, ends.spelled, String.toList_append, charOffsets_append, List.reverse_append,
    List.find?_append, passed, Option.none_or, ← String.utf8Len_toList]
  have stops := ends.stops
  rcases List.eq_nil_or_concat before.toList with blank | ⟨front, char, divided⟩
  · rw [blank]
    rfl
  · rw [List.concat_eq_append] at divided
    have breaks := isWordBreak_iff.mpr (stops char (by rw [divided, List.getLast?_concat]; rfl))
    simp [divided, charOffsets_append, charOffsets, breaks]

theorem extract_front (front rest : String) :
    String.Pos.Raw.extract (front ++ rest) 0 front.rawEndPos = front := by
  have extracted := String.extract_of_valid [] front.toList rest.toList
  rw [String.utf8Len_nil, Nat.zero_add, ← String.rawEndPos_ofList] at extracted
  simpa using extracted

theorem extract_behind (front rest : String) :
    String.Pos.Raw.extract (front ++ rest) front.rawEndPos (front ++ rest).rawEndPos = rest := by
  have extracted := String.extract_of_valid front.toList rest.toList []
  rw [← String.utf8Len_append, ← String.rawEndPos_ofList, ← String.rawEndPos_ofList] at extracted
  simpa using extracted

theorem EndsInWord.cutLastWord_eq {buffer before word : String}
    (ends : EndsInWord buffer before word) : cutLastWord buffer = (before, word) := by
  have start : (⟨lastWordStart buffer⟩ : String.Pos.Raw) = before.rawEndPos := by
    rw [ends.lastWordStart_eq]
    rfl
  rw [cutLastWord, start, ends.spelled, extract_front, extract_behind]

/-- A name is what it starts with and what is missing. -/
theorem append_missingSuffix {word name : String} (start : word.toList <+: name.toList) :
    word ++ missingSuffix word name = name := by
  obtain ⟨rest, spelled⟩ := start
  obtain rfl : word ++ String.ofList rest = name := by
    rw [← String.toList_inj, String.toList_append, String.toList_ofList, spelled]
  rw [missingSuffix, extract_behind]

/-- Of each list the names that start with the word are left, and the commands come first. -/
theorem candidates_eq (firstWord : Bool) (word : String) (index : NameIndex) :
    candidates firstWord word index =
      ((if firstWord then index.commands else []).filter fun name =>
        word.toList.isPrefixOf name.toList).map (·, HintKind.command) ++
      (index.files.filter fun name => word.toList.isPrefixOf name.toList).map
        (·, HintKind.file) := by
  simp only [candidates, List.filter_append, List.filter_map, Function.comp_def]

theorem isPrefix_of_mem_candidates {firstWord : Bool} {word : String} {index : NameIndex}
    {entry : String × HintKind} (candidate : entry ∈ candidates firstWord word index) :
    word.toList <+: entry.1.toList :=
  List.isPrefixOf_iff_prefix.mp (List.mem_filter.mp candidate).2

/-- The names that start with a word, each in the place of the word. -/
def extensions (before word : String) (names : List String) : List String :=
  (names.filter fun name => word.toList.isPrefixOf name.toList).map (before ++ ·)

theorem extensions_append (before word : String) (first second : List String) :
    extensions before word (first ++ second) =
      extensions before word first ++ extensions before word second := by
  simp [extensions]

/-- A candidate stands for the buffer with its name in the place of the last word. -/
theorem EndsInWord.complete_candidates {buffer before word : String}
    (ends : EndsInWord buffer before word) (index : NameIndex) :
    complete buffer index = if word = "" then [] else
      (candidates (isFirstWord before.toList) word index).map fun entry => before ++ entry.1 := by
  rw [complete, completions, ends.cutLastWord_eq]
  by_cases blank : word = ""
  · simp [blank]
  · have given : word.isEmpty = false := by simpa using blank
    simp only [given, Bool.false_eq_true, if_false, if_neg blank, List.map_map]
    apply List.map_congr_left
    intro entry candidate
    change buffer ++ missingSuffix word entry.1 = before ++ entry.1
    rw [ends.spelled, String.append_assoc,
      append_missingSuffix (isPrefix_of_mem_candidates candidate)]

/-- Completion extends the last word to the names that start with it, and an empty word to none. -/
theorem EndsInWord.complete_eq {buffer before word : String}
    (ends : EndsInWord buffer before word) (index : NameIndex) :
    complete buffer index = if word = "" then [] else
      extensions before word (if isFirstWord before.toList then index.commands else []) ++
        extensions before word index.files := by
  rw [ends.complete_candidates, candidates_eq, List.map_append, List.map_map, List.map_map]
  rfl

/-- A single word stands where a command is named, so both lists are looked at. -/
theorem complete_word {word : String} (nonempty : word ≠ "")
    (unbroken : ∀ char ∈ word.toList, ¬ SeparatesWords char) (index : NameIndex) :
    complete word index = (index.commands ++ index.files).filter fun name =>
      word.toList.isPrefixOf name.toList := by
  have alone : EndsInWord word "" word := by
    refine ⟨by simp, unbroken, ?_⟩
    rintro front rest rfl -
    rw [String.toList_append]
    exact List.suffix_append _ _
  have first : isFirstWord "".toList = true := rfl
  rw [alone.complete_eq, if_neg nonempty, first, if_pos rfl, ← extensions_append, extensions]
  simp

end ChainShell
