/-
This file shows that a prompt is filled in one pass. The slots of a format stand exactly where the
format spells them, and a value that was filled in is never read as a format.
-/

import ChainShell.Prompt
import ChainShell.Proofs.Text.Reading

namespace ChainShell

/-- These letters make a slot of the backslash in front of them. -/
def slotLetters : List Char := ['u', 'h', 'w']

/-- The text of a piece in a format. -/
def PromptPiece.spelling : PromptPiece → List Char
  | .literal char => [char]
  | .user => ['\\', 'u']
  | .host => ['\\', 'h']
  | .directory => ['\\', 'w']

def PromptPiece.IsSlot : PromptPiece → Prop
  | .literal _ => False
  | .user | .host | .directory => True

/-- A literal backslash never stands directly in front of the letter of a slot. -/
def PromptPiece.Fits : PromptPiece → List Char → Prop
  | .literal char, rest => char = '\\' → ∀ next ∈ rest.head?, next ∉ slotLetters
  | .user, _ | .host, _ | .directory, _ => True

/-- A literal character in front of its rest never spells the start of a slot. -/
theorem PromptPiece.Fits.ne_slot {char letter : Char} {rest other : List Char}
    (fits : (PromptPiece.literal char).Fits rest) (named : letter ∈ slotLetters) :
    char :: rest ≠ '\\' :: letter :: other := by
  intro same
  obtain ⟨rfl, rfl⟩ := List.cons.inj same
  exact fits rfl letter rfl named

theorem promptPiece_readsUniquely :
    ReadsUniquely PromptPiece.spelling PromptPiece.Fits (· = []) where
  unique first second rest other firstFits secondFits same := by
    cases first with
    | literal char =>
        cases second with
        | literal partner => simpa [PromptPiece.spelling] using same
        | user | host | directory => exact absurd same (firstFits.ne_slot (by decide))
    | user | host | directory =>
        cases second with
        | literal partner => exact absurd same.symm (secondFits.ne_slot (by decide))
        | user | host | directory => simp_all [PromptPiece.spelling]
  goesOn piece rest _ ends := by
    cases piece <;> simp [PromptPiece.spelling] at ends

theorem PromptPiece.spelling_ofLetter {letter : Char} {slot : PromptPiece}
    (named : PromptPiece.ofLetter? letter = some slot) : slot.spelling = ['\\', letter] := by
  revert named
  fun_cases PromptPiece.ofLetter? letter <;> rintro ⟨⟩ <;> rfl

theorem PromptPiece.notMem_slotLetters {letter : Char}
    (unnamed : PromptPiece.ofLetter? letter = none) : letter ∉ slotLetters := by
  intro member
  simp only [slotLetters, List.mem_cons, List.not_mem_nil, or_false] at member
  rcases member with rfl | rfl | rfl <;> contradiction

theorem PromptPiece.fits_ofLetter {letter : Char} {slot : PromptPiece}
    (named : PromptPiece.ofLetter? letter = some slot) (rest : List Char) : slot.Fits rest := by
  revert named
  fun_cases PromptPiece.ofLetter? letter <;> rintro ⟨⟩ <;> trivial

/-- The pieces of a format spell it. -/
@[simp] theorem spelling_promptPieces (format : List Char) :
    (promptPieces format).flatMap PromptPiece.spelling = format := by
  fun_induction promptPieces format with
  | case1 => rfl
  | case2 letter rest slot named inductionHypothesis =>
      rw [List.flatMap_cons, PromptPiece.spelling_ofLetter named, inductionHypothesis]
      rfl
  | case3 letter rest unnamed inductionHypothesis =>
      rw [List.flatMap_cons, inductionHypothesis]
      rfl
  | case4 char rest _ inductionHypothesis =>
      rw [List.flatMap_cons, inductionHypothesis]
      rfl

/-- Two formats are parted unless a slot would reach over the border between them. -/
def PartedFormats (format rest : List Char) : Prop :=
  '\\' ∉ format.getLast? ∨ ∀ next ∈ rest.head?, next ∉ slotLetters

theorem PartedFormats.tail {char : Char} {format rest : List Char}
    (parted : PartedFormats (char :: format) rest) : PartedFormats format rest := by
  cases format with
  | nil => exact .inl (by simp)
  | cons next format => simpa [PartedFormats] using parted

/-- The pieces of a format fit, also in front of further text that is parted from it. -/
theorem promptPieces_fit {format rest : List Char} (parted : PartedFormats format rest) :
    EachFits PromptPiece.spelling PromptPiece.Fits (promptPieces format) rest := by
  fun_induction promptPieces format with
  | case1 => trivial
  | case2 letter format slot named inductionHypothesis =>
      exact ⟨PromptPiece.fits_ofLetter named _, inductionHypothesis parted.tail.tail⟩
  | case3 letter format unnamed inductionHypothesis =>
      refine ⟨fun _ next follows => ?_, inductionHypothesis parted.tail⟩
      rw [spelling_promptPieces] at follows
      obtain rfl : letter = next := by simpa using follows
      exact PromptPiece.notMem_slotLetters unnamed
  | case4 char format single inductionHypothesis =>
      refine ⟨?_, inductionHypothesis parted.tail⟩
      rintro rfl next follows
      rw [spelling_promptPieces] at follows
      -- A backslash that is read here ends the format, so the border decides.
      cases format with
      | nil => exact (parted.resolve_left (by simp)) next follows
      | cons letter format => exact absurd rfl (single letter format rfl)

/-- Pieces that fit are the pieces of the format that they spell. -/
theorem promptPieces_spelling {pieces : List PromptPiece}
    (fit : EachFits PromptPiece.spelling PromptPiece.Fits pieces []) :
    promptPieces (pieces.flatMap PromptPiece.spelling) = pieces := by
  have alone : PartedFormats (pieces.flatMap PromptPiece.spelling) [] := .inr (by simp)
  have own := promptPieces_fit alone
  exact (promptPiece_readsUniquely.sequence own fit rfl rfl (by simp)).1

theorem promptPieces_append {first second : List Char} (parted : PartedFormats first second) :
    promptPieces (first ++ second) = promptPieces first ++ promptPieces second := by
  have fit : EachFits PromptPiece.spelling PromptPiece.Fits
      (promptPieces first ++ promptPieces second) [] :=
    (eachFits_append ..).mpr
      ⟨promptPieces_fit (by simpa using parted), promptPieces_fit (.inr (by simp))⟩
  have spelled := promptPieces_spelling fit
  rwa [List.flatMap_append, spelling_promptPieces, spelling_promptPieces] at spelled

/-- A slot is read wherever a format spells it. The text on both sides is read on its own. -/
theorem promptPieces_slot {slot : PromptPiece} (isSlot : slot.IsSlot) (before after : List Char) :
    promptPieces (before ++ slot.spelling ++ after) =
      promptPieces before ++ slot :: promptPieces after := by
  have behind : promptPieces (slot.spelling ++ after) = slot :: promptPieces after := by
    cases slot with
    | literal char => contradiction
    | user | host | directory => rfl
  have parted : PartedFormats before (slot.spelling ++ after) := by
    refine .inr fun next follows => ?_
    cases slot with
    | literal char => contradiction
    | user | host | directory =>
        obtain rfl : '\\' = next := by simpa [PromptPiece.spelling] using follows
        decide
  rw [List.append_assoc, promptPieces_append parted, behind]

/-- The text that a piece of a format leaves in a prompt. -/
def PromptPiece.rendering (user host directory : List Char) : PromptPiece → List Char
  | .literal char => [char]
  | .user => user
  | .host => host
  | .directory => directory

/-- What fills a slot is its value, without a second look at it. -/
theorem renderPrompt_eq (format : String) (values : PromptValues) :
    (renderPrompt format values).toList =
      (promptPieces format.toList).flatMap (PromptPiece.rendering values.user.toList
        values.host.toList values.directory.text.toList) := by
  have filled : PromptPiece.fill values = PromptPiece.rendering values.user.toList
      values.host.toList values.directory.text.toList := by
    funext piece
    cases piece <;> rfl
  rw [renderPrompt, String.toList_ofList, filled]

/-- Every format is a sequence of literal characters and slots, which depends on no value. The
sequence has a slot exactly where the format has a backslash directly in front of the letter of
the slot. A prompt is this sequence with the user, the host and the directory in the place of their
slots, as they stand. So formats that are parted are rendered one behind the other. -/
theorem renderPrompt_single_pass :
    (∀ format : String, ∃ pieces : List PromptPiece,
      pieces.flatMap PromptPiece.spelling = format.toList ∧
      (∀ slot : PromptPiece, slot.IsSlot → ∀ before after : List Char,
        (format.toList = before ++ slot.spelling ++ after ↔
          ∃ front rear, pieces = front ++ slot :: rear ∧
            front.flatMap PromptPiece.spelling = before ∧
            rear.flatMap PromptPiece.spelling = after)) ∧
      ∀ (user host : String) (directory : Path),
        (renderPrompt format { user, host, directory }).toList = pieces.flatMap
          (PromptPiece.rendering user.toList host.toList directory.text.toList)) ∧
    ∀ first second : String,
      ('\\' ∉ first.toList.getLast? ∨ ∀ next ∈ second.toList.head?, next ∉ slotLetters) →
      ∀ values : PromptValues,
        renderPrompt (first ++ second) values =
          renderPrompt first values ++ renderPrompt second values := by
  refine ⟨fun format => ⟨promptPieces format.toList, spelling_promptPieces _, ?_, ?_⟩, ?_⟩
  · intro slot isSlot before after
    constructor
    · intro spelled
      refine ⟨promptPieces before, promptPieces after, ?_, ?_, ?_⟩
      · rw [spelled, promptPieces_slot isSlot]
      · exact spelling_promptPieces before
      · exact spelling_promptPieces after
    · rintro ⟨front, rear, divided, rfl, rfl⟩
      rw [← spelling_promptPieces format.toList, divided, List.flatMap_append, List.flatMap_cons,
        List.append_assoc]
  · intro user host directory
    exact renderPrompt_eq format _
  · intro first second parted values
    rw [renderPrompt, String.toList_append, promptPieces_append parted, List.flatMap_append,
      String.ofList_append]
    rfl

/-- The name of the user spells a slot that is not filled in. The backslash in front of it stays. -/
example : renderPrompt "\\\\u\\w\\$" ⟨"\\h", "engine", ⟨"/tmp"⟩⟩ = "\\\\h/tmp\\$" := by decide

end ChainShell
