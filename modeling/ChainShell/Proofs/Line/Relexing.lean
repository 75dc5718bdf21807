/-
This file shows that a command lexed alone reads as it does inside its line. The words of a
command come from the same roles that decided where the line was cut.
-/

import ChainShell.Line.Word
import ChainShell.Proofs.Line.Layout

namespace ChainShell

open String (utf8Len)

/-- The words of characters that already have their roles. -/
def gatherWords : Option (List Char) → List Scanned → List (List Char)
  | none, [] => []
  | some word, [] => [word.reverse]
  | current, item :: rest =>
    match item.role with
    | .bare | .literal => gatherWords (some (item.char :: current.getD [])) rest
    | .quote | .escape => gatherWords (some (current.getD [])) rest
    | .blank =>
      match current with
      | none => gatherWords none rest
      | some word => word.reverse :: gatherWords none rest

/-- Words depend on a text only through its scan. -/
theorem wordsFrom_eq_gatherWords (mode : Mode) (current : Option (List Char)) (position : Nat)
    (text : List Char) :
    wordsFrom mode current text = gatherWords current (scanFrom mode position text) := by
  induction text generalizing mode current position with
  | nil => cases current <;> rfl
  | cons char text inductionHypothesis =>
      cases role : (mode.step char text.head?).2 with
      | bare | literal | quote | escape =>
          cases current <;> simp [wordsFrom, scanFrom, gatherWords, role, ← inductionHypothesis]
      | blank =>
          cases current <;> simp [wordsFrom, scanFrom, gatherWords, role, ← inductionHypothesis]

theorem wordsOf_eq_gatherWords (text : List Char) :
    wordsOf text = gatherWords none (scan text) :=
  wordsFrom_eq_gatherWords .initial none 0 text

/-- The offset of a command behind the white space in front of it. A command ends where its span
ends. -/
def Span.textStart (line : String) (span : Span) : Nat :=
  span.stop - (span.segment line).text.utf8ByteSize

namespace LinePart.StandsAt

variable {part : LinePart} {line : String} {span : Span} {before after : List Char}

theorem text_eq (stands : part.StandsAt line span before after) :
    (span.segment line).text = String.ofList part.text := by
  rw [stands.segment_eq]
  rfl

theorem textStart_eq (stands : part.StandsAt line span before after) :
    span.textStart line = utf8Len (before ++ part.gap) := by
  rw [Span.textStart, stands.text_eq, stands.stop, String.utf8ByteSize_ofList, LinePart.raw,
    String.utf8Len_append, String.utf8Len_append]
  omega

theorem stop_eq (stands : part.StandsAt line span before after) :
    span.stop = utf8Len (before ++ part.gap) + utf8Len part.text := by
  rw [stands.stop, LinePart.raw, String.utf8Len_append, String.utf8Len_append, Nat.add_assoc]

theorem toList_eq (stands : part.StandsAt line span before after) :
    line.toList = before ++ part.gap ++ (part.text ++ after) := by
  rw [stands.line, LinePart.raw]
  simp

theorem textStart_inside (stands : part.StandsAt line span before after) :
    span.start ≤ span.textStart line ∧ span.textStart line ≤ span.stop := by
  rw [stands.start, stands.textStart_eq, stands.stop_eq, String.utf8Len_append]
  omega

theorem gap_eq (stands : part.StandsAt line span before after) :
    String.Pos.Raw.extract line ⟨span.start⟩ ⟨span.textStart line⟩ = String.ofList part.gap := by
  rw [stands.start, stands.textStart_eq, ← String.ofList_toList (s := line), stands.toList_eq,
    String.utf8Len_append]
  exact String.extract_of_valid before part.gap _

theorem textSlice_eq (stands : part.StandsAt line span before after) :
    String.Pos.Raw.extract line ⟨span.textStart line⟩ ⟨span.stop⟩ = String.ofList part.text := by
  rw [stands.textStart_eq, stands.stop_eq, ← String.ofList_toList (s := line), stands.toList_eq,
    ← List.append_assoc]
  exact String.extract_of_valid (before ++ part.gap) part.text _

theorem isValid_textStart (stands : part.StandsAt line span before after) :
    String.Pos.Raw.IsValid line ⟨span.textStart line⟩ := by
  rw [stands.textStart_eq, ← String.ofList_toList (s := line), stands.toList_eq]
  exact isValid_utf8Len (before ++ part.gap) _

/-- The stretch of the scan of a line at a command is the scan of the command from its offset
on. -/
theorem stretch_eq (stands : part.StandsAt line span before after) :
    stretch (span.textStart line) span.stop (scan line.toList) =
      scanFrom .initial (span.textStart line) part.text := by
  have opened := stands.text_opened
  have openedSettled : (modeAfter .initial (before ++ part.gap) (part.text ++ after)).escaped =
      false := by
    rw [opened]
    rfl
  rw [scan, stands.toList_eq, scanFrom_append _ openedSettled, opened, Nat.zero_add,
    scanFrom_append _ stands.text_settled, stretch_append, stretch_append, stands.textStart_eq,
    stands.stop_eq, stretch_scanFrom_inside]
  rw [stretch_scanFrom_outside _ _ _ _ _ (by omega), stretch_scanFrom_outside _ _ _ _ _ (by omega)]
  simp

end LinePart.StandsAt

/-- A command starts behind white space only. Scanned alone it gives the characters and roles
that the scan of the whole line gives there, at smaller positions, so its words are those that
the roles of the line spell. -/
theorem scan_segment_eq_stretch (line : String) :
    splitChain line = (chainSpans line).map (Span.segment line) ∧
    ∀ span ∈ chainSpans line,
      (span.start ≤ span.textStart line ∧ span.textStart line ≤ span.stop) ∧
      String.Pos.Raw.IsValid line ⟨span.textStart line⟩ ∧
      (∀ char ∈ (String.Pos.Raw.extract line ⟨span.start⟩ ⟨span.textStart line⟩).toList,
        isWhiteSpace char = true) ∧
      String.Pos.Raw.extract line ⟨span.textStart line⟩ ⟨span.stop⟩ = (span.segment line).text ∧
      (scan (span.segment line).text.toList).map (Scanned.advance (span.textStart line)) =
        stretch (span.textStart line) span.stop (scan line.toList) ∧
      tokenize (span.segment line).text =
        (gatherWords none (stretch (span.textStart line) span.stop (scan line.toList))).map
          String.ofList := by
  obtain ⟨first, later, front, spelled, cut⟩ := wellCut_exists .first line.toList
  have placed := placed_chainSpans cut front spelled
  refine ⟨rfl, fun span member => ?_⟩
  obtain ⟨part, -, before, after, stands⟩ := exists_partner placed member
  refine ⟨stands.textStart_inside, stands.isValid_textStart, ?_,
    by rw [stands.textSlice_eq, stands.text_eq], ?_, ?_⟩
  · rw [stands.gap_eq, String.toList_ofList]
    exact part.gapWhite
  · rw [stands.stretch_eq, stands.text_eq, String.toList_ofList, scan, ← scanFrom_advance,
      Nat.add_zero]
  · rw [stands.stretch_eq, stands.text_eq, ← wordsFrom_eq_gatherWords, tokenize,
      String.toList_ofList, wordsOf]

end ChainShell
