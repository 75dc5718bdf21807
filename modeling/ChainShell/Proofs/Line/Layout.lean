/-
This file shows that the splitter cuts a line exactly at its operators. It slices only between
characters, it loses nothing but the white space in front of a command, and no operator is left
inside a command.
-/

import ChainShell.Proofs.Line.Peeking
import Mathlib.Data.List.Chain
import Mathlib.Data.List.Forall2

namespace ChainShell

open String (utf8Len)

/-- The bytes of a text end between two characters. -/
theorem isValid_utf8Len (before after : List Char) :
    String.Pos.Raw.IsValid (String.ofList (before ++ after)) ⟨utf8Len before⟩ := by
  rw [String.ofList_append, ← String.rawEndPos_ofList]
  exact String.Pos.Raw.isValid_rawEndPos.append_right _

/-- The last character of a text starts no escape. -/
theorem escaped_modeAfter_end (text : List Char) :
    (modeAfter .initial text []).escaped = false := by
  have lastStep (mode : Mode) (char : Char) : (mode.step char none).1.escaped = false := by
    obtain ⟨state, escaped⟩ := mode
    cases escaped with
    | true => rfl
    | false =>
        cases state <;> simp only [Mode.step, QuoteState.classify, escapes, Option.any_none] <;>
          grind
  rcases List.eq_nil_or_concat text with rfl | ⟨front, char, rfl⟩
  · rfl
  · rw [List.concat_eq_append, modeAfter_append]
    exact lastStep _ char

/-- An operator outside quotes leaves the scanner as it found it. -/
theorem modeAfter_mark (operator : Operator) (rest : List Char) :
    modeAfter .initial operator.mark rest = .initial := by
  cases operator <;> rfl

/-- A part stands between two texts at a span. It starts outside quotes, no escape reaches over
its end, and it has no operator inside. -/
structure LinePart.StandsAt (part : LinePart) (line : String) (span : Span)
    (before after : List Char) : Prop where
  operator : span.operator = part.operator
  line : line.toList = before ++ (part.raw ++ after)
  start : span.start = utf8Len before
  stop : span.stop = utf8Len before + utf8Len part.raw
  opened : modeAfter .initial before (part.raw ++ after) = .initial
  settled : (modeAfter .initial part.raw after).escaped = false
  whole : Unbroken .initial part.raw after

def LinePart.Placed (line : String) (part : LinePart) (span : Span) : Prop :=
  ∃ before after, part.StandsAt line span before after

namespace LinePart.StandsAt

variable {part : LinePart} {line : String} {span : Span} {before after : List Char}

theorem line_eq (stands : part.StandsAt line span before after) :
    line = String.ofList (before ++ part.raw ++ after) := by
  rw [List.append_assoc, ← stands.line, String.ofList_toList]

theorem start_le_stop (stands : part.StandsAt line span before after) :
    span.start ≤ span.stop := by
  rw [stands.start, stands.stop]
  omega

theorem isValid_start (stands : part.StandsAt line span before after) :
    String.Pos.Raw.IsValid line ⟨span.start⟩ := by
  rw [stands.start, stands.line_eq, List.append_assoc]
  exact isValid_utf8Len before _

theorem isValid_stop (stands : part.StandsAt line span before after) :
    String.Pos.Raw.IsValid line ⟨span.stop⟩ := by
  rw [stands.stop, stands.line_eq, ← String.utf8Len_append]
  exact isValid_utf8Len (before ++ part.raw) after

theorem raw_eq (stands : part.StandsAt line span before after) :
    span.raw line = String.ofList part.raw := by
  rw [Span.raw, stands.start, stands.stop, stands.line_eq]
  exact String.extract_of_valid before part.raw after

theorem segment_eq (stands : part.StandsAt line span before after) :
    span.segment line = part.segment := by
  rw [Span.segment, stands.raw_eq, stands.operator, String.toList_ofList, part.segment_eq]

/-- The white space in front of a command may be split off. -/
theorem text_opened (stands : part.StandsAt line span before after) :
    modeAfter .initial (before ++ part.gap) (part.text ++ after) = .initial := by
  have opened := stands.opened
  rw [LinePart.raw, List.append_assoc] at opened
  rw [modeAfter_append, opened, modeAfter_whiteSpace _ part.gapWhite]

theorem text_settled (stands : part.StandsAt line span before after) :
    (modeAfter .initial part.text after).escaped = false := by
  have settled := stands.settled
  rwa [LinePart.raw, modeAfter_append, modeAfter_whiteSpace _ part.gapWhite] at settled

theorem text_unbroken (stands : part.StandsAt line span before after) :
    Unbroken .initial part.text [] := by
  have whole := stands.whole
  rw [LinePart.raw, unbroken_append, modeAfter_whiteSpace _ part.gapWhite] at whole
  exact unbroken_alone stands.text_settled whole.2

end LinePart.StandsAt

/-- From the start of a part on, the splitter finds the spans of the part and of all later
parts. -/
theorem placed_spansFrom {line : String} {part : LinePart} {later : List LinePart}
    (cut : WellCut part later) (before : List Char)
    (spelled : line.toList = before ++ (part.raw ++ spelling later))
    (opened : modeAfter .initial before (part.raw ++ spelling later) = .initial) :
    List.Forall₂ (LinePart.Placed line) (part :: later)
      (spansFrom line.utf8ByteSize part.operator (utf8Len before) .initial (utf8Len before)
        (part.raw ++ spelling later)) := by
  induction later generalizing part before with
  | nil =>
      have length : line.utf8ByteSize = utf8Len before + utf8Len part.raw := by
        rw [← String.utf8Len_toList, spelled]
        simp [spelling]
      rw [show spelling [] = [] from rfl] at spelled opened ⊢
      rw [spansFrom_unbroken _ _ _ _ cut, spansFrom, length]
      exact .cons ⟨before, [], rfl, spelled, rfl, rfl, opened, escaped_modeAfter_end _, cut⟩ .nil
  | cons next later inductionHypothesis =>
      obtain ⟨real, whole, ending, rest⟩ := cut
      have settled : (modeAfter .initial part.raw (spelling (next :: later))).escaped = false := by
        rw [ending]
        rfl
      have placed : part.StandsAt line
          ⟨part.operator, utf8Len before, utf8Len before + utf8Len part.raw⟩ before
          (spelling (next :: later)) :=
        ⟨rfl, spelled, rfl, rfl, opened, settled, whole⟩
      rw [spansFrom_unbroken _ _ _ _ whole, ending, spelling_cons, spansFrom_mark _ _ _ _ _ real]
      have reached : modeAfter .initial (before ++ part.raw ++ next.operator.mark)
          (next.raw ++ spelling later) = .initial := by
        rw [modeAfter_append, modeAfter_append, ← spelling_cons, opened, ending, modeAfter_mark]
      have further := inductionHypothesis rest (before ++ part.raw ++ next.operator.mark)
        (by rw [spelled, spelling_cons]; simp) reached
      simp only [String.utf8Len_append] at further
      exact .cons ⟨before, _, placed⟩ further

/-- Each element on the right of a pairing has its partner on the left. -/
theorem exists_partner {α β : Type} {Paired : α → β → Prop} {lefts : List α} {rights : List β}
    (paired : List.Forall₂ Paired lefts rights) {right : β} (member : right ∈ rights) :
    ∃ left ∈ lefts, Paired left right := by
  induction paired with
  | nil => simp at member
  | cons here _ inductionHypothesis =>
      rcases List.mem_cons.mp member with rfl | further
      · exact ⟨_, List.mem_cons_self, here⟩
      · obtain ⟨left, inside, partner⟩ := inductionHypothesis further
        exact ⟨left, List.mem_cons_of_mem _ inside, partner⟩

theorem placed_chainSpans {line : String} {part : LinePart} {later : List LinePart}
    (cut : WellCut part later) (front : part.operator = .first)
    (spelled : line.toList = part.raw ++ spelling later) :
    List.Forall₂ (LinePart.Placed line) (part :: later) (chainSpans line) := by
  have placed := placed_spansFrom cut [] spelled rfl
  rw [front, ← spelled] at placed
  exact placed

/-- The splitter returns the commands of every correctly cut line. -/
theorem splitChain_of_wellCut {line : String} {part : LinePart} {later : List LinePart}
    (cut : WellCut part later) (front : part.operator = .first)
    (spelled : line.toList = part.raw ++ spelling later) :
    splitChain line = (part :: later).map LinePart.segment := by
  have placed := placed_chainSpans cut front spelled
  rw [splitChain, eq_comm, ← List.forall₂_eq_eq_eq, List.forall₂_map_left_iff,
    List.forall₂_map_right_iff]
  exact placed.imp fun part span ⟨_, _, stands⟩ => stands.segment_eq.symm

/-- Every command of a line is the text of one of its parts. -/
theorem exists_part_of_mem {line : String} {segment : Segment} (member : segment ∈ splitChain line) :
    ∃ part : LinePart, part.segment = segment := by
  obtain ⟨part, later, front, spelled, cut⟩ := wellCut_exists .first line.toList
  rw [splitChain_of_wellCut cut front spelled] at member
  obtain ⟨other, -, same⟩ := List.mem_map.mp member
  exact ⟨other, same⟩

/-- A text without operators and without white space in front is one command. -/
theorem splitChain_unbroken {text : List Char} (whole : Unbroken .initial text [])
    (trimmed : ∀ char ∈ text.head?, isWhiteSpace char = false) :
    splitChain (String.ofList text) = [⟨.first, String.ofList text⟩] := by
  let part : LinePart := ⟨.first, [], text, by simp, trimmed⟩
  have cut : WellCut part [] := whole
  exact splitChain_of_wellCut cut rfl (by simp [part, LinePart.raw, spelling])

/-- Outside quotes an operator starts at a bare character. -/
theorem mark_head_bare {operator : Operator} (real : operator ≠ .first) (position : Nat)
    (rest : List Char) :
    ∃ char ∈ operator.mark.head?,
      ⟨position, char, .bare⟩ ∈ scanFrom .initial position (operator.mark ++ rest) := by
  cases operator with
  | first => contradiction
  | sequence => exact ⟨';', rfl, List.mem_cons_self⟩
  | andThen => exact ⟨'&', rfl, List.mem_cons_self⟩
  | orElse => exact ⟨'|', rfl, List.mem_cons_self⟩

/-- Every operator of a correctly cut line starts at a bare character of the whole scan. -/
theorem WellCut.mark_bare {part : LinePart} {later : List LinePart} (cut : WellCut part later)
    (front : List Char)
    (opened : modeAfter .initial (front ++ part.operator.mark) (part.raw ++ spelling later) =
      .initial)
    (earlier : List LinePart) (other : LinePart) (behind : List LinePart)
    (divided : later = earlier ++ other :: behind) :
    ∃ char ∈ other.operator.mark.head?,
      ⟨utf8Len front + utf8Len (spelling (part :: earlier)), char, .bare⟩ ∈
        scan (front ++ spelling (part :: later)) := by
  induction later generalizing part front earlier with
  | nil => cases earlier <;> simp at divided
  | cons next later inductionHypothesis =>
      obtain ⟨real, -, ending, rest⟩ := cut
      have reached : modeAfter .initial (front ++ spelling [part]) (spelling (next :: later)) =
          .initial := by
        rw [spelling_singleton, ← List.append_assoc, modeAfter_append, opened, ending]
      rw [spelling_eq_append part (next :: later), ← List.append_assoc]
      cases earlier with
      | nil =>
          obtain ⟨rfl, rfl⟩ : next = other ∧ later = behind := by simpa using divided
          rw [scan, scanFrom_append _ (by rw [reached]; rfl), reached, spelling_cons next,
            String.utf8Len_append, Nat.zero_add]
          obtain ⟨char, starts, bare⟩ := mark_head_bare real
            (utf8Len front + utf8Len (spelling [part])) (next.raw ++ spelling later)
          exact ⟨char, starts, List.mem_append_right _ bare⟩
      | cons second earlier =>
          obtain ⟨rfl, remaining⟩ : next = second ∧ later = earlier ++ other :: behind := by
            simpa using divided
          have started : modeAfter .initial (front ++ spelling [part] ++ next.operator.mark)
              (next.raw ++ spelling later) = .initial := by
            rw [modeAfter_append, ← spelling_cons, reached, modeAfter_mark]
          have found := inductionHypothesis rest (front ++ spelling [part]) started earlier remaining
          rw [spelling_eq_append part (next :: earlier), String.utf8Len_append, ← Nat.add_assoc,
            ← String.utf8Len_append]
          exact found

/-- Two items in a row spell a doubled sign outside quotes. -/
def Scanned.Doubles (first second : Scanned) : Prop :=
  first.role = .bare ∧ second.role = .bare ∧ first.char = second.char ∧ first.char ∈ ['&', '|']

/-- Scanned items hold no operator. No semicolon among them is bare, and no sign is doubled. -/
structure FreeOfOperators (items : List Scanned) : Prop where
  noSemicolon : ∀ item ∈ items, item.role = .bare → item.char ≠ ';'
  undoubled : items.IsChain fun first second => ¬ first.Doubles second

/-- A bare character that is no boundary is no semicolon, and no sign with its copy behind it. -/
theorem boundary_bare_eq_none {char : Char} {following : Option Char}
    (uncut : boundary .bare char following = none) :
    char ≠ ';' ∧ (char ∈ ['&', '|'] → following ≠ some char) := by
  simp only [boundary] at uncut
  grind

/-- What a splitter leaves uncut is scanned without an operator. -/
theorem freeOfOperators_scanFrom {mode : Mode} {text : List Char} (whole : Unbroken mode text [])
    (position : Nat) : FreeOfOperators (scanFrom mode position text) := by
  induction text generalizing mode position with
  | nil => exact ⟨by simp [scanFrom], by simp [scanFrom]⟩
  | cons char text inductionHypothesis =>
      rw [Unbroken, List.append_nil] at whole
      rw [scanFrom]
      cases stepped : mode.step char text.head? with
      | mk following role =>
          rw [stepped] at whole
          obtain ⟨uncut, behind⟩ := whole
          have later := inductionHypothesis behind (position + char.utf8Size)
          refine ⟨List.forall_mem_cons.mpr ⟨?_, later.noSemicolon⟩,
            List.isChain_cons.mpr ⟨?_, later.undoubled⟩⟩
          · rintro rfl
            exact (boundary_bare_eq_none uncut).1
          · rintro item follows ⟨rfl, bare, same, sign⟩
            cases text with
            | nil => simp [scanFrom] at follows
            | cons next rest =>
                simp only [scanFrom, List.head?_cons, Option.mem_some] at follows
                subst follows
                obtain rfl : next = char := same.symm
                -- The second half of a doubled sign is what the splitter would have peeked at.
                have offered : following.peekBare (next :: rest) = some next :=
                  Mode.peekBare_eq_some.mpr ⟨by rintro rfl; simp at sign, rest, rfl, bare⟩
                exact (boundary_bare_eq_none uncut).2 sign offered

/-- The splitter slices a line only between characters. Its commands, with the white space in
front of them and the operators between them, spell the line. Each operator starts at a bare
character. A command contains no further operator, and alone it is one command. -/
theorem splitChain_layout (line : String) :
    (∀ span ∈ chainSpans line, span.start ≤ span.stop ∧
      String.Pos.Raw.IsValid line ⟨span.start⟩ ∧ String.Pos.Raw.IsValid line ⟨span.stop⟩) ∧
    ∃ first later,
      splitChain line = (first :: later).map LinePart.segment ∧
      line.toList = spelling (first :: later) ∧
      first.operator = .first ∧ (∀ part ∈ later, part.operator ≠ .first) ∧
      (∀ part ∈ first :: later, (∀ char ∈ part.gap, isWhiteSpace char = true) ∧
        ∀ char ∈ part.text.head?, isWhiteSpace char = false) ∧
      (∀ earlier part behind, later = earlier ++ part :: behind →
        ∃ char ∈ part.operator.mark.head?,
          ⟨utf8Len (spelling (first :: earlier)), char, .bare⟩ ∈ scan line.toList) ∧
      ∀ part ∈ first :: later, FreeOfOperators (scan part.text) ∧
        splitChain (String.ofList part.text) = [⟨.first, String.ofList part.text⟩] := by
  obtain ⟨first, later, front, spelled, cut⟩ := wellCut_exists .first line.toList
  have placed := placed_chainSpans cut front spelled
  have wholeLine : line.toList = spelling (first :: later) := by
    rw [spelling_cons, front, spelled]
    rfl
  refine ⟨?_, first, later, splitChain_of_wellCut cut front spelled, wholeLine, front,
    cut.operator_ne_first, fun part _ => ⟨part.gapWhite, part.textTrimmed⟩, ?_, ?_⟩
  · intro span member
    obtain ⟨part, -, before, after, stands⟩ := exists_partner placed member
    exact ⟨stands.start_le_stop, stands.isValid_start, stands.isValid_stop⟩
  · intro earlier part behind divided
    rw [wholeLine]
    have found := cut.mark_bare [] (by rw [front]; rfl) earlier part behind divided
    simpa using found
  · intro part member
    obtain ⟨span, -, before, after, stands⟩ := exists_partner placed.flip member
    exact ⟨freeOfOperators_scanFrom stands.text_unbroken 0,
      splitChain_unbroken stands.text_unbroken part.textTrimmed⟩

end ChainShell
