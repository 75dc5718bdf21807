/-
This file says when a text is read in one way only, as a sequence of items that each look at the
text behind them.
-/

import Mathlib.Data.Nat.Init

namespace ChainShell

/-- Items are read from left to right. Each item fits the text that follows it. -/
def EachFits {α : Type} (spell : α → List Char) (Fits : α → List Char → Prop) :
    List α → List Char → Prop
  | [], _ => True
  | item :: items, rest =>
    Fits item (items.flatMap spell ++ rest) ∧ EachFits spell Fits items rest

/-- An item is known from its text, and it never starts where a sequence ends. -/
structure ReadsUniquely {α : Type} (spell : α → List Char) (Fits : α → List Char → Prop)
    (Ends : List Char → Prop) : Prop where
  unique : ∀ first second rest other, Fits first rest → Fits second other →
    spell first ++ rest = spell second ++ other → first = second ∧ rest = other
  goesOn : ∀ item rest, Fits item rest → ¬ Ends (spell item ++ rest)

section Sequences

variable {α : Type} {spell : α → List Char} {Fits : α → List Char → Prop}
  {Ends : List Char → Prop}

theorem eachFits_append (first second : List α) (rest : List Char) :
    EachFits spell Fits (first ++ second) rest ↔
      EachFits spell Fits first (second.flatMap spell ++ rest) ∧ EachFits spell Fits second rest := by
  induction first with
  | nil => simp [EachFits]
  | cons item first inductionHypothesis =>
      rw [List.cons_append, EachFits, EachFits, inductionHypothesis, List.flatMap_append,
        List.append_assoc, and_assoc]

/-- A sequence of items is known from its text. -/
theorem ReadsUniquely.sequence (reads : ReadsUniquely spell Fits Ends)
    {first second : List α} {rest other : List Char}
    (firstFits : EachFits spell Fits first rest) (secondFits : EachFits spell Fits second other)
    (restEnds : Ends rest) (otherEnds : Ends other)
    (same : first.flatMap spell ++ rest = second.flatMap spell ++ other) :
    first = second ∧ rest = other := by
  induction first generalizing second with
  | nil =>
      cases second with
      | nil => exact ⟨rfl, same⟩
      | cons item items =>
          have goesOn := reads.goesOn item _ secondFits.1
          rw [← List.append_assoc, ← List.flatMap_cons, ← same] at goesOn
          exact absurd restEnds goesOn
  | cons item items inductionHypothesis =>
      cases second with
      | nil =>
          have goesOn := reads.goesOn item _ firstFits.1
          rw [← List.append_assoc, ← List.flatMap_cons, same] at goesOn
          exact absurd otherEnds goesOn
      | cons partner partners =>
          rw [List.flatMap_cons, List.flatMap_cons, List.append_assoc, List.append_assoc] at same
          obtain ⟨rfl, tails⟩ := reads.unique _ _ _ _ firstFits.1 secondFits.1 same
          obtain ⟨rfl, rests⟩ := inductionHypothesis firstFits.2 secondFits.2 tails
          exact ⟨rfl, rests⟩

/-- Where an item can be read at every place that is no end, a whole sequence can be read. -/
theorem exists_sequence
    (readOne : ∀ text, ¬ Ends text → ∃ item rest, text = spell item ++ rest ∧ Fits item rest ∧
      rest.length < text.length)
    (text : List Char) :
    ∃ items rest, text = items.flatMap spell ++ rest ∧ EachFits spell Fits items rest ∧
      Ends rest := by
  induction size : text.length using Nat.strong_induction_on generalizing text with
  | _ count inductionHypothesis =>
      by_cases ends : Ends text
      · exact ⟨[], text, rfl, trivial, ends⟩
      · obtain ⟨item, tail, rfl, fits, shorter⟩ := readOne text ends
        obtain ⟨items, rest, rfl, itemsFit, restEnds⟩ :=
          inductionHypothesis _ (size ▸ shorter) tail rfl
        exact ⟨item :: items, rest, by simp, ⟨fits, itemsFit⟩, restEnds⟩

end Sequences

end ChainShell
