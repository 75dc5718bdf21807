/-
This file says which argument lists `command` accepts. They are switches with a program behind
them, and no word of the program is read as a switch.
-/

import ChainShell.Builtin
import Mathlib.Data.List.Forall2

namespace ChainShell

section Reading

variable {ι : Type} (grammar : OptionGrammar ι)

/-- An argument is read as a switch. It looks like an option and has no meaning of its own. -/
structure OptionGrammar.Takes (argument : String) (switch : ι) : Prop where
  noHelp : isHelpWord argument = false
  noEnd : argument ≠ "--"
  dashed : startsWithDash argument = true
  known : grammar.switch? argument = some switch

/-- Words end the options by a double dash in front of them, or by a first word that looks like no
option and asks for no help. -/
def EndsOptions (arguments words : List String) : Prop :=
  arguments = "--" :: words ∨ arguments = words ∧
    ∀ first ∈ words.head?, isHelpWord first = false ∧ startsWithDash first = false

/-- Once help was asked for, the rest is never accepted. -/
theorem OptionGrammar.parseFrom_help (ended : Bool) (parsed : ParsedOptions ι)
    (arguments : List String) (accepted : ParsedOptions ι) :
    grammar.parseFrom true ended parsed arguments ≠ .ok accepted := by
  induction arguments generalizing ended parsed with
  | nil => simp [OptionGrammar.parseFrom]
  | cons argument arguments inductionHypothesis =>
      cases ended with
      | true =>
          rw [OptionGrammar.parseFrom]
          exact inductionHypothesis _ _
      | false =>
          rw [OptionGrammar.parseFrom]
          split
          · exact inductionHypothesis _ _
          · split
            · exact inductionHypothesis _ _
            · split
              · simp
              · exact inductionHypothesis _ _

variable {grammar}

/-- Switches in front are collected. -/
theorem OptionGrammar.parseFrom_switches (given : List ι) {options : List String}
    {switches : List ι} (taken : List.Forall₂ grammar.Takes options switches)
    (rest : List String) :
    grammar.parseFrom false false ⟨given, []⟩ (options ++ rest) =
      grammar.parseFrom false false ⟨given ++ switches, []⟩ rest := by
  induction taken generalizing given with
  | nil => rw [List.nil_append, List.append_nil]
  | @cons option switch options switches takes _ inductionHypothesis =>
      rw [List.cons_append, OptionGrammar.parseFrom, takes.noHelp, if_neg Bool.false_ne_true,
        if_neg takes.noEnd, takes.dashed, if_pos rfl, if_neg Bool.false_ne_true, takes.known]
      dsimp only
      rw [inductionHypothesis, List.append_assoc, List.singleton_append]

variable (greedy : grammar.greedy = true)

include greedy

/-- The words behind the switches are taken as they are. -/
theorem OptionGrammar.parseFrom_endsOptions (given : List ι) {arguments words : List String}
    (ends : EndsOptions arguments words) :
    grammar.parseFrom false false ⟨given, []⟩ arguments = .ok ⟨given, words⟩ := by
  rcases ends with rfl | ⟨rfl, named⟩
  · have noHelp : isHelpWord "--" = false := by decide
    rw [OptionGrammar.parseFrom, noHelp, if_neg Bool.false_ne_true, if_pos rfl,
      grammar.parseFrom_words, List.nil_append]
  · cases arguments with
    | nil => rfl
    | cons first rest =>
        obtain ⟨noHelp, noDash⟩ := named first rfl
        have noEnd : first ≠ "--" := by
          rintro rfl
          exact absurd noDash (by decide)
        rw [OptionGrammar.parseFrom, noHelp, if_neg Bool.false_ne_true, if_neg noEnd, noDash,
          if_neg Bool.false_ne_true, greedy, grammar.parseFrom_words]
        rfl

/-- Reading goes on behind the switches that were given. It adds switches up to the end of the
options, and the rest are words. -/
theorem OptionGrammar.parseFrom_eq_ok {given : List ι} {arguments : List String}
    {parsed : ParsedOptions ι} :
    grammar.parseFrom false false ⟨given, []⟩ arguments = .ok parsed ↔
      ∃ options switches rest, arguments = options ++ rest ∧
        List.Forall₂ grammar.Takes options switches ∧
        parsed.switches = given ++ switches ∧ EndsOptions rest parsed.words := by
  constructor
  · intro accepted
    induction arguments generalizing given with
    | nil =>
        obtain rfl := Except.ok.inj accepted
        exact ⟨[], [], [], rfl, .nil, by simp, .inr ⟨rfl, by simp⟩⟩
    | cons argument arguments inductionHypothesis =>
        -- The options are over here, and the words behind them are known.
        have ended {words : List String} (ends : EndsOptions (argument :: arguments) words) :
            ∃ options switches rest, argument :: arguments = options ++ rest ∧
              List.Forall₂ grammar.Takes options switches ∧
              parsed.switches = given ++ switches ∧ EndsOptions rest parsed.words := by
          rw [OptionGrammar.parseFrom_endsOptions greedy given ends] at accepted
          obtain rfl := Except.ok.inj accepted
          exact ⟨[], [], _, rfl, .nil, by simp, ends⟩
        by_cases help : isHelpWord argument = true
        · rw [OptionGrammar.parseFrom, if_pos help] at accepted
          exact absurd accepted (grammar.parseFrom_help _ _ _ _)
        have noHelp : isHelpWord argument = false := by simpa using help
        by_cases ending : argument = "--"
        · exact ended (.inl (by rw [ending]))
        cases dashed : startsWithDash argument with
        | false => exact ended (.inr ⟨rfl, fun first named => by simp_all⟩)
        | true =>
            rw [OptionGrammar.parseFrom, if_neg help, if_neg ending, if_pos dashed] at accepted
            split at accepted
            · contradiction
            split at accepted
            · contradiction
            · next switch known =>
                obtain ⟨options, switches, rest, rfl, taken, read, ends⟩ :=
                  inductionHypothesis accepted
                exact ⟨argument :: options, switch :: switches, rest, rfl,
                  .cons ⟨noHelp, ending, dashed, known⟩ taken, by simpa using read, ends⟩
  · rintro ⟨options, switches, rest, rfl, taken, read, ends⟩
    rw [OptionGrammar.parseFrom_switches given taken rest,
      OptionGrammar.parseFrom_endsOptions greedy _ ends, ← read]

/-- A greedy grammar accepts switches followed by words, and reads them in this one way. -/
theorem OptionGrammar.parse_eq_ok {arguments : List String} {parsed : ParsedOptions ι} :
    grammar.parse arguments = .ok parsed ↔
      ∃ options rest, arguments = options ++ rest ∧
        List.Forall₂ grammar.Takes options parsed.switches ∧ EndsOptions rest parsed.words := by
  rw [OptionGrammar.parse, OptionGrammar.parseFrom_eq_ok greedy]
  constructor
  · rintro ⟨options, switches, rest, divided, taken, read, ends⟩
    rw [List.nil_append] at read
    exact ⟨options, rest, divided, read ▸ taken, ends⟩
  · rintro ⟨options, rest, divided, taken, ends⟩
    exact ⟨options, parsed.switches, rest, divided, taken, rfl, ends⟩

end Reading

/-- The arguments of `command` are switches with a program and its words behind them. A double dash
may stand in front of the program. Without it the name of the program starts with no dash and is not
the word `help`. -/
def IsProgramCall (arguments : List String) (call : ProgramCall) : Prop :=
  ∃ options rest, arguments = options ++ rest ∧
    (∀ option ∈ options, option = "-p" ∨ option = "--standard-path") ∧
    (call.standardPath = true ↔ options ≠ []) ∧ call.argv ≠ [] ∧
    (rest = "--" :: call.argv ∨ rest = call.argv ∧
      ∀ name ∈ call.argv.head?, name.toList.head? ≠ some '-' ∧ name ≠ "help")

/-- What is added behind a program belongs to the program. -/
theorem IsProgramCall.append {arguments : List String} {call : ProgramCall}
    (calls : IsProgramCall arguments call) (more : List String) :
    IsProgramCall (arguments ++ more) ⟨call.standardPath, call.argv ++ more⟩ := by
  obtain ⟨options, rest, rfl, known, standard, filled, ends⟩ := calls
  obtain ⟨name, words, program⟩ := List.exists_cons_of_ne_nil filled
  refine ⟨options, rest ++ more, List.append_assoc .., known, standard, by simp [filled], ?_⟩
  rcases ends with rfl | ⟨rfl, named⟩
  · exact .inl rfl
  · refine .inr ⟨rfl, ?_⟩
    rw [program] at named ⊢
    exact named

theorem commandGrammar_takes {argument : String} {switch : CommandSwitch} :
    commandGrammar.Takes argument switch ↔ argument = "-p" ∨ argument = "--standard-path" := by
  constructor
  · rintro ⟨-, -, -, known⟩
    by_contra unknown
    simp [commandGrammar, unknown] at known
  · cases switch
    rintro (rfl | rfl) <;> exact ⟨by decide, by decide, by decide, rfl⟩

/-- The only switch is given when any is. -/
theorem contains_standardPath (switches : List CommandSwitch) :
    switches.contains .standardPath = true ↔ switches ≠ [] := by
  rcases switches with _ | ⟨⟨⟩, more⟩ <;> simp

/-- The name of a program ends the options unless it looks like one or asks for help. -/
theorem endsOptions_iff {arguments words : List String} :
    EndsOptions arguments words ↔ arguments = "--" :: words ∨ arguments = words ∧
      ∀ name ∈ words.head?, name.toList.head? ≠ some '-' ∧ name ≠ "help" := by
  have plain (name : String) : isHelpWord name = false ∧ startsWithDash name = false ↔
      name.toList.head? ≠ some '-' ∧ name ≠ "help" := by
    have dashed : name = "--help" → name.toList.head? = some '-' := by
      rintro rfl
      rfl
    simp only [isHelpWord, startsWithDash, Bool.or_eq_false_iff, beq_eq_false_iff_ne]
    tauto
  simp only [EndsOptions, plain]

/-- The call that `command` reads is the one that its arguments spell. -/
theorem parseProgramCall_eq_ok {arguments : List String} {call : ProgramCall} :
    parseProgramCall arguments = .ok call ↔ IsProgramCall arguments call := by
  constructor
  · intro accepted
    rw [parseProgramCall] at accepted
    split at accepted
    · next parsed read =>
        split at accepted
        · contradiction
        · next filled =>
            obtain rfl := Except.ok.inj accepted
            obtain ⟨options, rest, rfl, taken, ends⟩ :=
              (OptionGrammar.parse_eq_ok rfl).mp read
            have known := taken.imp fun _ _ takes => And.intro (commandGrammar_takes.mp takes) takes
            refine ⟨options, rest, rfl, (List.forall₂_and_left _ _).mp known |>.1, ?_,
              by simpa using filled, endsOptions_iff.mp ends⟩
            rw [contains_standardPath, ← List.length_pos_iff, ← List.length_pos_iff,
              taken.length_eq]
    · contradiction
  · rintro ⟨options, rest, rfl, known, standard, filled, ends⟩
    have taken : List.Forall₂ commandGrammar.Takes options
        (options.map fun _ => CommandSwitch.standardPath) := by
      rw [List.forall₂_map_right_iff, List.forall₂_same]
      exact fun option member => commandGrammar_takes.mpr (known option member)
    have read : commandGrammar.parse (options ++ rest) =
        .ok ⟨options.map fun _ => .standardPath, call.argv⟩ :=
      (OptionGrammar.parse_eq_ok rfl).mpr
        ⟨options, rest, rfl, taken, endsOptions_iff.mpr ends⟩
    have switched : (options.map fun _ => CommandSwitch.standardPath).contains .standardPath =
        call.standardPath := by
      rw [Bool.eq_iff_iff, contains_standardPath, standard, ne_eq, List.map_eq_nil_iff]
    rw [parseProgramCall, read]
    dsimp only
    rw [switched, if_neg (by simpa using filled)]

end ChainShell
