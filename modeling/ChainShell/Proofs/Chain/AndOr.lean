/-
This file gives a line its meaning as a list of and-or trees, and it shows that the chain
evaluator, which carries one status from left to right, computes this meaning.
-/

import ChainShell.Session
import ChainShell.Proofs.Line.Words
import Mathlib.Data.List.TakeWhile

namespace ChainShell

/-- The connective between the two sides of a tree. -/
inductive Connective where
  /-- The right side runs after the code zero only. -/
  | and
  /-- The right side runs after another code only. -/
  | or
  deriving DecidableEq, Repr

def Connective.enters : Connective → Status → Bool
  | .and, status => status = .exited 0
  | .or, .exited code => code ≠ 0
  | .or, .creationFailed => false

/-- The meaning of a group of commands. The empty tree runs nothing and succeeds. -/
inductive AndOrTree where
  | success
  | command (segment : Segment)
  | join (connective : Connective) (left right : AndOrTree)

variable {τ : Type}

/-- Every command of a skipped tree is skipped after the same status. -/
def AndOrTree.skip (runner : ChainRunner τ) (last : Status) : AndOrTree → τ → τ
  | .success, state => state
  | .command segment, state => runner.skip segment last state
  | .join _ left right, state => right.skip runner last (left.skip runner last state)

/-- A joined tree has the status of its right side when the connective enters it, and otherwise
that of its left side. Without a status the shell has ended. -/
def AndOrTree.eval (runner : ChainRunner τ) : AndOrTree → τ → Option Status × τ
  | .success, state => (some (.exited 0), state)
  | .command segment, state => runner.run (tokenize segment.text) state
  | .join connective left right, state =>
    match left.eval runner state with
    | (none, after) => (none, after)
    | (some status, after) =>
      if connective.enters status then right.eval runner after
      else (some status, right.skip runner status after)

/-- The argument vectors that run while a tree is evaluated, in order. -/
def AndOrTree.dispatched (runner : ChainRunner τ) : AndOrTree → τ → List (List String)
  | .success, _ => []
  | .command segment, _ => [tokenize segment.text]
  | .join connective left right, state =>
    left.dispatched runner state ++
      match left.eval runner state with
      | (none, _) => []
      | (some status, after) =>
        if connective.enters status then right.dispatched runner after else []

/-- Trees run one after the other, whatever their status, until the shell ends. -/
def runTrees (runner : ChainRunner τ) : List AndOrTree → τ → Flow × τ
  | [], state => (.proceed, state)
  | tree :: later, state =>
    match tree.eval runner state with
    | (none, after) => (.exit, after)
    | (some _, after) => runTrees runner later after

def dispatchedByTrees (runner : ChainRunner τ) : List AndOrTree → τ → List (List String)
  | [], _ => []
  | tree :: later, state =>
    tree.dispatched runner state ++
      match tree.eval runner state with
      | (none, _) => []
      | (some _, after) => dispatchedByTrees runner later after

/-- A command behind a connective belongs to the group of the command before it. -/
def Segment.connective? (segment : Segment) : Option Connective :=
  match segment.operator with
  | .first | .sequence => none
  | .andThen => some .and
  | .orElse => some .or

/-- A group starts at a command without a connective and goes on with those that have one. A
connective at the start of a line starts a group as well. -/
def groups : List Segment → List (List Segment)
  | [] => []
  | head :: later =>
    (head :: later.takeWhile (·.connective?.isSome)) ::
      groups (later.dropWhile (·.connective?.isSome))
termination_by segments => segments.length
decreasing_by
  have shorter := (List.dropWhile_suffix (fun segment : Segment => segment.connective?.isSome)
    (l := later)).length_le
  simp only [List.length_cons]
  omega

/-- The tree grows to the left. A command without a connective starts a tree of its own. -/
def AndOrTree.extend (tree : AndOrTree) (segment : Segment) : AndOrTree :=
  match segment.connective? with
  | none => .command segment
  | some connective => .join connective tree (.command segment)

/-- A connective without a command before it follows a success. -/
def AndOrTree.ofGroup (group : List Segment) : AndOrTree :=
  group.foldl AndOrTree.extend .success

/-- A command is more than white space. -/
def Segment.hasText (segment : Segment) : Bool :=
  segment.text.toList.any fun char => !isWhiteSpace char

theorem Segment.hasText_eq (segment : Segment) : segment.hasText = !segment.isBlank := by
  rw [Bool.eq_iff_iff, Bool.not_eq_true', Bool.eq_false_iff, ne_eq, Segment.isBlank_iff]
  simp [Segment.hasText]

/-- The trees of a line leave out its blank commands. -/
def lineTrees (line : String) : List AndOrTree :=
  (groups ((splitChain line).filter Segment.hasText)).map AndOrTree.ofGroup

/-- The runner also keeps the argument vectors that ran. -/
def ChainRunner.recording (runner : ChainRunner τ) : ChainRunner (τ × List (List String)) where
  run argv state :=
    let result := runner.run argv state.1
    (result.1, result.2, state.2 ++ [argv])
  skip segment last state := (runner.skip segment last state.1, state.2)

theorem Segment.permits_of_connective {segment : Segment} {connective : Connective}
    (joined : segment.connective? = some connective) (last : Status) :
    segment.operator.permits last = connective.enters last := by
  obtain ⟨operator, text⟩ := segment
  cases operator with
  | first | sequence => simp [Segment.connective?] at joined
  | andThen =>
      obtain rfl : Connective.and = connective := by simpa [Segment.connective?] using joined
      cases last <;> simp [Operator.permits, Connective.enters, beq_eq_decide]
  | orElse =>
      obtain rfl : Connective.or = connective := by simpa [Segment.connective?] using joined
      cases last <;> simp [Operator.permits, Connective.enters, bne, beq_eq_decide]

theorem Segment.permits_of_none {segment : Segment} (alone : segment.connective? = none)
    (last : Status) : segment.operator.permits last = true := by
  obtain ⟨operator, text⟩ := segment
  cases operator with
  | first | sequence => cases last <;> rfl
  | andThen | orElse => simp [Segment.connective?] at alone

/-- Blank commands do nothing and leave the status alone. -/
theorem runChain_filter (runner : ChainRunner τ) (segments : List Segment) (last : Status)
    (state : τ) :
    runChain runner segments last state =
      runChain runner (segments.filter Segment.hasText) last state := by
  induction segments generalizing last state with
  | nil => rfl
  | cons segment later inductionHypothesis =>
      cases blank : segment.isBlank with
      | true =>
          rw [List.filter_cons_of_neg (by simp [segment.hasText_eq, blank]), runChain]
          simpa [blank] using inductionHypothesis last state
      | false =>
          rw [List.filter_cons_of_pos (by simp [segment.hasText_eq, blank]), runChain, runChain]
          simp only [inductionHypothesis]

/-- One command runs when its operator permits it, and otherwise it keeps the last status. -/
def ChainRunner.perform (runner : ChainRunner τ) (segment : Segment) (last : Status)
    (state : τ) : Option Status × τ :=
  if segment.operator.permits last then runner.run (tokenize segment.text) state
  else (some last, runner.skip segment last state)

/-- The step of the evaluator: a command that is not blank is performed, and its status is
carried on unless the shell has ended. -/
theorem runChain_cons (runner : ChainRunner τ) {segment : Segment} (later : List Segment)
    (last : Status) (state : τ) (content : segment.isBlank = false) :
    runChain runner (segment :: later) last state =
      match runner.perform segment last state with
      | (none, after) => (.exit, after)
      | (some status, after) => runChain runner later status after := by
  obtain ⟨name, arguments, words⟩ := List.exists_cons_of_ne_nil (tokenize_ne_nil content)
  rw [runChain, ChainRunner.perform, words]
  simp only [content, Bool.false_eq_true, ↓reduceIte]
  split
  · rfl
  · rfl

/-- A command joined to a tree is performed after the status of the tree. -/
theorem AndOrTree.eval_extend {runner : ChainRunner τ} {tree : AndOrTree} {segment : Segment}
    {start state : τ} {last : Status} (joined : segment.connective?.isSome)
    (reached : tree.eval runner start = (some last, state)) :
    (tree.extend segment).eval runner start = runner.perform segment last state := by
  obtain ⟨connective, connected⟩ := Option.isSome_iff_exists.mp joined
  rw [AndOrTree.extend, connected, ChainRunner.perform, Segment.permits_of_connective connected]
  simp only [AndOrTree.eval, reached]
  rfl

/-- The first command of a group is performed after the status in front of the group. -/
theorem AndOrTree.eval_extend_success (runner : ChainRunner τ) {segment : Segment}
    {last : Status} (state : τ) (starts : segment.connective? = none ∨ last = .exited 0) :
    (AndOrTree.success.extend segment).eval runner state =
      runner.perform segment last state := by
  cases connected : segment.connective? with
  | none =>
      rw [AndOrTree.extend, connected, ChainRunner.perform, Segment.permits_of_none connected]
      rfl
  | some connective =>
      obtain rfl : last = .exited 0 := by simpa [connected] using starts
      exact AndOrTree.eval_extend (by simp [connected]) rfl

/-- Behind the end of the shell nothing of a group runs. -/
theorem AndOrTree.eval_foldl_ended {runner : ChainRunner τ} {tree : AndOrTree}
    {members : List Segment} {start after : τ}
    (joined : ∀ segment ∈ members, segment.connective?.isSome)
    (ended : tree.eval runner start = (none, after)) :
    (members.foldl AndOrTree.extend tree).eval runner start = (none, after) := by
  induction members generalizing tree with
  | nil => exact ended
  | cons segment members inductionHypothesis =>
      obtain ⟨connective, connected⟩ :=
        Option.isSome_iff_exists.mp (joined segment List.mem_cons_self)
      refine inductionHypothesis (fun other member => joined other (List.mem_cons_of_mem _ member)) ?_
      rw [AndOrTree.extend, connected]
      simp only [AndOrTree.eval, ended]

/-- The commands of a group run as the evaluator runs them, from any tree that was reached. -/
theorem runChain_members (runner : ChainRunner τ) {members : List Segment}
    (others : List Segment) {tree : AndOrTree} {start state : τ} {last : Status}
    (content : ∀ segment ∈ members, segment.isBlank = false)
    (joined : ∀ segment ∈ members, segment.connective?.isSome)
    (reached : tree.eval runner start = (some last, state)) :
    runChain runner (members ++ others) last state =
      match (members.foldl AndOrTree.extend tree).eval runner start with
      | (none, after) => (.exit, after)
      | (some status, after) => runChain runner others status after := by
  induction members generalizing tree state last with
  | nil =>
      rw [List.foldl_nil, reached]
      rfl
  | cons segment members inductionHypothesis =>
      have laterContent := fun other member => content other (List.mem_cons_of_mem _ member)
      have laterJoined := fun other member => joined other (List.mem_cons_of_mem _ member)
      have extended := AndOrTree.eval_extend (joined segment List.mem_cons_self) reached
      rw [List.cons_append, runChain_cons _ _ _ _ (content segment List.mem_cons_self),
        List.foldl_cons]
      cases performed : runner.perform segment last state with
      | mk answer after =>
          rw [performed] at extended
          cases answer with
          | none => rw [AndOrTree.eval_foldl_ended laterJoined extended]
          | some status => exact inductionHypothesis laterContent laterJoined extended

/-- A group runs as its tree does, and the evaluator goes on behind it with its status. -/
theorem runChain_group (runner : ChainRunner τ) {head : Segment} {members : List Segment}
    (others : List Segment) {last : Status} (state : τ)
    (content : ∀ segment ∈ head :: members, segment.isBlank = false)
    (joined : ∀ segment ∈ members, segment.connective?.isSome)
    (starts : head.connective? = none ∨ last = .exited 0) :
    runChain runner (head :: (members ++ others)) last state =
      match (AndOrTree.ofGroup (head :: members)).eval runner state with
      | (none, after) => (.exit, after)
      | (some status, after) => runChain runner others status after := by
  have firstStep := AndOrTree.eval_extend_success runner state starts
  rw [runChain_cons _ _ _ _ (content head List.mem_cons_self), AndOrTree.ofGroup, List.foldl_cons]
  cases performed : runner.perform head last state with
  | mk answer after =>
      rw [performed] at firstStep
      cases answer with
      | none => rw [AndOrTree.eval_foldl_ended joined firstStep]
      | some status =>
          have membersContent := fun other member =>
            content other (List.mem_cons_of_mem _ member)
          exact runChain_members runner others membersContent joined firstStep

/-- Behind its first command a group takes the commands with a connective, and the next group
starts without one. -/
theorem exists_members (later : List Segment) :
    ∃ members others, later = members ++ others ∧
      (∀ segment ∈ members, segment.connective?.isSome) ∧
      (∀ segment ∈ others.head?, segment.connective? = none) ∧
      ∀ head, groups (head :: later) = (head :: members) :: groups others := by
  refine ⟨later.takeWhile (·.connective?.isSome), later.dropWhile (·.connective?.isSome),
    List.takeWhile_append_dropWhile.symm, ?_, ?_, fun head => by rw [groups]⟩
  · intro segment member
    simpa using List.mem_takeWhile_imp member
  · intro segment member
    have notJoined := List.head?_dropWhile_not
      (fun segment : Segment => segment.connective?.isSome) later
    rw [show List.head? _ = some segment from member] at notJoined
    simpa using notJoined

/-- The evaluator runs the trees of the groups in order. -/
theorem runChain_groups (runner : ChainRunner τ) (segments : List Segment) {last : Status}
    (state : τ) (content : ∀ segment ∈ segments, segment.isBlank = false)
    (starts : ∀ segment ∈ segments.head?, segment.connective? = none ∨ last = .exited 0) :
    runChain runner segments last state =
      runTrees runner ((groups segments).map AndOrTree.ofGroup) state := by
  induction size : segments.length using Nat.strong_induction_on
    generalizing segments last state with
  | _ count inductionHypothesis =>
      cases segments with
      | nil => simp [groups, runChain, runTrees]
      | cons head later =>
          obtain ⟨members, others, rfl, joined, othersStart, grouped⟩ := exists_members later
          have shorter : others.length < count := by
            rw [← size, List.length_cons, List.length_append]
            omega
          rw [← List.cons_append] at content
          have groupContent := fun segment member =>
            content segment (List.mem_append_left others member)
          have othersContent := fun segment member =>
            content segment (List.mem_append_right (head :: members) member)
          rw [grouped, List.map_cons, runTrees,
            runChain_group runner others state groupContent joined (starts head rfl)]
          split
          · rfl
          · exact inductionHypothesis _ shorter others _ othersContent
              (fun segment member => .inl (othersStart segment member)) rfl

theorem AndOrTree.skip_recording (runner : ChainRunner τ) (tree : AndOrTree) (last : Status)
    (state : τ) (record : List (List String)) :
    tree.skip runner.recording last (state, record) = (tree.skip runner last state, record) := by
  induction tree generalizing state with
  | success => rfl
  | command segment => rfl
  | join connective left right leftHypothesis rightHypothesis =>
      rw [AndOrTree.skip, leftHypothesis, rightHypothesis]
      rfl

/-- The record of a tree holds the argument vectors that the tree dispatches. -/
theorem AndOrTree.eval_recording (runner : ChainRunner τ) (tree : AndOrTree) (state : τ)
    (record : List (List String)) :
    tree.eval runner.recording (state, record) =
      ((tree.eval runner state).1, (tree.eval runner state).2,
        record ++ tree.dispatched runner state) := by
  induction tree generalizing state record with
  | success => simp [AndOrTree.eval, AndOrTree.dispatched]
  | command segment => rfl
  | join connective left right leftHypothesis rightHypothesis =>
      rw [AndOrTree.eval, leftHypothesis, AndOrTree.eval, AndOrTree.dispatched]
      cases leftAnswer : left.eval runner state with
      | mk answer after =>
          cases answer with
          | none => simp
          | some status =>
              by_cases entered : connective.enters status
              · simp [entered, rightHypothesis]
              · simp [entered, AndOrTree.skip_recording]

theorem runTrees_recording (runner : ChainRunner τ) (trees : List AndOrTree) (state : τ)
    (record : List (List String)) :
    runTrees runner.recording trees (state, record) =
      ((runTrees runner trees state).1, (runTrees runner trees state).2,
        record ++ dispatchedByTrees runner trees state) := by
  induction trees generalizing state record with
  | nil => simp [runTrees, dispatchedByTrees]
  | cons tree later inductionHypothesis =>
      rw [runTrees, AndOrTree.eval_recording, runTrees, dispatchedByTrees]
      cases evaluated : tree.eval runner state with
      | mk answer after =>
          cases answer with
          | none => simp
          | some status => simp [inductionHypothesis]

/-- The evaluator gives every line the meaning of its trees. -/
theorem runChain_splitChain (runner : ChainRunner τ) (line : String) (state : τ) :
    runChain runner (splitChain line) .initial state =
      runTrees runner (lineTrees line) state := by
  rw [runChain_filter, lineTrees]
  refine runChain_groups runner _ state ?_ fun _ _ => .inr rfl
  intro segment member
  simpa [segment.hasText_eq] using (List.mem_filter.mp member).2

/-- Whatever one command does, evaluating a line is evaluating its and-or trees one after the
other, with the same commands dispatched in the same order. A session evaluates its lines in
this way. -/
theorem evaluate_eq_trees (line : String) :
    (∀ (τ : Type) (runner : ChainRunner τ) (state : τ),
      runChain runner (splitChain line) .initial state = runTrees runner (lineTrees line) state ∧
      runChain runner.recording (splitChain line) .initial (state, []) =
        ((runTrees runner (lineTrees line) state).1, (runTrees runner (lineTrees line) state).2,
          dispatchedByTrees runner (lineTrees line) state)) ∧
    ∀ (σ : Type) [OperatingSystem σ] (session : Session σ),
      session.evaluate line = runTrees Session.runner (lineTrees line) session := by
  refine ⟨fun τ runner state => ⟨runChain_splitChain runner line state, ?_⟩, ?_⟩
  · rw [runChain_splitChain, runTrees_recording]
    rfl
  · intro σ system session
    exact runChain_splitChain Session.runner line session

end ChainShell
