/-
This file divides text into user-perceived characters, the extended grapheme clusters of Unicode.
-/

import ChainShell.Text.ClusterClass

namespace ChainShell

/-- How far the characters in front have come towards a conjunct. -/
inductive ConjunctState where
  | none
  | consonant
  | linked
  deriving DecidableEq, Repr

/-- What the characters in front of a place decide about it. -/
structure ClusterState where
  previous : ClusterClass
  /-- The number of regional indicators directly in front is odd. -/
  oddIndicators : Bool
  /-- A pictograph stands in front, with nothing but extending marks behind it. -/
  pictograph : Bool
  /-- A joiner stands directly behind such a pictograph. -/
  joinedPictograph : Bool
  conjunct : ConjunctState
  deriving DecidableEq, Repr

/-- A linker ties to the consonant in front of it. Other marks leave the conjunct open. -/
def ConjunctState.next (state : ConjunctState) (char : Char) (cls : ClusterClass) :
    ConjunctState :=
  if cls = .conjunctConsonant then .consonant
  else if state = .none then .none
  else if conjunctLinkers.contains char.toNat then .linked
  else if cls = .joiner || (cls = .extend && char.toNat ≠ 0x200C) then state
  else .none

def ClusterState.start (char : Char) : ClusterState :=
  let cls := ClusterClass.ofChar char
  ⟨cls, cls = .regionalIndicator, cls = .pictograph, false, ConjunctState.none.next char cls⟩

def ClusterState.next (state : ClusterState) (char : Char) (cls : ClusterClass) : ClusterState where
  previous := cls
  oddIndicators := cls = .regionalIndicator && !state.oddIndicators
  pictograph := cls = .pictograph || (state.pictograph && cls = .extend)
  joinedPictograph := state.pictograph && cls = .joiner
  conjunct := state.conjunct.next char cls

/-- Controls stand alone. Only a carriage return keeps the line feed behind it. -/
def ClusterClass.isControl : ClusterClass → Bool
  | .carriageReturn | .lineFeed | .control => true
  | _ => false

/-- The jamo of a syllable stay together. -/
def ClusterClass.joinsSyllable : ClusterClass → ClusterClass → Bool
  | .leadingJamo, .leadingJamo | .leadingJamo, .vowelJamo => true
  | .leadingJamo, .openSyllable | .leadingJamo, .closedSyllable => true
  | .openSyllable, .vowelJamo | .openSyllable, .trailingJamo => true
  | .vowelJamo, .vowelJamo | .vowelJamo, .trailingJamo => true
  | .closedSyllable, .trailingJamo | .trailingJamo, .trailingJamo => true
  | _, _ => false

/-- The next character continues the cluster in front of it. -/
def ClusterState.continues (state : ClusterState) (cls : ClusterClass) : Bool :=
  if state.previous = .carriageReturn && cls = .lineFeed then true
  else if state.previous.isControl || cls.isControl then false
  else if cls = .extend || cls = .joiner || cls = .spacingMark then true
  else
    state.previous.joinsSyllable cls || state.previous = .prepend ||
      (state.conjunct = .linked && cls = .conjunctConsonant) ||
      (state.joinedPictograph && cls = .pictograph) ||
      (state.oddIndicators && cls = .regionalIndicator)

/-- The first cluster goes on while its state allows it. The rest is divided after it. -/
def clustersFrom (state : ClusterState) (cluster : List Char) : List Char → List (List Char)
  | [] => [cluster.reverse]
  | char :: rest =>
    let cls := ClusterClass.ofChar char
    if state.continues cls then
      clustersFrom (state.next char cls) (char :: cluster) rest
    else
      cluster.reverse :: clustersFrom (state.next char cls) [char] rest

def clusters : List Char → List (List Char)
  | [] => []
  | char :: rest => clustersFrom (.start char) [char] rest

theorem clustersFrom_flatten (state : ClusterState) (cluster text : List Char) :
    (clustersFrom state cluster text).flatten = cluster.reverse ++ text := by
  induction text generalizing state cluster with
  | nil => simp [clustersFrom]
  | cons char rest inductionHypothesis =>
      rw [clustersFrom]
      split <;> simp [inductionHypothesis]

/-- The clusters in order are the text again. -/
theorem clusters_flatten (text : List Char) : (clusters text).flatten = text := by
  cases text with
  | nil => rfl
  | cons char rest => simp [clusters, clustersFrom_flatten]

end ChainShell
