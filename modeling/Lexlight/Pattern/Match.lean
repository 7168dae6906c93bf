import Lexlight.Pattern.Basic
import Lexlight.Source

/-!
# Matching

A match starts at a position and, when it succeeds, ends at one. `Pattern.run` searches for it with
a continuation: the pattern tries its ways to match in order and hands the state reached to the
rest of the pattern, and the first way that the rest accepts is the answer. So a part that comes
first decides first, and gives way only when all that follows fails.

A repetition needs a bound to be a total function. An unbounded one takes it from the source: each
round that goes on takes a character, and the round that takes none is the last one, so more rounds
than there are characters left, and one to take none, are never needed.
-/

namespace Lexlight

/-- What the groups of a pattern have matched so far: where each was last entered, and where each
was last left. -/
structure Captures where
  starts : List (Nat × Nat) := []
  stops : List (Nat × Nat) := []
  deriving Repr, DecidableEq, Inhabited

namespace Captures

/-- A list of pairs with the value for one key replaced, or added at the end. -/
def put (key value : Nat) : List (Nat × Nat) → List (Nat × Nat)
  | [] => [(key, value)]
  | (k, v) :: rest => if k = key then (key, value) :: rest else (k, v) :: put key value rest

/-- Entering a group. Its last stop stays. -/
def enter (c : Captures) (group pos : Nat) : Captures :=
  { c with starts := put group pos c.starts }

/-- Leaving a group. -/
def leave (c : Captures) (group pos : Nat) : Captures :=
  { c with stops := put group pos c.stops }

/-- The span of a group that has matched. A group that is being matched once more counts as matched
while its last stop is not before its new start. -/
def span? (c : Captures) (group : Nat) : Option (Nat × Nat) :=
  match c.starts.lookup group, c.stops.lookup group with
  | some a, some b => if a ≤ b then some (a, b) else none
  | _, _ => none

end Captures

/-- How far a match has come. -/
structure MatchState where
  pos : Nat
  captures : Captures := {}
  deriving Repr, DecidableEq, Inhabited

/-- Whether a place satisfies an anchor. In an empty source no place is an edge of a word, nor
inside or outside of one. -/
def Anchor.holds (src : Source) (pos : Nat) : Anchor → Bool
  | .textStart => pos = 0
  | .textEnd => pos = src.size
  | .lineStart => pos = 0 || src[pos - 1]? = some '\n'
  | .lineEnd => pos = src.size || src[pos]? = some '\n'
  | .lastLineEnd => pos = src.size || (pos + 1 = src.size && src[pos]? = some '\n')
  | .wordEdge ascii inside =>
    let isWord := fun (c : Option Char) => c.any (CharClass.word.holds ascii)
    src.size != 0 &&
      ((isWord (if pos = 0 then none else src[pos - 1]?) != isWord src[pos]?) != inside)

/-- A part of a pattern at work: from a state, and with what is to follow, the first state that what
follows makes of a state reached. -/
abbrev MatchStep := MatchState → (MatchState → Option MatchState) → Option MatchState

namespace MatchStep

/-- Just `n` rounds. -/
def times (step : MatchStep) : Nat → MatchStep
  | 0, s, k => k s
  | n + 1, s, k => step s fun s' => times step n s' k

/-- Up to `n` rounds, more of them first. A round that takes nothing is the last. -/
def most (step : MatchStep) : Nat → MatchStep
  | 0, s, k => k s
  | n + 1, s, k =>
    (step s fun s' => if s'.pos = s.pos then k s' else most step n s' k) <|> k s

/-- Up to `n` rounds, fewer of them first. A round that takes nothing is the last. -/
def fewest (step : MatchStep) : Nat → MatchStep
  | 0, s, k => k s
  | n + 1, s, k =>
    k s <|> step s fun s' => if s'.pos = s.pos then k s' else fewest step n s' k

/-- The first state reached, whatever follows. -/
def first (step : MatchStep) (s : MatchState) : Option MatchState := step s some

/-- The state after just `n` rounds, each taking its first way. -/
def firstTimes (step : MatchStep) : Nat → MatchState → Option MatchState
  | 0, s => some s
  | n + 1, s => (step.first s).bind (firstTimes step n)

/-- The state after as many of `n` rounds as there are, each taking its first way. -/
def firstMost (step : MatchStep) : Nat → MatchState → MatchState
  | 0, s => s
  | n + 1, s =>
    match step.first s with
    | none => s
    | some s' => if s'.pos = s.pos then s' else firstMost step n s'

/-- A repetition of at least `least` rounds and up to `extra` more. -/
def repeated (step : MatchStep) (least extra : Nat) : Greed → MatchStep
  | .greedy, s, k => times step least s fun s' => most step extra s' k
  | .lazy, s, k => times step least s fun s' => fewest step extra s' k
  | .possessive, s, k =>
    match firstTimes step least s with
    | none => none
    | some s' => k (firstMost step extra s')

end MatchStep

/-- Where a stretch of the source that begins at `start` and has `n` characters ends when it stands
once more at `pos`, characters being compared by their keys. -/
def Source.repeatEnd? (src : Source) (fold : Fold) : (start n pos : Nat) → Option Nat
  | _, 0, pos => some pos
  | start, n + 1, pos =>
    match src[start]?, src[pos]? with
    | some a, some b =>
      if fold.key a.toNat = fold.key b.toNat then repeatEnd? src fold (start + 1) n (pos + 1)
      else none
    | _, _ => none

namespace Pattern

/-- The search for a match from a state. -/
def run (src : Source) : Pattern → MatchStep
  | .empty, s, k => k s
  | .char test, s, k =>
    match src[s.pos]? with
    | some c => if test.accepts c then k { s with pos := s.pos + 1 } else none
    | none => none
  | .anchor a, s, k => if a.holds src s.pos then k s else none
  | .again g fold, s, k =>
    match s.captures.span? g with
    | some (a, b) =>
      match src.repeatEnd? fold a (b - a) s.pos with
      | some e => k { s with pos := e }
      | none => none
    | none => none
  | .seq p q, s, k => run src p s fun s' => run src q s' k
  | .alt p q, s, k => run src p s k <|> run src q s k
  | .rep body least bound greed, s, k =>
    let extra := match bound with
      | some n => n - least
      | none => src.size + 1
    MatchStep.repeated (run src body) least extra greed s k
  | .group g body, s, k =>
    run src body { s with captures := s.captures.enter g s.pos } fun s' =>
      k { s' with captures := s'.captures.leave g s'.pos }
  | .ahead wanted body, s, k =>
    match run src body s some with
    | some s' => if wanted then k { s' with pos := s.pos } else none
    | none => if wanted then none else k s
  | .behind wanted width body, s, k =>
    match if width.least ≤ s.pos then run src body { s with pos := s.pos - width.least } some
      else none with
    | some s' => if wanted then k { s' with pos := s.pos } else none
    | none => if wanted then none else k s
  | .atomic body, s, k =>
    match run src body s some with
    | some s' => k s'
    | none => none
  | .ifGroup g yes no, s, k =>
    if (s.captures.span? g).isSome then run src yes s k else run src no s k

/-- Where the first match at `pos` ends. -/
def matchEnd? (p : Pattern) (src : Source) (pos : Nat) : Option Nat :=
  (p.run src ⟨pos, {}⟩ some).map (·.pos)

/-- Whether some way to match takes the source from its start to its end. -/
def matchesAll (p : Pattern) (src : Source) : Bool :=
  (p.run src ⟨0, {}⟩ fun s => if s.pos = src.size then some s else none).isSome

/-- Whether a text as a whole is one of those the pattern describes. -/
def describes (p : Pattern) (s : String) : Bool := p.matchesAll (.ofString s)

end Pattern
end Lexlight
