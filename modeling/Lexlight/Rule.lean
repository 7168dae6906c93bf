import Lexlight.Lexicon

/-!
# Rules

A grammar is a list of rules. A token rule gives one category to what its pattern matches; the
lexeme rule looks words up. `Rule.hit?` is a rule at a position of a source: what it finds there is
never empty, as far as its patterns go.

`Rule.probe` answers for any integer. A position before the start is the start, and one past the end
is the end, except that a match is held against the position asked for, and that the lexeme rule
cannot look at the character before a position past the end.
-/

namespace Lexlight

/-- A rule of a grammar. -/
inductive Rule where
  | token (category : Category) (pattern : Pattern) (relevance : Int)
  | lexeme (lexicon : Lexicon)
  deriving Repr, Inhabited

namespace Rule

/-- What a rule finds from `start`, for a search that was asked to begin at `asked`. -/
def hitFrom (src : Source) (start : Nat) (asked : Int) : Rule → Option Hit
  | .token category pattern _ =>
    match pattern.matchEnd? src start with
    | some stop => if (stop : Int) = asked then none else some ⟨some category, stop⟩
    | none => none
  | .lexeme lexicon => lexicon.hitFrom src start asked

/-- What a rule finds at a position. -/
def hit? (src : Source) (pos : Nat) (r : Rule) : Option Hit := r.hitFrom src pos pos

/-- What a rule finds at any position asked for; nothing to speak of when the position is past the
end and the character before it is called for. -/
def probe (src : Source) (asked : Int) (r : Rule) : Option (Option Hit) :=
  match r with
  | .lexeme _ =>
    if asked > src.size then none else some (r.hitFrom src asked.toNat asked)
  | .token .. => some (r.hitFrom src (min asked.toNat src.size) asked)

/-- The weight that a rule declares for a category: for its own, or, if it looks words up, for the
two that words can have. -/
def weight? (c : Category) : Rule → Option Int
  | .token category _ relevance => if category = c then some relevance else none
  | .lexeme l => if c = .keyword ∨ c = .builtin then some l.relevance else none

end Rule
end Lexlight
