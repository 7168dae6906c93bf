import Lexlight.Rule
import Lexlight.Value

/-!
# Grammars

A grammar is an ordered list of rules under a name: at each position of a source the first rule
that finds something there decides. The lexeme rule, when there is one, comes last.

The weight of a category is what the first of the rules that speak of it declares, and zero when
none does.
-/

namespace Lexlight

/-- A set of texts in increasing order. -/
def sortedSet (xs : List String) : List String := xs.eraseDups.mergeSort

/-- The rules of a language. -/
structure Grammar where
  language : String
  title : Value
  /-- Other names of the language, in order. -/
  aliases : List String
  caseSensitive : Bool
  rules : List Rule
  keywords : List String
  builtins : List String
  deriving Repr, Inhabited

namespace Grammar

/-- The names a language is found under: its own, and then its aliases in order. -/
def keys (g : Grammar) : List String := g.language :: g.aliases

/-- The weight of a category. -/
def relevanceOf (g : Grammar) (c : Category) : Int := (g.rules.findSome? (·.weight? c)).getD 0

/-- What the first rule that finds something at a position finds. -/
def hit? (g : Grammar) (src : Source) (pos : Nat) : Option Hit :=
  g.rules.findSome? (·.hit? src pos)

/-- The lexeme rule, if the last rule is one. -/
def lexicon? (g : Grammar) : Option Lexicon :=
  match g.rules.getLast? with
  | some (.lexeme l) => some l
  | _ => none

end Grammar
end Lexlight
