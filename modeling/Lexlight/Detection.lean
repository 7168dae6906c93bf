import Lexlight.Registry
import Lexlight.Scan.Basic

/-!
# Telling which language a text is in

A grammar scores a text by the weights of the categories of its tokens. The language of a text is
the one that scores highest, the first of them if there are several, and there is none when no score
is above zero.
-/

namespace Lexlight

/-- The weight of a text under a grammar. -/
def Grammar.relevance (g : Grammar) (text : String) : Int :=
  ((g.tokenize text).map fun t => g.relevanceOf t.category).foldr (· + ·) 0

namespace Registry

/-- The languages with their scores of a text, in the order of registration. -/
def scores (r : Registry) (text : String) : List (String × Int) :=
  r.grammars.map fun g => (g.language, g.relevance text)

/-- The better of the best so far and one more: a score has to be higher to take its place, and
above zero to take the first. -/
def better (best : Option (String × Int)) (next : String × Int) : Option (String × Int) :=
  if next.2 > (best.map Prod.snd).getD 0 then some next else best

/-- The language of a text. -/
def detect? (r : Registry) (text : String) : Option String :=
  ((r.scores text).foldl better none).map Prod.fst

end Registry
end Lexlight
