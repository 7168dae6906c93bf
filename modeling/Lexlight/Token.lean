import Lexlight.Category
import Lexlight.Quoted

/-!
# Tokens

A piece is a text with its category, which is all that markup needs to know. A token is a piece
with the place it was found at, from `start` up to but not including `stop`.
-/

namespace Lexlight

/-- A text with its category. -/
structure Piece where
  category : Category
  text : String
  deriving Repr, DecidableEq, Inhabited

/-- A piece of a source, with its place. -/
structure Token extends Piece where
  start : Nat
  stop : Nat
  deriving Repr, DecidableEq, Inhabited

/-- A text cut to fit a line: of more than twenty characters the first seventeen are left. -/
def abridged (s : String) : String :=
  if s.length > 20 then String.ofList (s.toList.take 17 ++ ['.', '.', '.']) else s

/-- The display of a piece that is said to stand at a place. -/
def Piece.shownAt (p : Piece) (start stop : Int) : String :=
  "Token(" ++ p.category.label ++ ", " ++ quoted (abridged p.text) ++ ", " ++ toString start ++
    ":" ++ toString stop ++ ")"

/-- The display of a token. -/
def Token.shown (t : Token) : String := t.toPiece.shownAt t.start t.stop

end Lexlight
