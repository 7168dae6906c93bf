import Lexlight.Category
import Lexlight.Pattern.Match
import Lexlight.Unicode.CaseFold

/-!
# Lexicons

A lexicon lists words and says which lexemes to look up. A lexeme begins only where the character
before is no word character, and it is taken whole, listed or not: a word is never found inside a
longer one. Listed entries that no lexeme can be, such as those with punctuation, have a pattern of
their own, `literals`, which is tried before the lexemes.

Where case is not looked at, the lists hold folded words and a lexeme is folded before it is looked
up.
-/

namespace Lexlight

/-- Words and where to look for them. -/
structure Lexicon where
  /-- What a lexeme is. -/
  pattern : Pattern
  keywords : List String
  builtins : List String
  /-- The entries that are no lexemes. -/
  literals? : Option Pattern
  caseSensitive : Bool
  relevance : Int
  deriving Repr, Inhabited

/-- What a rule found: how far it reaches, and its category, which an unlisted lexeme lacks. -/
structure Hit where
  category? : Option Category
  stop : Nat
  deriving Repr, DecidableEq, Inhabited

namespace Lexicon

/-- What a word is listed as. A word in both lists is a keyword. -/
def classify (l : Lexicon) (word : String) : Option Category :=
  let key := if l.caseSensitive then word else Unicode.foldCase word
  if key ∈ l.keywords then some .keyword
  else if key ∈ l.builtins then some .builtin
  else none

/-- What is found from `start`, for a search that was asked to begin at `asked`. An entry that is no
lexeme is found first; a lexeme counts when it ends elsewhere than asked. -/
def hitFrom (l : Lexicon) (src : Source) (start : Nat) (asked : Int) : Option Hit :=
  if start > 0 && src[start - 1]?.any Unicode.isWord then none
  else
    match l.literals?.bind (·.matchEnd? src start) with
    | some stop => some ⟨l.classify (src.slice start stop), stop⟩
    | none =>
      match l.pattern.matchEnd? src start with
      | some stop =>
        if (stop : Int) = asked then none else some ⟨l.classify (src.slice start stop), stop⟩
      | none => none

end Lexicon
end Lexlight
