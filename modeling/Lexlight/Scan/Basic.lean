import Lexlight.Grammar.Basic
import Lexlight.Token

/-!
# Scanning

A scan goes through a source from left to right. Where a rule of the grammar finds something, the
scan goes on at its end; where none does, it goes on at the next character. What has a category
becomes a token. All else, skipped characters and lexemes that are not listed, is gathered into one
token of plain text, up to the next token with a category or the end of the source.

Each step goes forward, so a scan of `n` characters takes at most `n` steps.
-/

namespace Lexlight

/-- The token of a category between two positions. -/
def Source.token (src : Source) (category : Category) (start stop : Nat) : Token :=
  { category, start, stop, text := src.slice start stop }

/-- Plain text between two positions, if there is any. -/
def Source.plainTokens (src : Source) (start stop : Nat) : List Token :=
  if start < stop then [src.token .text start stop] else []

namespace Grammar

/-- The tokens that a scan at `pos` still gives within so many steps, when the text since `pending`
is not yet in a token. -/
def scanFrom (g : Grammar) (src : Source) : (steps pos pending : Nat) → List Token
  | 0, _, pending => src.plainTokens pending src.size
  | n + 1, pos, pending =>
    if pos < src.size then
      match g.hit? src pos with
      | none => scanFrom g src n (pos + 1) pending
      | some ⟨none, stop⟩ => scanFrom g src n stop pending
      | some ⟨some c, stop⟩ =>
        src.plainTokens pending pos ++ src.token c pos stop :: scanFrom g src n stop stop
    else src.plainTokens pending src.size

/-- The tokens of a source, in order. -/
def scan (g : Grammar) (src : Source) : List Token := g.scanFrom src src.size 0 0

/-- The tokens of a text. -/
def tokenize (g : Grammar) (text : String) : List Token := g.scan (.ofString text)

end Grammar
end Lexlight
