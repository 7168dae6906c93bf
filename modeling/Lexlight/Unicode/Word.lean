import Lexlight.Unicode.Letter
import Lexlight.Unicode.Number

/-!
# Word characters

A word is made of letters, digits, numerals and underscores. The same class decides where a
lexeme may begin, what `\w` stands for in a pattern, and where `\b` sees an edge.
-/

namespace Lexlight.Unicode

/-- A letter, digit or numeral. -/
def isAlphanumeric (c : Char) : Bool := isLetter c || isDigit c || isNumeral c

/-- A character that words are made of. -/
def isWord (c : Char) : Bool := c = '_' || isAlphanumeric c

theorem isWord_of_isDigit {c : Char} (h : isDigit c = true) : isWord c = true := by
  simp [isWord, isAlphanumeric, h]

theorem isWord_of_isLetter {c : Char} (h : isLetter c = true) : isWord c = true := by
  simp [isWord, isAlphanumeric, h]

/-- Whether a text, taken as one symbol, is of the word class: it is a lone underscore, or it is
not empty and holds nothing but letters, digits and numerals. -/
def isWordText (s : String) : Bool :=
  s = "_" || (!s.isEmpty && s.toList.all isAlphanumeric)

end Lexlight.Unicode
