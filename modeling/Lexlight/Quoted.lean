import Lexlight.Unicode.Printable

/-!
# Quoted text

How a text is shown inside a message: between quotes, on one line, with everything that cannot be
seen spelled out. Single quotes are used unless the text has one and has no double quote. Inside,
the quote in use and the backslash get a backslash, the tab, line feed and carriage return have
names, and every other character that is not printable is written by its code point in the
shortest of the three forms `\xNN`, `\uNNNN` and `\UNNNNNNNN` that holds it.
-/

namespace Lexlight.Quoted

/-- The lower-case hexadecimal digit of a value below sixteen. -/
def hexDigit (n : Nat) : Char := if n < 10 then Char.ofNat (48 + n) else Char.ofNat (87 + n)

/-- The last `width` hexadecimal digits of `n`. -/
def hex : (width : Nat) → (n : Nat) → List Char
  | 0, _ => []
  | w + 1, n => hex w (n / 16) ++ [hexDigit (n % 16)]

/-- A character by its code point. -/
def byCodePoint (c : Char) : List Char :=
  if c.toNat < 0x100 then '\\' :: 'x' :: hex 2 c.toNat
  else if c.toNat < 0x10000 then '\\' :: 'u' :: hex 4 c.toNat
  else '\\' :: 'U' :: hex 8 c.toNat

/-- One character as it stands between the given quotes. -/
def encodeChar (quote c : Char) : List Char :=
  if c = quote ∨ c = '\\' then ['\\', c]
  else if c = '\t' then ['\\', 't']
  else if c = '\n' then ['\\', 'n']
  else if c = '\r' then ['\\', 'r']
  else if Unicode.isPrintable c then [c]
  else byCodePoint c

/-- The quote that goes around a text. -/
def quoteFor (cs : List Char) : Char := if '\'' ∈ cs ∧ '"' ∉ cs then '"' else '\''

/-- A text in quotes. -/
def encode (cs : List Char) : List Char :=
  let quote := quoteFor cs
  quote :: cs.flatMap (encodeChar quote) ++ [quote]

end Lexlight.Quoted

namespace Lexlight

/-- A text in quotes. -/
def quoted (s : String) : String := String.ofList (Quoted.encode s.toList)

end Lexlight
