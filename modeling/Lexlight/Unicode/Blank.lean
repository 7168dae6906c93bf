import Lexlight.Unicode.Ranges

/-!
# White space

The characters of Unicode 14.0 that separate words: those of bidirectional class WS, B or S, and
category Zs. The zero-width space is not one of them.
-/

namespace Lexlight.Unicode

/-- White space. -/
def blanks : Ranges := [
  (0x9, 0xD), (0x1C, 0x20), (0x85, 0x85), (0xA0, 0xA0), (0x1680, 0x1680), (0x2000, 0x200A),
  (0x2028, 0x2029), (0x202F, 0x202F), (0x205F, 0x205F), (0x3000, 0x3000)]

/-- White space. -/
def isBlank (c : Char) : Bool := blanks.contains c.toNat

end Lexlight.Unicode
