/-!
# Source text

A source is what gets scanned and matched: its characters by position, counted in code points from
zero. Every offset in the library is such a position.
-/

namespace Lexlight

/-- A text by character position. -/
abbrev Source := Array Char

namespace Source

/-- The source that holds the characters of a string. -/
def ofString (s : String) : Source := s.toList.toArray

/-- The text between two positions, the second one not included. -/
def slice (src : Source) (start stop : Nat) : String :=
  String.ofList (src.extract start stop).toList

@[simp] theorem size_ofString (s : String) : (ofString s).size = s.toList.length := by
  simp [ofString]

end Source
end Lexlight
