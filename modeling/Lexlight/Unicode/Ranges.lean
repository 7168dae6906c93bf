/-!
# Tables of code points

Two shapes of table hold what the library knows of Unicode. `Ranges` is a class of code points:
closed ranges in increasing order, so a search stops at the first range that begins past the code
point asked for. `Shifts` is a map of code points that moves whole runs by one distance: every
`step`-th code point from `first` to `last` moves with the first one, which goes to `image`. A
step of two is how scripts that alternate capital and small letters are listed.
-/

namespace Lexlight.Unicode

/-- A class of code points, as closed ranges in increasing order. -/
abbrev Ranges := List (Nat × Nat)

/-- The range that holds `n`, if the class does. -/
def Ranges.rangeOf? : Ranges → Nat → Option (Nat × Nat)
  | [], _ => none
  | r :: rest, n => if n < r.1 then none else if n ≤ r.2 then some r else Ranges.rangeOf? rest n

/-- Whether the class holds `n`. -/
def Ranges.contains : Ranges → Nat → Bool
  | [], _ => false
  | r :: rest, n => if n < r.1 then false else if n ≤ r.2 then true else Ranges.contains rest n

/-- A run of code points, `step` apart, that move together. -/
structure Shift where
  first : Nat
  last : Nat
  step : Nat
  image : Nat
  deriving Repr, DecidableEq

/-- A map that moves runs of code points and leaves all others in place. -/
abbrev Shifts := List Shift

/-- Where the map sends `n`. -/
def Shifts.image : Shifts → Nat → Nat
  | [], n => n
  | s :: rest, n =>
    if n < s.first then n
    else if n ≤ s.last then
      if (n - s.first) % s.step = 0 then s.image + (n - s.first) else n
    else Shifts.image rest n

/-- The moved code points that the map sends to `n`. -/
def Shifts.sources (shifts : Shifts) (n : Nat) : List Nat :=
  shifts.filterMap fun s =>
    if s.image ≤ n ∧ n - s.image ≤ s.last - s.first ∧ (n - s.image) % s.step = 0 then
      some (s.first + (n - s.image))
    else none

end Lexlight.Unicode
