import Lexlight.Pattern.Part
import Lexlight.Pattern.Fault

/-!
# Reading a written pattern: glyphs and what is kept

A written pattern is read glyph by glyph, where a glyph is one character, or a backslash with the
character after it. A backslash with nothing after it is a fault as soon as it is the next glyph,
whatever stands before it.

`ReadState` is what reading keeps: the text that is left and its position, the flags in force for
the whole pattern, and what is known of the groups. A group is open from its parenthesis until the
one that closes it; when it closes, its width is recorded, so the groups with a width are the closed
ones.
-/

namespace Lexlight

/-- The flags under which a pattern, or a part of it, is read. -/
structure Flags where
  ignoreCase : Bool := false
  multiline : Bool := false
  dotAll : Bool := false
  verbose : Bool := false
  ascii : Bool := false
  unicode : Bool := false
  /-- No repetition is allowed. -/
  plain : Bool := false
  deriving Repr, DecidableEq, Inhabited

namespace Flags

/-- How case is looked at under these flags. -/
def fold (f : Flags) : Fold := if !f.ignoreCase then .exact else if f.ascii then .ascii else .full

/-- The flag of a letter, turned on or off. -/
def set (f : Flags) (letter : Char) (on : Bool) : Flags :=
  match letter with
  | 'i' => { f with ignoreCase := on }
  | 'm' => { f with multiline := on }
  | 's' => { f with dotAll := on }
  | 'x' => { f with verbose := on }
  | 'a' => { f with ascii := on }
  | 'u' => { f with unicode := on }
  | 't' => { f with plain := on }
  | _ => f

/-- The letters that stand for flags. -/
def letters : List Char := ['i', 'L', 'm', 's', 'x', 'a', 't', 'u']

/-- The letters of the flags that choose between classes of characters. -/
def classLetters : List Char := ['a', 'L', 'u']

/-- Flags turned on for the whole pattern. -/
def turnOn (f : Flags) (letters : List Char) : Flags := letters.foldl (·.set · true) f

/-- Flags turned on and off for a part. A choice of classes takes the place of the one in force. -/
def forPart (f : Flags) (on off : List Char) : Flags :=
  let base :=
    if on.any (· ∈ classLetters) then { f with ascii := false, unicode := false } else f
  off.foldl (·.set · false) (base.turnOn on)

end Flags

namespace Reading

/-- The unit in which a written pattern is read. -/
inductive Glyph where
  | plain (c : Char)
  | escaped (c : Char)
  deriving Repr, DecidableEq, Inhabited

/-- The characters of a glyph. -/
def Glyph.text : Glyph → List Char
  | .plain c => [c]
  | .escaped c => ['\\', c]

/-- How many characters a glyph has. -/
def Glyph.size (g : Glyph) : Nat := g.text.length

/-- What reading keeps. -/
structure ReadState where
  rest : List Char
  pos : Nat
  flags : Flags
  /-- The number of the next group. -/
  nextGroup : Nat := 1
  /-- The widths of the closed groups. -/
  widths : List (Nat × Width) := []
  names : List (List Char × Nat) := []
  /-- Inside a look behind, the number of the first group that was opened within it. -/
  behindFrom : Option Nat := none
  /-- Conditions on groups by number, last first, with the positions of the numbers. -/
  conditions : List (Nat × Nat) := []
  deriving Repr, Inhabited

end Reading

/-- A step of reading. -/
abbrev Reading := StateT Reading.ReadState (Except Fault)

namespace Reading

/-- Gives up, with the position `back` characters before the one reached. -/
def fail {α : Type} (reason : Reason) (back : Nat) : Reading α := do
  throw (.at reason ((← get).pos - back))

/-- Gives up, with a given position. -/
def failAt {α : Type} (reason : Reason) (pos : Nat) : Reading α := throw (.at reason pos)

/-- The glyph a text begins with. -/
def headGlyph? : List Char → Option Glyph
  | [] => none
  | '\\' :: c :: _ => some (.escaped c)
  | c :: _ => some (.plain c)

/-- The next glyph. -/
def peek : Reading (Option Glyph) := return headGlyph? (← get).rest

/-- The position reached. -/
def position : Reading Nat := return (← get).pos

/-- Refuses a text that is only a backslash. -/
def checkDangling : Reading Unit := do
  if (← get).rest = ['\\'] then fail .danglingBackslash 0

/-- Steps over the next glyph, if there is one. -/
def advance : Reading Unit := do
  let s ← get
  match headGlyph? s.rest with
  | none => return
  | some g =>
    set { s with rest := s.rest.drop g.size, pos := s.pos + g.size }
    checkDangling

/-- Takes the next glyph. -/
def next : Reading (Option Glyph) := do
  let g ← peek
  advance
  return g

/-- Steps over the next glyph if it is the given character. -/
def accept (c : Char) : Reading Bool := do
  if (← peek) = some (.plain c) then
    advance
    return true
  else return false

/-- Takes up to `n` characters of a kind. -/
def takeUpTo (ok : Char → Bool) : Nat → Reading (List Char)
  | 0 => return []
  | n + 1 => do
    match ← peek with
    | some (.plain c) =>
      if ok c then
        advance
        return c :: (← takeUpTo ok n)
      else return []
    | _ => return []

/-- Takes all characters of a kind. -/
def takeAll (ok : Char → Bool) : Reading (List Char) := do takeUpTo ok (← get).rest.length

/-- Takes what stands before a given character, and that character; `seen` was taken before. -/
def nameUpTo (stop : Char) (what : String) : Nat → List Char → Reading (List Char)
  | 0, seen => fail (.unterminatedName stop) seen.length
  | n + 1, seen => do
    match ← next with
    | none =>
      if seen = [] then fail (.missingName what) 0
      else fail (.unterminatedName stop) seen.length
    | some g =>
      if g = .plain stop then
        if seen = [] then fail (.missingName what) 1 else return seen
      else nameUpTo stop what n (seen ++ g.text)

/-- Takes a name that ends at a given character, and that character. -/
def nameUntil (stop : Char) (what : String) : Reading (List Char) := do
  nameUpTo stop what ((← get).rest.length + 1) []

/-- Whether a group is closed. -/
def isClosed (group : Nat) : Reading Bool := return ((← get).widths.lookup group).isSome

/-- A look behind refers only to groups that were closed before it began. -/
def checkBehind (group : Nat) : Reading Unit := do
  match (← get).behindFrom with
  | none => return
  | some first =>
    if !(← isClosed group) then fail .openGroup 0
    else if group ≥ first then fail .groupInSameLookBehind 0

/-- A digit of base ten. -/
def isDecimal (c : Char) : Bool := '0' ≤ c && c ≤ '9'

/-- A digit of base eight. -/
def isOctal (c : Char) : Bool := '0' ≤ c && c ≤ '7'

/-- A digit of base sixteen. -/
def isHex (c : Char) : Bool := isDecimal c || ('a' ≤ c && c ≤ 'f') || ('A' ≤ c && c ≤ 'F')

/-- The value of a digit of base sixteen or less. -/
def digitOf (c : Char) : Nat :=
  if isDecimal c then c.toNat - 48
  else if 'a' ≤ c then c.toNat - 87
  else c.toNat - 55

/-- The number that digits write. -/
def number (base : Nat) (digits : List Char) : Nat :=
  digits.foldl (fun n c => n * base + digitOf c) 0

end Reading
end Lexlight
