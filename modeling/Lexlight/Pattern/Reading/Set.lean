import Lexlight.Pattern.Reading.Escape

/-!
# Sets

A set stands in square brackets: characters, escapes, and ranges from one character to another. A
caret at its start asks for the characters that are not in it. A closing bracket that comes first
is a member like any other, and so is a hyphen that comes first or last. A set of one character
that occurs in it, however often, is the test for that character.
-/

namespace Lexlight.Reading

variable [CharacterNames]

/-- A member of a set, which is also the start of a range, from its first glyph. -/
def setMember (flags : Flags) : Glyph → Reading SetMember
  | .plain c => return .one c.toNat
  | .escaped c => setEscape flags c

/-- The fault of a range that two glyphs cannot write. -/
def badRange {α : Type} (first last : Glyph) : Reading α :=
  fail (.badRange (String.ofList first.text) (String.ofList last.text))
    (first.size + 1 + last.size)

/-- The members of a set from here to its end, those `seen` being before them, last first; `start`
is where its bracket stands. -/
def setMembers (flags : Flags) (start : Nat) :
    Nat → List SetMember → Reading (List SetMember)
  | 0, _ => failAt .unterminatedSet start
  | n + 1, seen => do
    match ← next with
    | none => failAt .unterminatedSet start
    | some first =>
      if first = .plain ']' && !seen.isEmpty then return seen.reverse
      else
        let m ← setMember flags first
        if !(← accept '-') then setMembers flags start n (m :: seen)
        else
          match ← next with
          | none => failAt .unterminatedSet start
          | some last =>
            if last = .plain ']' then return (.one '-'.toNat :: m :: seen).reverse
            else
              match m, ← setMember flags last with
              | .one a, .one b =>
                if b < a then badRange first last
                else setMembers flags start n (.range a b :: seen)
              | _, _ => badRange first last

/-- A set, after its bracket, which stands at `start`. -/
def bracketed (flags : Flags) (start : Nat) : Reading CharTest := do
  let negated ← accept '^'
  let members ← setMembers flags start ((← get).rest.length + 1) []
  match members.eraseDups with
  | [.one n] => return .one n flags.fold negated
  | distinct => return .oneOf distinct flags.fold negated

end Lexlight.Reading
