import Lexlight.Pattern.Reading.Basic
import Lexlight.Unicode.Letter

/-!
# Flags inside a pattern

Letters after `(?` turn flags on, and after a hyphen more letters turn flags off. Closed by a
parenthesis, the letters hold for the whole pattern; closed by a colon, for the group that follows.
-/

namespace Lexlight.Reading

/-- What a row of flag letters asks for. -/
inductive FlagRequest where
  | whole (on : List Char)
  | group (on off : List Char)
  deriving Repr, DecidableEq, Inhabited

/-- The letter of a flag, if a glyph is one. -/
def flagLetter? : Glyph → Option Char
  | .plain c => if c ∈ Flags.letters then some c else none
  | .escaped _ => none

/-- Gives up at a glyph that is no flag letter: some other letter, or else what is `missing`. -/
def notAFlag {α : Type} (missing : Reason) (g : Glyph) : Reading α :=
  let isLetter := match g with
    | .plain c => Unicode.isLetter c
    | .escaped _ => false
  fail (if isLetter then .unknownFlag else missing) g.size

/-- The letters turned on, beginning with one already taken, and the glyph that ends them. -/
def flagsOn : Nat → List Char → Char → Reading (List Char × Char)
  | 0, _, _ => fail .missingFlagsEnd 0
  | n + 1, seen, c => do
    let on := seen ++ [c]
    if c = 'L' then fail .localeFlag 0
    else if c ∈ Flags.classLetters && on.any (fun d => d ∈ Flags.classLetters && d ≠ c) then
      fail .incompatibleFlags 0
    else
      match ← next with
      | none => fail .missingFlagsEnd 0
      | some g =>
        if g = .plain ')' then return (on, ')')
        else if g = .plain '-' then return (on, '-')
        else if g = .plain ':' then return (on, ':')
        else
          match flagLetter? g with
          | some d => flagsOn n on d
          | none => notAFlag .missingFlagsEnd g

/-- The letters turned off, beginning with one already taken, up to the colon. -/
def flagsOff : Nat → List Char → Char → Reading (List Char)
  | 0, _, _ => fail .missingColon 0
  | n + 1, seen, c => do
    let off := seen ++ [c]
    if c ∈ Flags.classLetters then fail .classFlagOff 0
    else
      match ← next with
      | none => fail .missingColon 0
      | some g =>
        if g = .plain ':' then return off
        else
          match flagLetter? g with
          | some d => flagsOff n off d
          | none => notAFlag .missingColon g

/-- The letters turned off, after the hyphen. -/
def flagsOffStart (n : Nat) : Reading (List Char) := do
  match ← next with
  | none => fail .missingFlag 0
  | some g =>
    match flagLetter? g with
    | some c => flagsOff n [] c
    | none => notAFlag .missingFlag g

/-- A row of flag letters, of which the first, or the hyphen, is already taken. -/
def flagRequest (first : Char) : Reading FlagRequest := do
  let n := (← get).rest.length + 1
  let (on, stop) ← if first = '-' then pure ([], '-') else flagsOn n [] first
  if stop = ')' then return .whole on
  else if 't' ∈ on then fail .globalFlagOn 1
  else
    let off ← if stop = '-' then flagsOffStart n else pure []
    if 't' ∈ off then fail .globalFlagOff 1
    else if on.any (· ∈ off) then fail .flagOnAndOff 1
    else return .group on off

end Lexlight.Reading
