import Lexlight.Quoted

/-!
# What can be wrong with a written pattern

`Reason` lists the causes for which a pattern cannot be read. Most are found at a place of the text,
and `Fault.message` then names the place, and its line and column when the text has more than one
line. Two faults are of another kind: a repetition count too large to be kept, and a demand for
ASCII and Unicode classes at once.
-/

namespace Lexlight

/-- A cause for which a pattern cannot be read. -/
inductive Reason where
  | unterminatedGroup
  | unbalancedParenthesis
  | unterminatedSet
  | badRange (first last : String)
  | nothingToRepeat
  | multipleRepeat
  | minAboveMax
  | danglingBackslash
  | badEscape (escape : String)
  | incompleteEscape (escape : String)
  | octalTooLarge (escape : String)
  | missingBrace
  | unknownCharacterName (name : String)
  | missingName (what : String)
  | unterminatedName (stop : Char)
  | badGroupName (name : String)
  | unknownGroupName (name : String)
  | redefinedGroup (name : String) (index earlier : Nat)
  | badGroupNumber
  | invalidGroupReference (group : Nat)
  | openGroup
  | groupInSameLookBehind
  | thirdBranch
  | unexpectedEnd
  | unknownExtension (text : String)
  | unterminatedComment
  | globalFlagsNotFirst
  | unknownFlag
  | missingFlag
  | missingFlagsEnd
  | missingColon
  | localeFlag
  | incompatibleFlags
  | globalFlagOn
  | globalFlagOff
  | classFlagOff
  | flagOnAndOff
  | lookBehindTooFar
  | lookBehindNotFixed
  | repetitionBarred (greed : String)
  deriving Repr, DecidableEq, Inhabited

/-- The wording of a cause. -/
def Reason.message : Reason → String
  | .unterminatedGroup => "missing ), unterminated subpattern"
  | .unbalancedParenthesis => "unbalanced parenthesis"
  | .unterminatedSet => "unterminated character set"
  | .badRange a b => "bad character range " ++ a ++ "-" ++ b
  | .nothingToRepeat => "nothing to repeat"
  | .multipleRepeat => "multiple repeat"
  | .minAboveMax => "min repeat greater than max repeat"
  | .danglingBackslash => "bad escape (end of pattern)"
  | .badEscape e => "bad escape " ++ e
  | .incompleteEscape e => "incomplete escape " ++ e
  | .octalTooLarge e => "octal escape value " ++ e ++ " outside of range 0-0o377"
  | .missingBrace => "missing \x7b"
  | .unknownCharacterName n => "undefined character name " ++ quoted n
  | .missingName what => "missing " ++ what
  | .unterminatedName stop => "missing " ++ stop.toString ++ ", unterminated name"
  | .badGroupName n => "bad character in group name " ++ quoted n
  | .unknownGroupName n => "unknown group name " ++ quoted n
  | .redefinedGroup n i e =>
    "redefinition of group name " ++ quoted n ++ " as group " ++ toString i ++
      "; was group " ++ toString e
  | .badGroupNumber => "bad group number"
  | .invalidGroupReference g => "invalid group reference " ++ toString g
  | .openGroup => "cannot refer to an open group"
  | .groupInSameLookBehind =>
    "cannot refer to group defined in the same lookbehind subpattern"
  | .thirdBranch => "conditional backref with more than two branches"
  | .unexpectedEnd => "unexpected end of pattern"
  | .unknownExtension t => "unknown extension ?" ++ t
  | .unterminatedComment => "missing ), unterminated comment"
  | .globalFlagsNotFirst => "global flags not at the start of the expression"
  | .unknownFlag => "unknown flag"
  | .missingFlag => "missing flag"
  | .missingFlagsEnd => "missing -, : or )"
  | .missingColon => "missing :"
  | .localeFlag => "bad inline flags: cannot use 'L' flag with a str pattern"
  | .incompatibleFlags => "bad inline flags: flags 'a', 'u' and 'L' are incompatible"
  | .globalFlagOn => "bad inline flags: cannot turn on global flag"
  | .globalFlagOff => "bad inline flags: cannot turn off global flag"
  | .classFlagOff => "bad inline flags: cannot turn off flags 'a', 'u' and 'L'"
  | .flagOnAndOff => "bad inline flags: flag turned on and off"
  | .lookBehindTooFar => "looks too much behind"
  | .lookBehindNotFixed => "look-behind requires fixed-width pattern"
  | .repetitionBarred g => "internal: unsupported template operator " ++ g

/-- Why a pattern was refused. -/
inductive Fault where
  /-- A cause found at a position of the text. -/
  | at (reason : Reason) (pos : Nat)
  /-- A cause found in the pattern as a whole. -/
  | whole (reason : Reason)
  | countTooLarge
  | asciiAndUnicode
  deriving Repr, DecidableEq, Inhabited

namespace Fault

/-- Line and column of a position, both counted from one. -/
def lineAndColumn (text : List Char) (pos : Nat) : Nat × Nat :=
  let before := text.take pos
  (before.count '\n' + 1, (before.reverse.takeWhile (· != '\n')).length + 1)

/-- The wording of a fault in the given pattern text. -/
def message (text : List Char) : Fault → String
  | .at reason pos =>
    let place := reason.message ++ " at position " ++ toString pos
    if '\n' ∈ text then
      let (line, column) := lineAndColumn text pos
      place ++ " (line " ++ toString line ++ ", column " ++ toString column ++ ")"
    else place
  | .whole reason => reason.message
  | .countTooLarge => "the repetition number is too large"
  | .asciiAndUnicode => "ASCII and UNICODE flags are incompatible"

end Fault
end Lexlight
