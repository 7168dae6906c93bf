import Lexlight.Pattern.Fault
import Lexlight.Value

/-!
# Failures

Scanning never fails. What can fail is the making of grammars and registries, and the question for
a language by name; `Failure` lists the causes, and `Failure.message` words them.
-/

namespace Lexlight

/-- What is wrong with a description. -/
inductive Flaw where
  | languageName
  | notADescription (kind : String)
  | title
  | badAlias (v : Value)
  | unknownDescriptor (kind : String)
  /-- A marker, named by what it is for, that is no text or empty. -/
  | marker (what : String)
  | quoteLength (quote : String)
  | unknownCategory (v : Value)
  | patternAndVariants
  | noPattern
  | emptyPattern
  | badPattern (text : String) (fault : Fault)
  | badEntry (v : Value)
  deriving Repr, BEq, Inhabited

/-- The wording of a flaw. -/
def Flaw.message : Flaw → String
  | .languageName => "language name must be a non-empty string"
  | .notADescription kind => "factory returned " ++ kind ++ ", not GrammarDescriptor"
  | .title => "grammar name must be a non-empty string"
  | .badAlias v => "aliases must be non-empty strings, got " ++ v.shown
  | .unknownDescriptor kind => "unsupported rule descriptor " ++ kind
  | .marker what => what ++ " must be a non-empty string"
  | .quoteLength quote => "string quote must be one character, got " ++ quoted quote
  | .unknownCategory v => "unknown token category " ++ v.shown
  | .patternAndVariants => "custom rule takes a pattern or variants, not both"
  | .noPattern => "custom rule needs a pattern or variants"
  | .emptyPattern => "rule pattern must be a non-empty string"
  | .badPattern text fault =>
    "invalid pattern " ++ quoted text ++ ": " ++ fault.message text.toList
  | .badEntry v => "keyword entries must be non-empty strings, got " ++ v.shown

/-- The wording of an error in the grammar of a language. -/
def grammarMessage (language message : String) : String :=
  "Grammar '" ++ language ++ "': " ++ message

/-- The wording of a name that is taken. -/
def takenMessage (key owner : String) : String :=
  "'" ++ key ++ "' already registered by '" ++ owner ++ "'"

/-- Why something could not be made or found. -/
inductive Failure where
  /-- The description of a language has a flaw. -/
  | flaw (language : String) (flaw : Flaw)
  /-- A name of a language is that of one already there. -/
  | taken (language key owner : String)
  | unknownLanguage (name : Value) (available : List String)
  | unknownCategory (name : String)
  /-- A value of a kind that lacks a part was used for that part. -/
  | missingPart (kind part : String)
  | outOfRange
  | countTooLarge
  | asciiAndUnicode
  /-- Raised by code of a caller. -/
  | raised (message : String)
  deriving Repr, BEq, Inhabited

/-- The wording of a failure. -/
def Failure.message : Failure → String
  | .flaw language f => grammarMessage language f.message
  | .taken language key owner => grammarMessage language (takenMessage key owner)
  | .unknownLanguage name available =>
    "Unknown language: " ++ name.shown ++ ". Available: " ++ ", ".intercalate available
  | .unknownCategory name => quoted name ++ " is not a valid TokenCategory"
  | .missingPart kind part => "'" ++ kind ++ "' object has no attribute '" ++ part ++ "'"
  | .outOfRange => "string index out of range"
  | .countTooLarge => Fault.message [] .countTooLarge
  | .asciiAndUnicode => Fault.message [] .asciiAndUnicode
  | .raised message => message

end Lexlight
