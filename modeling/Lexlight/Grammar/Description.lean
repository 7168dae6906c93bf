import Lexlight.Value

/-!
# Grammar descriptions

A language describes itself by data: its title, its aliases, an ordered list of rule descriptions,
and word lists. A description is not checked until it is compiled, so any place where a text belongs
can hold any value, and in place of a whole description there may be something else altogether.
-/

namespace Lexlight

/-- One of the patterns of a rule. -/
inductive Variant where
  /-- A pattern of the category of its rule. -/
  | bare (pattern : String)
  /-- A pattern of a category of its own, or of that of its rule if the category is null. -/
  | of (pattern category : Value)
  | unknown (v : Value)
  deriving Repr, Inhabited

/-- The description of a rule, or of a group of rules. -/
inductive RuleDescription where
  /-- A comment from a marker to the end of its line. -/
  | lineComment (marker : Value) (relevance : Int)
  /-- A comment from a start marker to the nearest end marker. -/
  | blockComment (start stop : Value) (relevance : Int)
  /-- A string between quotes, with backslash escapes. -/
  | quotedString (quote : Value) (relevance : Int)
  /-- One pattern, or several that share a weight. -/
  | custom (category pattern : Value) (relevance : Int) (variants : List Variant)
  | unknown (v : Value)
  deriving Repr, Inhabited

/-- A comment between two markers; an end marker `$` stands for the end of the line. -/
def RuleDescription.comment (start stop : Value) (relevance : Int) : RuleDescription :=
  if stop.text? = some "$" then .lineComment start relevance
  else .blockComment start stop relevance

/-- Word lists, and what a lexeme is. -/
structure WordLists where
  pattern : Value := .string "\\w+"
  keyword : List Value := []
  builtin : List Value := []
  relevance : Int := 1
  deriving Repr, Inhabited

/-- The description of a language. -/
structure LanguageDescription where
  title : Value
  aliases : List Value := []
  caseSensitive : Bool := true
  words? : Option WordLists := none
  contains : List RuleDescription := []
  deriving Repr, Inhabited

/-- What is offered as the description of a language. -/
inductive Offer where
  | description (d : LanguageDescription)
  | unknown (v : Value)
  deriving Repr, Inhabited

end Lexlight
