/-!
# Categories

What a stretch of source text can be. A category has a name in grammar descriptions, a label in the
display of a token, and, unless it stands for plain text, a scope, which names the class of its
markup.
-/

namespace Lexlight

/-- What a stretch of source text is. -/
inductive Category where
  | keyword
  | builtin
  | string
  | comment
  | hexNumber
  | binNumber
  | decNumber
  | floatNumber
  | symbol
  | text
  deriving Repr, DecidableEq, Inhabited

namespace Category

/-- All categories, in their order. -/
def all : List Category :=
  [.keyword, .builtin, .string, .comment, .hexNumber, .binNumber, .decNumber, .floatNumber,
    .symbol, .text]

theorem mem_all (c : Category) : c ∈ all := by cases c <;> decide

/-- The name in grammar descriptions. -/
def name : Category → String
  | .keyword => "keyword"
  | .builtin => "builtin"
  | .string => "string"
  | .comment => "comment"
  | .hexNumber => "number-hex"
  | .binNumber => "number-bin"
  | .decNumber => "number-dec"
  | .floatNumber => "number-float"
  | .symbol => "symbol"
  | .text => "text"

/-- The label in the display of a token. -/
def label : Category → String
  | .keyword => "KEYWORD"
  | .builtin => "BUILTIN"
  | .string => "STRING"
  | .comment => "COMMENT"
  | .hexNumber => "NUMBER_HEX"
  | .binNumber => "NUMBER_BIN"
  | .decNumber => "NUMBER_DEC"
  | .floatNumber => "NUMBER_FLOAT"
  | .symbol => "SYMBOL"
  | .text => "TEXT"

/-- The scope that markup shows. Plain text has none, and all numbers share one. -/
def scope? : Category → Option String
  | .keyword => some "keyword"
  | .builtin => some "built_in"
  | .string => some "string"
  | .comment => some "comment"
  | .hexNumber | .binNumber | .decNumber | .floatNumber => some "number"
  | .symbol => some "symbol"
  | .text => none

/-- The category of a name. -/
def ofName? (s : String) : Option Category := all.find? fun c => c.name = s

end Category
end Lexlight
