/-!
# Escaping for markup

The characters that markup gives a meaning to are written by name: `&`, `<` and `>` in text, and
the two quotes as well inside the value of an attribute.
-/

namespace Lexlight.Markup

/-- A character of text. -/
def escapeChar : Char → List Char
  | '&' => ['&', 'a', 'm', 'p', ';']
  | '<' => ['&', 'l', 't', ';']
  | '>' => ['&', 'g', 't', ';']
  | c => [c]

/-- A character of the value of an attribute. -/
def escapeAttributeChar : Char → List Char
  | '"' => ['&', 'q', 'u', 'o', 't', ';']
  | '\'' => ['&', '#', 'x', '2', '7', ';']
  | c => escapeChar c

/-- Text in markup. -/
def escape (s : String) : String := String.ofList (s.toList.flatMap escapeChar)

/-- The value of an attribute. -/
def escapeAttribute (s : String) : String := String.ofList (s.toList.flatMap escapeAttributeChar)

end Lexlight.Markup
