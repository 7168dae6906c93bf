import Lexlight.Value

/-!
# Settings of the markup

The class names that markup uses: how the classes of spans and of languages begin, and the classes
of emphasized lines and of line numbers.
-/

namespace Lexlight

/-- The class names of markup. -/
structure Settings where
  classStart : String := "hljs-"
  languageClassStart : String := "language-"
  lineClass : String := "hll"
  numberClass : String := "lineno"
  deriving Repr, DecidableEq, Inhabited

namespace Settings

/-- One setting by its name. A name that is none of a setting changes nothing. -/
def put (s : Settings) (name : String) (v : Value) : Settings :=
  match name with
  | "class_prefix" => { s with classStart := v.plain }
  | "language_class_prefix" => { s with languageClassStart := v.plain }
  | "line_class" => { s with lineClass := v.plain }
  | "lineno_class" => { s with numberClass := v.plain }
  | _ => s

/-- Settings from named values, the others being as they are by default. -/
def ofMembers (members : List (String × Value)) : Settings :=
  members.foldl (fun s (name, v) => s.put name v) {}

end Settings
end Lexlight
