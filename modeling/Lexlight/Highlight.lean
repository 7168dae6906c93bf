import Lexlight.Detection
import Lexlight.Markup.Render
import Lexlight.Settings
import Lexlight.Unicode.Lowercase

/-!
# Highlighting

A text in a known language becomes markup in which every token has its span, whole or by lines: by
lines when lines are to be emphasized or numbered. A text in an unknown language stands in the
markup as it is, escaped. Either way the language is named by a class, which is the name of the
grammar if it is known, and the name asked for if not.

A language is looked for under the name given, and then under that name in lower case.
-/

namespace Lexlight

/-- What is asked of a highlighter. -/
structure HighlightRequest where
  code : String
  language : Value
  /-- The lines to emphasize, by number, from one. -/
  lines? : Option (List Value) := none
  /-- Whether lines get numbers. -/
  numbered : Bool := false
  deriving Repr, Inhabited

/-- Whether a value is a given number. -/
def Value.isNumber (n : Nat) : Value → Bool
  | .int m => m = n
  | .bool b => n = b.toNat
  | .decimal m places => m = (n : Int) * Int.pow 10 places
  | _ => false

/-- The grammar of a language, whatever the case of the name given. -/
def Registry.find? (r : Registry) (name : String) : Option Grammar :=
  (r.get? name).or (r.get? (Unicode.lowercase name))

namespace Markup

/-- A text at the right end of a field. -/
def padLeft (width : Nat) (s : String) : String :=
  String.ofList (List.replicate (width - s.length) ' ' ++ s.toList)

/-- A line with its number, where lines are numbered, and in a span where it is emphasized. -/
def finishLine (settings : Settings) (numbered : Bool) (emphasized : List Value) (width n : Nat)
    (line : String) : String :=
  let line :=
    if numbered then span settings.numberClass (padLeft width (toString n)) ++ line else line
  if emphasized.any (·.isNumber n) then span settings.lineClass line else line

/-- Rendered lines, finished and joined again. -/
def finishLines (settings : Settings) (numbered : Bool) (emphasized : List Value)
    (lines : List String) : String :=
  let width := (toString lines.length).length
  "\n".intercalate <| (lines.zipIdx 1).map fun (line, n) =>
    finishLine settings numbered emphasized width n line

/-- The whole of the markup, around its body. -/
def block (classText body : String) : String :=
  "<pre><code" ++ classText ++ ">" ++ body ++ "</code></pre>"

/-- The attribute that names the class of a language. -/
def languageClass (settings : Settings) (name : String) : String :=
  " class=\"" ++ settings.languageClassStart ++ name ++ "\""

/-- What stands in the markup of a text in a known language. -/
def body (settings : Settings) (g : Grammar) (req : HighlightRequest) : String :=
  let pieces := (g.tokenize req.code).map Token.toPiece
  let emphasized := req.lines?.getD []
  if emphasized.isEmpty && !req.numbered then render settings.classStart pieces
  else finishLines settings req.numbered emphasized (renderLines settings.classStart pieces)

/-- A text in a known language. -/
def highlighted (settings : Settings) (g : Grammar) (req : HighlightRequest) : String :=
  block (languageClass settings g.language) (body settings g req)

/-- A text in an unknown language. A language that counts as present has to be a text. -/
def unhighlighted (settings : Settings) (req : HighlightRequest) : Except Failure String :=
  if !req.language.isSet then return block "" (escape req.code)
  else
    match req.language with
    | .string name => return block (languageClass settings (escapeAttribute name)) (escape req.code)
    | v => throw (.missingPart v.kind "replace")

end Markup

/-- A text highlighted with the languages of a registry. -/
def Registry.highlight (r : Registry) (settings : Settings) (req : HighlightRequest) :
    Except Failure String :=
  match req.language.nonEmpty?.bind r.find? with
  | some g => return Markup.highlighted settings g req
  | none => Markup.unhighlighted settings req

/-- Whether a registry knows a language. -/
def Registry.supports (r : Registry) (language : Value) : Bool :=
  (language.nonEmpty?.bind r.find?).isSome

end Lexlight
