import Lexlight.Markup.Escape
import Lexlight.Token

/-!
# Rendering pieces as markup

A piece with a scope becomes a span whose class is the scope after a given start, `classStart`;
plain text stands for itself. Rendered by lines, a piece that goes over several lines is cut at each
line feed, so that the spans of every line are closed in it. The line feeds are not part of the
lines, and a piece with nothing on a line leaves no span there.
-/

namespace Lexlight.Markup

/-- Text in a span of a class. -/
def span (cls body : String) : String := "<span class=\"" ++ cls ++ "\">" ++ body ++ "</span>"

/-- Text of a scope. -/
def spanned (classStart : String) (scope? : Option String) (text : String) : String :=
  match scope? with
  | none => escape text
  | some scope => span (classStart ++ scope) (escape text)

/-- A piece as markup. -/
def piece (classStart : String) (p : Piece) : String := spanned classStart p.category.scope? p.text

/-- Pieces as markup. -/
def render (classStart : String) (ps : List Piece) : String :=
  String.join (ps.map (piece classStart))

/-- What stands between the line feeds of a text, before the first and after the last. -/
def splitLines : List Char → List (List Char)
  | [] => [[]]
  | c :: rest =>
    if c = '\n' then [] :: splitLines rest
    else
      match splitLines rest with
      | [] => [[c]]
      | line :: lines => (c :: line) :: lines

/-- The lines of one text and of another right after it: the last of the one goes on in the first of
the other. -/
def joinLines : List String → List String → List String
  | [], more => more
  | [line], [] => [line]
  | [line], next :: more => (line ++ next) :: more
  | line :: lines, more => line :: joinLines lines more

/-- The lines of a piece as markup. -/
def pieceLines (classStart : String) (p : Piece) : List String :=
  (splitLines p.text.toList).map fun line =>
    if line.isEmpty then "" else spanned classStart p.category.scope? (String.ofList line)

/-- Pieces as markup, line by line. -/
def renderLines (classStart : String) (ps : List Piece) : List String :=
  ps.foldr (fun p lines => joinLines (pieceLines classStart p) lines) [""]

end Lexlight.Markup
