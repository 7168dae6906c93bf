import Lexlight.Scan.Cursor

/-!
# Scans that take turns

A lexer is a source with the grammar it is scanned by. Several scans, told apart by number, go over
it in any order of turns. At a turn a scan is begun, at the start of the source, or asked for its
next token. Either moves that scan and leaves the others where they stand, so what a scan gives at
its turns is what it would give alone.
-/

namespace Lexlight

/-- Where each of several scans stands, by number. -/
abbrev Cursors := Int → Cursor

namespace Cursors

/-- All scans at the start of the source. -/
def start : Cursors := fun _ => {}

/-- One scan put somewhere else. -/
def put (cs : Cursors) (i : Int) (c : Cursor) : Cursors := fun j => if j = i then c else cs j

end Cursors

/-- A source, the grammar it is scanned by, and where the scans over it stand. -/
structure Lexer where
  grammar : Grammar
  source : Source
  cursors : Cursors := .start

/-- A turn of one scan: it is begun, or asked for a token. -/
inductive Turn where
  | begin (scan : Int)
  | next (scan : Int)
  deriving Repr, DecidableEq, Inhabited

/-- Something done with a lexer. -/
abbrev Lexing := StateM Lexer

namespace Lexer

/-- Begins a scan. -/
def begin (i : Int) : Lexing Unit := modify fun l => { l with cursors := l.cursors.put i {} }

/-- Asks a scan for its next token, if it has one left. -/
def next (i : Int) : Lexing (Option Token) := do
  let l ← get
  match (l.cursors i).next? l.grammar l.source with
  | some (t, c) =>
    set { l with cursors := l.cursors.put i c }
    return some t
  | none => return none

/-- What is given at a turn. -/
def turn : Turn → Lexing (Option Token)
  | .begin i => do
    begin i
    return none
  | .next i => next i

/-- What is given at each of some turns. -/
def turns (ts : List Turn) : Lexing (List (Option Token)) := ts.mapM turn

end Lexer

/-- What the scans give when they are asked for tokens in the given order. -/
def Cursors.turns (g : Grammar) (src : Source) (cs : Cursors) (order : List Int) :
    List (Option Token) :=
  ((Lexer.turns (order.map .next)).run { grammar := g, source := src, cursors := cs }).run.1

end Lexlight
