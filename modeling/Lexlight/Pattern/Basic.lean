import Lexlight.Pattern.CharTest

/-!
# Patterns

A pattern is matched at a position of a source and says how far it reaches. It is a tree: tests of
one character and of a place at the leaves, and above them sequence, ordered choice, repetition,
groups that remember what they matched, and looks ahead and behind. Choice and repetition are
ordered: what comes first is tried first, and the first way to match the whole wins.

`Width` bounds how many characters a pattern can take. A look behind needs it: it steps back by the
least width and matches forward from there, which is only right when all matches have one width.
-/

namespace Lexlight

/-- A condition on a place between two characters. -/
inductive Anchor where
  /-- The start of the source. -/
  | textStart
  /-- The end of the source. -/
  | textEnd
  /-- The start of the source, or just after a line feed. -/
  | lineStart
  /-- The end of the source, or just before a line feed. -/
  | lineEnd
  /-- The end of the source, or just before a line feed that ends it. -/
  | lastLineEnd
  /-- Between a word character and one that is none; `inside` asks for the opposite. -/
  | wordEdge (ascii inside : Bool)
  deriving Repr, DecidableEq, Inhabited

/-- In which order a repetition tries its counts. -/
inductive Greed where
  /-- As many rounds as possible first. -/
  | greedy
  /-- As few rounds as possible first. -/
  | lazy
  /-- As many rounds as possible, and no other count after that. -/
  | possessive
  deriving Repr, DecidableEq, Inhabited

/-- How many characters a pattern takes, at least and at most. -/
structure Width where
  least : Nat
  most : Nat
  deriving Repr, DecidableEq, Inhabited

namespace Width

/-- Widths are counted up to this bound and no further. -/
def bound : Nat := Nat.pow 2 64

/-- A width with both ends held to the bound. -/
def capped (least most : Nat) : Width := ⟨min least bound, min most bound⟩

/-- One after the other. -/
def append (a b : Width) : Width := capped (a.least + b.least) (a.most + b.most)

/-- Either of two. -/
def either (a b : Width) : Width := capped (min a.least b.least) (max a.most b.most)

/-- Between `least` and `most` rounds. -/
def times (w : Width) (least : Nat) : (most : Option Nat) → Width
  | some most => capped (w.least * least) (w.most * most)
  | none => capped (w.least * least) (if w.most = 0 then 0 else bound)

end Width

/-- A pattern. -/
inductive Pattern where
  /-- Takes nothing. -/
  | empty
  | char (test : CharTest)
  | anchor (a : Anchor)
  /-- What a group matched, once more. -/
  | again (group : Nat) (fold : Fold)
  | seq (first second : Pattern)
  | alt (first second : Pattern)
  /-- Between `least` and `most` rounds, or at least `least` when there is no `most`. -/
  | rep (body : Pattern) (least : Nat) (most : Option Nat) (greed : Greed)
  | group (index : Nat) (body : Pattern)
  /-- Whether what follows matches, without taking it. -/
  | ahead (wanted : Bool) (body : Pattern)
  /-- Whether what stands before matches. -/
  | behind (wanted : Bool) (width : Width) (body : Pattern)
  /-- The first match of the body, and no other one. -/
  | atomic (body : Pattern)
  /-- One body when a group has matched, the other when it has not. -/
  | ifGroup (group : Nat) (yes no : Pattern)
  deriving Repr, DecidableEq, Inhabited

namespace Pattern

/-- Patterns one after the other. -/
def ofList : List Pattern → Pattern
  | [] => .empty
  | [p] => p
  | p :: rest => .seq p (ofList rest)

/-- The characters of a text, one after the other. -/
def literal (fold : Fold) (s : String) : Pattern :=
  ofList (s.toList.map fun c => .char (.ofChar fold c))

/-- The width of a pattern, given those of the groups it refers back to. -/
def width (groups : List (Nat × Width)) : Pattern → Width
  | .empty | .anchor _ | .ahead .. | .behind .. => ⟨0, 0⟩
  | .char _ => ⟨1, 1⟩
  | .again g _ => (groups.lookup g).getD ⟨0, 0⟩
  | .seq a b => (width groups a).append (width groups b)
  | .alt a b | .ifGroup _ a b => (width groups a).either (width groups b)
  | .rep body least most _ => (width groups body).times least most
  | .group _ body | .atomic body => width groups body

end Pattern
end Lexlight
