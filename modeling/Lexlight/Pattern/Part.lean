import Lexlight.Pattern.Basic

/-!
# Parts of a pattern

A pattern is put together from parts that stand one after the other. What a part is decides how it
may be combined further: a repetition cannot be repeated once more, an anchor cannot be repeated at
all, and alternatives that begin with the same simple part share it. Alternatives that are each a
test of one character become one set, which matters when case is not looked at, because a set
treats code points past the basic plane in its own way.
-/

namespace Lexlight

/-- What a part is to the parts around it. -/
inductive PartKind where
  | test
  | anchor
  | again
  | repetition
  /-- Anything that is closed in itself, such as a group. -/
  | closed
  deriving Repr, DecidableEq, Inhabited

/-- One of the parts that make up a sequence. -/
structure Part where
  kind : PartKind
  pattern : Pattern
  deriving Repr, DecidableEq, Inhabited

namespace Part

/-- A test of one character as a part. -/
def ofTest (t : CharTest) : Part := ⟨.test, .char t⟩

/-- A character as a part. -/
def ofChar (fold : Fold) (c : Char) : Part := ofTest (.ofChar fold c)

/-- Whether equal parts of this kind may be shared by alternatives. -/
def isSimple (p : Part) : Bool := p.kind = .test || p.kind = .anchor || p.kind = .again

/-- The pattern of a sequence of parts. -/
def sequence (ps : List Part) : Pattern := .ofList (ps.map (·.pattern))

/-- The members of a set that takes what the part takes, and how it looks at case, if the part is a
test that a set can stand for. -/
def members? (p : Part) : Option (List SetMember × Fold) :=
  match p.kind, p.pattern with
  | .test, .char (.one n fold false) => some ([.one n], fold)
  | .test, .char (.oneOf ms fold false) => some (ms, fold)
  | _, _ => none

/-- The parts that all alternatives begin with, as far as they are simple. -/
def sharedStart : List Part → List (List Part) → List Part
  | [], _ => []
  | p :: rest, others =>
    if p.isSimple && others.all (fun o => o.head? == some p) then
      p :: sharedStart rest (others.map List.tail)
    else []

/-- One set for alternatives that are single tests of a character. -/
def asSet? : List (List Part) → Option CharTest
  | [] => none
  | alternatives => do
    let ms ← alternatives.mapM fun a =>
      match a with
      | [p] => p.members?
      | _ => none
    let fold := (ms.head?.map Prod.snd).getD .exact
    some (.oneOf (ms.flatMap Prod.fst).eraseDups fold false)

/-- Ordered choice between sequences. -/
def choice : List (List Part) → Pattern
  | [] => .empty
  | [a] => sequence a
  | a :: rest => .alt (sequence a) (choice rest)

/-- The parts that stand for a choice between sequences. -/
def alternatives : List (List Part) → List Part
  | [] => []
  | [a] => a
  | a :: rest =>
    let start := sharedStart a rest
    let tails := (a :: rest).map (·.drop start.length)
    match asSet? tails with
    | some t => start ++ [ofTest t]
    | none => start ++ [⟨.closed, choice tails⟩]

end Part
end Lexlight
