import Lexlight.Scan.Basic

/-!
# Scanning one token at a time

A cursor is a scan that stops after each token. It remembers where it stands, where the text begins
that is not yet in a token, and, when plain text had to be given first, the token that comes right
after it. Cursors are values, so any number of them can go over one source, each on its own.
-/

namespace Lexlight

/-- A scan that has given some of its tokens. -/
structure Cursor where
  pos : Nat := 0
  pending : Nat := 0
  /-- A token that was found and is still to be given. -/
  owed? : Option Token := none
  deriving Repr, DecidableEq, Inhabited

namespace Cursor

/-- The end of a scan: the text that is left over, once. -/
def finish (src : Source) (pending : Nat) : Option (Token × Cursor) :=
  if pending < src.size then
    some (src.token .text pending src.size, ⟨src.size, src.size, none⟩)
  else none

/-- The next token within so many steps of the scan. -/
def advance (g : Grammar) (src : Source) : (steps pos pending : Nat) → Option (Token × Cursor)
  | 0, _, pending => finish src pending
  | n + 1, pos, pending =>
    if pos < src.size then
      match g.hit? src pos with
      | none => advance g src n (pos + 1) pending
      | some ⟨none, stop⟩ => advance g src n stop pending
      | some ⟨some c, stop⟩ =>
        let found := src.token c pos stop
        if pending < pos then some (src.token .text pending pos, ⟨stop, stop, some found⟩)
        else some (found, ⟨stop, stop, none⟩)
    else finish src pending

/-- The next token, and the cursor after it; nothing at the end. -/
def next? (g : Grammar) (src : Source) (c : Cursor) : Option (Token × Cursor) :=
  match c.owed? with
  | some t => some (t, { c with owed? := none })
  | none => advance g src (src.size - c.pos) c.pos c.pending

end Cursor
end Lexlight
