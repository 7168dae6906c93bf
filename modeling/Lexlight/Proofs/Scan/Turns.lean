import Lexlight.Scan.Turns
import Lexlight.Proofs.Scan.Cover

/-!
# Scans that take turns do not disturb each other

A cursor owes what is left of the scan: the token it has found and not given yet, and then all that
the scan gives from where it stands (`Cursor.left`). Asking for the next token takes the first of
these and leaves the others (`Cursor.left_next?`), which is all that has to be known of a cursor.

Of a lexer it has to be known besides that a turn moves one cursor only. So after any turns each
cursor has left what the scan gives, but for as many tokens as it was asked for since it was begun
last (`Lexer.Stands`), and what it gives next is read off from there.
-/

namespace Lexlight

namespace Grammar

variable {g : Grammar} {src : Source}

/-- Any count that is enough gives the same. -/
theorem scanFrom_enough (hg : g.Advances) {steps pos : Nat} (pending : Nat) (hp : pos ≤ src.size)
    (hs : src.size - pos ≤ steps) :
    g.scanFrom src steps pos pending = g.scanFrom src (src.size - pos) pos pending :=
  (scanFrom_scans hg steps pos pending hp hs).unique
    (scanFrom_scans hg _ pos pending hp (Nat.le_refl _))

end Grammar

/-! ## One cursor -/

namespace Cursor

/-- The tokens that a cursor has not given yet. -/
def left (g : Grammar) (src : Source) (c : Cursor) : List Token :=
  c.owed?.toList ++ g.scanFrom src (src.size - c.pos) c.pos c.pending

/-- What a step from some tokens comes to: the first of them, and a cursor that has the others
left, or nothing if there are none. -/
def TakesFirst (g : Grammar) (src : Source) (ts : List Token) : Option (Token × Cursor) → Prop
  | none => ts = []
  | some (t, c) => ts = t :: c.left g src ∧ c.pos ≤ src.size

variable {g : Grammar} {src : Source}

/-- At the end of a scan, plain text that is left over is the one token left. -/
theorem finish_takesFirst (pending : Nat) :
    TakesFirst g src (src.plainTokens pending src.size) (finish src pending) := by
  unfold finish Source.plainTokens
  split
  · have hend : g.scanFrom src (src.size - src.size) src.size src.size = [] := by
      rw [Nat.sub_self, Grammar.scanFrom, Source.plainTokens, if_neg (Nat.lt_irrefl _)]
    exact ⟨by rw [left, hend]; rfl, Nat.le_refl _⟩
  · rfl

/-- **Going on takes the first token** that the scan gives from there. Where plain text comes
before what was found, the scan gives two tokens at once, and the second one is owed. -/
theorem advance_takesFirst (hg : g.Advances) : ∀ {steps pos pending : Nat}, pos ≤ src.size →
    src.size - pos ≤ steps →
    TakesFirst g src (g.scanFrom src steps pos pending) (advance g src steps pos pending) := by
  intro steps
  induction steps with
  | zero => exact fun _ _ => finish_takesFirst _
  | succ steps ih =>
      intro pos pending hp hs
      rw [Grammar.scanFrom, advance]
      by_cases hlt : pos < src.size
      · rw [if_pos hlt, if_pos hlt]
        cases hf : g.hit? src pos with
        | none => exact ih (by omega) (by omega)
        | some hit =>
            obtain ⟨hpast, hend⟩ := hg src pos hit hlt hf
            obtain ⟨category?, stop⟩ := hit
            dsimp only at hpast hend
            cases category? with
            | none => exact ih hend (by omega)
            | some c =>
                -- what comes after the find is the same for the scan and for the cursor
                have hrest := Grammar.scanFrom_enough hg stop hend
                  (show src.size - stop ≤ steps by omega)
                unfold Source.plainTokens
                dsimp only
                split
                · exact ⟨by rw [hrest]; rfl, hend⟩
                · exact ⟨by rw [hrest]; rfl, hend⟩
      · rw [if_neg hlt, if_neg hlt]
        exact finish_takesFirst pending

/-- **The next token is the first that is left**, and there is none only when none is left. -/
theorem next?_takesFirst (hg : g.Advances) {c : Cursor} (hc : c.pos ≤ src.size) :
    TakesFirst g src (c.left g src) (c.next? g src) := by
  unfold next? left
  cases c.owed? with
  | some t => exact ⟨rfl, hc⟩
  | none => exact advance_takesFirst hg hc (Nat.le_refl _)

/-- At the start all tokens are left. -/
theorem left_start (g : Grammar) (src : Source) : left g src {} = g.scan src := rfl

end Cursor

/-! ## Turns -/

namespace Turn

/-- How often each scan was asked for a token since it was begun last, with one more turn. -/
def count (n : Int → Nat) : Turn → Int → Nat
  | .begin i, j => if j = i then 0 else n j
  | .next i, j => if j = i then n j + 1 else n j

/-- How often each scan was asked for a token since it was begun last. A scan that is not begun at
any of the turns was begun before them. -/
def asked (ts : List Turn) : Int → Nat := ts.foldl count fun _ => 0

/-- The tokens that each scan gave since it was begun last, with one more turn and what was given
at it. -/
def collect (given : Int → List Token) (turn : Turn × Option Token) : Int → List Token :=
  match turn.1 with
  | .begin i => fun j => if j = i then [] else given j
  | .next i => fun j => if j = i then given j ++ turn.2.toList else given j

/-- The tokens that each scan gave since it was begun last, of turns and what was given at them. -/
def delivered (ts : List (Turn × Option Token)) : Int → List Token := ts.foldl collect fun _ => []

end Turn

namespace Lexer

/-- What is given at some turns, and the lexer after them. -/
def after (l : Lexer) (ts : List Turn) : List (Option Token) × Lexer := (turns ts).run l

/-- What is given at one turn, and the lexer after it. -/
def step (l : Lexer) (t : Turn) : Option Token × Lexer := (turn t).run l

theorem after_cons (l : Lexer) (t : Turn) (ts : List Turn) :
    l.after (t :: ts) = ((l.step t).1 :: ((l.step t).2.after ts).1, ((l.step t).2.after ts).2) := by
  unfold after turns
  rw [List.mapM_cons]
  rfl

/-- A scan that is asked moves to where its next token leaves it, and stays where it is when it has
none. -/
theorem step_next (l : Lexer) (i : Int) :
    l.step (.next i) = match (l.cursors i).next? l.grammar l.source with
      | some (t, c) => (some t, { l with cursors := l.cursors.put i c })
      | none => (none, l) := by
  unfold step turn next
  simp only [StateT.run_bind, StateT.run_get, pure_bind]
  cases (l.cursors i).next? l.grammar l.source <;> rfl

/-- How a lexer stands over a source under a grammar, when each of its scans was asked for so many
tokens: those are gone, and all others are left. -/
structure Stands (g : Grammar) (src : Source) (n : Int → Nat) (l : Lexer) : Prop where
  grammar : l.grammar = g
  source : l.source = src
  left : ∀ i, (l.cursors i).left g src = (g.scan src).drop (n i)
  within : ∀ i, (l.cursors i).pos ≤ src.size

variable {g : Grammar} {src : Source}

theorem stands_start (g : Grammar) (src : Source) :
    Stands g src (fun _ => 0) { grammar := g, source := src } where
  grammar := rfl
  source := rfl
  left _ := Cursor.left_start g src
  within _ := Nat.zero_le _

/-- One scan put where so many tokens are gone, and the others left where they are. -/
theorem Stands.put {n n' : Int → Nat} {l : Lexer} (h : l.Stands g src n) {i : Int} {c : Cursor}
    (hleft : c.left g src = (g.scan src).drop (n' i)) (hwithin : c.pos ≤ src.size)
    (hn : ∀ j, j ≠ i → n' j = n j) :
    Stands g src n' { l with cursors := l.cursors.put i c } where
  grammar := h.grammar
  source := h.source
  left j := by
    dsimp only [Cursors.put]
    split
    · rename_i hj; rw [hj, hleft]
    · rename_i hj; rw [hn j hj, h.left j]
  within j := by
    dsimp only [Cursors.put]
    split
    · exact hwithin
    · exact h.within j

/-- What is given at a turn: the next token of the scan that is asked, and nothing to one that is
begun. -/
def answer (g : Grammar) (src : Source) (n : Int → Nat) : Turn → Option Token
  | .begin _ => none
  | .next i => (g.scan src)[n i]?

/-- **A turn moves the scan it is about, and nothing else.** -/
theorem Stands.step (hg : g.Advances) {n : Int → Nat} {l : Lexer} (h : l.Stands g src n)
    (t : Turn) :
    (l.step t).1 = answer g src n t ∧ (l.step t).2.Stands g src (t.count n) := by
  cases t with
  | begin i =>
      have hcount : ∀ j, j ≠ i → Turn.count n (.begin i) j = n j := fun j hj => if_neg hj
      have hself : Turn.count n (.begin i) i = 0 := if_pos rfl
      refine ⟨rfl, h.put ?_ (Nat.zero_le _) hcount⟩
      rw [Cursor.left_start, hself, List.drop_zero]
  | next i =>
      have hnext : Cursor.TakesFirst g src ((g.scan src).drop (n i))
          ((l.cursors i).next? l.grammar l.source) := by
        rw [h.grammar, h.source, ← h.left i]
        exact Cursor.next?_takesFirst hg (h.within i)
      have hcount : ∀ j, j ≠ i → Turn.count n (.next i) j = n j := fun j hj => if_neg hj
      have hself : Turn.count n (.next i) i = n i + 1 := if_pos rfl
      rw [step_next]
      cases hc : (l.cursors i).next? l.grammar l.source with
      | none =>
          -- nothing was left, so nothing is left after one more
          rw [hc] at hnext
          have hlen : (g.scan src).length ≤ n i := List.drop_eq_nil_iff.mp hnext
          refine ⟨(List.getElem?_eq_none hlen).symm, h.grammar, h.source, fun j => ?_, h.within⟩
          rw [h.left j]
          by_cases hj : j = i
          · rw [hj, hself, hnext, List.drop_eq_nil_iff.mpr (by omega)]
          · rw [hcount j hj]
      | some found =>
          obtain ⟨t, c⟩ := found
          rw [hc] at hnext
          obtain ⟨hdrop, hwithin⟩ := hnext
          have htok : (g.scan src)[n i]? = some t := by
            rw [← Nat.add_zero (n i), ← List.getElem?_drop, hdrop]; rfl
          refine ⟨htok.symm, h.put ?_ hwithin hcount⟩
          rw [hself, ← List.tail_drop, hdrop]; rfl

/-! ## Any number of turns -/

/-- **Turns keep each scan in its place**: where it is after some turns depends on nothing but how
often it was asked. -/
theorem Stands.after (hg : g.Advances) : ∀ (ts : List Turn) {n : Int → Nat} {l : Lexer},
    l.Stands g src n → (l.after ts).2.Stands g src (ts.foldl Turn.count n)
  | [], _, _, h => h
  | t :: ts, n, l, h => by
      rw [after_cons, List.foldl_cons]
      exact Stands.after hg ts (h.step hg t).2

/-- What is given at a turn depends on the turns before it by how often they asked the scan. -/
theorem Stands.given (hg : g.Advances) : ∀ (before : List Turn) {t : Turn} {later : List Turn}
    {n : Int → Nat} {l : Lexer}, l.Stands g src n →
    (l.after (before ++ t :: later)).1[before.length]? =
      some (answer g src (before.foldl Turn.count n) t)
  | [], t, later, n, l, h => by
      rw [List.nil_append, after_cons, (h.step hg t).1]
      rfl
  | t' :: before, t, later, n, l, h => by
      rw [List.cons_append, after_cons, List.length_cons, List.getElem?_cons_succ]
      exact Stands.given hg before (h.step hg t').2

/-- One more turn adds to what its scan has given the token that it gives now. -/
theorem collect_answer (n : Int → Nat) (t : Turn) :
    Turn.collect (fun i => (g.scan src).take (n i)) (t, answer g src n t) =
      fun i => (g.scan src).take (t.count n i) := by
  funext j
  cases t with
  | begin i =>
      dsimp only [Turn.collect, Turn.count]
      split
      · rw [List.take_zero]
      · rfl
  | next i =>
      dsimp only [Turn.collect, Turn.count, answer]
      split
      · rename_i hj; rw [hj, List.take_add_one]
      · rfl

/-- What each scan has given is as much of the whole as it was asked for. -/
theorem Stands.collected (hg : g.Advances) : ∀ (ts : List Turn) {n : Int → Nat} {l : Lexer},
    l.Stands g src n →
    (ts.zip (l.after ts).1).foldl Turn.collect (fun i => (g.scan src).take (n i)) =
      fun i => (g.scan src).take (ts.foldl Turn.count n i)
  | [], _, _, _ => rfl
  | t :: ts, n, l, h => by
      rw [after_cons, List.zip_cons_cons, List.foldl_cons, (h.step hg t).1, collect_answer,
        List.foldl_cons]
      exact Stands.collected hg ts (h.step hg t).2

/-- What holds of a text scanned under a grammar at any turns. -/
structure TurnsApart (g : Grammar) (text : String) (ts : List Turn) : Prop where
  /-- The lexer is over the text that it was made for, -/
  source : (Lexer.after { grammar := g, source := .ofString text } ts).2.source = .ofString text
  /-- and under the grammar. -/
  grammar : (Lexer.after { grammar := g, source := .ofString text } ts).2.grammar = g
  /-- A scan that was asked `k` times since it was begun gives token `k` when it is asked next, or
  nothing if the text has no more than `k` tokens. -/
  given : ∀ (before : List Turn) (i : Int) (later : List Turn), ts = before ++ .next i :: later →
    (Lexer.after { grammar := g, source := .ofString text } ts).1[before.length]? =
      some (g.tokenize text)[Turn.asked before i]?
  /-- What a scan has given since it was begun are the first of the tokens of the text, as many as
  it was asked for, or all if there are not so many. -/
  delivered : ∀ i : Int, Turn.delivered
      (ts.zip (Lexer.after { grammar := g, source := .ofString text } ts).1) i =
    (g.tokenize text).take (Turn.asked ts i)

/--
**Scans of one lexer do not disturb each other.**

Under a compiled grammar, whatever scans of a text are begun and asked for tokens and in whatever
order, each of them gives the tokens of the text, one each time it is asked, from the first on, and
nothing when all are given. The lexer stays as it is.
-/
theorem turns_apart [CharacterNames] {language : Value} {offer : Offer} {g : Grammar}
    (h : offer.compile language = .ok g) (text : String) (ts : List Turn) :
    TurnsApart g text ts := by
  have hg := Offer.compile_advances h
  have hstart := stands_start g (.ofString text)
  have hend := hstart.after hg ts
  refine ⟨hend.source, hend.grammar, ?_, fun i => ?_⟩
  · rintro before i later rfl
    exact hstart.given hg before
  · exact congrFun (hstart.collected hg ts) i

/-- A language of comments, and of rows of one letter. -/
def rows : Offer :=
  .description {
    title := .string "Rows"
    contains := [.lineComment (.string "#") 0, .custom (.string "symbol") (.string "b+") 1 []] }

/-- Two scans that take turns. The first is asked four times, and the second is begun again after it
was asked twice. -/
def twoScans : List Turn :=
  [.begin 1, .next 1, .begin 2, .next 1, .next 2, .next 1, .next 1, .next 2, .begin 2, .next 2]

/-- Of a text that has three tokens, with plain text before the first that is found. -/
theorem turns_apart_twoScans :
    ∃ g, rows.compile (.string "rows") = .ok g ∧ TurnsApart g "a bb#c" twoScans ∧
      (g.tokenize "a bb#c").map (·.category) = [.text, .symbol, .comment] ∧
      Turn.asked twoScans 1 = 4 ∧ Turn.asked twoScans 2 = 1 := by
  obtain ⟨g, hg, htokens⟩ := Compiling.exists_ok
    (show (rows.compile (.string "rows")).toOption.any (fun g =>
      (g.tokenize "a bb#c").map (·.category) = [.text, .symbol, .comment]) = true by
        decide +kernel)
  exact ⟨g, hg, turns_apart hg "a bb#c" twoScans, by simpa using htokens, by decide, by decide⟩

end Lexer
end Lexlight
