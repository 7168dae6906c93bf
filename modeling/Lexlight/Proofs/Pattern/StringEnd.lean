import Lexlight.Proofs.Pattern.Enclosed

/-!
# Where a quoted string ends

Two ways to find the end of a quoted string without a search. One is to go through its inside from
left to right, two characters at a time after a backslash (`Source.stringEnd`). The other looks at a
quote alone: it ends the string if the row of backslashes right before it, as far back as the inside
goes, has an even length, and the first quote that does is the end (`Source.ClosesString`). Both
come to the place to which the pattern matches, for the pattern never goes back inside of a
string.
-/

namespace Lexlight.Source

variable {src : Source} {quote : Char}

/-- The end of a quoted string, from a place inside of it: a backslash skips itself and the
character after it, if there is one, and a quote that is not skipped is the last character. -/
def stringEnd (src : Source) (quote : Char) (i : Nat) : Nat :=
  if h : i < src.size then
    if src[i] = '\\' then stringEnd src quote (min (i + 2) src.size)
    else if src[i] = quote then i + 1
    else stringEnd src quote (i + 1)
  else i
termination_by src.size - i

/-- How many backslashes stand in a row right before a place, none of them before `start`. -/
def slashesBefore (src : Source) (start : Nat) : Nat → Nat
  | 0 => 0
  | i + 1 => if start ≤ i ∧ src[i]? = some '\\' then src.slashesBefore start i + 1 else 0

/-- Whether a quote at a place ends the string whose inside begins at `start`, unless it has ended
before: it is not escaped, and the backslash is no quote. -/
structure Closing (src : Source) (quote : Char) (start i : Nat) : Prop where
  le : start ≤ i
  here : src[i]? = some quote
  unescaped : src.slashesBefore start i % 2 = 0
  ne_slash : quote ≠ '\\'

/-- Whether a string whose inside begins at `start` ends at a place: after the first quote that ends
it, or with the source if none does. -/
def ClosesString (src : Source) (quote : Char) (start stop : Nat) : Prop :=
  (∃ last, src.Closing quote start last ∧ (∀ i, i < last → ¬ src.Closing quote start i) ∧
    stop = last + 1) ∨
  ((∀ i, ¬ src.Closing quote start i) ∧ stop = src.size)

/-- Whether a quoted string whose inside begins at `start` ends at a place, found in both ways. -/
structure StringEnds (src : Source) (quote : Char) (start stop : Nat) : Prop where
  scan : stop = src.stringEnd quote start
  closes : src.ClosesString quote start stop

/-! ## From left to right -/

theorem stringEnd_of_none {i : Nat} (h : src[i]? = none) : src.stringEnd quote i = i := by
  rw [stringEnd, dif_neg (by simpa using h)]

theorem stringEnd_of_slash {i : Nat} (h : src[i]? = some '\\') :
    src.stringEnd quote i = src.stringEnd quote (min (i + 2) src.size) := by
  obtain ⟨hlt, hc⟩ := Array.getElem?_eq_some_iff.mp h
  rw [stringEnd, dif_pos hlt, if_pos hc]

theorem stringEnd_of_quote {i : Nat} (h : src[i]? = some quote) (hslash : quote ≠ '\\') :
    src.stringEnd quote i = i + 1 := by
  obtain ⟨hlt, hc⟩ := Array.getElem?_eq_some_iff.mp h
  rw [stringEnd, dif_pos hlt, if_neg (by rwa [hc]), if_pos hc]

theorem stringEnd_of_plain {i : Nat} {c : Char} (h : src[i]? = some c) (hslash : c ≠ '\\')
    (hquote : c ≠ quote) : src.stringEnd quote i = src.stringEnd quote (i + 1) := by
  obtain ⟨hlt, hc⟩ := Array.getElem?_eq_some_iff.mp h
  rw [stringEnd, dif_pos hlt, if_neg (by rwa [hc]), if_neg (by rwa [hc])]

/-- **Going through the inside leads to where the pattern ends.** -/
theorem Quoted.skip_eq_stringEnd {pos inside : Nat} (h : src.Quoted quote pos inside) :
    src.skip (· = quote) inside = src.stringEnd quote pos := by
  induction h with
  | @done pos hdone =>
      rcases hdone with hnone | ⟨hquote, hslash⟩
      · rw [skip, hnone, stringEnd_of_none hnone]
        rfl
      · rw [skip, hquote, stringEnd_of_quote hquote hslash]
        simp
  | plain hc hquote hslash _ ih => rw [ih, stringEnd_of_plain hc hslash hquote]
  | @escaped pos stop c hc hd _ ih =>
      have hlt := lt_size hd
      rw [ih, stringEnd_of_slash hc, show min (pos + 2) src.size = pos + 2 by omega]
  | @lone pos hc hd =>
      have hlt := lt_size hc
      have hend : src.size ≤ pos + 1 := by simpa using hd
      rw [skip, hd, stringEnd_of_slash hc, show min (pos + 2) src.size = pos + 1 by omega,
        stringEnd_of_none hd]
      rfl

/-! ## By the backslashes before a quote -/

theorem slashesBefore_succ_of_slash {start i : Nat} (hle : start ≤ i) (h : src[i]? = some '\\') :
    src.slashesBefore start (i + 1) = src.slashesBefore start i + 1 := by
  rw [slashesBefore, if_pos ⟨hle, h⟩]

theorem slashesBefore_succ_of_ne {start i : Nat} (h : src[i]? ≠ some '\\') :
    src.slashesBefore start (i + 1) = 0 := by
  rw [slashesBefore, if_neg fun hslash => h hslash.2]

theorem slashesBefore_self (src : Source) (start : Nat) : src.slashesBefore start start = 0 := by
  cases start with
  | zero => rfl
  | succ start => rw [slashesBefore, if_neg fun h => absurd h.1 (by omega)]

/-- From a place inside of a string that no backslash before it takes along, the first quote that is
not escaped ends the string. -/
theorem Quoted.closesString {start pos inside : Nat} (h : src.Quoted quote pos inside)
    (hpos : start ≤ pos ∧ pos ≤ src.size) (heven : src.slashesBefore start pos % 2 = 0)
    (hbefore : ∀ i, i < pos → ¬ src.Closing quote start i) :
    src.ClosesString quote start (src.skip (· = quote) inside) := by
  induction h with
  | @done pos hdone =>
      rcases hdone with hnone | ⟨hquote, hslash⟩
      · have hend : pos = src.size := Nat.le_antisymm hpos.2 (by simpa using hnone)
        refine Or.inr ⟨fun i hi => ?_, by rw [skip, hnone, ← hend]; rfl⟩
        exact hbefore i (hend ▸ lt_size hi.here) hi
      · exact Or.inl ⟨pos, ⟨hpos.1, hquote, heven, hslash⟩, hbefore, by simp [skip, hquote]⟩
  | @plain pos stop c hc hquote hslash _ ih =>
      have hne : src[pos]? ≠ some '\\' := by
        rw [hc]
        simpa using hslash
      have hnext : src.slashesBefore start (pos + 1) % 2 = 0 := by
        rw [slashesBefore_succ_of_ne hne]
      refine ih ⟨by omega, lt_size hc⟩ hnext fun i hi hclosing => ?_
      rcases Nat.lt_succ_iff_lt_or_eq.mp hi with hlt | rfl
      · exact hbefore i hlt hclosing
      · exact hquote (Option.some.inj (hc.symm.trans hclosing.here))
  | @escaped pos stop c hc hd _ ih =>
      have hodd := slashesBefore_succ_of_slash hpos.1 hc
      have hnext : src.slashesBefore start (pos + 2) % 2 = 0 := by
        by_cases hslash : src[pos + 1]? = some '\\'
        · rw [slashesBefore_succ_of_slash (by omega) hslash, hodd]
          omega
        · rw [slashesBefore_succ_of_ne hslash]
      refine ih ⟨by omega, lt_size hd⟩ hnext fun i hi hclosing => ?_
      -- the backslash is no quote that ends the string, and the character after it is escaped
      obtain hlt | rfl | rfl : i < pos ∨ i = pos ∨ i = pos + 1 := by omega
      · exact hbefore i hlt hclosing
      · exact hclosing.ne_slash (Option.some.inj (hclosing.here.symm.trans hc))
      · have := hclosing.unescaped
        omega
  | @lone pos hc hd =>
      have hlt := lt_size hc
      have hend : pos + 1 = src.size := Nat.le_antisymm hlt (by simpa using hd)
      refine Or.inr ⟨fun i hi => ?_, by rw [skip, hd, ← hend]; rfl⟩
      have hi' := lt_size hi.here
      obtain hlt | rfl : i < pos ∨ i = pos := by omega
      · exact hbefore i hlt hi
      · exact hi.ne_slash (Option.some.inj (hi.here.symm.trans hc))

end Lexlight.Source
