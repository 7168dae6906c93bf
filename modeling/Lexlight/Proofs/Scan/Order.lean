import Mathlib.Data.List.Pairwise
import Lexlight.Proofs.Scan.Loop

/-!
# Rules that may come in any order

The first rule that finds something decides, so in general the order of the rules matters. It does
not when no two of them find something at one place (`Exclusive`): then what the rules find can be
said without their order (`Exclusive.findSome?_eq_some`), and a scan sees nothing else of them.
-/

namespace Lexlight

/-- No two of the rules find something at one place of a source. -/
def Exclusive (rules : List Rule) : Prop :=
  ∀ (src : Source) (pos : Nat), pos ≤ src.size →
    rules.Pairwise fun r r' => r.hit? src pos = none ∨ r'.hit? src pos = none

variable {rules rules' : List Rule} {src : Source} {pos : Nat}

theorem Exclusive.perm (h : Exclusive rules) (hperm : rules'.Perm rules) : Exclusive rules' :=
  fun src pos hp => hperm.symm.pairwise (h src pos hp) Or.symm

/-- What two of the rules find at one place is the same. -/
theorem Exclusive.hit_unique (h : Exclusive rules) (hp : pos ≤ src.size) {r r' : Rule}
    {hit hit' : Hit} (hr : r ∈ rules) (hr' : r' ∈ rules) (hhit : r.hit? src pos = some hit)
    (hhit' : r'.hit? src pos = some hit') : hit = hit' := by
  by_cases heq : r = r'
  · subst heq
    rw [hhit] at hhit'
    exact Option.some.inj hhit'
  · have hsymm : Std.Symm fun r r' : Rule => r.hit? src pos = none ∨ r'.hit? src pos = none :=
      ⟨fun _ _ => Or.symm⟩
    rcases (h src pos hp).forall hr hr' heq with hnone | hnone
    · rw [hhit] at hnone
      exact absurd hnone (by simp)
    · rw [hhit'] at hnone
      exact absurd hnone (by simp)

/-- What rules find is what one of them finds, wherever it stands. -/
theorem Exclusive.findSome?_eq_some (h : Exclusive rules) (hp : pos ≤ src.size) {hit : Hit} :
    rules.findSome? (·.hit? src pos) = some hit ↔ ∃ r ∈ rules, r.hit? src pos = some hit := by
  constructor
  · exact List.exists_of_findSome?_eq_some
  · rintro ⟨r, hr, hhit⟩
    cases hfirst : rules.findSome? (·.hit? src pos) with
    | none =>
        rw [List.findSome?_eq_none_iff.mp hfirst r hr] at hhit
        exact absurd hhit (by simp)
    | some hit' =>
        obtain ⟨r', hr', hhit'⟩ := List.exists_of_findSome?_eq_some hfirst
        rw [h.hit_unique hp hr hr' hhit hhit']

namespace Grammar

/-- The same rules in another order find the same. -/
theorem hit?_perm {g : Grammar} (h : Exclusive g.rules) (hperm : rules.Perm g.rules)
    (hp : pos ≤ src.size) : { g with rules }.hit? src pos = g.hit? src pos := by
  refine Option.ext fun hit => ?_
  unfold hit?
  rw [(h.perm hperm).findSome?_eq_some hp, h.findSome?_eq_some hp]
  constructor
  · rintro ⟨r, hr, hhit⟩
    exact ⟨r, hperm.subset hr, hhit⟩
  · rintro ⟨r, hr, hhit⟩
    exact ⟨r, hperm.symm.subset hr, hhit⟩

/-- A scan sees of a grammar only what its rules find within the source. -/
theorem scanFrom_congr {g g' : Grammar}
    (h : ∀ pos, pos < src.size → g.hit? src pos = g'.hit? src pos) (steps : Nat) :
    ∀ pos pending, g.scanFrom src steps pos pending = g'.scanFrom src steps pos pending := by
  induction steps with
  | zero => exact fun _ _ => rfl
  | succ steps ih =>
      intro pos pending
      rw [scanFrom, scanFrom]
      by_cases hlt : pos < src.size
      · rw [if_pos hlt, if_pos hlt, h pos hlt]
        cases g'.hit? src pos with
        | none => exact ih _ _
        | some hit =>
            obtain ⟨category?, stop⟩ := hit
            cases category? with
            | none => exact ih _ _
            | some c => simp only [ih]
      · rw [if_neg hlt, if_neg hlt]

/-- Of a grammar, a scan sees only its rules. -/
theorem tokenize_congr {g g' : Grammar} (h : g.rules = g'.rules) (text : String) :
    g.tokenize text = g'.tokenize text :=
  scanFrom_congr (fun _ _ => by rw [hit?, h, hit?]) _ 0 0

/-- **Exclusive rules may come in any order**: the tokens of every text stay the same. -/
theorem tokenize_perm {g : Grammar} (h : Exclusive g.rules) (hperm : rules.Perm g.rules)
    (text : String) : { g with rules }.tokenize text = g.tokenize text :=
  scanFrom_congr (fun _ hlt => hit?_perm h hperm (Nat.le_of_lt hlt)) _ 0 0

end Grammar
end Lexlight
