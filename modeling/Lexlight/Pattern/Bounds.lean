import Lexlight.Pattern.Match

/-!
# How far a match reaches

A match never ends before it starts, nor past the end of the source. This is a fact of steps: what
a step hands on lies between where it started and the end (`MatchStep.Bounded`), and every way of
putting steps together keeps that. `Pattern.run_bounded` says it of patterns, and
`Pattern.matchEnd?_bounds` of the ends of matches.
-/

namespace Lexlight

namespace MatchStep

/-- What is handed on lies between the start and the end of the source. -/
def Bounded (src : Source) (step : MatchStep) : Prop :=
  ∀ s k r, s.pos ≤ src.size → step s k = some r →
    ∃ s', s.pos ≤ s'.pos ∧ s'.pos ≤ src.size ∧ k s' = some r

theorem orElse_eq_some {α : Type} {x y : Option α} {a : α} (h : (x <|> y) = some a) :
    x = some a ∨ y = some a := by
  cases x with
  | none => exact Or.inr h
  | some b => exact Or.inl h

variable {src : Source} {step : MatchStep}

theorem Bounded.times (hb : Bounded src step) (n : Nat) : Bounded src (times step n) := by
  induction n with
  | zero => intro s k r hs h; exact ⟨s, Nat.le_refl _, hs, h⟩
  | succ n ih =>
    intro s k r hs h
    obtain ⟨s₁, h₁, h₁e, hk₁⟩ := hb s _ r hs h
    obtain ⟨s₂, h₂, h₂e, hk₂⟩ := ih s₁ k r h₁e hk₁
    exact ⟨s₂, Nat.le_trans h₁ h₂, h₂e, hk₂⟩

/-- A round of an optional repetition: the continuation gets a state of the round, or one of the
rounds after it. -/
theorem Bounded.round (hb : Bounded src step) {more : MatchStep} (hm : Bounded src more)
    {s : MatchState} {k : MatchState → Option MatchState} {r : MatchState} (hs : s.pos ≤ src.size)
    (h : (step s fun s' => if s'.pos = s.pos then k s' else more s' k) = some r) :
    ∃ s', s.pos ≤ s'.pos ∧ s'.pos ≤ src.size ∧ k s' = some r := by
  obtain ⟨s₁, h₁, h₁e, hk₁⟩ := hb s _ r hs h
  split at hk₁
  · exact ⟨s₁, h₁, h₁e, hk₁⟩
  · obtain ⟨s₂, h₂, h₂e, hk₂⟩ := hm s₁ k r h₁e hk₁
    exact ⟨s₂, Nat.le_trans h₁ h₂, h₂e, hk₂⟩

theorem Bounded.most (hb : Bounded src step) (n : Nat) : Bounded src (most step n) := by
  induction n with
  | zero => intro s k r hs h; exact ⟨s, Nat.le_refl _, hs, h⟩
  | succ n ih =>
    intro s k r hs h
    rcases orElse_eq_some h with h | h
    · exact hb.round ih hs h
    · exact ⟨s, Nat.le_refl _, hs, h⟩

theorem Bounded.fewest (hb : Bounded src step) (n : Nat) : Bounded src (fewest step n) := by
  induction n with
  | zero => intro s k r hs h; exact ⟨s, Nat.le_refl _, hs, h⟩
  | succ n ih =>
    intro s k r hs h
    rcases orElse_eq_some h with h | h
    · exact ⟨s, Nat.le_refl _, hs, h⟩
    · exact hb.round ih hs h

theorem Bounded.first (hb : Bounded src step) {s s' : MatchState} (hs : s.pos ≤ src.size)
    (h : step.first s = some s') : s.pos ≤ s'.pos ∧ s'.pos ≤ src.size := by
  obtain ⟨s₁, h₁, h₁e, hk⟩ := hb s some s' hs h
  obtain rfl := Option.some.inj hk
  exact ⟨h₁, h₁e⟩

theorem Bounded.firstTimes (hb : Bounded src step) {n : Nat} {s s' : MatchState}
    (hs : s.pos ≤ src.size) (h : firstTimes step n s = some s') :
    s.pos ≤ s'.pos ∧ s'.pos ≤ src.size := by
  induction n generalizing s with
  | zero => obtain rfl := Option.some.inj h; exact ⟨Nat.le_refl _, hs⟩
  | succ n ih =>
    obtain ⟨s₁, hf, hr⟩ := Option.bind_eq_some_iff.mp h
    have h₁ := hb.first hs hf
    have h₂ := ih h₁.2 hr
    exact ⟨Nat.le_trans h₁.1 h₂.1, h₂.2⟩

theorem Bounded.firstMost (hb : Bounded src step) (n : Nat) {s : MatchState}
    (hs : s.pos ≤ src.size) :
    s.pos ≤ (firstMost step n s).pos ∧ (firstMost step n s).pos ≤ src.size := by
  induction n generalizing s with
  | zero => exact ⟨Nat.le_refl _, hs⟩
  | succ n ih =>
    unfold MatchStep.firstMost
    cases hf : step.first s with
    | none => exact ⟨Nat.le_refl _, hs⟩
    | some s₁ =>
      have h₁ := hb.first hs hf
      dsimp only
      split
      · exact h₁
      · have h₂ := ih h₁.2
        exact ⟨Nat.le_trans h₁.1 h₂.1, h₂.2⟩

theorem Bounded.repeated (hb : Bounded src step) (least extra : Nat) (greed : Greed) :
    Bounded src (repeated step least extra greed) := by
  intro s k r hs h
  cases greed with
  | greedy =>
    obtain ⟨s₁, h₁, h₁e, hk₁⟩ := hb.times least s _ r hs h
    obtain ⟨s₂, h₂, h₂e, hk₂⟩ := hb.most extra s₁ k r h₁e hk₁
    exact ⟨s₂, Nat.le_trans h₁ h₂, h₂e, hk₂⟩
  | lazy =>
    obtain ⟨s₁, h₁, h₁e, hk₁⟩ := hb.times least s _ r hs h
    obtain ⟨s₂, h₂, h₂e, hk₂⟩ := hb.fewest extra s₁ k r h₁e hk₁
    exact ⟨s₂, Nat.le_trans h₁ h₂, h₂e, hk₂⟩
  | possessive =>
    dsimp only [MatchStep.repeated] at h
    cases hf : MatchStep.firstTimes step least s with
    | none => rw [hf] at h; cases h
    | some s₁ =>
      rw [hf] at h
      have h₁ := hb.firstTimes hs hf
      have h₂ := hb.firstMost extra h₁.2
      exact ⟨_, Nat.le_trans h₁.1 h₂.1, h₂.2, h⟩

end MatchStep

theorem Source.lt_size_of_getElem? {src : Source} {pos : Nat} {c : Char}
    (h : src[pos]? = some c) : pos < src.size := by
  rcases Nat.lt_or_ge pos src.size with hlt | hge
  · exact hlt
  · rw [Array.getElem?_eq_none hge] at h; cases h

/-- What stands once more ends where as many characters have been compared. -/
theorem Source.repeatEnd?_bounds {src : Source} {fold : Fold} {start n pos stop : Nat}
    (hp : pos ≤ src.size) (h : src.repeatEnd? fold start n pos = some stop) :
    pos ≤ stop ∧ stop ≤ src.size := by
  induction n generalizing start pos with
  | zero => obtain rfl := Option.some.inj h; exact ⟨Nat.le_refl _, hp⟩
  | succ n ih =>
    unfold Source.repeatEnd? at h
    split at h
    · rename_i a b _ hb
      split at h
      · have := ih (Source.lt_size_of_getElem? hb) h
        exact ⟨Nat.le_of_succ_le this.1, this.2⟩
      · cases h
    · cases h

namespace Pattern

open MatchStep

/-- Whatever a pattern hands on lies between where it started and the end of the source. -/
theorem run_bounded (src : Source) (p : Pattern) : Bounded src (p.run src) := by
  induction p with
  | empty => intro s k r hs h; exact ⟨s, Nat.le_refl _, hs, h⟩
  | char test =>
    intro s k r hs h
    unfold run at h
    split at h
    · rename_i c hc
      split at h
      · exact ⟨{ s with pos := s.pos + 1 }, Nat.le_succ _, Source.lt_size_of_getElem? hc, h⟩
      · cases h
    · cases h
  | anchor a =>
    intro s k r hs h
    unfold run at h
    split at h
    · exact ⟨s, Nat.le_refl _, hs, h⟩
    · cases h
  | again g fold =>
    intro s k r hs h
    unfold run at h
    split at h
    · split at h
      · rename_i e he
        have hb := Source.repeatEnd?_bounds hs he
        exact ⟨_, hb.1, hb.2, h⟩
      · cases h
    · cases h
  | seq p q ihp ihq =>
    intro s k r hs h
    obtain ⟨s₁, h₁, h₁e, hk₁⟩ := ihp s _ r hs h
    obtain ⟨s₂, h₂, h₂e, hk₂⟩ := ihq s₁ k r h₁e hk₁
    exact ⟨s₂, Nat.le_trans h₁ h₂, h₂e, hk₂⟩
  | alt p q ihp ihq =>
    intro s k r hs h
    rcases orElse_eq_some h with h | h
    · exact ihp s k r hs h
    · exact ihq s k r hs h
  | rep body least bound greed ih =>
    intro s k r hs h
    exact ih.repeated least _ greed s k r hs h
  | group g body ih =>
    intro s k r hs h
    unfold run at h
    obtain ⟨s₁, h₁, h₁e, hk₁⟩ :=
      ih { s with captures := s.captures.enter g s.pos } _ r hs h
    exact ⟨{ s₁ with captures := s₁.captures.leave g s₁.pos }, h₁, h₁e, hk₁⟩
  | ahead wanted body ih =>
    intro s k r hs h
    unfold run at h
    split at h
    · rename_i s' _
      split at h
      · exact ⟨{ s' with pos := s.pos }, Nat.le_refl _, hs, h⟩
      · cases h
    · split at h
      · cases h
      · exact ⟨s, Nat.le_refl _, hs, h⟩
  | behind wanted width body ih =>
    intro s k r hs h
    unfold run at h
    split at h
    · rename_i s' _
      split at h
      · exact ⟨{ s' with pos := s.pos }, Nat.le_refl _, hs, h⟩
      · cases h
    · split at h
      · cases h
      · exact ⟨s, Nat.le_refl _, hs, h⟩
  | atomic body ih =>
    intro s k r hs h
    unfold run at h
    split at h
    · rename_i s' hf
      have hb := Bounded.first ih hs hf
      exact ⟨s', hb.1, hb.2, h⟩
    · cases h
  | ifGroup g yes no ihy ihn =>
    intro s k r hs h
    unfold run at h
    split at h
    · exact ihy s k r hs h
    · exact ihn s k r hs h

/-- A match ends at or after its start, and not past the end of the source. -/
theorem matchEnd?_bounds {p : Pattern} {src : Source} {pos stop : Nat} (hp : pos ≤ src.size)
    (h : p.matchEnd? src pos = some stop) : pos ≤ stop ∧ stop ≤ src.size := by
  obtain ⟨s, hs, rfl⟩ := Option.map_eq_some_iff.mp h
  exact (run_bounded src p).first hp hs

end Pattern
end Lexlight
