import Lexlight.Grammar.Compile
import Lexlight.Pattern.Bounds

/-!
# Patterns that cannot match nothing

A token rule refuses an empty match, and so does a lexeme. The entries that are no lexemes have no
such check: what keeps a match of theirs from being empty is only that no entry is. So it has to be
followed through how their pattern is put together, where entries that begin alike share their
beginning and entries of one character become a set (`boundedEntries_advancing`).

As with bounds, this is a fact of steps: what a step hands on lies past where it started
(`MatchStep.Advancing`). In a sequence one step that advances is enough, in a choice both sides have
to.
-/

namespace Lexlight

/-- What is handed on lies past the start, and not past the end of the source. -/
def MatchStep.Advancing (src : Source) (step : MatchStep) : Prop :=
  ∀ s k r, s.pos ≤ src.size → step s k = some r →
    ∃ s', s.pos < s'.pos ∧ s'.pos ≤ src.size ∧ k s' = some r

/-- A pattern whose matches all take something. -/
def Pattern.Advancing (p : Pattern) : Prop := ∀ src : Source, MatchStep.Advancing src (p.run src)

namespace Pattern

open MatchStep

theorem advancing_char (t : CharTest) : (Pattern.char t).Advancing := by
  intro src s k r hs h
  unfold run at h
  split at h
  · rename_i c hc
    split at h
    · exact ⟨{ s with pos := s.pos + 1 }, Nat.lt_succ_self _, Source.lt_size_of_getElem? hc, h⟩
    · exact absurd h (by simp)
  · exact absurd h (by simp)

theorem Advancing.seq_left {p : Pattern} (hp : p.Advancing) (q : Pattern) :
    (Pattern.seq p q).Advancing := by
  intro src s k r hs h
  obtain ⟨s₁, h₁, h₁e, hk₁⟩ := hp src s _ r hs h
  obtain ⟨s₂, h₂, h₂e, hk₂⟩ := run_bounded src q s₁ k r h₁e hk₁
  exact ⟨s₂, Nat.lt_of_lt_of_le h₁ h₂, h₂e, hk₂⟩

theorem Advancing.seq_right {q : Pattern} (hq : q.Advancing) (p : Pattern) :
    (Pattern.seq p q).Advancing := by
  intro src s k r hs h
  obtain ⟨s₁, h₁, h₁e, hk₁⟩ := run_bounded src p s _ r hs h
  obtain ⟨s₂, h₂, h₂e, hk₂⟩ := hq src s₁ k r h₁e hk₁
  exact ⟨s₂, Nat.lt_of_le_of_lt h₁ h₂, h₂e, hk₂⟩

theorem Advancing.alt {p q : Pattern} (hp : p.Advancing) (hq : q.Advancing) :
    (Pattern.alt p q).Advancing := by
  intro src s k r hs h
  rcases orElse_eq_some h with h | h
  · exact hp src s k r hs h
  · exact hq src s k r hs h

/-- Of patterns one after the other, one that advances is enough. -/
theorem advancing_ofList {p : Pattern} :
    ∀ {ps : List Pattern}, p ∈ ps → p.Advancing → (ofList ps).Advancing
  | [], h, _ => by exact absurd h (by simp)
  | [q], h, hp => by
      obtain rfl := List.mem_singleton.mp h
      exact hp
  | q :: q' :: rest, h, hp => by
      rcases List.mem_cons.mp h with h | h
      · subst h; exact hp.seq_left _
      · exact (advancing_ofList h hp).seq_right _

/-- A match of a pattern that advances ends past its start. -/
theorem Advancing.lt_matchEnd? {p : Pattern} (hp : p.Advancing) {src : Source} {pos stop : Nat}
    (hle : pos ≤ src.size) (h : p.matchEnd? src pos = some stop) : pos < stop := by
  obtain ⟨s, hs, rfl⟩ := Option.map_eq_some_iff.mp h
  obtain ⟨s', hlt, _, hk⟩ := hp src _ some s hle hs
  obtain rfl := Option.some.inj hk
  exact hlt

end Pattern

namespace Part

open Pattern

theorem advancing_sequence {p : Part} {ps : List Part} (h : p ∈ ps) (hp : p.pattern.Advancing) :
    (sequence ps).Advancing :=
  advancing_ofList (List.mem_map_of_mem h) hp

/-- What alternatives share, the first of them begins with. -/
theorem mem_of_mem_sharedStart {p : Part} :
    ∀ {a : List Part} {others : List (List Part)}, p ∈ sharedStart a others → p ∈ a
  | [], _, h => by exact absurd h (by simp [sharedStart])
  | q :: rest, others, h => by
      unfold sharedStart at h
      split at h
      · rcases List.mem_cons.mp h with h | h
        · exact h ▸ List.mem_cons_self ..
        · exact List.mem_cons_of_mem _ (mem_of_mem_sharedStart h)
      · exact absurd h (by simp)

/-- Sequences that all have a part that advances. -/
def AllAdvance (alternatives : List (List Part)) : Prop :=
  ∀ a ∈ alternatives, ∃ p ∈ a, p.pattern.Advancing

theorem advancing_choice : ∀ {alternatives : List (List Part)}, alternatives ≠ [] →
    AllAdvance alternatives → (choice alternatives).Advancing
  | [], hne, _ => by exact absurd rfl hne
  | [a], _, h => by
      obtain ⟨p, hp, hadv⟩ := h a (List.mem_singleton.mpr rfl)
      exact advancing_sequence hp hadv
  | a :: b :: rest, _, h => by
      obtain ⟨p, hp, hadv⟩ := h a (List.mem_cons_self ..)
      refine (advancing_sequence hp hadv).alt (advancing_choice (by simp) ?_)
      exact fun c hc => h c (List.mem_cons_of_mem _ hc)

/-- The parts that stand for a choice have one that advances, if every sequence to choose from is
made of parts that advance, and has at least one. -/
theorem exists_advancing_alternatives : ∀ {as : List (List Part)}, as ≠ [] →
    (∀ a ∈ as, a ≠ [] ∧ ∀ p ∈ a, p.pattern.Advancing) →
    ∃ p ∈ alternatives as, p.pattern.Advancing
  | [], hne, _ => by exact absurd rfl hne
  | [a], _, h => by
      obtain ⟨hne, hadv⟩ := h a (List.mem_singleton.mpr rfl)
      obtain ⟨p, hp⟩ := List.exists_mem_of_ne_nil a hne
      exact ⟨p, hp, hadv p hp⟩
  | a :: b :: rest, _, h => by
      unfold alternatives
      dsimp only
      cases hstart : sharedStart a (b :: rest) with
      | cons q start =>
          -- a shared beginning is one of the first alternative
          have hq : q ∈ a := mem_of_mem_sharedStart (hstart ▸ List.mem_cons_self ..)
          refine ⟨q, ?_, (h a (List.mem_cons_self ..)).2 q hq⟩
          split <;> exact List.mem_append_left _ (List.mem_cons_self ..)
      | nil =>
          split
          · exact ⟨_, List.mem_singleton.mpr rfl, advancing_char _⟩
          · refine ⟨_, List.mem_singleton.mpr rfl, advancing_choice (by simp) ?_⟩
            intro c hc
            simp only [List.length_nil, List.drop_zero, List.map_id'] at hc
            obtain ⟨hne, hadv⟩ := h c hc
            obtain ⟨p, hp⟩ := List.exists_mem_of_ne_nil c hne
            exact ⟨p, hp, hadv p hp⟩

end Part

/-- **A match of listed entries is not empty**, if no entry is. -/
theorem Pattern.advancing_boundedEntries {fold : Fold} {entries : List String}
    (hne : entries ≠ []) (h : ∀ e ∈ entries, e ≠ "") : (boundedEntries fold entries).Advancing := by
  have hparts : ∃ p ∈ Part.alternatives (entries.map fun e => e.toList.map (Part.ofChar fold)),
      p.pattern.Advancing := by
    refine Part.exists_advancing_alternatives (by simpa using hne) fun a ha => ?_
    obtain ⟨e, he, rfl⟩ := List.mem_map.mp ha
    refine ⟨by simpa using h e he, fun p hp => ?_⟩
    obtain ⟨c, _, rfl⟩ := List.mem_map.mp hp
    exact advancing_char _
  obtain ⟨p, hp, hadv⟩ := hparts
  exact Part.advancing_sequence
    (List.mem_append_left _ (List.mem_cons_of_mem _ hp)) hadv

end Lexlight
