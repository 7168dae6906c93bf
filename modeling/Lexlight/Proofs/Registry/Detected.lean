import Lexlight.Detection
import Lexlight.Proofs.Registry.Names

/-!
# Which language a text is told to be in

The scores of a registry are gone over once, in the order of registration, with the best so far at
hand. What stands as the best after some of them (`Stands`) is nothing while no score is above zero,
and from then on the grammar that scores highest, the first of them if there are several (`Wins`).
One more score keeps this so (`Stands.better`), so it holds after all of them (`stands_scores`).

Grammars that are registered later come last, and a later grammar has to score higher than all
before it to win. So they leave the answer as it is, or one of them becomes the answer that scores
higher than every grammar before it (`Wins.of_append`).
-/

namespace Lexlight.Registry

variable {gs more : List Grammar} {text : String} {g g' : Grammar} {best? : Option (String × Int)}

/-! ## The grammar that wins -/

/-- Whether of some grammars this is the one that scores highest, the first of those that do, and
scores above zero. -/
structure Wins (gs : List Grammar) (text : String) (g : Grammar) : Prop where
  /-- It scores above zero. -/
  positive : 0 < g.relevance text
  /-- Those before it score less, and those after it no more. -/
  place : ∃ before after, gs = before ++ g :: after ∧
    (∀ q ∈ before, q.relevance text < g.relevance text) ∧
    ∀ q ∈ after, q.relevance text ≤ g.relevance text

theorem Wins.mem (h : Wins gs text g) : g ∈ gs := by
  obtain ⟨before, after, rfl, -, -⟩ := h.place
  exact List.mem_append_right _ (List.mem_cons_self ..)

theorem Wins.le (h : Wins gs text g) {q : Grammar} (hq : q ∈ gs) :
    q.relevance text ≤ g.relevance text := by
  obtain ⟨before, after, rfl, hbefore, hafter⟩ := h.place
  rcases List.mem_append.mp hq with hq | hq
  · exact Int.le_of_lt (hbefore q hq)
  · rcases List.mem_cons.mp hq with rfl | hq
    · exact Int.le_refl _
    · exact hafter q hq

/-- No more than one grammar wins. -/
theorem Wins.unique (h : Wins gs text g) (h' : Wins gs text g') : g = g' := by
  have hle := h.le h'.mem
  have hle' := h'.le h.mem
  obtain ⟨before, after, rfl, hbefore, -⟩ := h.place
  obtain ⟨before', after', heq, hbefore', -⟩ := h'.place
  -- each stands first among those with the highest score, so neither stands before the other
  rcases List.append_eq_append_iff.mp heq with ⟨mid, rfl, hmid⟩ | ⟨mid, rfl, hmid⟩
  · cases mid with
    | nil => exact (List.cons.inj hmid).1
    | cons q mid =>
        obtain ⟨rfl, -⟩ := List.cons.inj hmid
        have := hbefore' g (List.mem_append_right _ (List.mem_cons_self ..))
        omega
  · cases mid with
    | nil => exact (List.cons.inj hmid).1.symm
    | cons q mid =>
        obtain ⟨rfl, -⟩ := List.cons.inj hmid
        have := hbefore g' (List.mem_append_right _ (List.mem_cons_self ..))
        omega

/-- A grammar that scores no more than the one that wins may come last. -/
theorem Wins.append_singleton (h : Wins gs text g) {q : Grammar}
    (hq : q.relevance text ≤ g.relevance text) : Wins (gs ++ [q]) text g := by
  obtain ⟨before, after, rfl, hbefore, hafter⟩ := h.place
  refine ⟨h.positive, before, after ++ [q], by simp, hbefore, fun p hp => ?_⟩
  rcases List.mem_append.mp hp with hp | hp
  · exact hafter p hp
  · exact List.mem_singleton.mp hp ▸ hq

/-- **Who wins among more grammars** won before, or is one of the new ones and scores higher than
all that come before it. -/
theorem Wins.of_append (h : Wins (gs ++ more) text g) :
    Wins gs text g ∨ ∃ between after, more = between ++ g :: after ∧
      ∀ q ∈ gs ++ between, q.relevance text < g.relevance text := by
  obtain ⟨before, after, heq, hbefore, hafter⟩ := h.place
  rcases List.append_eq_append_iff.mp heq with ⟨between, rfl, hmore⟩ | ⟨mid, rfl, hmid⟩
  · exact Or.inr ⟨between, after, hmore, hbefore⟩
  · cases mid with
    | nil =>
        refine Or.inr ⟨[], after, hmid.symm, fun q hq => hbefore q ?_⟩
        simpa using hq
    | cons p mid =>
        obtain ⟨rfl, rfl⟩ := List.cons.inj hmid
        exact Or.inl ⟨h.positive, before, mid, rfl, hbefore,
          fun q hq => hafter q (List.mem_append_left _ hq)⟩

/-! ## The scores one after the other -/

/-- What stands as the best after some grammars. -/
def Stands (gs : List Grammar) (text : String) : Option (String × Int) → Prop
  | none => ∀ g ∈ gs, g.relevance text ≤ 0
  | some best => ∃ g, Wins gs text g ∧ best = (g.language, g.relevance text)

/-- No score is above the one to beat, which is zero as long as there is no best. -/
theorem Stands.le (h : Stands gs text best?) {q : Grammar} (hq : q ∈ gs) :
    q.relevance text ≤ (best?.map Prod.snd).getD 0 := by
  cases best? with
  | none => exact h q hq
  | some best =>
      obtain ⟨g, hg, rfl⟩ := h
      exact hg.le hq

theorem Stands.nonneg (h : Stands gs text best?) : 0 ≤ (best?.map Prod.snd).getD 0 := by
  cases best? with
  | none => exact Int.le_refl 0
  | some best =>
      obtain ⟨g, hg, rfl⟩ := h
      exact Int.le_of_lt hg.positive

/-- **One more score.** -/
theorem Stands.better (h : Stands gs text best?) (q : Grammar) :
    Stands (gs ++ [q]) text (better best? (q.language, q.relevance text)) := by
  unfold Registry.better
  by_cases hq : q.relevance text > (best?.map Prod.snd).getD 0
  · -- it beats the best so far, and with it all that the best so far is no worse than
    rw [if_pos hq]
    refine ⟨q, ⟨Int.lt_of_le_of_lt h.nonneg hq, gs, [], rfl, fun p hp => ?_, by simp⟩, rfl⟩
    exact Int.lt_of_le_of_lt (h.le hp) hq
  · rw [if_neg hq]
    have hq := Int.not_lt.mp hq
    cases best? with
    | none =>
        intro p hp
        rcases List.mem_append.mp hp with hp | hp
        · exact h p hp
        · exact List.mem_singleton.mp hp ▸ hq
    | some best =>
        obtain ⟨g, hg, rfl⟩ := h
        exact ⟨g, hg.append_singleton hq, rfl⟩

theorem Stands.foldl : ∀ {gs : List Grammar} {best? : Option (String × Int)},
    Stands gs text best? → ∀ rest : List Grammar,
      Stands (gs ++ rest) text
        ((rest.map fun q => (q.language, q.relevance text)).foldl Registry.better best?)
  | gs, _, h, [] => by rwa [List.append_nil]
  | gs, _, h, q :: rest => by
      have hrest := (h.better q).foldl rest
      rwa [List.append_assoc] at hrest

/-- **What stands after all scores.** -/
theorem stands_scores (r : Registry) (text : String) :
    Stands r.grammars text ((r.scores text).foldl better none) := by
  have hnone : Stands [] text none := fun g hg => absurd hg (by simp)
  exact hnone.foldl r.grammars

/-! ## The answer -/

/-- The answer is the name of what stands after all scores. -/
theorem detect?_stands (r : Registry) (text : String) :
    ∃ best?, Stands r.grammars text best? ∧ r.detect? text = best?.map Prod.fst :=
  ⟨_, stands_scores r text, rfl⟩

theorem detect?_eq_none {r : Registry} :
    r.detect? text = none ↔ ∀ g ∈ r.grammars, g.relevance text ≤ 0 := by
  obtain ⟨best?, hstands, hanswer⟩ := r.detect?_stands text
  rw [hanswer]
  cases best? with
  | none => exact iff_of_true rfl hstands
  | some best =>
      obtain ⟨g, hg, rfl⟩ := hstands
      refine iff_of_false (Option.some_ne_none _) fun h => ?_
      exact absurd (h g hg.mem) (Int.not_le.mpr hg.positive)

theorem detect?_of_wins {r : Registry} (h : Wins r.grammars text g) :
    r.detect? text = some g.language := by
  obtain ⟨best?, hstands, hanswer⟩ := r.detect?_stands text
  rw [hanswer]
  cases best? with
  | none => exact absurd (hstands g h.mem) (Int.not_le.mpr h.positive)
  | some best =>
      obtain ⟨g', hg', rfl⟩ := hstands
      rw [h.unique hg']
      rfl

theorem exists_wins {r : Registry} {name : String} (h : r.detect? text = some name) :
    ∃ g, Wins r.grammars text g ∧ g.language = name := by
  obtain ⟨best?, hstands, hanswer⟩ := r.detect?_stands text
  obtain ⟨best, rfl, rfl⟩ := Option.map_eq_some_iff.mp (hanswer.symm.trans h)
  obtain ⟨g, hg, rfl⟩ := hstands
  exact ⟨g, hg, rfl⟩

/-- Registering puts grammars last, in their order. -/
theorem foldlM_register : ∀ {more : List Grammar} {r r' : Registry},
    more.foldlM register r = .ok r' → r'.grammars = r.grammars ++ more
  | [], _, _, h => by
      rw [← Except.ok.inj h, List.append_nil]
  | g :: more, r, r', h => by
      rw [List.foldlM_cons] at h
      obtain ⟨r₁, hr₁, hrest⟩ := Compiling.bind_ok.mp h
      rw [register_eq] at hr₁
      split at hr₁
      · exact absurd hr₁ (by simp)
      · rw [foldlM_register hrest, ← Except.ok.inj hr₁, insert, List.append_assoc]
        rfl

/-- What is told about the language of a text. -/
structure Tells (r : Registry) (text : String) : Prop where
  /-- No language is named if, and only if, every grammar scores zero or less. -/
  unnamed : r.detect? text = none ↔ ∀ g ∈ r.grammars, g.relevance text ≤ 0
  /-- A language is named if, and only if, it is that of the first grammar with the highest
  score. -/
  named : ∀ name, r.detect? text = some name ↔ ∃ g, Wins r.grammars text g ∧ g.language = name
  /-- Grammars registered later do not change the answer, unless it changes to one of them that
  scores above zero and higher than all grammars before it. -/
  extended : ∀ (more : List Grammar) (r' : Registry), more.foldlM register r = .ok r' →
    r'.detect? text = r.detect? text ∨
      ∃ between g after, more = between ++ g :: after ∧ r'.detect? text = some g.language ∧
        0 < g.relevance text ∧ ∀ q ∈ r.grammars ++ between, q.relevance text < g.relevance text

/--
**The language of a text is that of the first grammar with the highest score**, if that is above
zero.

This is so for any number of grammars and any scores. A grammar that is registered later becomes the
answer only by a higher score than all before it have.
-/
theorem detect_first_best (r : Registry) (text : String) : Tells r text := by
  refine ⟨detect?_eq_none, fun name => ⟨exists_wins, ?_⟩, fun more r' hr' => ?_⟩
  · intro hname
    obtain ⟨g, hg, rfl⟩ := hname
    exact detect?_of_wins hg
  · have hgrammars := foldlM_register hr'
    cases hdetect : r'.detect? text with
    | none =>
        -- where no grammar scores above zero, none of the earlier ones does
        have hle := detect?_eq_none.mp hdetect
        rw [hgrammars] at hle
        exact Or.inl (detect?_eq_none.mpr fun g hg => hle g (List.mem_append_left _ hg)).symm
    | some name =>
        obtain ⟨g, hg, rfl⟩ := exists_wins hdetect
        have hpositive := hg.positive
        rw [hgrammars] at hg
        rcases hg.of_append with hold | ⟨between, after, hmore, hbefore⟩
        · exact Or.inl (detect?_of_wins hold).symm
        · exact Or.inr ⟨between, g, after, hmore, rfl, hpositive, hbefore⟩

end Lexlight.Registry
