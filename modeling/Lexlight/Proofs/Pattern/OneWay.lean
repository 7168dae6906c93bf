import Lexlight.Pattern.Match
import Lexlight.Proofs.Source.Row

/-!
# Matches that go one way

A search has many ways to go, and most of the patterns that are written have only one: where a
repetition of one character could give something back, what follows would not have it. That is what
`Settled` says, of a continuation and the place that a repetition reaches first. Where it holds, the
repetition is one step, to the end of the row (`run_star`, `run_plus`) or over one character
(`run_optional`), and a pattern can be read from left to right like a program.
-/

namespace Lexlight

namespace Pattern

/-- Any number of characters of a kind. -/
def star (t : CharTest) : Pattern := .rep (.char t) 0 none .greedy

/-- Characters of a kind, at least one. -/
def plus (t : CharTest) : Pattern := .rep (.char t) 1 none .greedy

/-- A character of a kind, if there is one. -/
def optional (t : CharTest) : Pattern := .rep (.char t) 0 (some 1) .greedy

/-- What follows accepts the place reached, or accepts no place before it. -/
def Settled (k : MatchState → Option MatchState) (s : MatchState) (stop : Nat) : Prop :=
  (k { s with pos := stop }).isSome ∨ ∀ p, s.pos ≤ p → p < stop → k { s with pos := p } = none

variable {src : Source} {s : MatchState} {k : MatchState → Option MatchState}

/-- Nothing has to be given back to what accepts everything. -/
theorem settled_some (s : MatchState) (stop : Nat) : Settled some s stop := Or.inl rfl

/-- An optional character is not given back when what follows does not accept the place of it. -/
theorem settled_skip {ok : Char → Bool} (h : src[s.pos]?.any ok = true → k s = none) :
    Settled k s (src.skip ok s.pos) := by
  unfold Source.skip
  split
  · rename_i hany
    refine Or.inr fun p h1 h2 => ?_
    obtain rfl : p = s.pos := by omega
    exact h hany
  · exact Or.inr fun p h1 h2 => absurd h2 (by omega)

theorem Settled.succ {stop : Nat} (h : Settled k s stop) :
    Settled k { s with pos := s.pos + 1 } stop := by
  rcases h with h | h
  · exact Or.inl h
  · exact Or.inr fun p h1 h2 => h p (Nat.le_of_succ_le h1) h2

/-- Giving back has no effect where things are settled. -/
theorem Settled.orElse {stop : Nat} (h : Settled k s stop) (hlt : s.pos < stop) :
    (k { s with pos := stop } <|> k s) = k { s with pos := stop } := by
  rcases h with h | h
  · obtain ⟨r, hr⟩ := Option.isSome_iff_exists.mp h
    rw [hr]
    rfl
  · have hnone : k s = none := h s.pos (Nat.le_refl _) hlt
    rw [hnone]
    cases k { s with pos := stop } <;> rfl

/-! ## One character -/

theorem run_char (t : CharTest) :
    (Pattern.char t).run src s k =
      if src[s.pos]?.any t.accepts then k { s with pos := s.pos + 1 } else none := by
  rw [run]
  cases src[s.pos]? with
  | none => rfl
  | some c => rfl

/-- A test for one character accepts that one. -/
theorem accepts_ofChar (c : Char) :
    (CharTest.ofChar .exact c).accepts = fun d => decide (d = c) := by
  funext d
  exact Bool.eq_iff_iff.mpr (by simp)

theorem run_seq (p q : Pattern) :
    (Pattern.seq p q).run src s k = p.run src s fun s' => q.run src s' k := by
  rw [run]

theorem run_alt (p q : Pattern) :
    (Pattern.alt p q).run src s k = (p.run src s k <|> q.run src s k) := by
  rw [run]

theorem run_notAhead (p : Pattern) :
    (Pattern.ahead false p).run src s k = if (p.run src s some).isSome then none else k s := by
  rw [run]
  cases p.run src s some with
  | none => rfl
  | some s' => rfl

theorem run_notBehind_char (t : CharTest) :
    (Pattern.behind false ⟨1, 1⟩ (.char t)).run src s k =
      if src.before t.accepts s.pos then none else k s := by
  rw [run]
  dsimp only
  unfold Source.before
  by_cases hpos : 1 ≤ s.pos
  · rw [if_pos hpos, run_char]
    cases src[s.pos - 1]?.any t.accepts with
    | true => simp [show 0 < s.pos from hpos]
    | false => simp
  · rw [if_neg hpos]
    simp [show ¬ 0 < s.pos from hpos]

/-! ## Repetition of one character -/

theorem most_char {t : CharTest} :
    ∀ {n : Nat} {s : MatchState}, src.size - s.pos ≤ n →
      Settled k s (src.runEnd t.accepts s.pos) →
      MatchStep.most ((Pattern.char t).run src) n s k =
        k { s with pos := src.runEnd t.accepts s.pos } := by
  intro n
  induction n with
  | zero =>
      intro s hn _
      have hend : src[s.pos]?.any t.accepts = false := by
        rw [Array.getElem?_eq_none (by omega)]
        rfl
      rw [MatchStep.most, Source.runEnd_of_not_any hend]
  | succ n ih =>
      intro s hn hset
      rw [MatchStep.most, run_char]
      cases hany : src[s.pos]?.any t.accepts with
      | false =>
          rw [Source.runEnd_of_not_any hany]
          rfl
      | true =>
          -- the rounds after this one end where the row does, and that is where it all ends,
          -- unless what follows has it no earlier either
          have hlt := Source.lt_size_of_any hany
          have hrow := Source.runEnd_of_any hany
          have hle := src.le_runEnd t.accepts (s.pos + 1)
          have hnext := ih (s := { s with pos := s.pos + 1 }) (by dsimp only; omega)
            (by dsimp only; rw [← hrow]; exact hset.succ)
          dsimp only at hnext
          rw [if_pos rfl, if_neg (by dsimp only; omega), hnext, ← hrow]
          exact hset.orElse (by omega)

theorem run_star {t : CharTest} (h : Settled k s (src.runEnd t.accepts s.pos)) :
    (star t).run src s k = k { s with pos := src.runEnd t.accepts s.pos } := by
  have hrun : (star t).run src s k =
      MatchStep.most ((Pattern.char t).run src) (src.size + 1) s k := rfl
  rw [hrun]
  exact most_char (by omega) h

theorem run_plus {t : CharTest} (h : Settled k s (src.runEnd t.accepts s.pos)) :
    (plus t).run src s k =
      if src[s.pos]?.any t.accepts then k { s with pos := src.runEnd t.accepts s.pos }
      else none := by
  have hrun : (plus t).run src s k = (Pattern.char t).run src s fun s' =>
      MatchStep.most ((Pattern.char t).run src) (src.size + 1) s' k := rfl
  rw [hrun, run_char]
  split
  · rename_i hany
    rw [Source.runEnd_of_any hany] at h ⊢
    exact most_char (by dsimp only; omega) h.succ
  · rfl

theorem run_optional {t : CharTest} (h : Settled k s (src.skip t.accepts s.pos)) :
    (optional t).run src s k = k { s with pos := src.skip t.accepts s.pos } := by
  have hrun : (optional t).run src s k =
      (((Pattern.char t).run src s fun s' => if s'.pos = s.pos then k s' else k s') <|> k s) := rfl
  rw [hrun, run_char]
  unfold Source.skip at h ⊢
  split
  · rename_i hany
    rw [if_pos hany] at h
    rw [if_neg (by dsimp only; omega)]
    exact h.orElse (Nat.lt_succ_self _)
  · rfl

/-- Where the shortest repetition of any characters stops: at the first place that what follows
accepts. -/
theorem run_fewest_any {stop : Nat} (hle : s.pos ≤ stop) (hend : stop ≤ src.size)
    (hbefore : ∀ p, s.pos ≤ p → p < stop → k { s with pos := p } = none)
    (hstop : (k { s with pos := stop }).isSome) :
    (Pattern.rep (.char .any) 0 none .lazy).run src s k = k { s with pos := stop } := by
  have key : ∀ (n : Nat) (s : MatchState), s.pos ≤ stop → stop - s.pos ≤ n →
      (∀ p, s.pos ≤ p → p < stop → k { s with pos := p } = none) →
      (k { s with pos := stop }).isSome →
      MatchStep.fewest ((Pattern.char .any).run src) n s k = k { s with pos := stop } := by
    intro n
    induction n with
    | zero =>
        intro s hle hn _ _
        obtain rfl : s.pos = stop := by omega
        rfl
    | succ n ih =>
        intro s hle hn hbefore hstop
        rw [MatchStep.fewest]
        rcases Nat.lt_or_eq_of_le hle with hlt | heq
        · -- what follows does not have this place, so one more character is taken
          have hnone : k s = none := hbefore s.pos (Nat.le_refl _) hlt
          have hany : src[s.pos]?.any CharTest.any.accepts = true := by
            rw [Array.getElem?_eq_getElem (by omega)]
            rfl
          rw [hnone, run_char, if_pos hany, if_neg (by dsimp only; omega)]
          exact ih { s with pos := s.pos + 1 } hlt (by dsimp only; omega)
            (fun p h1 h2 => hbefore p (Nat.le_of_succ_le h1) h2) hstop
        · subst heq
          obtain ⟨r, hr⟩ := Option.isSome_iff_exists.mp hstop
          have hr : k s = some r := hr
          rw [hr]
          rfl
  exact key (src.size + 1) s hle (by omega) hbefore hstop

/-! ## Given characters -/

/-- A source has a given character where a test for it succeeds. -/
theorem any_ofChar {c : Char} {pos : Nat} :
    src[pos]?.any (CharTest.ofChar .exact c).accepts = true ↔ src[pos]? = some c := by
  cases src[pos]? with
  | none => simp
  | some d => simp

theorem run_ofList_cons (p : Pattern) (ps : List Pattern) :
    (ofList (p :: ps)).run src s k = p.run src s fun s' => (ofList ps).run src s' k := by
  cases ps with
  | nil => rfl
  | cons q rest => rw [ofList, run_seq]; exact List.cons_ne_nil _ _

theorem run_ofList_append (ps qs : List Pattern) :
    ∀ s : MatchState, (ofList (ps ++ qs)).run src s k =
      (ofList ps).run src s fun s' => (ofList qs).run src s' k := by
  induction ps with
  | nil => exact fun s => rfl
  | cons p ps ih =>
      intro s
      rw [List.cons_append, run_ofList_cons, run_ofList_cons]
      simp only [ih]

theorem run_chars (cs : List Char) :
    ∀ s : MatchState, (ofList (cs.map fun c => .char (.ofChar .exact c))).run src s k =
      if src.HasAt s.pos cs then k { s with pos := s.pos + cs.length } else none := by
  induction cs with
  | nil => exact fun s => (if_pos trivial).symm
  | cons c rest ih =>
      intro s
      rw [List.map_cons, run_ofList_cons, run_char]
      by_cases hc : src[s.pos]? = some c
      · rw [if_pos (any_ofChar.mpr hc), ih]
        by_cases hrest : src.HasAt (s.pos + 1) rest
        · have hcons : src.HasAt s.pos (c :: rest) := ⟨hc, hrest⟩
          rw [if_pos hrest, if_pos hcons, List.length_cons]
          simp only [Nat.add_assoc, Nat.add_comm 1]
        · have hcons : ¬ src.HasAt s.pos (c :: rest) := fun h => hrest h.2
          rw [if_neg hrest, if_neg hcons]
      · have hcons : ¬ src.HasAt s.pos (c :: rest) := fun h => hc h.1
        rw [if_neg (mt any_ofChar.mp hc), if_neg hcons]

theorem run_literal (m : String) :
    (Pattern.literal .exact m).run src s k =
      if src.HasAt s.pos m.toList then k { s with pos := s.pos + m.toList.length } else none :=
  run_chars m.toList s

end Pattern
end Lexlight
