import Mathlib.Data.Nat.Find
import Lexlight.Grammar.Compile
import Lexlight.Proofs.Pattern.OneWay

/-!
# Comments and quoted strings

The three kinds of patterns that are made from markers, each by where its match ends: a line comment
at the end of its line, a block comment after the nearest end marker (`Closes`), a quoted string
after the first quote that no backslash takes along (`Quoted`). A comment that is not closed ends
with the source, and so does a string.
-/

namespace Lexlight

namespace Source

variable {src : Source}

/-- A character that does not end a line. -/
def inLine (c : Char) : Bool := c != '\r' && c != '\n'

/-- Where a block comment ends that is open at `start`: after the first end marker from there, or
with the source when there is none. -/
def Closes (src : Source) (marker : List Char) (start stop : Nat) : Prop :=
  (∃ last, start ≤ last ∧ src.HasAt last marker ∧
    (∀ i, start ≤ i → i < last → ¬ src.HasAt i marker) ∧ stop = last + marker.length) ∨
  ((∀ i, start ≤ i → ¬ src.HasAt i marker) ∧ stop = src.size)

/-- The inside of a quoted string, from a place in it to where it ends: at a quote, or at the end of
the source. A backslash takes the character after it along, and the last character of a source may
be a backslash. -/
inductive Quoted (src : Source) (quote : Char) : (pos stop : Nat) → Prop where
  | done {pos : Nat} : src[pos]? = none ∨ src[pos]? = some quote ∧ quote ≠ '\\' →
      Quoted src quote pos pos
  | plain {pos stop : Nat} {c : Char} : src[pos]? = some c → c ≠ quote → c ≠ '\\' →
      Quoted src quote (pos + 1) stop → Quoted src quote pos stop
  | escaped {pos stop : Nat} {c : Char} : src[pos]? = some '\\' → src[pos + 1]? = some c →
      Quoted src quote (pos + 2) stop → Quoted src quote pos stop
  | lone {pos : Nat} : src[pos]? = some '\\' → src[pos + 1]? = none → Quoted src quote pos (pos + 1)

theorem lt_size {pos : Nat} {c : Char} (h : src[pos]? = some c) : pos < src.size :=
  (Array.getElem?_eq_some_iff.mp h).1

/-- Characters that stand in a source fit into it. -/
theorem HasAt.le_size {cs : List Char} {pos : Nat} (h : src.HasAt pos cs) (hp : pos ≤ src.size) :
    pos + cs.length ≤ src.size := by
  induction cs generalizing pos with
  | nil => exact hp
  | cons c rest ih =>
      have := ih h.2 (lt_size h.1)
      rw [List.length_cons]
      omega

theorem HasAt.lt_size {cs : List Char} {pos : Nat} (h : src.HasAt pos cs) (hne : cs ≠ []) :
    pos < src.size := by
  cases cs with
  | nil => exact absurd rfl hne
  | cons c rest => exact Source.lt_size h.1

/-- A block comment always ends somewhere. -/
theorem exists_closes (src : Source) (marker : List Char) (start : Nat) :
    ∃ stop, src.Closes marker start stop := by
  by_cases hex : ∃ i, start ≤ i ∧ src.HasAt i marker
  · obtain ⟨hle, hat⟩ := Nat.find_spec hex
    exact ⟨_, Or.inl ⟨_, hle, hat, fun i h1 h2 h => Nat.find_min hex h2 ⟨h1, h⟩, rfl⟩⟩
  · exact ⟨_, Or.inr ⟨fun i h1 h => hex ⟨i, h1, h⟩, rfl⟩⟩

theorem Closes.le {marker : List Char} {start stop : Nat} (h : src.Closes marker start stop)
    (hstart : start ≤ src.size) : start ≤ stop := by
  rcases h with ⟨last, hle, _, _, rfl⟩ | ⟨_, rfl⟩
  · exact Nat.le_add_right_of_le hle
  · exact hstart

theorem Quoted.le {quote : Char} {pos stop : Nat} (h : src.Quoted quote pos stop) : pos ≤ stop := by
  induction h with
  | done _ => exact Nat.le_refl _
  | plain _ _ _ _ ih => omega
  | escaped _ _ _ ih => omega
  | lone _ _ => exact Nat.le_succ _

/-- Inside of a quoted string, there is always a place where it ends. -/
theorem exists_quoted (src : Source) (quote : Char) (pos : Nat) :
    ∃ stop, Quoted src quote pos stop := by
  have key : ∀ (left pos : Nat), src.size - pos ≤ left → ∃ stop, Quoted src quote pos stop := by
    intro left
    induction left using Nat.strong_induction_on with
    | h left ih =>
        intro pos hleft
        cases hc : src[pos]? with
        | none => exact ⟨pos, .done (Or.inl hc)⟩
        | some c =>
            have hlt := lt_size hc
            by_cases hslash : c = '\\'
            · -- two characters go at once, so the induction has to reach further than one step
              subst hslash
              cases hd : src[pos + 1]? with
              | none => exact ⟨pos + 1, .lone hc hd⟩
              | some d =>
                  have hlt' := lt_size hd
                  obtain ⟨stop, hstop⟩ := ih (left - 2) (by omega) (pos + 2) (by omega)
                  exact ⟨stop, .escaped hc hd hstop⟩
            · by_cases hquote : c = quote
              · subst hquote
                exact ⟨pos, .done (Or.inr ⟨hc, hslash⟩)⟩
              · obtain ⟨stop, hstop⟩ := ih (left - 1) (by omega) (pos + 1) (by omega)
                exact ⟨stop, .plain hc hquote hslash hstop⟩
  exact key (src.size - pos) pos (Nat.le_refl _)

end Source

namespace Pattern

open Source

variable {src : Source} {pos : Nat}

/-! ## Line comments -/

theorem accepts_inLine :
    (CharTest.oneOf [.one 13, .one 10] .exact true).accepts = Source.inLine := by
  funext c
  have hr : c.toNat = 13 ↔ c = '\r' := @Char.toNat_inj c '\r'
  have hn : c.toNat = 10 ↔ c = '\n' := @Char.toNat_inj c '\n'
  rw [Bool.eq_iff_iff]
  simp [CharTest.accepts, SetMember.accepts, Source.inLine, hr, hn]

/-- A line comment ends where its line does. -/
theorem matchEnd?_lineComment (m : String) :
    (lineComment .exact m).matchEnd? src pos =
      if src.HasAt pos m.toList then some (src.runEnd inLine (pos + m.toList.length))
      else none := by
  have hstar : lineComment .exact m =
      .seq (.literal .exact m) (star (.oneOf [.one 13, .one 10] .exact true)) := rfl
  rw [hstar, matchEnd?, run_seq, run_literal]
  split
  · rw [run_star (settled_some _ _), accepts_inLine]
    rfl
  · rfl

/-! ## Block comments -/

/-- The end of a block comment: an end marker, or the end of the source. -/
theorem run_closing (b : String) {s : MatchState} :
    (Pattern.alt (.literal .exact b) (.anchor .textEnd)).run src s some =
      if src.HasAt s.pos b.toList then some { s with pos := s.pos + b.toList.length }
      else if s.pos = src.size then some s else none := by
  rw [run_alt, run_literal, run]
  split
  · rfl
  · simp [Anchor.holds]

/-- A block comment reaches where it closes, since the search stops at no place before. -/
theorem matchEnd?_of_closes {a b : String} (hb : b ≠ "") (hp : pos ≤ src.size) {stop : Nat}
    (ha : src.HasAt pos a.toList) (h : src.Closes b.toList (pos + a.toList.length) stop) :
    (blockComment .exact a b).matchEnd? src pos = some stop := by
  have hne : b.toList ≠ [] := by simpa using hb
  rw [matchEnd?, blockComment, run_seq, run_literal, if_pos ha, run_seq]
  rcases h with ⟨last, hle, hat, hmin, rfl⟩ | ⟨hnone, rfl⟩
  · -- before the first marker there is no marker and no end
    have hlt := hat.lt_size hne
    rw [run_fewest_any hle (Nat.le_of_lt hlt), run_closing, if_pos hat]
    · rfl
    · intro i h1 h2
      rw [run_closing, if_neg (hmin i h1 h2), if_neg (by dsimp only; omega)]
    · rw [run_closing, if_pos hat]
      rfl
  · have hstart := ha.le_size hp
    rw [run_fewest_any hstart (Nat.le_refl _), run_closing, if_neg (hnone _ hstart), if_pos rfl]
    · rfl
    · intro i h1 h2
      rw [run_closing, if_neg (hnone i h1), if_neg (by dsimp only; omega)]
    · rw [run_closing, if_neg (hnone _ hstart), if_pos rfl]
      rfl

/-- **A block comment ends after the nearest end marker**, or with the source. -/
theorem matchEnd?_blockComment {a b : String} (hb : b ≠ "") (hp : pos ≤ src.size) {stop : Nat} :
    (blockComment .exact a b).matchEnd? src pos = some stop ↔
      src.HasAt pos a.toList ∧ src.Closes b.toList (pos + a.toList.length) stop := by
  constructor
  · intro h
    by_cases ha : src.HasAt pos a.toList
    · obtain ⟨other, hother⟩ := exists_closes src b.toList (pos + a.toList.length)
      rw [matchEnd?_of_closes hb hp ha hother] at h
      exact ⟨ha, Option.some.inj h ▸ hother⟩
    · rw [matchEnd?, blockComment, run_seq, run_literal, if_neg ha] at h
      exact absurd h (by simp)
  · rintro ⟨ha, h⟩
    exact matchEnd?_of_closes hb hp ha h

/-! ## Quoted strings -/

/-- One round inside of a quoted string. -/
def quotedRound (quote : Char) : Pattern :=
  .alt (.char (unquoted .exact quote)) (.seq (.char (.ofChar .exact '\\')) (optional .any))

theorem accepts_unquoted {quote c : Char} :
    (unquoted .exact quote).accepts c = true ↔ c ≠ quote ∧ c ≠ '\\' := by
  have hq : c.toNat = quote.toNat ↔ c = quote := Char.toNat_inj
  have hs : c.toNat = 92 ↔ c = '\\' := @Char.toNat_inj c '\\'
  unfold unquoted
  split
  · rename_i hquote
    subst hquote
    simp [CharTest.accepts, Fold.same, Fold.alike, Fold.key, hs]
  · simp [CharTest.accepts, SetMember.accepts, hq, hs]

/-- With a character inside of a string, a round takes it. -/
theorem run_quotedRound_plain {quote c : Char} {s : MatchState} {k : MatchState → Option MatchState}
    (hc : src[s.pos]? = some c) (hquote : c ≠ quote) (hslash : c ≠ '\\')
    (hk : (k { s with pos := s.pos + 1 }).isSome) :
    (quotedRound quote).run src s k = k { s with pos := s.pos + 1 } := by
  have hplain : src[s.pos]?.any (unquoted .exact quote).accepts = true := by
    rw [hc]
    exact accepts_unquoted.mpr ⟨hquote, hslash⟩
  obtain ⟨r, hr⟩ := Option.isSome_iff_exists.mp hk
  rw [quotedRound, run_alt, run_char, if_pos hplain, hr]
  rfl

/-- With a backslash inside of a string, a round takes it, and the character after it if there is
one. -/
theorem run_quotedRound_slash {quote : Char} {s : MatchState} {k : MatchState → Option MatchState}
    (hc : src[s.pos]? = some '\\')
    (hk : (k { s with pos := src.skip (fun _ => true) (s.pos + 1) }).isSome) :
    (quotedRound quote).run src s k =
      k { s with pos := src.skip (fun _ => true) (s.pos + 1) } := by
  have hplain : ¬ src[s.pos]?.any (unquoted .exact quote).accepts = true := by
    rw [hc]
    exact fun h => (accepts_unquoted.mp h).2 rfl
  rw [quotedRound, run_alt, run_char, if_neg hplain, run_seq, run_char, if_pos (any_ofChar.mpr hc)]
  exact run_optional (Or.inl hk)

/-- At the end of a string, a round takes nothing. -/
theorem run_quotedRound_done {quote : Char} {s : MatchState} {k : MatchState → Option MatchState}
    (h : src[s.pos]? = none ∨ src[s.pos]? = some quote ∧ quote ≠ '\\') :
    (quotedRound quote).run src s k = none := by
  have hplain : ¬ src[s.pos]?.any (unquoted .exact quote).accepts = true := by
    rcases h with h | ⟨h, _⟩
    · rw [h]
      exact Bool.false_ne_true
    · rw [h]
      exact fun h => (accepts_unquoted.mp h).1 rfl
  have hslash : ¬ src[s.pos]? = some '\\' := by
    rcases h with h | ⟨h, hne⟩
    · rw [h]
      exact fun h => absurd h (by simp)
    · rw [h]
      exact fun h => hne (Option.some.inj h)
  rw [quotedRound, run_alt, run_char, if_neg hplain, run_seq, run_char,
    if_neg (mt any_ofChar.mp hslash)]
  rfl

/-- The rounds of a string lead to where its inside ends, if what follows takes anything. -/
theorem most_quotedRound {quote : Char} {k : MatchState → Option MatchState}
    (hk : ∀ s, (k s).isSome) {captures : Captures} {stop : Nat} (h : src.Quoted quote pos stop) :
    ∀ n, src.size - pos ≤ n →
      MatchStep.most ((quotedRound quote).run src) n ⟨pos, captures⟩ k = k ⟨stop, captures⟩ := by
  -- what is given back after a round has no effect, since what follows takes anything
  have horElse : ∀ s s' : MatchState, (k s <|> k s') = k s := by
    intro s s'
    obtain ⟨r, hr⟩ := Option.isSome_iff_exists.mp (hk s)
    rw [hr]
    rfl
  induction h with
  | done hdone =>
      intro n _
      cases n with
      | zero => rfl
      | succ n =>
          rw [MatchStep.most, run_quotedRound_done hdone]
          rfl
  | @plain pos stop c hc hquote hslash _ ih =>
      intro n hn
      have hlt := Source.lt_size hc
      obtain ⟨n, rfl⟩ : ∃ m, n = m + 1 := ⟨n - 1, by omega⟩
      have hnext := ih n (by omega)
      rw [MatchStep.most, run_quotedRound_plain hc hquote hslash, if_neg (by dsimp only; omega),
        hnext]
      · exact horElse _ _
      · rw [if_neg (by dsimp only; omega), hnext]
        exact hk _
  | @escaped pos stop c hc hd _ ih =>
      intro n hn
      have hlt := Source.lt_size hd
      obtain ⟨n, rfl⟩ : ∃ m, n = m + 1 := ⟨n - 1, by omega⟩
      have hnext := ih n (by omega)
      have hskip : src.skip (fun _ => true) (pos + 1) = pos + 2 := by
        rw [Source.skip, hd]
        rfl
      rw [MatchStep.most, run_quotedRound_slash hc, hskip, if_neg (by dsimp only; omega), hnext]
      · exact horElse _ _
      · rw [hskip, if_neg (by dsimp only; omega), hnext]
        exact hk _
  | @lone pos hc hd =>
      intro n hn
      have hlt := Source.lt_size hc
      obtain ⟨n, rfl⟩ : ∃ m, n = m + 1 := ⟨n - 1, by omega⟩
      have hskip : src.skip (fun _ => true) (pos + 1) = pos + 1 := by
        rw [Source.skip, hd]
        rfl
      have hnext : MatchStep.most ((quotedRound quote).run src) n ⟨pos + 1, captures⟩ k =
          k ⟨pos + 1, captures⟩ := by
        cases n with
        | zero => rfl
        | succ n =>
            rw [MatchStep.most, run_quotedRound_done (Or.inl hd)]
            rfl
      rw [MatchStep.most, run_quotedRound_slash hc, hskip, if_neg (by dsimp only; omega), hnext]
      · exact horElse _ _
      · rw [hskip, if_neg (by dsimp only; omega), hnext]
        exact hk _

/-- A quoted string reaches over its inside, and over the quote after it if there is one. -/
theorem matchEnd?_of_quoted {quote : Char} {inside : Nat} (hquote : src[pos]? = some quote)
    (h : src.Quoted quote (pos + 1) inside) :
    (quotedString .exact quote).matchEnd? src pos = some (src.skip (· = quote) inside) := by
  have hrounds : quotedString .exact quote =
      .seq (.char (.ofChar .exact quote))
        (.seq (.rep (quotedRound quote) 0 none .greedy) (optional (.ofChar .exact quote))) := rfl
  have hrep : ∀ k, (Pattern.rep (quotedRound quote) 0 none .greedy).run src ⟨pos + 1, {}⟩ k =
      MatchStep.most ((quotedRound quote).run src) (src.size + 1) ⟨pos + 1, {}⟩ k := fun _ => rfl
  have hlast : ∀ s : MatchState, (optional (.ofChar .exact quote)).run src s some =
      some { s with pos := src.skip (· = quote) s.pos } := by
    intro s
    rw [run_optional (settled_some _ _), accepts_ofChar]
  rw [hrounds, matchEnd?, run_seq, run_char, if_pos (any_ofChar.mpr hquote), run_seq, hrep]
  simp only [hlast]
  rw [most_quotedRound (fun _ => rfl) h _ (by omega)]
  rfl

/-- **A quoted string ends after the first quote that is not taken along**, or with the source. -/
theorem matchEnd?_quotedString {quote : Char} {stop : Nat} :
    (quotedString .exact quote).matchEnd? src pos = some stop ↔
      src[pos]? = some quote ∧
        ∃ inside, src.Quoted quote (pos + 1) inside ∧ stop = src.skip (· = quote) inside := by
  constructor
  · intro h
    by_cases hquote : src[pos]? = some quote
    · obtain ⟨inside, hinside⟩ := exists_quoted src quote (pos + 1)
      rw [matchEnd?_of_quoted hquote hinside] at h
      exact ⟨hquote, inside, hinside, (Option.some.inj h).symm⟩
    · rw [matchEnd?, quotedString, run_seq, run_char, if_neg (mt any_ofChar.mp hquote)] at h
      exact absurd h (by simp)
  · rintro ⟨hquote, inside, hinside, rfl⟩
    exact matchEnd?_of_quoted hquote hinside

end Pattern
end Lexlight
