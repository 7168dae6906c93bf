import Lexlight.Proofs.Pattern.Advance
import Lexlight.Proofs.Source.Row
import Lexlight.Rule

/-!
# What a rule finds

The two kinds of rules, each by what makes it find something: a token rule where its pattern takes
something, a lexeme rule where no word character stands before and an entry or a lexeme does.
`Rule.Advances` is what the scan needs of a rule, that a find ends past its start. A token rule
always has it, and a lexeme rule has it when the matcher of its entries does.
-/

namespace Lexlight

/-- The form in which a word is looked up. -/
def Lexicon.key (l : Lexicon) (word : String) : String :=
  if l.caseSensitive then word else Unicode.foldCase word

/-- A word has a category only by being listed. -/
theorem Lexicon.classify_eq_some {l : Lexicon} {word : String} {c : Category}
    (h : l.classify word = some c) :
    c = .keyword ∧ l.key word ∈ l.keywords ∨ c = .builtin ∧ l.key word ∈ l.builtins := by
  have h : (if l.key word ∈ l.keywords then some Category.keyword
      else if l.key word ∈ l.builtins then some .builtin else none) = some c := h
  split at h
  · rename_i hk
    exact Or.inl ⟨(Option.some.inj h).symm, hk⟩
  · split at h
    · rename_i hb
      exact Or.inr ⟨(Option.some.inj h).symm, hb⟩
    · exact absurd h (by simp)

namespace Rule

/-- The category of a token rule; the lexeme rule has none of its own. -/
def category? : Rule → Option Category
  | .token c .. => some c
  | .lexeme _ => none

variable {src : Source} {pos : Nat} {hit : Hit}

theorem hit?_token {c : Category} {p : Pattern} {relevance : Int} :
    (Rule.token c p relevance).hit? src pos = some hit ↔
      p.matchEnd? src pos = some hit.stop ∧ hit.stop ≠ pos ∧ hit.category? = some c := by
  obtain ⟨category?, stop⟩ := hit
  simp only [hit?, hitFrom]
  cases p.matchEnd? src pos with
  | none => simp
  | some e =>
      by_cases he : e = pos
      · simp only [he, if_pos, reduceCtorEq, false_iff, Option.some.injEq]
        intro ⟨h, hne, _⟩
        exact hne h.symm
      · simp only [Int.natCast_inj, if_neg he, Option.some.injEq, Hit.mk.injEq]
        constructor
        · rintro ⟨rfl, rfl⟩; exact ⟨rfl, he, rfl⟩
        · rintro ⟨rfl, _, rfl⟩; exact ⟨rfl, rfl⟩

theorem hit?_lexeme {l : Lexicon} :
    (Rule.lexeme l).hit? src pos = some hit ↔
      src.before Unicode.isWord pos = false ∧ hit.category? = l.classify (src.slice pos hit.stop) ∧
      (l.literals?.bind (·.matchEnd? src pos) = some hit.stop ∨
        l.literals?.bind (·.matchEnd? src pos) = none ∧
          l.pattern.matchEnd? src pos = some hit.stop ∧ hit.stop ≠ pos) := by
  obtain ⟨category?, stop⟩ := hit
  simp only [hit?, hitFrom, Lexicon.hitFrom, Source.before]
  split
  · rename_i hw
    simp [hw]
  · rename_i hw
    simp only [Bool.not_eq_true] at hw
    simp only [hw, true_and]
    cases l.literals?.bind (·.matchEnd? src pos) with
    | some e =>
        simp only [Option.some.injEq, Hit.mk.injEq, reduceCtorEq, false_and, or_false]
        constructor
        · rintro ⟨rfl, rfl⟩; exact ⟨rfl, rfl⟩
        · rintro ⟨rfl, rfl⟩; exact ⟨rfl, rfl⟩
    | none =>
        simp only [reduceCtorEq, false_or, true_and]
        cases l.pattern.matchEnd? src pos with
        | none => simp
        | some e =>
            by_cases he : e = pos
            · simp only [he, if_pos, reduceCtorEq, false_iff, Option.some.injEq]
              rintro ⟨_, h, hne⟩
              exact hne h.symm
            · simp only [Int.natCast_inj, if_neg he, Option.some.injEq, Hit.mk.injEq]
              constructor
              · rintro ⟨rfl, rfl⟩; exact ⟨rfl, rfl, he⟩
              · rintro ⟨rfl, rfl, _⟩; exact ⟨rfl, rfl⟩

/-- Every find ends past its start and within the source. -/
def Advances (r : Rule) : Prop :=
  ∀ (src : Source) (pos : Nat) (hit : Hit), pos < src.size → r.hit? src pos = some hit →
    pos < hit.stop ∧ hit.stop ≤ src.size

theorem advances_token (c : Category) (p : Pattern) (relevance : Int) :
    (Rule.token c p relevance).Advances := by
  intro src pos hit hp h
  obtain ⟨hm, hne, _⟩ := hit?_token.mp h
  obtain ⟨hle, hend⟩ := Pattern.matchEnd?_bounds (Nat.le_of_lt hp) hm
  exact ⟨by omega, hend⟩

theorem advances_lexeme {l : Lexicon} (hl : ∀ p ∈ l.literals?, p.Advancing) :
    (Rule.lexeme l).Advances := by
  intro src pos hit hp h
  have hp' := Nat.le_of_lt hp
  obtain ⟨_, _, hfound⟩ := hit?_lexeme.mp h
  rcases hfound with hm | ⟨_, hm, hne⟩
  · obtain ⟨p, hlit, hm⟩ := Option.bind_eq_some_iff.mp hm
    exact ⟨(hl p hlit).lt_matchEnd? hp' hm, (Pattern.matchEnd?_bounds hp' hm).2⟩
  · obtain ⟨hle, hend⟩ := Pattern.matchEnd?_bounds hp' hm
    exact ⟨by omega, hend⟩

/-- A rule that is asked within the source has an answer, and it is what the rule finds. -/
theorem probe_eq (hp : pos ≤ src.size) (r : Rule) : r.probe src pos = some (r.hit? src pos) := by
  cases r with
  | token category pattern relevance =>
      have hmin : min (pos : Int).toNat src.size = pos := by omega
      simp only [probe, hit?, hmin]
  | lexeme l =>
      simp only [probe, hit?, Int.toNat_natCast]
      rw [if_neg (by omega)]

end Rule
end Lexlight
