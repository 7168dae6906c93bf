import Lexlight.Proofs.Grammar.Compiled
import Lexlight.Proofs.Source.Row

/-!
# Tokens cover the source

A scan loses nothing and makes nothing up: its tokens lie end to end from the start of the source to
its end (`Covers`), each with the text of the place it spans. The loop keeps that of the text since
`pending`, which is where the next token begins, and a compiled grammar keeps the loop going
(`tokenize_partition`).
-/

namespace Lexlight

/-- The tokens cut up the source from a place to its end: the first begins there, each of the others
begins where the one before it ends, none is empty, and each holds the text that it spans. -/
def Covers (src : Source) : Nat → List Token → Prop
  | pos, [] => pos = src.size
  | pos, t :: ts =>
    t.start = pos ∧ t.start < t.stop ∧ t.stop ≤ src.size ∧
      t.text = src.slice t.start t.stop ∧ Covers src t.stop ts

namespace Covers

variable {src : Source} {ts : List Token}

theorem token {pos stop : Nat} {c : Category} (hlt : pos < stop) (hend : stop ≤ src.size)
    (h : Covers src stop ts) : Covers src pos (src.token c pos stop :: ts) :=
  ⟨rfl, hlt, hend, rfl, h⟩

/-- Plain text up to a place joins what covers the source from there. -/
theorem plainTokens_append {pending pos : Nat} (hle : pending ≤ pos) (hp : pos ≤ src.size)
    (h : Covers src pos ts) : Covers src pending (src.plainTokens pending pos ++ ts) := by
  unfold Source.plainTokens
  split
  · rename_i hlt
    exact token hlt hp h
  · obtain rfl : pending = pos := by omega
    exact h

/-- The texts of the tokens, put together, are the source from where they begin. -/
theorem flatMap_text : ∀ {ts : List Token} {pos : Nat}, Covers src pos ts →
    ts.flatMap (·.text.toList) = src.toList.drop pos
  | [], pos, h => by
      obtain rfl : pos = src.size := h
      rw [← Array.length_toList, List.drop_length, List.flatMap_nil]
  | t :: ts, pos, h => by
      obtain ⟨rfl, hlt, -, htext, hrest⟩ := h
      rw [List.flatMap_cons, hrest.flatMap_text, htext, Source.toList_slice, Source.span,
        show t.stop = t.start + (t.stop - t.start) by omega, ← List.drop_drop,
        show t.start + (t.stop - t.start) - t.start = t.stop - t.start by omega,
        List.take_append_drop]

/-- Only an empty source is covered by no tokens. -/
theorem eq_nil_iff (h : Covers src 0 ts) : ts = [] ↔ src.size = 0 := by
  cases ts with
  | nil => exact ⟨fun _ => h.symm, fun _ => rfl⟩
  | cons t ts =>
      obtain ⟨hs, hlt, hend, _⟩ := h
      constructor
      · intro hnil; exact absurd hnil (by simp)
      · intro hz; omega

end Covers

namespace Grammar

variable {g : Grammar} {src : Source}

/-- What the loop gives covers the source from where the text begins that is in no token yet. -/
theorem Scans.covers (hg : g.Advances) {pos pending : Nat} {ts : List Token}
    (h : Scans g src pos pending ts) (hle : pending ≤ pos) (hp : pos ≤ src.size) :
    Covers src pending ts := by
  induction h with
  | @done pos pending hend =>
      -- nothing covers the end of the source, and the text that is left over covers the rest
      have hnone : Covers src src.size [] := rfl
      have hrest := hnone.plainTokens_append (Nat.le_trans hle hp) (Nat.le_refl _)
      rwa [List.append_nil] at hrest
  | skip hlt _ _ ih => exact ih (by omega) hlt
  | pass hlt hf _ ih =>
      obtain ⟨hpast, hend⟩ := hg src _ _ hlt (hit?_of_probe hlt hf)
      dsimp only at hpast hend
      exact ih (by omega) hend
  | find hlt hf _ ih =>
      obtain ⟨hpast, hend⟩ := hg src _ _ hlt (hit?_of_probe hlt hf)
      exact (Covers.token hpast hend (ih (Nat.le_refl _) hend)).plainTokens_append hle hp

/--
**A scan partitions its source.**

Under a compiled grammar the loop comes to its end on every text, with every rule that is asked on
the way answering, and what it gives is the scan. The tokens lie end to end over the text, and there
are none exactly when the text is empty.
-/
theorem tokenize_partition [CharacterNames] {language : Value} {offer : Offer} {g : Grammar}
    (h : offer.compile language = .ok g) (text : String) :
    (∀ ts, Scans g (.ofString text) 0 0 ts ↔ ts = g.tokenize text) ∧
      Covers (.ofString text) 0 (g.tokenize text) ∧
      (g.tokenize text = [] ↔ text = "") := by
  have hg := Offer.compile_advances h
  have hscan : Scans g (.ofString text) 0 0 (g.tokenize text) := scan_scans hg _
  have hcov := hscan.covers hg (Nat.le_refl _) (Nat.zero_le _)
  refine ⟨fun ts => ⟨fun hts => hts.unique hscan, fun hts => hts ▸ hscan⟩, hcov, ?_⟩
  rw [hcov.eq_nil_iff, Source.size_ofString, List.length_eq_zero_iff, String.toList_eq_nil_iff]

/-- A language whose one rule may match nothing, and where one keyword begins with another; neither
looks at case. -/
def overlappingWords : Offer :=
  .description {
    title := .string "Steps"
    caseSensitive := false
    words? := some { keyword := [.string "+", .string "+End"] }
    contains := [.custom (.string "symbol") (.string "b*") 1 []] }

theorem overlappingWords_compiles :
    ∃ g, overlappingWords.compile (.string "steps") = .ok g ∧
      ∀ r ∈ g.rules, r.category? ≠ some .text := by
  obtain ⟨g, hg, hrules⟩ := Compiling.exists_ok
    (show (overlappingWords.compile (.string "steps")).toOption.any
      (fun g => g.rules.all fun r => r.category? ≠ some .text) = true by decide +kernel)
  exact ⟨g, hg, by simpa using hrules⟩

theorem tokenize_partition_overlappingWords :
    ∃ g, overlappingWords.compile (.string "steps") = .ok g ∧
      (∀ ts, Scans g (.ofString "+END b") 0 0 ts ↔ ts = g.tokenize "+END b") ∧
      Covers (.ofString "+END b") 0 (g.tokenize "+END b") ∧
      (g.tokenize "+END b" = [] ↔ "+END b" = "") := by
  obtain ⟨g, hg, _⟩ := overlappingWords_compiles
  exact ⟨g, hg, tokenize_partition hg "+END b"⟩

end Grammar
end Lexlight
