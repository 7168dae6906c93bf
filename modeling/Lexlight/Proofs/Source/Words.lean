import Lexlight.Proofs.Source.Row
import Lexlight.Unicode.Word
import Mathlib.Tactic.ByContra

/-!
# Words by their characters

A word is a row of word characters with none right before it and none right after it (`WordAt`).
From its beginning to any place within it, it is a word that has not ended yet (`WordFrom`). Each
place after a word character has the beginning of its word before it (`exists_wordFrom`).
-/

namespace Lexlight

namespace Source

variable {src : Source} {start stop pos i : Nat}

/-- Whether a word begins at `start` and has not ended before `pos`. -/
structure WordFrom (src : Source) (start pos : Nat) : Prop where
  lt : start < pos
  each : ∀ i, start ≤ i → i < pos → src[i]?.any Unicode.isWord = true
  first : src.before Unicode.isWord start = false

/-- Before a place within a word, there is a place where the word begins. -/
theorem exists_wordFrom (h : src.before Unicode.isWord pos = true) :
    ∃ start, src.WordFrom start pos := by
  induction pos with
  | zero => cases h
  | succ pos ih =>
      rw [before_succ] at h
      cases hbefore : src.before Unicode.isWord pos with
      | false =>
          refine ⟨pos, Nat.lt_succ_self pos, fun i h1 h2 => ?_, hbefore⟩
          obtain rfl : i = pos := by omega
          exact h
      | true =>
          obtain ⟨start, hlt, heach, hfirst⟩ := ih hbefore
          refine ⟨start, Nat.lt_succ_of_lt hlt, fun i h1 h2 => ?_, hfirst⟩
          rcases Nat.lt_or_eq_of_le (Nat.le_of_lt_succ h2) with hi | rfl
          · exact heach i h1 hi
          · exact h

namespace WordFrom

theorem before (h : src.WordFrom start pos) : src.before Unicode.isWord pos = true := by
  have hlt := h.lt
  obtain ⟨last, rfl⟩ : ∃ last, pos = last + 1 := ⟨pos - 1, by omega⟩
  rw [before_succ]
  exact h.each last (by omega) (Nat.lt_succ_self last)

theorem shorten (h : src.WordFrom start pos) (hlt : start < i) (hle : i ≤ pos) :
    src.WordFrom start i :=
  ⟨hlt, fun j h1 h2 => h.each j h1 (Nat.lt_of_lt_of_le h2 hle), h.first⟩

/-- A word begins after whatever is no word character. -/
theorem lt_of_not_word (h : src.WordFrom start pos) (hi : src[i]?.any Unicode.isWord = false)
    (hlt : i < pos) : i < start := by
  by_contra hge
  rw [h.each i (by omega) hlt] at hi
  cases hi

/-- Where there are word characters up to the beginning of a word, the word begins with them. -/
theorem start_eq (h : src.WordFrom start pos) (hle : i ≤ start)
    (hall : ∀ j, i ≤ j → j < start → src[j]?.any Unicode.isWord = true) : start = i := by
  by_contra hne
  have hfirst := h.first
  obtain ⟨last, rfl⟩ : ∃ last, start = last + 1 := ⟨start - 1, by omega⟩
  rw [before_succ, hall last (by omega) (Nat.lt_succ_self last)] at hfirst
  cases hfirst

end WordFrom

/-- Whether a word stands between two places, with no word character right before or after it. -/
structure WordAt (src : Source) (start stop : Nat) : Prop extends src.WordFrom start stop where
  last : src[stop]?.any Unicode.isWord = false

/-- Where a word begins, it stands up to the end of the row. -/
theorem wordAt_runEnd (hbefore : src.before Unicode.isWord pos = false)
    (hword : src[pos]?.any Unicode.isWord = true) :
    src.WordAt pos (src.runEnd Unicode.isWord pos) where
  lt := lt_runEnd_iff.mpr hword
  each := fun _ => any_of_lt_runEnd
  first := hbefore
  last := not_any_runEnd src Unicode.isWord pos

namespace WordAt

theorem any (h : src.WordAt start stop) : src[start]?.any Unicode.isWord = true :=
  h.each start (Nat.le_refl _) h.lt

/-- A word ends where the row of its characters does. -/
theorem stop_eq (h : src.WordAt start stop) : stop = src.runEnd Unicode.isWord start := by
  rcases Nat.lt_trichotomy stop (src.runEnd Unicode.isWord start) with hlt | heq | hlt
  · have hlast := h.last
    rw [any_of_lt_runEnd (Nat.le_of_lt h.lt) hlt] at hlast
    cases hlast
  · exact heq
  · have heach := h.each _ (src.le_runEnd Unicode.isWord start) hlt
    rw [not_any_runEnd] at heach
    cases heach

end WordAt
end Source
end Lexlight
