import Lexlight.Proofs.Pattern.Enclosed

/-!
# An excerpt by itself

The characters between two places of a source make a source of their own. It has no characters
before its start and none after its end, so a row of characters ends in it where it does in the
whole source, or at the end of the excerpt, whichever comes first. What ends within the excerpt ends
there in both.
-/

namespace Lexlight.Source

variable {src : Source} {start stop i : Nat} {ok : Char → Bool}

/-- The characters between two places, the second one not included, as a source. -/
def excerpt (src : Source) (start stop : Nat) : Source := src.extract start stop

theorem ofString_slice (src : Source) (start stop : Nat) :
    ofString (src.slice start stop) = src.excerpt start stop := by
  rw [ofString, slice, String.toList_ofList, Array.toArray_toList, excerpt]

theorem size_excerpt (h : stop ≤ src.size) : (src.excerpt start stop).size = stop - start := by
  rw [excerpt, Array.size_extract, Nat.min_eq_left h]

/-! ## Its characters -/

theorem getElem?_excerpt (h : start + i < stop) :
    (src.excerpt start stop)[i]? = src[start + i]? := by
  rw [excerpt, Array.getElem?_extract]
  split
  · rfl
  · exact (Array.getElem?_eq_none (by omega)).symm

theorem getElem?_excerpt_end (h : stop ≤ start + i) : (src.excerpt start stop)[i]? = none := by
  rw [excerpt, Array.getElem?_extract, if_neg (by omega)]

/-- A character of the excerpt is one of the source. -/
theorem getElem?_of_excerpt {c : Char} (h : (src.excerpt start stop)[i]? = some c) :
    start + i < stop ∧ src[start + i]? = some c := by
  have hlt : start + i < stop := by
    by_contra hge
    rw [getElem?_excerpt_end (by omega)] at h
    cases h
  exact ⟨hlt, getElem?_excerpt hlt ▸ h⟩

/-- A row that ends within the excerpt ends at the same place. -/
theorem runEnd_excerpt (h : src.runEnd ok (start + i) ≤ stop) :
    (src.excerpt start stop).runEnd ok i = src.runEnd ok (start + i) - start := by
  revert h
  induction i using run_induction (src.excerpt start stop) ok with
  | hstop i hstop =>
      intro h
      have hle := src.le_runEnd ok (start + i)
      rw [runEnd_of_not_any hstop]
      rcases Nat.lt_or_ge (start + i) stop with hlt | hge
      · rw [getElem?_excerpt hlt] at hstop
        rw [runEnd_of_not_any hstop]
        omega
      · -- the excerpt ends here, and so does the row, since it ends within it
        omega
  | hgo i hgo ih =>
      intro h
      obtain ⟨c, hc, hok⟩ := (Option.any_eq_true _ _).mp hgo
      obtain ⟨_, hc⟩ := getElem?_of_excerpt hc
      have hany : src[start + i]?.any ok = true := (Option.any_eq_true _ _).mpr ⟨c, hc, hok⟩
      rw [runEnd_of_any hany] at h ⊢
      rw [runEnd_of_any hgo]
      exact ih h

/-- And a row that ends with the excerpt does so, too. -/
theorem runEnd_excerpt_stop (h : src.runEnd ok (start + i) = stop) :
    (src.excerpt start stop).runEnd ok i = stop - start := by
  rw [runEnd_excerpt (Nat.le_of_eq h), h]

theorem skip_excerpt (h : src.skip ok (start + i) ≤ stop) :
    (src.excerpt start stop).skip ok i = src.skip ok (start + i) - start := by
  have hle := src.le_skip ok (start + i)
  unfold skip at h hle ⊢
  rcases Nat.lt_or_ge (start + i) stop with hlt | hge
  · rw [getElem?_excerpt hlt]
    split <;> omega
  · rw [getElem?_excerpt_end hge, if_neg (by simp)]
    omega

/-! ## Its text -/

theorem length_slice (start : Nat) (hend : stop ≤ src.size) :
    (src.slice start stop).length = stop - start := by
  rw [← String.length_toList, ← size_ofString, ofString_slice, size_excerpt hend]

theorem slice_excerpt (h : start + i ≤ stop) :
    (src.excerpt start stop).slice i (stop - start) = src.slice (start + i) stop := by
  have hsame := @slice_congr (src.excerpt start stop) src start i (stop - start) fun j hj =>
    (getElem?_excerpt (by omega)).symm
  rwa [Nat.add_sub_cancel' (by omega), eq_comm] at hsame

/-- A text is its first character and the rest. -/
theorem slice_cons {c : Char} (hc : src[start]? = some c) (hlt : start < stop) :
    src.slice start stop = String.singleton c ++ src.slice (start + 1) stop := by
  rw [← String.toList_inj, String.toList_append, String.toList_singleton, toList_slice,
    toList_slice, span_cons hc hlt]
  rfl

/-! ## Given characters -/

theorem hasAt_of_excerpt {cs : List Char} (h : (src.excerpt start stop).HasAt i cs) :
    src.HasAt (start + i) cs := by
  induction cs generalizing i with
  | nil => trivial
  | cons c cs ih => exact ⟨(getElem?_of_excerpt h.1).2, ih h.2⟩

theorem hasAt_excerpt {cs : List Char} (h : start + i + cs.length ≤ stop)
    (hat : src.HasAt (start + i) cs) : (src.excerpt start stop).HasAt i cs := by
  induction cs generalizing i with
  | nil => trivial
  | cons c cs ih =>
      rw [List.length_cons] at h
      refine ⟨?_, ih (by omega) hat.2⟩
      rw [getElem?_excerpt (by omega), hat.1]

/-! ## Comments and strings -/

/-- A comment that is closed where the excerpt ends is closed there when it stands alone. -/
theorem closes_excerpt {marker : List Char} (hend : stop ≤ src.size)
    (hclose : src.Closes marker (start + i) stop) :
    (src.excerpt start stop).Closes marker i (stop - start) := by
  rcases hclose with ⟨last, hle, hat, hmin, rfl⟩ | ⟨hnone, rfl⟩
  · obtain ⟨last, rfl⟩ : ∃ j, last = start + j := ⟨last - start, by omega⟩
    have hat' := hasAt_excerpt (Nat.le_refl _) hat
    refine Or.inl ⟨last, by omega, hat', fun j h1 h2 hj => ?_, by omega⟩
    exact hmin (start + j) (by omega) (by omega) (hasAt_of_excerpt hj)
  · refine Or.inr ⟨fun j h1 hj => ?_, (size_excerpt (Nat.le_refl _)).symm⟩
    exact hnone (start + j) (by omega) (hasAt_of_excerpt hj)

/-- The inside of a string ends where it did, or before that with the excerpt. -/
theorem quoted_excerpt {quote : Char} {pos inside : Nat} (h : src.Quoted quote pos inside)
    (hinside : inside ≤ stop) : ∀ i, pos = start + i →
      (src.excerpt start stop).Quoted quote i (inside - start) := by
  induction h with
  | @done pos hdone =>
      rintro i rfl
      rw [Nat.add_sub_cancel_left]
      refine .done ?_
      rcases Nat.lt_or_eq_of_le hinside with hlt | heq
      · rwa [getElem?_excerpt hlt]
      · exact Or.inl (getElem?_excerpt_end (by omega))
  | @plain pos inside c hc hquote hslash hrest ih =>
      rintro i rfl
      have hle := hrest.le
      refine .plain ?_ hquote hslash (ih hinside (i + 1) rfl)
      rw [getElem?_excerpt (by omega), hc]
  | @escaped pos inside c hc hd hrest ih =>
      rintro i rfl
      have hle := hrest.le
      have hnext : (src.excerpt start stop)[i + 1]? = some c := by
        rw [getElem?_excerpt (by omega)]
        exact hd
      refine .escaped ?_ hnext (ih hinside (i + 2) rfl)
      rw [getElem?_excerpt (by omega), hc]
  | @lone pos hc hd =>
      rintro i rfl
      rw [show start + i + 1 - start = i + 1 by omega]
      refine .lone ?_ ?_
      · rw [getElem?_excerpt (by omega), hc]
      · cases hnext : (src.excerpt start stop)[i + 1]? with
        | none => rfl
        | some d =>
            have hsame := (getElem?_of_excerpt hnext).2
            rw [← Nat.add_assoc, hd] at hsame
            cases hsame

end Lexlight.Source
