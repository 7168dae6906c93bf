import Lexlight.Proofs.Pattern.Enclosed

/-!
# Whole lines of a source

A source may stand in a longer one as some of its lines (`WholeLines`): it begins where a line
begins, and it reaches to a line feed or to the end. What is asked of such lines has the same answer
in both, as long as it has to do with characters up to the last line feed: where a row of characters
ends that are no line feeds, whether given characters stand at a place, what stands just before it,
and where a comment or a string is closed.

When two sources are put together and the first ends with a line feed, each of them is such a part:
the first up to its last line feed, the second up to the end and one place past it
(`WholeLines.left`, `WholeLines.right`).
-/

namespace Lexlight.Source

/-- Whether a source stands in another one from `offset` on as some of its lines, and reaches over
its first `reach` places: all of them, and the end if it is also that of the other one. -/
structure WholeLines (part whole : Source) (offset reach : Nat) : Prop where
  covers : part.size ≤ reach
  same : ∀ i, i < reach → whole[offset + i]? = part[i]?
  opens : offset = 0 ∨ whole[offset - 1]? = some '\n'
  closes : ∃ last, reach = last + 1 ∧ (part[last]? = none ∨ part[last]? = some '\n')
  ends : part.size < reach → whole.size = offset + part.size

/-- Whether a source ends with a line feed. -/
def EndsLine (src : Source) : Prop := ∃ last, src.size = last + 1 ∧ src[last]? = some '\n'

namespace WholeLines

variable {a b : Source}

theorem left (ha : a.EndsLine) (b : Source) : WholeLines a (a ++ b) 0 a.size where
  covers := Nat.le_refl _
  same i hi := by rw [Nat.zero_add, Array.getElem?_append_left hi]
  opens := Or.inl rfl
  closes := by
    obtain ⟨last, hsize, hlast⟩ := ha
    exact ⟨last, hsize, Or.inr hlast⟩
  ends hlt := absurd hlt (Nat.lt_irrefl _)

theorem right (ha : a.EndsLine) (b : Source) : WholeLines b (a ++ b) a.size (b.size + 1) where
  covers := Nat.le_succ _
  same i hi := by
    rw [Array.getElem?_append_right (Nat.le_add_right _ _), Nat.add_sub_cancel_left]
  opens := by
    obtain ⟨last, hsize, hlast⟩ := ha
    refine Or.inr ?_
    rw [hsize, Nat.add_sub_cancel, Array.getElem?_append_left (by omega), hlast]
  closes := ⟨b.size, rfl, Or.inl (Array.getElem?_eq_none (Nat.le_refl _))⟩
  ends _ := Array.size_append

variable {part whole : Source} {d n i : Nat}

/-- Places and their ends are the same, moved. -/
theorem any_eq (h : WholeLines part whole d n) (hi : i < n) (ok : Char → Bool) :
    whole[d + i]?.any ok = part[i]?.any ok := by
  rw [h.same i hi]

/-- A place in the part is one in the whole. -/
theorem lt_size (h : WholeLines part whole d n) (hi : i < part.size) : d + i < whole.size := by
  have hsome := h.same i (Nat.lt_of_lt_of_le hi h.covers)
  rw [Array.getElem?_eq_getElem hi] at hsome
  exact Source.lt_size hsome

/-- After a character that is no line feed there is one more place. -/
theorem lt_of_char (h : WholeLines part whole d n) (hi : i < n) {c : Char}
    (hc : part[i]? = some c) (hne : c ≠ '\n') : i + 1 < n := by
  obtain ⟨last, rfl, hlast⟩ := h.closes
  have hi : i ≠ last := by
    rintro rfl
    rcases hlast with hnone | hline
    · rw [hc] at hnone
      cases hnone
    · rw [hc] at hline
      exact hne (Option.some.inj hline)
  omega

theorem lt_of_any (h : WholeLines part whole d n) {ok : Char → Bool} (hi : i < n)
    (hok : ok '\n' = false) (hany : part[i]?.any ok = true) : i + 1 < n := by
  obtain ⟨c, hc, hokc⟩ := (Option.any_eq_true _ _).mp hany
  refine h.lt_of_char hi hc ?_
  rintro rfl
  rw [hok] at hokc
  cases hokc

/-! ## Rows -/

/-- A row without line feeds ends within the lines, and at the same place. -/
theorem runEnd_eq (h : WholeLines part whole d n) (ok : Char → Bool) (hok : ok '\n' = false)
    (hi : i < n) :
    whole.runEnd ok (d + i) = d + part.runEnd ok i ∧ part.runEnd ok i < n := by
  revert hi
  induction i using run_induction part ok with
  | hstop i hstop =>
      intro hi
      rw [runEnd_of_not_any hstop, runEnd_of_not_any (h.any_eq hi ok ▸ hstop)]
      exact ⟨rfl, hi⟩
  | hgo i hgo ih =>
      intro hi
      -- a character of the row is no line feed, so the next place is still within the lines
      rw [runEnd_of_any hgo, runEnd_of_any (h.any_eq hi ok ▸ hgo), Nat.add_assoc]
      exact ih (h.lt_of_any hi hok hgo)

theorem skip_eq (h : WholeLines part whole d n) (ok : Char → Bool) (hok : ok '\n' = false)
    (hi : i < n) : whole.skip ok (d + i) = d + part.skip ok i ∧ part.skip ok i < n := by
  unfold skip
  rw [h.any_eq hi]
  split
  · next hany => exact ⟨rfl, h.lt_of_any hi hok hany⟩
  · exact ⟨rfl, hi⟩

theorem before_eq (h : WholeLines part whole d n) (ok : Char → Bool) (hok : ok '\n' = false)
    (hi : i < n) : whole.before ok (d + i) = part.before ok i := by
  unfold before
  cases i with
  | zero =>
      rw [Nat.add_zero]
      rcases h.opens with rfl | hline
      · rfl
      · rw [hline, Option.any_some, hok, Bool.and_false]
        rfl
  | succ i =>
      have hpos : d + (i + 1) > 0 := by omega
      rw [show d + (i + 1) - 1 = d + i by omega, h.any_eq (by omega), Nat.add_sub_cancel,
        decide_eq_true hpos, decide_eq_true (Nat.succ_pos i)]

/-! ## Given characters -/

theorem hasAt_iff (h : WholeLines part whole d n) {cs : List Char} (hcs : '\n' ∉ cs) (hi : i < n) :
    whole.HasAt (d + i) cs ↔ part.HasAt i cs := by
  induction cs generalizing i with
  | nil => exact Iff.rfl
  | cons c cs ih =>
      obtain ⟨hc, hcs⟩ := not_or.mp (mt List.mem_cons.mpr hcs)
      unfold HasAt
      rw [h.same i hi, Nat.add_assoc]
      constructor
      · rintro ⟨hat, hrest⟩
        exact ⟨hat, (ih hcs (h.lt_of_char hi hat (Ne.symm hc))).mp hrest⟩
      · rintro ⟨hat, hrest⟩
        exact ⟨hat, (ih hcs (h.lt_of_char hi hat (Ne.symm hc))).mpr hrest⟩

/-- Characters without line feeds end within the lines. -/
theorem lt_of_hasAt (h : WholeLines part whole d n) {cs : List Char} (hcs : '\n' ∉ cs) (hi : i < n)
    (hat : part.HasAt i cs) : i + cs.length < n := by
  induction cs generalizing i with
  | nil => exact hi
  | cons c cs ih =>
      obtain ⟨hc, hcs⟩ := not_or.mp (mt List.mem_cons.mpr hcs)
      have hlt := ih hcs (h.lt_of_char hi hat.1 (Ne.symm hc)) hat.2
      rw [List.length_cons]
      omega

theorem slice_eq (h : WholeLines part whole d n) {j : Nat} (hj : j ≤ n) :
    whole.slice (d + i) (d + j) = part.slice i j :=
  slice_congr fun k hk => h.same k (by omega)

/-! ## Comments and strings -/

/-- Past the end of lines that are the last ones nothing stands. -/
theorem not_hasAt_past (h : WholeLines part whole d n) (hend : part.size < n) {j : Nat}
    (hj : d + part.size ≤ j) {cs : List Char} (hne : cs ≠ []) : ¬ whole.HasAt j cs := by
  intro hat
  have hlt := hat.lt_size hne
  rw [h.ends hend] at hlt
  omega

/-- A comment that is closed within the lines is closed there in both. -/
theorem closes_of_lt (h : WholeLines part whole d n) {marker : List Char} (hmarker : '\n' ∉ marker)
    (hne : marker ≠ []) {start stop : Nat} (hstop : stop < n)
    (hclose : part.Closes marker start stop) : whole.Closes marker (d + start) (d + stop) := by
  rcases hclose with ⟨last, hle, hat, hmin, rfl⟩ | ⟨hnone, rfl⟩
  · refine Or.inl ⟨d + last, by omega, (h.hasAt_iff hmarker (by omega)).mpr hat, ?_, by omega⟩
    intro j h1 h2 hj
    obtain ⟨i, rfl⟩ : ∃ i, j = d + i := ⟨j - d, by omega⟩
    exact hmin i (by omega) (by omega) ((h.hasAt_iff hmarker (by omega)).mp hj)
  · refine Or.inr ⟨?_, (h.ends hstop).symm⟩
    intro j h1 hj
    obtain ⟨i, rfl⟩ : ∃ i, j = d + i := ⟨j - d, by omega⟩
    -- within the lines there is no marker, and past them there is nothing at all
    by_cases hi : i < n
    · exact hnone i (by omega) ((h.hasAt_iff hmarker hi).mp hj)
    · exact h.not_hasAt_past hstop (by omega) hne hj

theorem quoted_of_lt (h : WholeLines part whole d n) {quote : Char} {i stop : Nat}
    (hstop : stop < n) (hquoted : part.Quoted quote i stop) : whole.Quoted quote (d + i) (d + stop) := by
  induction hquoted with
  | done hdone =>
      refine .done ?_
      rw [h.same _ hstop]
      exact hdone
  | plain hc hquote hslash hrest ih =>
      have hle := hrest.le
      refine .plain ?_ hquote hslash (ih hstop)
      rw [h.same _ (by omega), hc]
  | @escaped i stop c hc hd hrest ih =>
      have hle := hrest.le
      have hnext : whole[d + i + 1]? = some c := (h.same (i + 1) (by omega)).trans hd
      refine .escaped ?_ hnext (ih hstop)
      rw [h.same _ (by omega), hc]
  | lone hc hd =>
      refine .lone ?_ ?_
      · rw [h.same _ (by omega), hc]
      · rw [Nat.add_assoc, h.same _ hstop, hd]

end WholeLines
end Lexlight.Source
