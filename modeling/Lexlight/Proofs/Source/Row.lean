import Lexlight.Source

/-!
# Rows of characters

Three ways to speak of a stretch of a source: the characters between two places (`span`), whether
given characters stand at a place (`HasAt`), and the place where the longest row of characters of a
kind ends (`runEnd`). The last one is never unfolded further on. Two equations give it, that a
character of the kind is stepped over and that any other stops the row, and what is needed of it
follows by going along the row (`run_induction`): all characters of the row are of the kind, and the
one after it is not.
-/

namespace Lexlight.Source

variable {src : Source} {c : Char}

/-! ## Characters between two places -/

/-- The characters between two places, the second one not included. -/
def span (src : Source) (start stop : Nat) : List Char :=
  (src.toList.drop start).take (stop - start)

theorem toList_slice (src : Source) (start stop : Nat) :
    (src.slice start stop).toList = src.span start stop := by
  rw [slice, String.toList_ofList, Array.toList_extract, List.extract_eq_drop_take', span]
  exact List.drop_take

theorem drop_eq_cons {pos : Nat} (h : src[pos]? = some c) :
    src.toList.drop pos = c :: src.toList.drop (pos + 1) := by
  obtain ⟨hlt, rfl⟩ := Array.getElem?_eq_some_iff.mp h
  exact List.drop_eq_getElem_cons (by simpa using hlt)

theorem span_self (src : Source) (pos : Nat) : src.span pos pos = [] := by
  simp [span]

theorem span_cons {start stop : Nat} (h : src[start]? = some c) (hlt : start < stop) :
    src.span start stop = c :: src.span (start + 1) stop := by
  rw [span, drop_eq_cons h, show stop - start = stop - (start + 1) + 1 by omega,
    List.take_succ_cons, span]

theorem span_append {a b c : Nat} (hab : a ≤ b) (hbc : b ≤ c) :
    src.span a b ++ src.span b c = src.span a c := by
  unfold span
  rw [show c - a = (b - a) + (c - b) by omega, List.take_add, List.drop_drop,
    show a + (b - a) = b by omega]

theorem mem_span {start stop : Nat} :
    c ∈ src.span start stop ↔ ∃ i, start ≤ i ∧ i < stop ∧ src[i]? = some c := by
  unfold span
  rw [List.mem_iff_getElem?]
  constructor
  · rintro ⟨j, hj⟩
    rw [List.getElem?_take] at hj
    split at hj
    · rw [List.getElem?_drop, Array.getElem?_toList] at hj
      exact ⟨start + j, by omega, by omega, hj⟩
    · exact absurd hj (by simp)
  · rintro ⟨i, hle, hlt, hi⟩
    refine ⟨i - start, ?_⟩
    rw [List.getElem?_take, if_pos (by omega), List.getElem?_drop, Array.getElem?_toList,
      show start + (i - start) = i by omega]
    exact hi

/-- The same characters in two sources make the same text, wherever they stand. -/
theorem slice_congr {src' : Source} {offset start stop : Nat}
    (h : ∀ i, i < stop → src'[offset + i]? = src[i]?) :
    src'.slice (offset + start) (offset + stop) = src.slice start stop := by
  rw [← String.toList_inj, toList_slice, toList_slice, span, span]
  refine List.ext_getElem? fun k => ?_
  rw [List.getElem?_take, List.getElem?_take, List.getElem?_drop, List.getElem?_drop,
    Array.getElem?_toList, Array.getElem?_toList,
    show offset + stop - (offset + start) = stop - start by omega]
  split
  · next hk => rw [Nat.add_assoc, h (start + k) (by omega)]
  · rfl

/-! ## Given characters at a place -/

/-- Whether given characters stand at a place, one after the other. -/
def HasAt (src : Source) : (pos : Nat) → List Char → Prop
  | _, [] => True
  | pos, c :: cs => src[pos]? = some c ∧ HasAt src (pos + 1) cs

instance decidableHasAt (src : Source) :
    (pos : Nat) → (cs : List Char) → Decidable (src.HasAt pos cs)
  | _, [] => inferInstanceAs (Decidable True)
  | pos, c :: cs =>
    have := decidableHasAt src (pos + 1) cs
    inferInstanceAs (Decidable (src[pos]? = some c ∧ src.HasAt (pos + 1) cs))

theorem hasAt_iff_startsWith {cs : List Char} {pos : Nat} :
    src.HasAt pos cs ↔ cs <+: src.toList.drop pos := by
  induction cs generalizing pos with
  | nil => exact ⟨fun _ => List.nil_prefix, fun _ => trivial⟩
  | cons c rest ih =>
      constructor
      · rintro ⟨hc, hrest⟩
        rw [drop_eq_cons hc]
        exact List.cons_prefix_cons.mpr ⟨rfl, ih.mp hrest⟩
      · intro h
        cases hc : src[pos]? with
        | none =>
            rw [List.drop_eq_nil_of_le (by simpa using hc)] at h
            exact absurd (List.prefix_nil.mp h) (by simp)
        | some d =>
            rw [drop_eq_cons hc] at h
            obtain ⟨rfl, hrest⟩ := List.cons_prefix_cons.mp h
            exact ⟨hc, ih.mpr hrest⟩

theorem hasAt_append {cs ds : List Char} {pos : Nat} :
    src.HasAt pos (cs ++ ds) ↔ src.HasAt pos cs ∧ src.HasAt (pos + cs.length) ds := by
  induction cs generalizing pos with
  | nil => simp [HasAt]
  | cons c cs ih =>
      rw [List.cons_append, HasAt, HasAt, ih, List.length_cons, and_assoc,
        show pos + 1 + cs.length = pos + (cs.length + 1) by omega]

/-- Given characters of a kind are characters of the kind wherever they stand. -/
theorem HasAt.any {ok : Char → Bool} {cs : List Char} {pos i : Nat} (h : src.HasAt pos cs)
    (hok : ∀ c ∈ cs, ok c = true) (h1 : pos ≤ i) (h2 : i < pos + cs.length) :
    src[i]?.any ok = true := by
  induction cs generalizing pos with
  | nil => exact absurd h2 (by simpa using h1)
  | cons c cs ih =>
      rw [List.length_cons] at h2
      obtain ⟨hc, hcs⟩ := List.forall_mem_cons.mp hok
      rcases Nat.lt_or_eq_of_le h1 with hlt | rfl
      · exact ih h.2 hcs hlt (by omega)
      · rw [h.1, Option.any_some, hc]

/-- The characters that stand at a place are the ones between it and where they end. -/
theorem span_of_hasAt {cs : List Char} {pos : Nat} (h : src.HasAt pos cs) :
    src.span pos (pos + cs.length) = cs := by
  rw [span, Nat.add_sub_cancel_left]
  exact (List.prefix_iff_eq_take.mp (hasAt_iff_startsWith.mp h)).symm

/-- What lies within a span stands at a place in it. -/
theorem exists_hasAt_of_infix {cs : List Char} {start stop : Nat} (hne : cs ≠ [])
    (h : cs <:+: src.span start stop) : ∃ i, start ≤ i ∧ i < stop ∧ src.HasAt i cs := by
  obtain ⟨before, after, heq⟩ := h
  have hlen := congrArg List.length heq
  have hpos : 0 < cs.length := List.length_pos_iff.mpr hne
  simp only [span, List.length_append, List.length_take] at hlen
  refine ⟨start + before.length, by omega, by omega, hasAt_iff_startsWith.mpr ?_⟩
  have hdrop := congrArg (List.drop before.length) heq
  rw [List.append_assoc, List.drop_left, span, List.drop_take, List.drop_drop] at hdrop
  exact (List.prefix_append cs after).trans (hdrop ▸ List.take_prefix ..)

/-! ## One character of a kind -/

/-- The place after a character of a kind, or the same place when there is none. -/
def skip (src : Source) (ok : Char → Bool) (pos : Nat) : Nat :=
  if src[pos]?.any ok then pos + 1 else pos

/-- Whether a character of a kind stands just before a place. -/
def before (src : Source) (ok : Char → Bool) (pos : Nat) : Bool :=
  pos > 0 && src[pos - 1]?.any ok

theorem le_skip (src : Source) (ok : Char → Bool) (pos : Nat) : pos ≤ src.skip ok pos := by
  unfold skip
  split <;> omega

/-- A given character is skipped where it stands, and only there. -/
theorem skip_eq_succ {pos : Nat} (h : src[pos]? = some c) : src.skip (· = c) pos = pos + 1 := by
  rw [skip, h, Option.any_some, if_pos (decide_eq_true rfl)]

theorem skip_eq_self {pos : Nat} (h : src[pos]? ≠ some c) : src.skip (· = c) pos = pos := by
  rw [skip, if_neg]
  intro hany
  obtain ⟨d, hd, heq⟩ := (Option.any_eq_true _ _).mp hany
  obtain rfl := of_decide_eq_true heq
  exact h hd

theorem before_succ (src : Source) (ok : Char → Bool) (pos : Nat) :
    src.before ok (pos + 1) = src[pos]?.any ok := by
  rw [before, Nat.add_sub_cancel, decide_eq_true (Nat.succ_pos pos), Bool.true_and]

theorem before_mono {ok also : Char → Bool} {pos : Nat} (h : ∀ c, ok c = true → also c = true)
    (hbefore : src.before ok pos = true) : src.before also pos = true := by
  cases pos with
  | zero => cases hbefore
  | succ pos =>
      rw [before_succ] at hbefore ⊢
      obtain ⟨c, hc, hok⟩ := (Option.any_eq_true _ _).mp hbefore
      exact (Option.any_eq_true _ _).mpr ⟨c, hc, h c hok⟩

/-- Skipping takes one character of the kind or nothing. -/
theorem span_skip (src : Source) (ok : Char → Bool) (pos : Nat) :
    src.span pos (src.skip ok pos) = [] ∨
      ∃ c, src.span pos (src.skip ok pos) = [c] ∧ ok c = true := by
  unfold skip
  split
  · rename_i hany
    obtain ⟨c, hc, hok⟩ := (Option.any_eq_true _ _).mp hany
    refine Or.inr ⟨c, ?_, hok⟩
    rw [span_cons hc (Nat.lt_succ_self pos), span_self]
  · exact Or.inl (span_self src pos)

/-! ## The longest row of characters of a kind -/

/-- Where the longest row of characters of a kind ends that begins at a place. -/
def runEnd (src : Source) (ok : Char → Bool) (pos : Nat) : Nat :=
  pos + ((src.toList.drop pos).takeWhile ok).length

variable {ok : Char → Bool}

theorem runEnd_of_any {pos : Nat} (h : src[pos]?.any ok = true) :
    src.runEnd ok pos = src.runEnd ok (pos + 1) := by
  cases hc : src[pos]? with
  | none =>
      rw [hc] at h
      exact absurd h (by simp)
  | some c =>
      have hok : ok c = true := by rwa [hc] at h
      rw [runEnd, drop_eq_cons hc, List.takeWhile_cons_of_pos hok, List.length_cons, runEnd]
      omega

theorem runEnd_of_not_any {pos : Nat} (h : src[pos]?.any ok = false) : src.runEnd ok pos = pos := by
  unfold runEnd
  cases hc : src[pos]? with
  | none =>
      rw [List.drop_eq_nil_of_le (by simpa using hc)]
      rfl
  | some c =>
      rw [hc] at h
      rw [drop_eq_cons hc, List.takeWhile_cons_of_neg (by simpa using h)]
      rfl

/-- A place within the source is what a character there says. -/
theorem lt_size_of_any {pos : Nat} (h : src[pos]?.any ok = true) : pos < src.size := by
  rcases Nat.lt_or_ge pos src.size with hlt | hge
  · exact hlt
  · rw [Array.getElem?_eq_none hge] at h
    exact absurd h (by simp)

/-- What holds where a row stops, and is carried back over each of its characters, holds at every
place. -/
theorem run_induction (src : Source) (ok : Char → Bool) {P : Nat → Prop}
    (hstop : ∀ pos, src[pos]?.any ok = false → P pos)
    (hgo : ∀ pos, src[pos]?.any ok = true → P (pos + 1) → P pos) (pos : Nat) : P pos := by
  have key : ∀ (left pos : Nat), src.size - pos ≤ left → P pos := by
    intro left
    induction left with
    | zero =>
        intro pos hleft
        refine hstop pos ?_
        rw [Array.getElem?_eq_none (by omega)]
        rfl
    | succ left ih =>
        intro pos hleft
        cases h : src[pos]?.any ok with
        | false => exact hstop pos h
        | true =>
            have := lt_size_of_any h
            exact hgo pos h (ih (pos + 1) (by omega))
  exact key (src.size - pos) pos (Nat.le_refl _)

theorem le_runEnd (src : Source) (ok : Char → Bool) (pos : Nat) : pos ≤ src.runEnd ok pos :=
  Nat.le_add_right ..

/-- All characters of the row are of the kind. -/
theorem any_of_lt_runEnd {pos : Nat} :
    ∀ {i : Nat}, pos ≤ i → i < src.runEnd ok pos → src[i]?.any ok = true := by
  induction pos using run_induction src ok with
  | hstop pos h =>
      intro i h1 h2
      rw [runEnd_of_not_any h] at h2
      omega
  | hgo pos h ih =>
      intro i h1 h2
      rcases Nat.lt_or_eq_of_le h1 with hi | hi
      · rw [runEnd_of_any h] at h2
        exact ih hi h2
      · exact hi ▸ h

/-- No character of the kind comes right after the row. -/
theorem not_any_runEnd (src : Source) (ok : Char → Bool) (pos : Nat) :
    src[src.runEnd ok pos]?.any ok = false := by
  induction pos using run_induction src ok with
  | hstop pos h => rwa [runEnd_of_not_any h]
  | hgo pos h ih => rwa [runEnd_of_any h]

/-- A row begins with a character of the kind or ends where it begins. -/
theorem lt_runEnd_iff {pos : Nat} : pos < src.runEnd ok pos ↔ src[pos]?.any ok = true := by
  constructor
  · exact fun h => any_of_lt_runEnd (Nat.le_refl _) h
  · intro h
    rw [runEnd_of_any h]
    exact src.le_runEnd ok (pos + 1)

/-- The characters of a row are of the kind. -/
theorem of_mem_span_runEnd {pos : Nat} (h : c ∈ src.span pos (src.runEnd ok pos)) :
    ok c = true := by
  obtain ⟨i, h1, h2, hc⟩ := mem_span.mp h
  have := any_of_lt_runEnd h1 h2
  rwa [hc] at this

end Lexlight.Source
