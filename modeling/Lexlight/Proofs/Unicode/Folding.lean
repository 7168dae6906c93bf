import Lexlight.Pattern.CharTest
import Lexlight.Unicode.CaseFold
import Mathlib.Data.List.Forall2

/-!
# The case maps against full folding

There are two ways to look through case. Patterns compare characters one by one, by their lower-case
forms and the classes of `twins`. Word lists compare whole texts, by full folding. Wherever the first
takes two characters for one letter, the second folds them to the same text, with one exception
(`same_cases`). It is the letter i, which comes in four forms: `i` and `I`, the dotless `ı`, and `İ`
with a dot. The case maps take all of them for one letter. Folding keeps three apart, because it
leaves `ı` as it is and gives `İ` a mark of its own.

The tables are finite, but what they say is about all code points. So what has to be checked is
checked run by run, for the code points that a run moves, and the rest stay in place
(`Shifts.exists_checked`). To look all of them up in whole tables takes long, so each run is held
against the part of a table that lies near it (`Shifts.within`).

A folded text is not made of parts that can be told apart by their length, so that the difference at
one letter might be made up for at another. It is not (`foldCase_eq_iff`): the mark of an `İ` would
have to be found again right after it, and after that once more, up to the end of the text.
-/

namespace Lexlight.Unicode

/-! ## Tables, near a place -/

/-- The part of a table that matters for the code points from `lo` to `hi`. -/
def Shifts.within (shifts : Shifts) (lo hi : Nat) : Shifts :=
  (shifts.dropWhile fun s => s.last.blt lo).takeWhile fun s => s.first.ble hi

/-- Runs that begin past a code point do not move it. -/
theorem Shifts.image_takeWhile {hi n : Nat} (hn : n ≤ hi) : ∀ shifts : Shifts,
    Shifts.image (shifts.takeWhile fun s => s.first.ble hi) n = shifts.image n
  | [] => rfl
  | s :: rest => by
      cases hs : s.first.ble hi with
      | true =>
          simp only [List.takeWhile_cons, hs, if_true, Shifts.image, image_takeWhile hn rest]
      | false =>
          have hlt : n < s.first := by
            have : ¬ s.first ≤ hi := Nat.not_le_of_not_ble_eq_true (by simp [hs])
            omega
          rw [List.takeWhile_cons_of_neg (by simp [hs]), Shifts.image, Shifts.image, if_pos hlt]

/-- Runs that end before a code point do not move it. -/
theorem Shifts.image_dropWhile {lo n : Nat} (hn : lo ≤ n) : ∀ {shifts : Shifts},
    (∀ s ∈ shifts, s.first ≤ s.last) →
      Shifts.image (shifts.dropWhile fun s => s.last.blt lo) n = shifts.image n
  | [], _ => rfl
  | s :: rest, hruns => by
      obtain ⟨hrun, hruns⟩ := List.forall_mem_cons.mp hruns
      cases hs : s.last.blt lo with
      | true =>
          have hlt : s.last < lo := by simpa [Nat.blt_eq] using hs
          have hge : ¬ n < s.first := by omega
          have hgt : ¬ n ≤ s.last := by omega
          simp only [List.dropWhile_cons, hs, if_true, image_dropWhile hn hruns, Shifts.image,
            if_neg hge, if_neg hgt]
      | false => rw [List.dropWhile_cons_of_neg (by simp [hs])]

theorem Shifts.image_within {shifts : Shifts} (hruns : ∀ s ∈ shifts, s.first ≤ s.last)
    {lo hi n : Nat} (hlo : lo ≤ n) (hhi : n ≤ hi) :
    (shifts.within lo hi).image n = shifts.image n := by
  rw [within, image_takeWhile hhi, image_dropWhile hlo hruns]

theorem first_le_last_foldShifts : ∀ s ∈ foldShifts, s.first ≤ s.last := by decide +kernel

theorem first_le_last_lowerShifts : ∀ s ∈ lowerShifts, s.first ≤ s.last := by decide +kernel

/-- The part of the table of expansions that matters for the code points from `lo` to `hi`. -/
def expansionsWithin (lo hi : Nat) : List (Nat × List Nat) :=
  (foldExpansions.dropWhile fun e => e.1.blt lo).takeWhile fun e => e.1.ble hi

/-- The table of expansions is in order. -/
theorem sorted_foldExpansions : foldExpansions.Pairwise fun a b => a.1 < b.1 := by
  have hchain : foldExpansions.IsChain fun a b => a.1 < b.1 := by decide +kernel
  have : IsTrans (Nat × List Nat) fun a b => a.1 < b.1 := ⟨fun _ _ _ => Nat.lt_trans⟩
  exact List.isChain_iff_pairwise.mp hchain

theorem lookup_takeWhile {hi n : Nat} (hn : n ≤ hi) : ∀ {es : List (Nat × List Nat)},
    es.Pairwise (fun a b => a.1 < b.1) → (es.takeWhile fun e => e.1.ble hi).lookup n = es.lookup n
  | [], _ => rfl
  | e :: es, hsorted => by
      obtain ⟨hlater, hsorted⟩ := List.pairwise_cons.mp hsorted
      cases he : e.1.ble hi with
      | true =>
          rw [List.lookup_cons, ← lookup_takeWhile hn hsorted, ← List.lookup_cons]
          simp only [List.takeWhile_cons, he, if_true]
      | false =>
          -- this one and all after it are past the end
          have hlt : n < e.1 := by
            have : ¬ e.1 ≤ hi := Nat.not_le_of_not_ble_eq_true (by simp [he])
            omega
          rw [List.takeWhile_cons_of_neg (by simp [he]), List.lookup_nil, eq_comm,
            List.lookup_eq_none_iff]
          intro x hx
          rcases List.mem_cons.mp hx with rfl | hx
          · simpa using Nat.ne_of_lt hlt
          · simpa using Nat.ne_of_lt (Nat.lt_trans hlt (hlater x hx))

theorem lookup_dropWhile {lo n : Nat} (hn : lo ≤ n) : ∀ es : List (Nat × List Nat),
    (es.dropWhile fun e => e.1.blt lo).lookup n = es.lookup n
  | [] => rfl
  | e :: es => by
      cases he : e.1.blt lo with
      | true =>
          have hlt : e.1 < lo := by simpa [Nat.blt_eq] using he
          have hne : (n == e.1) = false := by simpa using Nat.ne_of_gt (Nat.lt_of_lt_of_le hlt hn)
          rw [List.lookup_cons, hne, ← lookup_dropWhile hn es]
          simp only [List.dropWhile_cons, he, if_true]
      | false => rw [List.dropWhile_cons_of_neg (by simp [he])]

theorem lookup_expansionsWithin {lo hi n : Nat} (hlo : lo ≤ n) (hhi : n ≤ hi) :
    (expansionsWithin lo hi).lookup n = foldExpansions.lookup n := by
  have hsorted := sorted_foldExpansions.sublist
    (List.dropWhile_sublist fun e => e.1.blt lo)
  rw [expansionsWithin, lookup_takeWhile hhi hsorted, lookup_dropWhile hlo]

/-! ## Runs -/

/-- The code points that a run moves. -/
def Shift.points (s : Shift) : List Nat :=
  (List.range ((s.last - s.first) / s.step + 1)).map fun k => s.first + k * s.step

/-- Where a run moves a code point. -/
def Shift.move (s : Shift) (n : Nat) : Nat := s.image + (n - s.first)

/-- The last place that a run may move a code point to. -/
def Shift.end (s : Shift) : Nat := s.move s.last

/-- A map leaves a code point in place, or one of its runs moves it. -/
theorem Shifts.exists_run (shifts : Shifts) {n : Nat} (h : shifts.image n ≠ n) :
    ∃ s ∈ shifts, n ∈ s.points ∧ s.first ≤ n ∧ n ≤ s.last ∧ shifts.image n = s.move n := by
  induction shifts with
  | nil => exact absurd rfl h
  | cons s rest ih =>
      unfold Shifts.image at h ⊢
      by_cases hlo : n < s.first
      · rw [if_pos hlo] at h
        exact absurd rfl h
      · rw [if_neg hlo] at h ⊢
        by_cases hhi : n ≤ s.last
        · rw [if_pos hhi] at h ⊢
          by_cases hstep : (n - s.first) % s.step = 0
          · rw [if_pos hstep]
            refine ⟨s, List.mem_cons_self, ?_, by omega, hhi, rfl⟩
            have hle : (n - s.first) / s.step ≤ (s.last - s.first) / s.step :=
              Nat.div_le_div_right (by omega)
            have hdiv := Nat.div_add_mod (n - s.first) s.step
            rw [Nat.mul_comm] at hdiv
            exact List.mem_map.mpr ⟨_, List.mem_range.mpr (Nat.lt_succ_of_le hle), by omega⟩
          · rw [if_neg hstep] at h
            exact absurd rfl h
        · rw [if_neg hhi] at h ⊢
          obtain ⟨t, ht, hrun⟩ := ih h
          exact ⟨t, List.mem_cons_of_mem s ht, hrun⟩

/-- **What is checked of every run** holds of every code point that is moved, at the run that moves
it. -/
theorem Shifts.exists_checked {shifts : Shifts} {p : Shift → Nat → Bool}
    (hall : shifts.all (fun s => s.points.all (p s)) = true) {n : Nat} (h : shifts.image n ≠ n) :
    ∃ s : Shift, s.first ≤ n ∧ n ≤ s.last ∧ shifts.image n = s.move n ∧ p s n = true := by
  obtain ⟨s, hs, hmem, hfirst, hlast, heq⟩ := shifts.exists_run h
  exact ⟨s, hfirst, hlast, heq, List.all_eq_true.mp (List.all_eq_true.mp hall s hs) n hmem⟩

theorem Shift.image_le_move (s : Shift) (n : Nat) : s.image ≤ s.move n := Nat.le_add_right _ _

theorem Shift.move_le_end {s : Shift} {n : Nat} (h : n ≤ s.last) : s.move n ≤ s.end := by
  unfold Shift.end Shift.move
  omega

/-! ## What code points fold to -/

/-- What a code point folds to. -/
def foldPoint (n : Nat) : List Nat := (foldExpansions.lookup n).getD [foldShifts.image n]

theorem foldChar_eq (c : Char) : foldChar c = (foldPoint c.toNat).map Char.ofNat := by
  unfold foldChar foldPoint
  cases foldExpansions.lookup c.toNat <;> rfl

/-- What a code point from `lo` to `hi` folds to, by the parts of the tables that matter. -/
def foldPointWithin (lo hi n : Nat) : List Nat :=
  ((expansionsWithin lo hi).lookup n).getD [(foldShifts.within lo hi).image n]

theorem foldPointWithin_eq {lo hi n : Nat} (hlo : lo ≤ n) (hhi : n ≤ hi) :
    foldPointWithin lo hi n = foldPoint n := by
  rw [foldPointWithin, lookup_expansionsWithin hlo hhi,
    Shifts.image_within first_le_last_foldShifts hlo hhi, foldPoint]

/-- The capital letter `İ` with a dot. -/
def dottedI : Nat := 0x130

theorem lower_lower (n : Nat) : lower (lower n) = lower n := by
  by_cases h : lower n = n
  · rw [h, h]
  · have hstill : lowerShifts.all (fun s => s.points.all fun n =>
        ((lowerShifts.within s.image s.end).image (s.move n)).beq (s.move n)) = true := by
      decide +kernel
    obtain ⟨s, -, hlast, heq, hrun⟩ := Shifts.exists_checked hstill h
    rw [Nat.beq_eq, Shifts.image_within first_le_last_lowerShifts (s.image_le_move n)
      (Shift.move_le_end hlast)] at hrun
    rw [lower, lower, heq, hrun]

/-- **Lower case does not change what a code point folds to**, but for the `İ`. -/
theorem foldPoint_lower {n : Nat} (hn : n ≠ dottedI) : foldPoint (lower n) = foldPoint n := by
  by_cases h : lower n = n
  · rw [h]
  · have halike : lowerShifts.all (fun s => s.points.all fun n => n.beq dottedI ||
        foldPointWithin s.image s.end (s.move n) == foldPointWithin s.first s.last n) = true := by
      decide +kernel
    obtain ⟨s, hfirst, hlast, heq, hrun⟩ := Shifts.exists_checked halike h
    rw [Bool.or_eq_true_iff, foldPointWithin_eq hfirst hlast,
      foldPointWithin_eq (s.image_le_move n) (Shift.move_le_end hlast)] at hrun
    rcases hrun with hdot | hsame
    · exact absurd (Nat.eq_of_beq_eq_true hdot) hn
    · rw [lower, heq]
      exact beq_iff_eq.mp hsame

/-! ## One letter in two characters -/

/-- The letter i in its two lower-case forms. -/
def smallI : List Nat := [0x69, 0x131]

/-- The letter i in its four forms. -/
def lettersI : List Nat := [0x49, 0x69, dottedI, 0x131]

theorem lower_mem_smallI {n : Nat} : lower n ∈ smallI ↔ n ∈ lettersI := by
  constructor
  · intro hmem
    by_cases h : lower n = n
    · rw [h] at hmem
      rcases List.mem_pair.mp hmem with rfl | rfl <;> decide
    · have hruns : lowerShifts.all (fun s => s.points.all fun n =>
          !smallI.contains (s.move n) || lettersI.contains n) = true := by decide +kernel
      obtain ⟨s, -, -, heq, hrun⟩ := Shifts.exists_checked hruns h
      rw [lower, heq, ← List.contains_iff_mem] at hmem
      rw [hmem, Bool.not_true, Bool.false_or] at hrun
      exact List.contains_iff_mem.mp hrun
  · have hall : ∀ n ∈ lettersI, lower n ∈ smallI := by decide +kernel
    exact hall n

/-- The twins of a code point are itself and the others of its class. -/
theorem mem_twins {k m : Nat} (h : m ∈ twins k) : m = k ∨ ∃ cls ∈ twinClasses, k ∈ cls ∧ m ∈ cls := by
  unfold twins at h
  cases hfind : twinClasses.find? (·.contains k) with
  | none =>
      rw [hfind, Option.getD_none] at h
      exact Or.inl (List.mem_singleton.mp h)
  | some cls =>
      rw [hfind, Option.getD_some] at h
      have hk := List.find?_some hfind
      exact Or.inr ⟨cls, List.mem_of_find?_eq_some hfind, List.contains_iff_mem.mp hk, h⟩

/-- But for the letter i, twins fold to the same. -/
theorem foldPoint_class {cls : List Nat} (hcls : cls ∈ twinClasses) :
    cls = smallI ∨ (∀ k ∈ cls, k ∉ smallI) ∧ ∀ k ∈ cls, ∀ m ∈ cls, foldPoint k = foldPoint m := by
  have hall : twinClasses.all (fun cls => cls == smallI || cls.all fun k => !smallI.contains k &&
      foldPointWithin k k k == foldPointWithin (cls.headD 0) (cls.headD 0) (cls.headD 0)) = true := by
    decide +kernel
  rcases Bool.or_eq_true_iff.mp (List.all_eq_true.mp hall cls hcls) with hsmall | hclass
  · exact Or.inl (beq_iff_eq.mp hsmall)
  · have hone : ∀ k ∈ cls, k ∉ smallI ∧ foldPoint k = foldPoint (cls.headD 0) := by
      intro k hk
      have hk := Bool.and_eq_true_iff.mp (List.all_eq_true.mp hclass k hk)
      rw [foldPointWithin_eq (Nat.le_refl _) (Nat.le_refl _),
        foldPointWithin_eq (Nat.le_refl _) (Nat.le_refl _)] at hk
      exact ⟨by simpa using hk.1, beq_iff_eq.mp hk.2⟩
    refine Or.inr ⟨fun k hk => (hone k hk).1, fun k hk m hm => ?_⟩
    rw [(hone k hk).2, (hone m hm).2]

/-- **What the case maps take for one letter folds to the same**, unless the letter is i. -/
theorem same_cases {a b : Nat} (h : Fold.full.same a b = true) :
    a ∈ lettersI ∧ b ∈ lettersI ∨ a ∉ lettersI ∧ b ∉ lettersI ∧ foldPoint a = foldPoint b := by
  have htwin : lower b ∈ twins (lower a) := List.contains_iff_mem.mp h
  rw [← lower_mem_smallI, ← lower_mem_smallI]
  by_cases hi : lower a ∈ smallI
  · have hall : ∀ k ∈ smallI, ∀ m ∈ twins k, m ∈ smallI := by decide +kernel
    exact Or.inl ⟨hi, hall _ hi _ htwin⟩
  · -- neither is a letter i, so lower case does not change what they fold to
    have hfolds : ∀ {n : Nat}, lower n ∉ smallI → foldPoint (lower n) = foldPoint n := by
      intro n hn
      refine foldPoint_lower fun hdot => hn ?_
      rw [lower_mem_smallI, hdot]
      decide
    rcases mem_twins htwin with heq | ⟨cls, hcls, ha, hb⟩
    · have hb : lower b ∉ smallI := by rwa [heq]
      exact Or.inr ⟨hi, hb, by rw [← hfolds hi, ← hfolds hb, heq]⟩
    · rcases foldPoint_class hcls with rfl | ⟨hnot, hclass⟩
      · exact absurd ha hi
      · have hb' := hnot _ hb
        refine Or.inr ⟨hi, hb', ?_⟩
        rw [← hfolds hi, ← hfolds hb', hclass _ ha _ hb]

/-- Whether two characters are alike as to the two letters i that folding sets apart. -/
def DottedAlike (c d : Char) : Prop := (c = 'ı' ↔ d = 'ı') ∧ (c = 'İ' ↔ d = 'İ')

instance (c d : Char) : Decidable (DottedAlike c d) := inferInstanceAs (Decidable (_ ∧ _))

theorem eq_of_mem_lettersI {c : Char} (h : c.toNat ∈ lettersI) :
    c = 'I' ∨ c = 'i' ∨ c = 'İ' ∨ c = 'ı' := by
  have hletters : lettersI = ['I', 'i', 'İ', 'ı'].map Char.toNat := rfl
  rw [hletters] at h
  obtain ⟨d, hd, heq⟩ := List.mem_map.mp h
  obtain rfl := Char.toNat_inj.mp heq
  simpa using hd

/-- Forms of any other letter than i are alike. -/
theorem dottedAlike_of_not_mem {c d : Char} (h : Fold.full.same c.toNat d.toNat = true)
    (hc : c.toNat ∉ lettersI) : DottedAlike c d := by
  have hnot : ∀ {e : Char}, e.toNat ∉ lettersI → e ≠ 'ı' ∧ e ≠ 'İ' := by
    intro e he
    constructor
    · rintro rfl; exact he (by decide)
    · rintro rfl; exact he (by decide)
  rcases same_cases h with ⟨hmem, -⟩ | ⟨-, hd, -⟩
  · exact absurd hmem hc
  · exact ⟨iff_of_false (hnot hc).1 (hnot hd).1, iff_of_false (hnot hc).2 (hnot hd).2⟩

/-- Two characters that are one letter to the case maps fold to the same when they are alike as to
the letters i. -/
theorem foldChar_eq_iff {c d : Char} (h : Fold.full.same c.toNat d.toNat = true) :
    foldChar c = foldChar d ↔ DottedAlike c d := by
  rcases same_cases h with ⟨hc, hd⟩ | ⟨hc, -, heq⟩
  · rcases eq_of_mem_lettersI hc with rfl | rfl | rfl | rfl <;>
      rcases eq_of_mem_lettersI hd with rfl | rfl | rfl | rfl <;> decide +kernel
  · refine iff_of_true ?_ (dottedAlike_of_not_mem h hc)
    rw [foldChar_eq, foldChar_eq, heq]

/-! ## Folded texts -/

/-- The mark that folding gives an `İ`. -/
def dotAbove : Nat := 0x307

/-- What a code point folds to is not empty, and the mark comes first for the mark only. -/
theorem exists_foldPoint (n : Nat) :
    ∃ k rest, foldPoint n = k :: rest ∧ (k = dotAbove → n = dotAbove) := by
  unfold foldPoint
  cases hlookup : foldExpansions.lookup n with
  | none =>
      refine ⟨_, [], rfl, fun hk => ?_⟩
      by_cases h : foldShifts.image n = n
      · rwa [h] at hk
      · have hruns : foldShifts.all (fun s => s.points.all fun n =>
            !(s.move n).beq dotAbove) = true := by decide +kernel
        obtain ⟨s, -, -, heq, hrun⟩ := Shifts.exists_checked hruns h
        rw [← heq, hk] at hrun
        cases hrun
  | some ks =>
      have hall : foldExpansions.all (fun e => e.2.head?.any fun k => !k.beq dotAbove) = true := by
        decide +kernel
      obtain ⟨_, _, hsplit, -⟩ := List.lookup_eq_some_iff.mp hlookup
      have hmem : (n, ks) ∈ foldExpansions := by simp [hsplit]
      have hhead := List.all_eq_true.mp hall _ hmem
      cases ks with
      | nil => cases hhead
      | cons k rest =>
          refine ⟨k, rest, rfl, fun hk => ?_⟩
          rw [hk] at hhead
          cases hhead

/-- What a character folds to is not empty, and the mark comes first for the mark only. -/
theorem exists_foldChar (c : Char) :
    ∃ x rest, foldChar c = x :: rest ∧ (x = '\u0307' → c = '\u0307') := by
  obtain ⟨k, rest, hfold, hmark⟩ := exists_foldPoint c.toNat
  refine ⟨Char.ofNat k, rest.map Char.ofNat, by rw [foldChar_eq, hfold]; rfl, fun hx => ?_⟩
  have hk : (Char.ofNat k).toNat = dotAbove := by rw [hx]; rfl
  by_cases hvalid : k.isValidChar
  · rw [Char.ofNat, dif_pos hvalid] at hk
    exact Char.toNat_inj.mp (hmark hk)
  · rw [Char.ofNat, dif_neg hvalid] at hk
    cases hk

/-- The mark is one letter with itself only. -/
theorem same_dotAbove {a b : Nat} (h : Fold.full.same a b = true) : a = dotAbove ↔ b = dotAbove := by
  -- what it folds to begins with the mark, on either side
  have hmark : foldPoint dotAbove = [dotAbove] := by decide +kernel
  rcases same_cases h with ⟨ha, hb⟩ | ⟨-, -, heq⟩
  · have hnot : dotAbove ∉ lettersI := by decide
    constructor
    · rintro rfl; exact absurd ha hnot
    · rintro rfl; exact absurd hb hnot
  · have hone : ∀ {m n : Nat}, foldPoint m = foldPoint n → m = dotAbove → n = dotAbove := by
      intro m n hmn hm
      obtain ⟨k, rest, hfold, hfirst⟩ := exists_foldPoint n
      rw [← hmn, hm, hmark] at hfold
      exact hfirst (List.cons.inj hfold).1.symm
    exact ⟨hone heq, hone heq.symm⟩

variable {cs ds : List Char}

/-- **A mark too many is not made up for.** If the letters of two texts are the same one by one,
neither folds to what the other does after one more mark. -/
theorem flatMap_foldChar_ne {R : Char → Char → Prop}
    (hR : ∀ c d, R c d → c = '\u0307' → d = '\u0307') (h : List.Forall₂ R cs ds) :
    cs.flatMap foldChar ≠ '\u0307' :: ds.flatMap foldChar := by
  induction h with
  | nil => exact (List.cons_ne_nil _ _).symm
  | @cons c d cs ds hcd _ ih =>
      intro heq
      obtain ⟨x, rest, hfold, hmark⟩ := exists_foldChar c
      rw [List.flatMap_cons, List.flatMap_cons, hfold, List.cons_append] at heq
      obtain ⟨hx, heq⟩ := List.cons.inj heq
      -- the first letter is the mark, so the second text begins with it too
      obtain rfl := hmark hx
      obtain rfl := hR _ d hcd rfl
      have hself : foldChar '\u0307' = ['\u0307'] := by decide +kernel
      rw [hself] at hfold heq
      obtain ⟨-, rfl⟩ := List.cons.inj hfold
      exact ih heq

/-- The letter i in its four forms, each with what it folds to. -/
theorem foldChar_lettersI : foldChar 'I' = ['i'] ∧ foldChar 'i' = ['i'] ∧
    foldChar 'İ' = ['i', '\u0307'] ∧ foldChar 'ı' = ['ı'] := by
  decide +kernel

/-- Texts that are the same but for case are alike if there is no letter i in them. -/
theorem forall₂_dottedAlike
    (h : List.Forall₂ (fun c d : Char => Fold.full.same c.toNat d.toNat = true) cs ds)
    (hi : ∀ c ∈ cs, c.toNat ∉ lettersI) : List.Forall₂ DottedAlike cs ds := by
  induction h with
  | nil => exact .nil
  | cons hcd _ ih =>
      obtain ⟨hc, hi⟩ := List.forall_mem_cons.mp hi
      exact .cons (dottedAlike_of_not_mem hcd hc) (ih hi)

/-- **Letter by letter.** Two texts whose letters are the same one by one fold to the same text just
when they have the same letters i that folding sets apart, in the same places. -/
theorem flatMap_foldChar_eq_iff
    (h : List.Forall₂ (fun c d : Char => Fold.full.same c.toNat d.toNat = true) cs ds) :
    cs.flatMap foldChar = ds.flatMap foldChar ↔ List.Forall₂ DottedAlike cs ds := by
  induction h with
  | nil => simp
  | @cons c d cs ds hcd htail ih =>
      rw [List.forall₂_cons, List.flatMap_cons, List.flatMap_cons, ← foldChar_eq_iff hcd, ← ih]
      constructor
      · intro heq
        by_cases hhead : foldChar c = foldChar d
        · rw [hhead] at heq
          exact ⟨hhead, List.append_cancel_left heq⟩
        · -- two letters i: they differ in their first character, or one of them has a mark more
          exfalso
          rcases same_cases hcd with ⟨hc, hd⟩ | ⟨-, -, hsame⟩
          · obtain ⟨hI, hi, hdot, hnone⟩ := foldChar_lettersI
            have hmark : ∀ c d : Char, Fold.full.same c.toNat d.toNat = true →
                (c = '\u0307' ↔ d = '\u0307') := by
              intro c d hsame
              rw [← Char.toNat_inj, ← Char.toNat_inj]
              exact same_dotAbove hsame
            have hleft := flatMap_foldChar_ne (fun c d h => (hmark c d h).mp) htail
            have hright := flatMap_foldChar_ne (fun c d h => (hmark d c h).mpr) htail.flip
            rcases eq_of_mem_lettersI hc with rfl | rfl | rfl | rfl <;>
              rcases eq_of_mem_lettersI hd with rfl | rfl | rfl | rfl <;>
              simp [hI, hi, hdot, hnone, hleft, hright.symm] at heq hhead
          · rw [foldChar_eq, foldChar_eq, hsame] at hhead
            exact hhead rfl
      · rintro ⟨hhead, hrest⟩
        rw [hhead, hrest]

/-- **Folding a text against its letters.** -/
theorem foldCase_eq_iff {s t : String}
    (h : List.Forall₂ (fun c d : Char => Fold.full.same c.toNat d.toNat = true) s.toList t.toList) :
    foldCase s = foldCase t ↔ List.Forall₂ DottedAlike s.toList t.toList := by
  rw [← flatMap_foldChar_eq_iff h, foldCase, foldCase, String.ofList_inj]

end Lexlight.Unicode
