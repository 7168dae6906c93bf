import Lexlight.Proofs.LinkerScript.Alone

/-!
# Numbers by a scanner

The numbers of linker scripts are given by patterns, and a pattern is searched: what it takes first
it may give back when what follows fails. A scanner gives nothing back. It reads each part of a
number as far as it goes, and looks at what comes after only then. `Number.stop?` is that scanner,
and `Number.StandsAt` says without it what it reads: rows of digits that go on as long as there are
digits, a sign and a unit wherever there is one.

The rules of numbers find what the scanner does. So no search ends in a shorter number than the
digits allow, and where the digits and the unit of a whole number come before something that they
must not come before, the search finds no number at all. This is how a number with a point is kept
in one piece: a whole number neither begins nor ends in it.
-/

namespace Lexlight

/-! ## The longest row -/

namespace Source

variable {src : Source} {ok : Char → Bool} {start stop : Nat}

/-- Whether the characters between two places are the longest row of a kind that begins at the first
of them. -/
structure Row (src : Source) (ok : Char → Bool) (start stop : Nat) : Prop where
  le : start ≤ stop
  each : ∀ i, start ≤ i → i < stop → src[i]?.any ok = true
  last : src[stop]?.any ok = false

theorem row_iff_runEnd : src.Row ok start stop ↔ src.runEnd ok start = stop := by
  constructor
  · intro h
    have hle := src.le_runEnd ok start
    rcases Nat.lt_trichotomy (src.runEnd ok start) stop with hlt | heq | hgt
    · have hnot := src.not_any_runEnd ok start
      rw [h.each _ hle hlt] at hnot
      cases hnot
    · exact heq
    · have hany := any_of_lt_runEnd h.le hgt
      rw [h.last] at hany
      cases hany
  · rintro rfl
    exact ⟨src.le_runEnd ok start, fun _ h1 h2 => any_of_lt_runEnd h1 h2,
      src.not_any_runEnd ok start⟩

end Source

namespace LinkerScript

open Source

variable {src : Source} {pos stop : Nat}

/-! ## The scanner -/

/-- The four kinds of numbers. -/
inductive Number where
  | hex
  | bin
  | whole
  | point
  deriving DecidableEq

namespace Number

/-- The category of a kind of numbers. -/
def category : Number → Category
  | .hex => .hexNumber
  | .bin => .binNumber
  | .whole => .decNumber
  | .point => .floatNumber

/-- What the rule of a kind of numbers is for. -/
def kind : Number → Kind
  | .hex => .hexNumber
  | .bin => .binNumber
  | .whole => .decNumber
  | .point => .floatNumber

/-- The pattern that a number of a kind matches. -/
def pattern : Number → Pattern
  | .hex => prefixedNumber 'x' hexDigit
  | .bin => prefixedNumber 'b' binDigit
  | .whole => wholeNumber
  | .point => pointNumber

theorem rule_kind (n : Number) : n.kind.rule = .token n.category n.pattern 0 := by
  cases n <;> rfl

/-- Where a number with a prefix ends: with its digits, if there are any. -/
def prefixedEnd? (src : Source) (mark : Char) (ok : Char → Bool) (pos : Nat) : Option Nat :=
  if src.HasAt pos ['0', mark] ∧ src[pos + 2]?.any ok then some (src.runEnd ok (pos + 2)) else none

/-- The scanner: where the number of a kind ends that begins at a place. -/
def stop? (src : Source) (pos : Nat) : Number → Option Nat
  | .hex => prefixedEnd? src 'x' Reading.isHex pos
  | .bin => prefixedEnd? src 'b' isBin pos
  | .whole =>
    if src.before isWordOrDot pos then none
    else (wholeEnd? src (src.skip (· = '-') pos)).bind (wholeStop? src)
  | .point =>
    if src.before Unicode.isWord pos = src[pos]?.any Unicode.isWord then none
    else pointEnd? src (src.skip (· = '-') pos)

/-- Whether digits stand between two places after a zero and a mark, and no digit after them. -/
def PrefixedRow (src : Source) (mark : Char) (ok : Char → Bool) (pos stop : Nat) : Prop :=
  src.HasAt pos ['0', mark] ∧ pos + 2 < stop ∧ src.Row ok (pos + 2) stop

/-- Whether a zero, or the longest row of digits that begins with none, stands between two
places. -/
def WholeRow (src : Source) (start stop : Nat) : Prop :=
  src[start]? = some '0' ∧ stop = start + 1 ∨
    src[start]?.any isLeading = true ∧ src.Row Unicode.isDigit (start + 1) stop

/-- Whether a row of digits, a point and a row of digits stand between two places, both rows being
the longest. -/
def PointRow (src : Source) (start stop : Nat) : Prop :=
  ∃ point, start < point ∧ src.Row Unicode.isDigit start point ∧ src[point]? = some '.' ∧
    point + 1 < stop ∧ src.Row Unicode.isDigit (point + 1) stop

/-- Whether a number of a kind stands between two places, with all of its digits, and with the sign
and the unit that there are. -/
def StandsAt (src : Source) (pos stop : Nat) : Number → Prop
  | .hex => PrefixedRow src 'x' Reading.isHex pos stop
  | .bin => PrefixedRow src 'b' isBin pos stop
  | .whole =>
    src.before isWordOrDot pos = false ∧
      ∃ digits, WholeRow src (src.skip (· = '-') pos) digits ∧ stop = src.skip isUnit digits ∧
        blocked src stop = false
  | .point =>
    src.before Unicode.isWord pos ≠ src[pos]?.any Unicode.isWord ∧
      PointRow src (src.skip (· = '-') pos) stop

/-! ## What the scanner reads -/

theorem prefixedEnd?_eq_some {mark : Char} {ok : Char → Bool} :
    prefixedEnd? src mark ok pos = some stop ↔ PrefixedRow src mark ok pos stop := by
  unfold prefixedEnd? PrefixedRow
  rw [Option.ite_none_right_eq_some, Option.some.injEq, row_iff_runEnd, and_assoc]
  refine and_congr_right fun _ => ?_
  constructor
  · rintro ⟨hfirst, rfl⟩
    exact ⟨lt_runEnd_iff.mpr hfirst, rfl⟩
  · rintro ⟨hlt, rfl⟩
    exact ⟨lt_runEnd_iff.mp hlt, rfl⟩

theorem wholeEnd?_eq_some : wholeEnd? src pos = some stop ↔ WholeRow src pos stop := by
  unfold wholeEnd? WholeRow
  by_cases h0 : src[pos]? = some '0'
  · rw [if_pos h0, Option.some.injEq]
    constructor
    · rintro rfl
      exact Or.inl ⟨h0, rfl⟩
    · rintro (⟨_, rfl⟩ | ⟨hlead, _⟩)
      · rfl
      · rw [h0] at hlead
        exact absurd hlead (by decide)
  · rw [if_neg h0, Option.ite_none_right_eq_some, Option.some.injEq, row_iff_runEnd]
    simp only [h0, false_and, false_or]

theorem wholeStop?_eq_some :
    wholeStop? src pos = some stop ↔ stop = src.skip isUnit pos ∧ blocked src stop = false := by
  unfold wholeStop?
  rw [Option.ite_none_left_eq_some, Option.some.injEq, Bool.not_eq_true]
  constructor
  · rintro ⟨hfree, rfl⟩
    exact ⟨rfl, hfree⟩
  · rintro ⟨rfl, hfree⟩
    exact ⟨hfree, rfl⟩

theorem pointEnd?_eq_some_iff_row : pointEnd? src pos = some stop ↔ PointRow src pos stop := by
  rw [pointEnd?_eq_some]
  constructor
  · rintro ⟨⟨hfirst, hdot, hnext⟩, hstop⟩
    refine ⟨_, lt_runEnd_iff.mpr hfirst, row_iff_runEnd.mpr rfl, hdot, ?_,
      row_iff_runEnd.mpr hstop⟩
    exact hstop ▸ lt_runEnd_iff.mpr hnext
  · rintro ⟨point, hlt, hrow, hdot, hlt', hrow'⟩
    obtain rfl := row_iff_runEnd.mp hrow
    obtain rfl := row_iff_runEnd.mp hrow'
    exact ⟨⟨lt_runEnd_iff.mp hlt, hdot, lt_runEnd_iff.mp hlt'⟩, rfl⟩

/-- **The scanner reads the numbers that stand at a place**, and no others. -/
theorem stop?_eq_some (n : Number) : n.stop? src pos = some stop ↔ n.StandsAt src pos stop := by
  cases n with
  | hex => exact prefixedEnd?_eq_some
  | bin => exact prefixedEnd?_eq_some
  | whole =>
      unfold stop? StandsAt
      rw [Option.ite_none_left_eq_some, Bool.not_eq_true, Option.bind_eq_some_iff]
      simp only [wholeEnd?_eq_some, wholeStop?_eq_some]
  | point =>
      unfold stop? StandsAt
      rw [Option.ite_none_left_eq_some, pointEnd?_eq_some_iff_row]

-- a unit is part of the number, and neither it nor a digit is left behind before a word character
example : Number.whole.stop? (.ofString "-10K") 0 = some 4 := by decide +kernel

example : Number.whole.stop? (.ofString "10K2") 0 = none := by decide +kernel

theorem StandsAt.lt {n : Number} (h : n.StandsAt src pos stop) : pos < stop := by
  have hsign := src.le_skip (· = '-') pos
  cases n with
  | hex =>
      obtain ⟨_, hlt, _⟩ := h
      omega
  | bin =>
      obtain ⟨_, hlt, _⟩ := h
      omega
  | whole =>
      obtain ⟨_, digits, hdigits, rfl, _⟩ := h
      have hunit := src.le_skip isUnit digits
      rcases hdigits with ⟨_, rfl⟩ | ⟨_, hrow⟩
      · omega
      · have hle := hrow.le
        omega
  | point =>
      obtain ⟨_, point, hlt, _, _, hlt', _⟩ := h
      omega

/-! ## The rules and the scanner -/

theorem matchEnd?_eq (n : Number) : n.pattern.matchEnd? src pos = n.stop? src pos := by
  cases n with
  | hex =>
      rw [pattern, matchEnd?_prefixedNumber, accepts_hexDigit]
      rfl
  | bin =>
      rw [pattern, matchEnd?_prefixedNumber, accepts_binDigit]
      rfl
  | whole => exact matchEnd?_wholeNumber
  | point =>
      rw [pattern, matchEnd?_pointNumber, stop?]
      rcases Nat.lt_or_ge pos src.size with hlt | hge
      · rw [holds_wordEdge hlt]
        by_cases hsame : src.before Unicode.isWord pos = src[pos]?.any Unicode.isWord
        · rw [if_pos hsame, if_neg (by simp [hsame])]
        · rw [if_neg hsame, if_pos (by simp [hsame])]
      · -- past the end there are no digits, whether an edge of a word is there or not
        have hnone : pointEnd? src (src.skip (· = '-') pos) = none := by
          have hskip := src.le_skip (· = '-') pos
          refine if_neg fun h => ?_
          have hlt := lt_size_of_any h.1
          omega
        rw [hnone, ite_self, ite_self]

/-- **A rule of numbers finds what the scanner reads.** -/
theorem hit?_rule (n : Number) :
    n.kind.rule.hit? src pos = (n.stop? src pos).map fun stop => ⟨some n.category, stop⟩ := by
  refine Option.ext fun hit => ?_
  rw [rule_kind, Rule.hit?_token, matchEnd?_eq, Option.map_eq_some_iff]
  constructor
  · rintro ⟨hstop, _, hcategory⟩
    exact ⟨hit.stop, hstop, by rw [← hcategory]⟩
  · rintro ⟨stop, hstop, rfl⟩
    have hlt := (n.stop?_eq_some.mp hstop).lt
    exact ⟨hstop, by dsimp only; omega, rfl⟩

/-! ## Numbers with a point are not split -/

/-- There is no point in a whole number. -/
theorem not_point_of_wholeText {cs : List Char} (h : WholeText cs) : '.' ∉ cs := by
  obtain ⟨sign, digits, unit, rfl, hsign, hdigits, hunit⟩ := h
  intro hmem
  rcases List.mem_append.mp hmem with hmem | hmem
  · rcases List.mem_append.mp hmem with hmem | hmem
    · rcases hsign with rfl | ⟨c, rfl, hc⟩
      · cases hmem
      · obtain rfl := List.mem_singleton.mp hmem
        exact absurd hc (by decide)
    · rcases hdigits with rfl | ⟨d, ds, rfl, hd, hds⟩
      · exact absurd hmem (by decide)
      · rcases List.mem_cons.mp hmem with rfl | hmem
        · exact absurd hd (by decide)
        · exact absurd (hds _ hmem) (by decide)
  · rcases hunit with rfl | ⟨c, rfl, hc⟩
    · cases hmem
    · obtain rfl := List.mem_singleton.mp hmem
      exact absurd hc (by decide)

/-- The digits of a number with a point, by place: up to the point, and after it. -/
theorem exists_point {start : Nat} {text : List Char} (htext : PointText text)
    (hat : src.HasAt start text) :
    ∃ point, start < point ∧ point + 1 < start + text.length ∧ src[point]? = some '.' ∧
      (∀ i, start < i → i < point → src[i]?.any Unicode.isDigit = true) ∧
      ∀ i, point < i → i < start + text.length → src[i]?.any Unicode.isDigit = true := by
  obtain ⟨sign, digits, rest, rfl, hsign, ⟨hne, hdigits⟩, hne', hrest⟩ := htext
  obtain ⟨hat, hdot, hafter⟩ := hasAt_append.mp hat
  obtain ⟨_, hbefore⟩ := hasAt_append.mp hat
  have hlength := List.length_pos_iff.mpr hne
  have hlength' := List.length_pos_iff.mpr hne'
  have hsize : sign.length ≤ 1 := by
    rcases hsign with rfl | ⟨_, rfl, _⟩
    · exact Nat.zero_le _
    · exact Nat.le_refl _
  simp only [List.length_append, List.length_cons] at hdot hafter ⊢
  refine ⟨_, ?_, ?_, hdot, fun i h1 h2 => ?_, fun i h1 h2 => ?_⟩
  · omega
  · omega
  · exact hbefore.any hdigits (by omega) (by omega)
  · exact hafter.any hrest (by omega) (by omega)

/-- **A whole number neither begins nor ends in a number with a point**, nor goes over it. -/
theorem whole_apart {start : Nat} {text : List Char} (htext : PointText text)
    (hat : src.HasAt start text) (h : Number.whole.StandsAt src pos stop) :
    stop ≤ start ∨ start + text.length ≤ pos := by
  obtain ⟨point, hlt, hlt', hdot, hbefore, hafter⟩ := exists_point htext hat
  have hmatch : wholeNumber.matchEnd? src pos = some stop :=
    (matchEnd?_eq .whole).trans (Number.whole.stop?_eq_some.mpr h)
  obtain ⟨hwhole, hfree, hend⟩ := wholeText_of_matchEnd? hmatch
  by_contra hover
  obtain ⟨hstart, hpos⟩ := not_or.mp hover
  rcases Nat.lt_or_ge point stop with hpast | hwithin
  · rcases Nat.lt_or_ge point pos with hright | hleft
    · -- what is before the number is the point, or a digit after it
      have hword : src[pos - 1]?.any isWordOrDot = true := by
        rcases Nat.lt_or_eq_of_le (Nat.le_sub_one_of_lt hright) with hdigit | hpoint
        · refine any_mono (fun c hc => ?_) (hafter (pos - 1) hdigit (by omega))
          simp [isWordOrDot, Unicode.isWord_of_isDigit hc]
        · rw [← hpoint, hdot]
          rfl
      rw [before, hword, Bool.and_true, decide_eq_false_iff_not] at hfree
      omega
    · exact not_point_of_wholeText hwhole (mem_span.mpr ⟨point, hleft, hpast, hdot⟩)
  · -- what comes after the number is a digit, or the point and a digit
    have hblocked : blocked src stop = true := by
      rcases Nat.lt_or_eq_of_le hwithin with hdigit | rfl
      · exact blocked_of_digit (hbefore stop (by omega) hdigit)
      · simp [blocked, hdot, hafter (stop + 1) (by omega) hlt']
    rw [hend] at hblocked
    cases hblocked

end Number

/--
**Numbers are read by a scanner.**

In the grammar of the language there is one rule for each kind of numbers. It finds at every place
what the scanner reads, which is the number that stands there with all of its digits, and with the
sign and the unit that there are. A whole number is never taken out of a number with a point.
-/
theorem numbers_scanned [CharacterNames] :
    ∃ g, (Offer.description description).compile (.string "ldscript") = .ok g ∧
      (∀ n : Number, g.rules.filter (fun r => r.category? = some n.category) = [n.kind.rule]) ∧
      ∀ (src : Source) (pos : Nat),
        (∀ n : Number,
          n.kind.rule.hit? src pos =
              (n.stop? src pos).map (fun stop => ⟨some n.category, stop⟩) ∧
            ∀ stop, n.stop? src pos = some stop ↔ n.StandsAt src pos stop) ∧
        ∀ stop start text, Number.whole.StandsAt src pos stop → PointText text →
          src.HasAt start text → stop ≤ start ∨ start + text.length ≤ pos := by
  obtain ⟨g, hg, hrules⟩ := exists_grammar
  refine ⟨g, hg, fun n => ?_, fun src pos => ⟨fun n => ⟨n.hit?_rule, fun _ => n.stop?_eq_some⟩, ?_⟩⟩
  · rw [hrules]
    cases n <;> rfl
  · exact fun stop start text h htext hat => Number.whole_apart htext hat h

end LinkerScript
end Lexlight
