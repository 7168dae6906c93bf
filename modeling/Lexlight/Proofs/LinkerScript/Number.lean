import Lexlight.Proofs.LinkerScript.Rules

/-!
# Numbers in linker scripts

Where each of the four patterns of numbers ends, as a function of the characters. Numbers with a
prefix take all digits of their base. A whole number goes from an optional sign over its digits and
an optional unit, and is one only when what comes after allows it. Any way to stop earlier would
leave a digit or a unit behind, which is just what must not come after a whole number; so there is
one way to match (`run_wholeEnd`), and the same holds of a number with a point, where a digit left
behind is not the point.
-/

namespace Lexlight.LinkerScript

open Pattern

variable {src : Source} {pos stop : Nat} {c : Char}

/-! ## What the classes have to do with each other -/

theorem digit_of_isDigit (h : c.isDigit = true) : Unicode.isDigit c = true := by
  have key : ∀ n, n < 58 → 48 ≤ n → Unicode.digits.contains n = true := by decide
  obtain ⟨h1, h2⟩ := Char.isDigit_iff_toNat.mp h
  exact key c.toNat (Nat.lt_succ_of_le h2) h1

theorem word_of_isAlpha (h : c.isAlpha = true) : Unicode.isWord c = true := by
  have key : ∀ n, n < 123 → (97 ≤ n ∧ n ≤ 122 ∨ 65 ≤ n ∧ n ≤ 90) →
      Unicode.letters.contains n = true := by decide
  have h := isAlpha_iff.mp h
  exact Unicode.isWord_of_isLetter (key c.toNat (by omega) h)

theorem not_digit_of_isAlpha (h : c.isAlpha = true) : Unicode.isDigit c = false := by
  have key : ∀ n, n < 123 → (97 ≤ n ∧ n ≤ 122 ∨ 65 ≤ n ∧ n ≤ 90) →
      Unicode.digits.contains n = false := by decide
  have h := isAlpha_iff.mp h
  exact key c.toNat (by omega) h

theorem isAlpha_of_isUnit (h : isUnit c = true) : c.isAlpha = true := by
  simp only [isUnit, List.mem_cons, List.not_mem_nil, or_false, decide_eq_true_eq] at h
  rcases h with rfl | rfl | rfl | rfl | rfl | rfl <;> rfl

theorem isDigit_of_isLeading (h : isLeading c = true) : c.isDigit = true := by
  obtain ⟨h1, h9⟩ : '1' ≤ c ∧ c ≤ '9' := by simpa [isLeading] using h
  exact Char.isDigit_iff_toNat.mpr ⟨Nat.le_of_succ_le (le_iff_toNat.mp h1), le_iff_toNat.mp h9⟩

theorem word_of_isHex (h : Reading.isHex c = true) : Unicode.isWord c = true := by
  have hrange : 48 ≤ c.toNat ∧ c.toNat ≤ 57 ∨ 97 ≤ c.toNat ∧ c.toNat ≤ 102 ∨
      65 ≤ c.toNat ∧ c.toNat ≤ 70 := by
    simpa [Reading.isHex, Reading.isDecimal, le_iff_toNat, or_assoc] using h
  rcases hrange with hdigit | hletter
  · exact Unicode.isWord_of_isDigit (digit_of_isDigit (Char.isDigit_iff_toNat.mpr hdigit))
  · exact word_of_isAlpha (isAlpha_iff.mpr (by omega))

theorem word_of_isBin (h : isBin c = true) : Unicode.isWord c = true := by
  simp only [isBin, List.mem_cons, List.not_mem_nil, or_false, decide_eq_true_eq] at h
  rcases h with rfl | rfl
  · decide
  · decide

theorem word_of_isNameStart (h : isNameStart c = true) : Unicode.isWord c = true := by
  rcases Bool.or_eq_true_iff.mp h with halpha | hline
  · exact word_of_isAlpha halpha
  · obtain rfl := of_decide_eq_true hline
    decide

theorem word_of_isNameRest (h : isNameRest c = true) : Unicode.isWord c = true := by
  rcases Bool.or_eq_true_iff.mp h with halphanum | hline
  · rcases Bool.or_eq_true_iff.mp halphanum with halpha | hdigit
    · exact word_of_isAlpha halpha
    · exact Unicode.isWord_of_isDigit (digit_of_isDigit hdigit)
  · obtain rfl := of_decide_eq_true hline
    decide

/-! ## Numbers with a prefix -/

/-- A number with a prefix ends where its digits do. -/
theorem matchEnd?_prefixedNumber (mark : Char) (digits : CharTest) :
    (prefixedNumber mark digits).matchEnd? src pos =
      if src.HasAt pos ['0', mark] ∧ src[pos + 2]?.any digits.accepts then
        some (src.runEnd digits.accepts (pos + 2))
      else none := by
  have hplus : ∀ s : MatchState, (ofList [.plus digits]).run src s some =
      if src[s.pos]?.any digits.accepts then
        some { s with pos := src.runEnd digits.accepts s.pos } else none :=
    fun s => run_plus (settled_some _ _)
  rw [matchEnd?, prefixedNumber, run_ofList_cons, run_char, run_ofList_cons, run_char, hplus]
  by_cases h0 : src[pos]? = some '0'
  · rw [if_pos (any_ofChar.mpr h0)]
    by_cases hm : src[pos + 1]? = some mark
    · rw [if_pos (any_ofChar.mpr hm)]
      by_cases hd : src[pos + 2]?.any digits.accepts = true
      · rw [if_pos hd, if_pos ⟨⟨h0, hm, trivial⟩, hd⟩]
        rfl
      · rw [if_neg hd, if_neg fun h => hd h.2]
        rfl
    · rw [if_neg (mt any_ofChar.mp hm), if_neg fun h => hm h.1.2.1]
      rfl
  · rw [if_neg (mt any_ofChar.mp h0), if_neg fun h => h0 h.1.1]
    rfl

/-! ## Whole numbers -/

/-- Where the digits of a whole number end: after a zero, or with the digits that do not begin with
one. -/
def wholeEnd? (src : Source) (pos : Nat) : Option Nat :=
  if src[pos]? = some '0' then some (pos + 1)
  else if src[pos]?.any isLeading then some (src.runEnd Unicode.isDigit (pos + 1))
  else none

/-- Whether a whole number must not end at a place. -/
def blocked (src : Source) (pos : Nat) : Bool :=
  src[pos]?.any isWordOrColon || (src[pos]? = some '.' && src[pos + 1]?.any Unicode.isDigit)

theorem any_mono {ok also : Char → Bool} (h : ∀ c, ok c = true → also c = true)
    (hany : src[pos]?.any ok = true) : src[pos]?.any also = true := by
  obtain ⟨c, hc, hok⟩ := (Option.any_eq_true _ _).mp hany
  exact (Option.any_eq_true _ _).mpr ⟨c, hc, h c hok⟩

theorem blocked_of_word (h : src[pos]?.any Unicode.isWord = true) : blocked src pos = true := by
  have hany : src[pos]?.any isWordOrColon = true :=
    any_mono (fun c hc => by simp [isWordOrColon, hc]) h
  simp [blocked, hany]

theorem blocked_of_digit (h : src[pos]?.any Unicode.isDigit = true) : blocked src pos = true :=
  blocked_of_word (any_mono (fun _ => Unicode.isWord_of_isDigit) h)

theorem blocked_of_unit (h : src[pos]?.any isUnit = true) : blocked src pos = true :=
  blocked_of_word (any_mono (fun _ hc => word_of_isAlpha (isAlpha_of_isUnit hc)) h)

theorem run_noEnd (s : MatchState) : (noEnd.run src s some).isSome = blocked src s.pos := by
  rw [noEnd, run_alt, run_char, run_seq, run_char, run_char, accepts_wordOrColon, accepts_digit]
  unfold blocked
  by_cases hw : src[s.pos]?.any isWordOrColon = true
  · simp [hw]
  · by_cases hdot : src[s.pos]? = some '.'
    · rw [if_neg hw, if_pos (any_ofChar.mpr hdot)]
      by_cases hd : src[s.pos + 1]?.any Unicode.isDigit = true
      · simp [hdot, hd]
      · simp [hd, hw]
    · rw [if_neg hw, if_neg (mt any_ofChar.mp hdot)]
      simp [hw, hdot]

/-- The end of a whole number after its digits. -/
def wholeStop? (src : Source) (pos : Nat) : Option Nat :=
  if blocked src (src.skip isUnit pos) then none else some (src.skip isUnit pos)

/-- A number does not end before a digit. -/
theorem wholeStop?_of_digit (h : src[pos]?.any Unicode.isDigit = true) :
    wholeStop? src pos = none := by
  have hunit : ¬ src[pos]?.any isUnit = true := by
    obtain ⟨c, hc, hd⟩ := (Option.any_eq_true _ _).mp h
    rw [hc]
    intro hu
    rw [not_digit_of_isAlpha (isAlpha_of_isUnit hu)] at hd
    exact absurd hd (by simp)
  rw [wholeStop?, Source.skip, if_neg hunit, if_pos (blocked_of_digit h)]

/-- After the digits, a unit is taken if there is one: to leave it would be to end before it. -/
theorem run_wholeStop (s : MatchState) :
    (ofList [.optional unit, .ahead false noEnd]).run src s some =
      (wholeStop? src s.pos).map fun e => { s with pos := e } := by
  have hahead : ∀ s : MatchState, (ofList [.ahead false noEnd]).run src s some =
      if blocked src s.pos then none else some s := by
    intro s
    show (Pattern.ahead false noEnd).run src s some = _
    rw [run_notAhead, run_noEnd]
  rw [run_ofList_cons]
  simp only [hahead]
  rw [run_optional, accepts_unit]
  · unfold wholeStop?
    split <;> rfl
  · refine settled_skip fun hunit => ?_
    rw [accepts_unit] at hunit
    rw [if_pos (blocked_of_unit hunit)]

/-- The digits of a whole number are all taken, before what does not accept a place with a digit. -/
theorem run_wholeDigits {s : MatchState} {k : MatchState → Option MatchState}
    (hk : ∀ p, src[p]?.any Unicode.isDigit = true → k { s with pos := p } = none) :
    wholeDigits.run src s k = (wholeEnd? src s.pos).bind fun e => k { s with pos := e } := by
  rw [wholeDigits, run_alt, run_char, run_seq, run_char, accepts_leading, wholeEnd?]
  by_cases h0 : src[s.pos]? = some '0'
  · have hlead : ¬ src[s.pos]?.any isLeading = true := by
      rw [h0]
      decide
    rw [if_pos (any_ofChar.mpr h0), if_neg hlead, if_pos h0]
    simp
  · rw [if_neg (mt any_ofChar.mp h0), if_neg h0]
    by_cases hlead : src[s.pos]?.any isLeading = true
    · rw [if_pos hlead, if_pos hlead, run_star, accepts_digit]
      · rfl
      · rw [accepts_digit]
        exact Or.inr fun p h1 h2 => hk p (Source.any_of_lt_runEnd h1 h2)
    · rw [if_neg hlead, if_neg hlead]
      rfl

/-- **Where a whole number ends.** A sign is taken if there is one, as no digits begin with it. -/
theorem matchEnd?_wholeNumber :
    wholeNumber.matchEnd? src pos =
      if src.before isWordOrDot pos then none
      else (wholeEnd? src (src.skip (· = '-') pos)).bind (wholeStop? src) := by
  have hdigits : ∀ s : MatchState,
      (ofList [wholeDigits, .optional unit, .ahead false noEnd]).run src s some =
        (wholeEnd? src s.pos).bind fun e =>
          (wholeStop? src e).map fun e => { s with pos := e } := by
    intro s
    rw [run_ofList_cons]
    simp only [run_wholeStop]
    exact run_wholeDigits fun p hp => by simp only [wholeStop?_of_digit hp, Option.map_none]
  rw [matchEnd?, wholeNumber, run_ofList_cons, run_notBehind_char, accepts_wordOrDot]
  by_cases hbefore : src.before isWordOrDot pos = true
  · rw [if_pos hbefore, if_pos hbefore]
    rfl
  · rw [if_neg hbefore, if_neg hbefore, run_ofList_cons]
    simp only [hdigits]
    -- the sign is not given back: no digits begin with it
    rw [run_optional, accepts_ofChar]
    · cases wholeEnd? src (src.skip (· = '-') pos) with
      | none => rfl
      | some e => cases h : wholeStop? src e <;> simp [h]
    · refine settled_skip fun hsign => ?_
      have hsign : src[pos]? = some '-' := any_ofChar.mp hsign
      have hnone : wholeEnd? src pos = none := by
        rw [wholeEnd?, hsign, if_neg (by decide), if_neg (by decide)]
      simp only [hnone, Option.bind_none]

/-! ## Numbers with a point -/

/-- Where a number with a point ends after its sign. -/
def pointEnd? (src : Source) (pos : Nat) : Option Nat :=
  let point := src.runEnd Unicode.isDigit pos
  if src[pos]?.any Unicode.isDigit ∧ src[point]? = some '.' ∧
      src[point + 1]?.any Unicode.isDigit then
    some (src.runEnd Unicode.isDigit (point + 1))
  else none

/-- The digits before the point are all taken, since no digit is a point. -/
theorem run_pointEnd (s : MatchState) :
    (ofList [.plus digit, .char (.ofChar .exact '.'), .plus digit]).run src s some =
      (pointEnd? src s.pos).map fun e => { s with pos := e } := by
  have hlast : ∀ s : MatchState, (ofList [.plus digit]).run src s some =
      if src[s.pos]?.any Unicode.isDigit then
        some { s with pos := src.runEnd Unicode.isDigit s.pos } else none := by
    intro s
    rw [← accepts_digit]
    exact run_plus (settled_some _ _)
  have hpoint : ∀ s : MatchState,
      (ofList [.char (.ofChar .exact '.'), .plus digit]).run src s some =
        if src[s.pos]? = some '.' ∧ src[s.pos + 1]?.any Unicode.isDigit then
          some { s with pos := src.runEnd Unicode.isDigit (s.pos + 1) } else none := by
    intro s
    rw [run_ofList_cons, run_char, hlast]
    by_cases hdot : src[s.pos]? = some '.'
    · rw [if_pos (any_ofChar.mpr hdot)]
      simp only [hdot, true_and]
    · rw [if_neg (mt any_ofChar.mp hdot), if_neg fun h => hdot h.1]
  rw [run_ofList_cons]
  simp only [hpoint]
  rw [run_plus, accepts_digit]
  · unfold pointEnd?
    by_cases hd : src[s.pos]?.any Unicode.isDigit = true
    · simp only [hd, if_true, true_and]
      split <;> rfl
    · rw [if_neg hd, if_neg fun h => hd h.1]
      rfl
  · rw [accepts_digit]
    refine Or.inr fun p h1 h2 => if_neg fun h => ?_
    have hany := Source.any_of_lt_runEnd h1 h2
    rw [h.1] at hany
    exact absurd hany (by decide)

/-- A place within a source is the edge of a word when the characters on its two sides are not both
word characters, nor both none. -/
theorem holds_wordEdge {src : Source} {pos : Nat} (hpos : pos < src.size) :
    (Anchor.wordEdge false false).holds src pos =
      (src.before Unicode.isWord pos != src[pos]?.any Unicode.isWord) := by
  have hsize : (src.size != 0) = true := by
    rw [bne_iff_ne]
    omega
  show (src.size != 0 && (((if pos = 0 then none else src[pos - 1]?).any Unicode.isWord !=
    src[pos]?.any Unicode.isWord) != false)) = _
  rw [hsize, Bool.true_and, Bool.bne_false]
  unfold Source.before
  cases pos with
  | zero => rfl
  | succ pos => rw [if_neg (Nat.succ_ne_zero pos), decide_eq_true (Nat.succ_pos pos), Bool.true_and]

/-- **Where a number with a point ends.** -/
theorem matchEnd?_pointNumber :
    pointNumber.matchEnd? src pos =
      if (Anchor.wordEdge false false).holds src pos then
        pointEnd? src (src.skip (· = '-') pos)
      else none := by
  rw [matchEnd?, pointNumber, run_ofList_cons, run]
  by_cases hedge : (Anchor.wordEdge false false).holds src pos = true
  · rw [if_pos hedge, if_pos hedge, run_ofList_cons]
    simp only [run_pointEnd]
    rw [run_optional, accepts_ofChar]
    · cases pointEnd? src (src.skip (· = '-') pos) <;> rfl
    · refine settled_skip fun hsign => ?_
      have hsign : src[pos]? = some '-' := any_ofChar.mp hsign
      have hnone : pointEnd? src pos = none := by
        refine if_neg fun h => ?_
        rw [hsign] at h
        exact absurd h.1 (by decide)
      simp only [hnone, Option.map_none]
  · rw [if_neg hedge, if_neg hedge]
    rfl

end Lexlight.LinkerScript
