import Lexlight.Proofs.LinkerScript.Name
import Lexlight.Proofs.LinkerScript.Number
import Lexlight.Proofs.Scan.Order

/-!
# One rule for each place

The characters at a place tell which rule can find something there: the first of them, the second
one after a slash, and for numbers what comes after the first digits. `kindAt` is that choice as a
function. Each rule is shown to find something only where the choice falls on it (`kind_of_hit`), so
no two of them do at one place, and their order does not matter.

A whole number and a number with a point begin alike, with the same sign and digits. They are told
apart by the point and the digit after it, which a whole number must not stand before.
-/

namespace Lexlight.LinkerScript

variable {src : Source} {pos : Nat} {c : Char} {hit : Hit}

/-- Which number there can be at a place, after its sign and first digits. -/
def numberAt (src : Source) (pos : Nat) : Kind :=
  let point := src.runEnd Unicode.isDigit (src.skip (· = '-') pos)
  if src.HasAt pos ['0', 'x'] then .hexNumber
  else if src.HasAt pos ['0', 'b'] then .binNumber
  else if src[point]? = some '.' ∧ src[point + 1]?.any Unicode.isDigit then .floatNumber
  else .decNumber

/-- Which rule can find something at a place. -/
def kindAt (src : Source) (pos : Nat) : Kind :=
  if src[pos]? = some '#' then .lineComment
  else if src.HasAt pos ['/', '*'] then .blockComment
  else if src[pos]? = some '"' then .string
  else if src[pos]? = some '\'' then .symbol
  else if src[pos]?.any (fun c => c = '-' || Unicode.isDigit c) then numberAt src pos
  else .lexeme

/-! ## Numbers -/

/-- At a sign or a digit there can be only a number. -/
theorem kindAt_of_number (hc : src[pos]? = some c) (h : c = '-' ∨ Unicode.isDigit c = true) :
    kindAt src pos = numberAt src pos := by
  have hother : ∀ d ∈ ['#', '/', '"', '\''], c ≠ d := by
    rintro d hd rfl
    revert hd
    rcases h with rfl | h
    · decide
    · intro hd
      simp only [List.mem_cons, List.not_mem_nil, or_false] at hd
      rcases hd with rfl | rfl | rfl | rfl <;> exact absurd h (by decide)
  have hslash : ¬ src.HasAt pos ['/', '*'] := by
    intro hat
    exact hother '/' (by decide) (Option.some.inj (hc.symm.trans hat.1))
  have hany : src[pos]?.any (fun c => c = '-' || Unicode.isDigit c) = true := by
    rw [hc]
    rcases h with rfl | h
    · rfl
    · simp [h]
  unfold kindAt
  rw [if_neg hslash, if_pos hany, hc]
  simp only [Option.some.injEq, hother, List.mem_cons, true_or, or_true, if_false]

/-- At a character that begins no comment, string, symbol or number there can be only a lexeme. -/
theorem kindAt_of_lexeme (hc : src[pos]? = some c) (h : c ∉ ['#', '"', '\'', '-'])
    (hdigit : Unicode.isDigit c = false) (hslash : ¬ src.HasAt pos ['/', '*']) :
    kindAt src pos = .lexeme := by
  simp only [List.mem_cons, List.not_mem_nil, or_false, not_or] at h
  have hany : ¬ src[pos]?.any (fun c => c = '-' || Unicode.isDigit c) = true := by
    rw [hc]
    simp [h.2.2.2, hdigit]
  unfold kindAt
  rw [if_neg hslash, if_neg hany, hc]
  simp only [Option.some.injEq, h.1, h.2.1, h.2.2.1, if_false]

/-- A sign or none, and then a digit: there can be only a number. -/
theorem kindAt_of_signed (h : src[src.skip (· = '-') pos]?.any Unicode.isDigit = true) :
    kindAt src pos = numberAt src pos := by
  obtain ⟨c, hc, hd⟩ := (Option.any_eq_true _ _).mp h
  unfold Source.skip at hc
  split at hc
  · rename_i hsign
    obtain ⟨s, hs, hsign⟩ := (Option.any_eq_true _ _).mp hsign
    exact kindAt_of_number hs (Or.inl (of_decide_eq_true hsign))
  · exact kindAt_of_number hc (Or.inr hd)

/-- The digits of a number with a prefix end after the zero, where the mark of the base stands. -/
theorem point_after_zero {mark : Char} (hat : src.HasAt pos ['0', mark])
    (hmark : Unicode.isDigit mark = false) :
    src.skip (· = '-') pos = pos ∧ src.runEnd Unicode.isDigit pos = pos + 1 := by
  obtain ⟨h0, hm, _⟩ := hat
  constructor
  · rw [Source.skip, h0, if_neg (by decide)]
  · have hzero : src[pos]?.any Unicode.isDigit = true := by
      rw [h0]
      decide
    have hnext : src[pos + 1]?.any Unicode.isDigit = false := by
      rw [hm]
      exact hmark
    rw [Source.runEnd_of_any hzero, Source.runEnd_of_not_any hnext]

/-- A number with a point has no prefix, and the point comes after its first digits. -/
theorem numberAt_of_point {stop : Nat} (h : pointEnd? src (src.skip (· = '-') pos) = some stop) :
    numberAt src pos = .floatNumber := by
  unfold pointEnd? at h
  dsimp only at h
  split at h
  · rename_i hpoint
    -- after a zero with a mark, the first digits end before the mark, which is no point
    have hbase : ∀ mark : Char, mark ≠ '.' → Unicode.isDigit mark = false →
        ¬ src.HasAt pos ['0', mark] := by
      intro mark hne hmark hat
      obtain ⟨hskip, hend⟩ := point_after_zero hat hmark
      rw [hskip, hend, hat.2.1] at hpoint
      exact hne (Option.some.inj hpoint.2.1)
    unfold numberAt
    dsimp only
    rw [if_neg (hbase 'x' (by decide) (by decide)), if_neg (hbase 'b' (by decide) (by decide)),
      if_pos hpoint.2]
  · exact absurd h (by simp)

/-- A place where a whole number ends is not a digit, nor a point with a digit after it. -/
theorem not_digit_of_wholeStop? {stop : Nat} (h : wholeStop? src pos = some stop) :
    src[pos]?.any Unicode.isDigit = false ∧
      ¬ (src[pos]? = some '.' ∧ src[pos + 1]?.any Unicode.isDigit = true) := by
  constructor
  · cases hd : src[pos]?.any Unicode.isDigit with
    | false => rfl
    | true =>
        rw [wholeStop?_of_digit hd] at h
        exact absurd h (by simp)
  · rintro ⟨hdot, hd⟩
    have hunit : ¬ src[pos]?.any isUnit = true := by
      rw [hdot]
      decide
    have hblocked : blocked src pos = true := by
      simp [blocked, hdot, hd]
    rw [wholeStop?, Source.skip, if_neg hunit, if_pos hblocked] at h
    exact absurd h (by simp)

/-- The digits of a whole number are the first digits there are. -/
theorem runEnd_of_wholeEnd? {stop : Nat} (h : wholeEnd? src pos = some stop)
    (hstop : src[stop]?.any Unicode.isDigit = false) :
    src[pos]?.any Unicode.isDigit = true ∧ src.runEnd Unicode.isDigit pos = stop := by
  unfold wholeEnd? at h
  split at h
  · rename_i h0
    obtain rfl := Option.some.inj h
    have hzero : src[pos]?.any Unicode.isDigit = true := by
      rw [h0]
      decide
    exact ⟨hzero, by rw [Source.runEnd_of_any hzero, Source.runEnd_of_not_any hstop]⟩
  · split at h
    · rename_i hlead
      obtain rfl := Option.some.inj h
      have hdigit : src[pos]?.any Unicode.isDigit = true :=
        any_mono (fun _ hc => digit_of_isDigit (isDigit_of_isLeading hc)) hlead
      exact ⟨hdigit, Source.runEnd_of_any hdigit⟩
    · exact absurd h (by simp)

/-- A whole number has no prefix, and no point with a digit after its digits. -/
theorem numberAt_of_whole {digits stop : Nat}
    (hdigits : wholeEnd? src (src.skip (· = '-') pos) = some digits)
    (hstop : wholeStop? src digits = some stop) : numberAt src pos = .decNumber := by
  obtain ⟨hafter, hpoint⟩ := not_digit_of_wholeStop? hstop
  obtain ⟨_, hend⟩ := runEnd_of_wholeEnd? hdigits hafter
  -- a mark is a word character and no unit, and so a whole number must not stand before it
  have hbase : ∀ mark : Char, Unicode.isWord mark = true → isUnit mark = false →
      Unicode.isDigit mark = false → ¬ src.HasAt pos ['0', mark] := by
    intro mark hword hunit hmark hat
    obtain ⟨hskip, hrow⟩ := point_after_zero hat hmark
    obtain rfl : digits = pos + 1 := by
      rw [← hend, hskip, hrow]
    have hm : src[pos + 1]? = some mark := hat.2.1
    have hblocked : blocked src (pos + 1) = true := by
      refine blocked_of_word ?_
      rw [hm]
      exact hword
    have hnot : ¬ src[pos + 1]?.any isUnit = true := by
      rw [hm]
      simp [hunit]
    rw [wholeStop?, Source.skip, if_neg hnot, if_pos hblocked] at hstop
    exact absurd hstop (by simp)
  unfold numberAt
  dsimp only
  rw [hend, if_neg (hbase 'x' (by decide) (by decide) (by decide)),
    if_neg (hbase 'b' (by decide) (by decide) (by decide)), if_neg hpoint]

/-! ## Each rule has its places -/

theorem kindAt_of_prefixed {mark : Char} {digits : CharTest} {stop : Nat}
    (h : (prefixedNumber mark digits).matchEnd? src pos = some stop) :
    src.HasAt pos ['0', mark] ∧ kindAt src pos = numberAt src pos := by
  rw [matchEnd?_prefixedNumber] at h
  split at h
  · rename_i hat
    exact ⟨hat.1, kindAt_of_number hat.1.1 (Or.inr (by decide))⟩
  · exact absurd h (by simp)

theorem kindAt_of_dotted {rest : Char → Bool} {stop : Nat}
    (h : dottedEnd? src Char.isAlpha rest pos = some stop) : kindAt src pos = .lexeme := by
  obtain ⟨c, hc, hkind⟩ := exists_first_of_dottedEnd? h
  have hother : ∀ d ∈ ['#', '"', '\'', '-', '/'], c ≠ d := by
    rintro d hd rfl
    simp only [List.mem_cons, List.not_mem_nil, or_false] at hd
    rcases hd with rfl | rfl | rfl | rfl | rfl <;> exact absurd hkind (by decide)
  refine kindAt_of_lexeme hc (fun hmem => ?_) ?_ fun hat => ?_
  · exact hother c (List.mem_append_left ['/'] hmem) rfl
  · rcases hkind with rfl | halpha
    · decide
    · exact not_digit_of_isAlpha halpha
  · exact hother '/' (by decide) (Option.some.inj (hc.symm.trans hat.1))

/-- **A rule finds something only at its own places.** -/
theorem kind_of_hit {k : Kind} (hp : pos ≤ src.size) (h : k.rule.hit? src pos = some hit) :
    kindAt src pos = k := by
  cases k with
  | lineComment =>
      obtain ⟨hm, _⟩ := Rule.hit?_token.mp h
      rw [Pattern.matchEnd?_lineComment] at hm
      split at hm
      · rename_i hat
        exact if_pos hat.1
      · exact absurd hm (by simp)
  | blockComment =>
      obtain ⟨hm, _⟩ := Rule.hit?_token.mp h
      obtain ⟨hat, _⟩ := (Pattern.matchEnd?_blockComment (by decide) hp).mp hm
      have hat : src.HasAt pos ['/', '*'] := hat
      unfold kindAt
      rw [if_pos hat, hat.1, if_neg (by decide)]
  | string =>
      obtain ⟨hm, _⟩ := Rule.hit?_token.mp h
      obtain ⟨hquote, _⟩ := Pattern.matchEnd?_quotedString.mp hm
      have hslash : ¬ src.HasAt pos ['/', '*'] := fun hat =>
        absurd (hquote.symm.trans hat.1) (by decide)
      unfold kindAt
      rw [if_neg hslash, hquote, if_neg (by decide), if_pos rfl]
  | hexNumber =>
      obtain ⟨hm, _⟩ := Rule.hit?_token.mp h
      obtain ⟨hat, hkind⟩ := kindAt_of_prefixed hm
      rw [hkind]
      exact if_pos hat
  | binNumber =>
      obtain ⟨hm, _⟩ := Rule.hit?_token.mp h
      obtain ⟨hat, hkind⟩ := kindAt_of_prefixed hm
      have hhex : ¬ src.HasAt pos ['0', 'x'] := fun hx =>
        absurd (hx.2.1.symm.trans hat.2.1) (by decide)
      rw [hkind, numberAt, if_neg hhex, if_pos hat]
  | decNumber =>
      obtain ⟨hm, _⟩ := Rule.hit?_token.mp h
      rw [matchEnd?_wholeNumber] at hm
      split at hm
      · exact absurd hm (by simp)
      · obtain ⟨digits, hdigits, hstop⟩ := Option.bind_eq_some_iff.mp hm
        have hfirst := (runEnd_of_wholeEnd? hdigits (not_digit_of_wholeStop? hstop).1).1
        rw [kindAt_of_signed hfirst]
        exact numberAt_of_whole hdigits hstop
  | floatNumber =>
      obtain ⟨hm, _⟩ := Rule.hit?_token.mp h
      rw [matchEnd?_pointNumber] at hm
      split at hm
      · have hfirst : src[src.skip (· = '-') pos]?.any Unicode.isDigit = true := by
          by_contra hnot
          exact absurd hm (by simp [pointEnd?, hnot])
        rw [kindAt_of_signed hfirst]
        exact numberAt_of_point hm
      · exact absurd hm (by simp)
  | symbol =>
      obtain ⟨hm, _⟩ := Rule.hit?_token.mp h
      rw [matchEnd?_quotedName] at hm
      split at hm
      · rename_i hquote
        have hslash : ¬ src.HasAt pos ['/', '*'] := fun hat =>
          absurd (hquote.symm.trans hat.1) (by decide)
        unfold kindAt
        rw [if_neg hslash, hquote, if_neg (by decide), if_neg (by decide), if_pos rfl]
      · exact absurd hm (by simp)
  | lexeme =>
      obtain ⟨_, _, hfound⟩ := Rule.hit?_lexeme.mp h
      rcases hfound with hm | ⟨_, hm, _⟩
      · have hm : (Pattern.boundedEntries .exact [discard]).matchEnd? src pos = some hit.stop := hm
        rw [matchEnd?_boundedEntry] at hm
        split at hm
        · exact absurd hm (by simp)
        · split at hm
          · -- the entry begins like a block comment, and its second character tells them apart
            rename_i hat
            have hat : src.HasAt pos ('/' :: 'D' :: "ISCARD/".toList) := hat.1
            refine kindAt_of_lexeme hat.1 (by decide) (by decide) fun hstar => ?_
            exact absurd (hstar.2.1.symm.trans hat.2.1) (by decide)
          · exact absurd hm (by simp)
      · rw [matchEnd?_lexeme] at hm
        exact kindAt_of_dotted hm

theorem exclusive_rules : Exclusive (Kind.all.map Kind.rule) := by
  intro src pos hp
  have hdistinct : Kind.all.Pairwise (· ≠ ·) := by decide
  refine List.pairwise_map.mpr (hdistinct.imp fun {k k'} hne => ?_)
  cases h : k.rule.hit? src pos with
  | none => exact Or.inl rfl
  | some hit =>
      cases h' : k'.rule.hit? src pos with
      | none => exact Or.inr rfl
      | some hit' => exact absurd ((kind_of_hit hp h).symm.trans (kind_of_hit hp h')) hne

/-- What the rule of a kind finds, the grammar finds, as no other rule finds anything there. -/
theorem hit?_of_kind {g : Grammar} (hrules : g.rules = Kind.all.map Kind.rule)
    (hp : pos ≤ src.size) {k : Kind} (hhit : k.rule.hit? src pos = some hit) :
    g.hit? src pos = some hit := by
  unfold Grammar.hit?
  rw [hrules]
  exact (exclusive_rules.findSome?_eq_some hp).mpr ⟨_, List.mem_map_of_mem k.mem_all, hhit⟩

/--
**The order of the rules does not matter.**

No two rules of the grammar find something at one place of a source, and with its rules in any other
order the grammar gives the same tokens for every text.
-/
theorem rules_in_any_order [CharacterNames] :
    ∃ g, (Offer.description description).compile (.string "ldscript") = .ok g ∧
      g.rules = Kind.all.map Kind.rule ∧ Exclusive g.rules ∧
      ∀ rules, rules.Perm g.rules →
        ∀ text, { g with rules }.tokenize text = g.tokenize text := by
  obtain ⟨g, hg, hrules⟩ := exists_grammar
  have hex : Exclusive g.rules := hrules ▸ exclusive_rules
  exact ⟨g, hg, hrules, hex, fun rules hperm text => Grammar.tokenize_perm hex hperm text⟩

/-- The nine rules as a grammar that can be run: nothing else of a grammar is looked at. -/
def bare : Grammar := { (default : Grammar) with rules := Kind.all.map Kind.rule }

theorem tokenize_eq_bare [CharacterNames] {g : Grammar}
    (hg : (Offer.description description).compile (.string "ldscript") = .ok g) (text : String) :
    g.tokenize text = bare.tokenize text :=
  Grammar.tokenize_congr (rules_of_compile hg) text

end Lexlight.LinkerScript
