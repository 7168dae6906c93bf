import Lexlight.Proofs.LinkerScript.Munch
import Lexlight.Proofs.Source.Words

/-!
# Numbers and words

Whole numbers look at what stands on both sides of them, so they are never part of a word. The other
numbers do not: one with a prefix may begin within a word, and any of them may end where a word goes
on (`number_standsAlone_iff`).

Within which words a number may begin is a matter of where the scan gets to. A word that begins with
a letter from A to Z is looked up as a whole, so the scan goes over it in one turn. The exception is
what follows a quote, since the name of a symbol ends before a letter of another alphabet, and the
scan goes on within the word. So numbers begin only within words that are not taken whole
(`TakenWhole`). This is an invariant of the places where the scan stands (`Apart`), which each turn
keeps (`apart_skip`, `apart_hit`).
-/

namespace Lexlight

namespace LinkerScript

open Source

variable {src : Source} {start pos stop : Nat}

/-- Whether the word that begins at a place is taken whole: it begins with a letter from A to Z, and
no quote of a symbol stands before it, with a dot or without. -/
def TakenWhole (src : Source) (start : Nat) : Prop :=
  src[start]?.any Char.isAlpha = true ∧
    ∀ quote, src[quote]? = some '\'' → start ≠ quote + 1 ∧
      (src[quote + 1]? = some '.' → start ≠ quote + 2)

/-- Whether a place does not lie within a word that is taken whole. -/
def Apart (src : Source) (pos : Nat) : Prop :=
  src[pos]?.any Unicode.isWord = true → ∀ start, src.WordFrom start pos → ¬ TakenWhole src start

/-! ## What each rule leaves behind -/

/-- A word that is taken whole does not begin with a digit. -/
theorem TakenWhole.not_digit (h : TakenWhole src start) :
    src[start]?.any Unicode.isDigit = false := by
  obtain ⟨c, hc, halpha⟩ := (Option.any_eq_true _ _).mp h.1
  rw [hc, Option.any_some, not_digit_of_isAlpha halpha]

/-- A lexeme is found wherever a letter from A to Z begins a word. -/
theorem exists_lexeme (hbefore : src.before Unicode.isWord pos = false)
    (halpha : src[pos]?.any Char.isAlpha = true) :
    ∃ hit, Kind.lexeme.rule.hit? src pos = some hit := by
  obtain ⟨c, hc, hletter⟩ := (Option.any_eq_true _ _).mp halpha
  have hskip : src.skip (· = '.') pos = pos := by
    refine skip_eq_self fun hdot => ?_
    rw [hc] at hdot
    obtain rfl := Option.some.inj hdot
    exact absurd hletter (by decide)
  have hname : dottedEnd? src Char.isAlpha Unicode.isWord pos =
      some (src.runEnd Unicode.isWord (pos + 1)) := by
    rw [dottedEnd?, hskip, if_pos halpha]
  exact ⟨_, hit?_of_name hbefore hname⟩

/-- After a number with a prefix the word that it is part of goes on, and began with it. -/
theorem not_takenWhole_of_prefixed {mark : Char} {ok : Char → Bool}
    (hmark : Unicode.isWord mark = true) (hok : ∀ c, ok c = true → Unicode.isWord c = true)
    (h : Number.PrefixedRow src mark ok pos stop) (hword : src.WordFrom start stop)
    (hle : pos ≤ start) : ¬ TakenWhole src start := by
  obtain ⟨⟨hzero, hmark', _⟩, _, hrow⟩ := h
  intro htaken
  have hall : ∀ j, pos ≤ j → j < start → src[j]?.any Unicode.isWord = true := by
    intro j h1 h2
    have hlt := hword.lt
    rcases Nat.lt_or_ge j (pos + 2) with hj | hj
    · rcases Nat.lt_or_eq_of_le h1 with hj' | rfl
      · obtain rfl : j = pos + 1 := by omega
        rw [hmark']
        exact hmark
      · rw [hzero]
        decide
    · exact any_mono hok (hrow.each j hj (by omega))
  obtain rfl := hword.start_eq hle hall
  have hdigit := htaken.not_digit
  rw [hzero] at hdigit
  exact absurd hdigit (by decide)

/-- After a number with a point the word goes on that its last digits began. -/
theorem not_takenWhole_of_point (h : Number.PointRow src pos stop) (hword : src.WordFrom start stop) :
    ¬ TakenWhole src start := by
  obtain ⟨point, _, _, hdot, hlt, hrow⟩ := h
  intro htaken
  have hafter : point < start := by
    refine hword.lt_of_not_word ?_ (by omega)
    rw [hdot]
    decide
  have hend := hword.lt
  obtain rfl := hword.start_eq hafter fun j h1 h2 =>
    any_mono (fun _ => Unicode.isWord_of_isDigit) (hrow.each j h1 (by omega))
  have hdigit := htaken.not_digit
  rw [hrow.each _ (Nat.le_refl _) hlt] at hdigit
  cases hdigit

/-- After a symbol the word goes on that its name began. -/
theorem not_takenWhole_of_symbol (h : quotedName.matchEnd? src pos = some stop)
    (hword : src.WordFrom start stop) (hle : pos ≤ start) : ¬ TakenWhole src start := by
  rw [matchEnd?_quotedName] at h
  split at h
  · next hquote =>
      rintro ⟨_, hsymbol⟩
      obtain ⟨hne, hdotted⟩ := hsymbol pos hquote
      have hpast : pos + 1 ≤ start := by
        have hend := hword.lt
        refine hword.lt_of_not_word ?_ (by omega)
        rw [hquote]
        decide
      obtain ⟨name, hname⟩ : ∃ name, src.skip (· = '.') (pos + 1) = name := ⟨_, rfl⟩
      rw [dottedEnd?, hname] at h
      split at h
      · next hfirst =>
          obtain rfl := Option.some.inj h
          have hlt := src.le_runEnd isNameRest (name + 1)
          -- a word that begins with the name or within it begins with it
          have hbegins : name ≤ start → start = name := by
            intro hle
            refine hword.start_eq hle fun j h1 h2 => ?_
            have hend := hword.lt
            rcases Nat.lt_or_eq_of_le h1 with hj | rfl
            · have hrest : src[j]?.any isNameRest = true :=
                any_of_lt_runEnd (show name + 1 ≤ j from hj) (by omega)
              exact any_mono (fun _ => word_of_isNameRest) hrest
            · exact any_mono (fun _ => word_of_isNameStart) hfirst
          by_cases hdot : src[pos + 1]? = some '.'
          · obtain rfl : pos + 2 = name := (skip_eq_succ hdot).symm.trans hname
            refine hdotted hdot (hbegins (hword.lt_of_not_word ?_ (by omega)))
            rw [hdot]
            decide
          · obtain rfl : pos + 1 = name := (skip_eq_self hdot).symm.trans hname
            exact hne (hbegins hpast)
      · cases h
  · cases h

/-- A word character does not end a line. -/
theorem inLine_of_word {c : Char} (h : Unicode.isWord c = true) : inLine c = true := by
  have hne : ∀ d, Unicode.isWord d = false → c ≠ d := by
    rintro d hd rfl
    rw [h] at hd
    cases hd
  simp [inLine, hne '\r' (by decide), hne '\n' (by decide)]

/-- **What a rule finds leaves no word behind that is taken whole.** -/
theorem not_takenWhole_of_hit {k : Kind} {hit : Hit} (hp : pos ≤ src.size)
    (h : k.rule.hit? src pos = some hit) (hnext : src[hit.stop]?.any Unicode.isWord = true)
    (hword : src.WordFrom start hit.stop) (hle : pos ≤ start) : ¬ TakenWhole src start := by
  obtain ⟨category?, stop⟩ := hit
  have hbefore := hword.before
  dsimp only at hnext hword hbefore
  have hinside : src[stop]? ≠ none := by
    intro hnone
    rw [hnone] at hnext
    cases hnext
  cases k with
  | lineComment =>
      obtain ⟨hm, _⟩ := Rule.hit?_token.mp h
      rw [Pattern.matchEnd?_lineComment] at hm
      split at hm
      · have hend := src.not_any_runEnd inLine (pos + "#".toList.length)
        rw [Option.some.inj hm, any_mono (fun _ => inLine_of_word) hnext] at hend
        cases hend
      · cases hm
  | blockComment =>
      obtain ⟨hm, _⟩ := Rule.hit?_token.mp h
      obtain ⟨_, hclose⟩ := (Pattern.matchEnd?_blockComment (by decide) hp).mp hm
      rcases hclose with ⟨last, _, hat, _, hstop⟩ | ⟨_, hstop⟩
      · -- the character before the end is the slash of the marker
        obtain rfl : stop = last + 1 + 1 := hstop
        have hslash : src[last + 1]? = some '/' := hat.2.1
        rw [before_succ, hslash] at hbefore
        exact absurd hbefore (by decide)
      · obtain rfl : stop = src.size := hstop
        exact absurd (Array.getElem?_eq_none (Nat.le_refl _)) hinside
  | string =>
      obtain ⟨hm, _⟩ := Rule.hit?_token.mp h
      obtain ⟨_, inside, hquoted, hstop⟩ := Pattern.matchEnd?_quotedString.mp hm
      obtain rfl : stop = src.skip (· = '"') inside := hstop
      obtain ⟨_, _, _, _, hlast⟩ := units_of_quoted hquoted
      by_cases hquote : src[inside]? = some '"'
      · rw [skip_eq_succ hquote, before_succ, hquote] at hbefore
        exact absurd hbefore (by decide)
      · have hnone : src[inside]? = none := by
          rcases hlast with ⟨_, hnone | hquote'⟩ | ⟨_, hnone⟩
          · exact hnone
          · exact absurd hquote' hquote
          · exact hnone
        rw [skip_eq_self hquote] at hinside
        exact absurd hnone hinside
  | hexNumber =>
      obtain ⟨hm, _⟩ := Rule.hit?_token.mp h
      have hrow := Number.hex.stop?_eq_some.mp (Number.hex.matchEnd?_eq ▸ hm)
      exact not_takenWhole_of_prefixed (by decide) (fun _ => word_of_isHex) hrow hword hle
  | binNumber =>
      obtain ⟨hm, _⟩ := Rule.hit?_token.mp h
      have hrow := Number.bin.stop?_eq_some.mp (Number.bin.matchEnd?_eq ▸ hm)
      exact not_takenWhole_of_prefixed (by decide) (fun _ => word_of_isBin) hrow hword hle
  | decNumber =>
      obtain ⟨hm, _⟩ := Rule.hit?_token.mp h
      obtain ⟨_, _, hend⟩ := wholeText_of_matchEnd? hm
      rw [blocked_of_word hnext] at hend
      cases hend
  | floatNumber =>
      obtain ⟨hm, _⟩ := Rule.hit?_token.mp h
      obtain ⟨_, hrow⟩ := Number.point.stop?_eq_some.mp (Number.point.matchEnd?_eq ▸ hm)
      exact not_takenWhole_of_point hrow hword
  | symbol =>
      obtain ⟨hm, _⟩ := Rule.hit?_token.mp h
      exact not_takenWhole_of_symbol hm hword hle
  | lexeme =>
      obtain ⟨_, hend, _⟩ := hit?_lexeme_cases h
      rw [hnext] at hend
      cases hend

/-! ## Where the scan stands -/

section Grammar

variable {g : Grammar} (hrules : g.rules = Kind.all.map Kind.rule)
include hrules

/-- Where nothing is found, no word begins that is taken whole. -/
theorem apart_skip (hnone : g.hit? src pos = none) (h : Apart src pos) : Apart src (pos + 1) := by
  intro _ start hword htaken
  rcases Nat.lt_or_eq_of_le (Nat.le_of_lt_succ hword.lt) with hlt | rfl
  · have hpos : src[pos]?.any Unicode.isWord = true :=
      hword.each pos (Nat.le_of_lt hlt) (Nat.lt_succ_self pos)
    exact h hpos start (hword.shorten hlt (Nat.le_succ pos)) htaken
  · obtain ⟨hit, hhit⟩ := exists_lexeme hword.first htaken.1
    rw [hit?_none_of_kind hrules hnone .lexeme] at hhit
    cases hhit

theorem apart_hit {hit : Hit} (hp : pos < src.size) (hhit : g.hit? src pos = some hit)
    (hlt : pos < hit.stop) (h : Apart src pos) : Apart src hit.stop := by
  obtain ⟨k, hk⟩ := exists_kind hrules hhit
  intro hnext start hword
  rcases Nat.lt_or_ge start pos with hbegun | hle
  · -- what was found began within the word, so it was no word that is taken whole
    have hpos : src[pos]?.any Unicode.isWord = true :=
      hword.each pos (Nat.le_of_lt hbegun) hlt
    exact h hpos start (hword.shorten hbegun (Nat.le_of_lt hlt))
  · exact not_takenWhole_of_hit (Nat.le_of_lt hp) hk hnext hword hle

/-- **The scan never stands within a word that is taken whole.** -/
theorem apart_of_reaches (hg : g.Advances) (h : g.Reaches src pos) : Apart src pos := by
  induction h with
  | start =>
      intro _ start hword
      exact absurd hword.lt (Nat.not_lt_zero start)
  | skip _ _ hnone ih => exact apart_skip hrules hnone ih
  | hit _ hlt hhit ih =>
      obtain ⟨hpast, _⟩ := hg src _ _ hlt hhit
      exact apart_hit hrules hlt hhit hpast ih

end Grammar

/-! ## Numbers that stand alone -/

/-- What finds a number of a kind is the rule of the kind. -/
theorem kind_of_number {k : Kind} {n : Number}
    (h : k.rule.hit? src pos = some ⟨some n.category, stop⟩) : k = n.kind := by
  cases k with
  | lexeme =>
      obtain ⟨_, _, hcategory, _⟩ := hit?_lexeme_cases h
      rcases mem_of_classify hcategory.symm with ⟨hc, _⟩ | ⟨hc, _⟩
      · cases n <;> cases hc
      · cases n <;> cases hc
  | _ =>
      obtain ⟨_, _, hcategory⟩ := Rule.hit?_token.mp h
      cases n <;> first | rfl | cases hcategory

/-- Whether a token begins within a word that is not taken whole. -/
def Buried (src : Source) (t : Token) : Prop :=
  ∃ start, src.WordFrom start t.start ∧ ¬ TakenWhole src start

/-- A whole number is never part of a word. -/
theorem standsAlone_of_whole {c : Category} (h : Number.whole.StandsAt src pos stop) :
    StandsAlone src (src.token c pos stop) := by
  obtain ⟨hfree, _, _, _, hend⟩ := h
  constructor
  · cases hword : src.before Unicode.isWord pos with
    | false => exact hword
    | true =>
        have hbefore : src.before isWordOrDot pos = true :=
          before_mono (fun c hc => by simp [isWordOrDot, hc]) hword
        rw [hfree] at hbefore
        cases hbefore
  · cases hword : src[stop]?.any Unicode.isWord with
    | false => exact hword
    | true =>
        rw [blocked_of_word hword] at hend
        cases hend

theorem head?_token {c : Category} (hlt : pos < stop) (hp : pos < src.size) :
    (src.token c pos stop).text.toList.head? = src[pos]? := by
  have hd : src[pos]? = some src[pos] := Array.getElem?_eq_getElem hp
  rw [toList_token, span_cons hd hlt, List.head?_cons, hd]

/-- Any other number stands right after a word character just when it took a sign along, or when it
begins within a word that is not taken whole. -/
theorem before_number_iff {n : Number} (hne : n ≠ .whole) (hp : pos < src.size)
    (hapart : Apart src pos) (h : n.StandsAt src pos stop) :
    src.before Unicode.isWord pos = true ↔
      SignedPoint (src.token n.category pos stop) ∨ Buried src (src.token n.category pos stop) := by
  have hhead := @head?_token src pos stop n.category h.lt hp
  constructor
  · intro hbefore
    obtain ⟨start, hword⟩ := exists_wordFrom hbefore
    -- where the number begins with a word character, it begins within the word
    have hburied : src[pos]?.any Unicode.isWord = true →
        Buried src (src.token n.category pos stop) :=
      fun hpos => ⟨start, hword, hapart hpos start hword⟩
    cases n with
    | hex =>
        refine Or.inr (hburied ?_)
        rw [h.1.1]
        decide
    | bin =>
        refine Or.inr (hburied ?_)
        rw [h.1.1]
        decide
    | whole => exact absurd rfl hne
    | point =>
        obtain ⟨hedge, point, hlt, hrow, _⟩ := h
        by_cases hsign : src[pos]? = some '-'
        · exact Or.inl ⟨rfl, hhead.trans hsign⟩
        · rw [skip_eq_self hsign] at hlt hrow
          have hdigit := hrow.each pos (Nat.le_refl _) hlt
          exact Or.inr (hburied (any_mono (fun _ => Unicode.isWord_of_isDigit) hdigit))
  · rintro (⟨hc, hsign⟩ | ⟨start, hword, _⟩)
    · obtain rfl : n = .point := by cases n <;> first | rfl | cases hc
      obtain ⟨hedge, _⟩ := h
      rw [← hhead, hsign, Option.any_some, show Unicode.isWord '-' = false by decide] at hedge
      simpa using hedge
    · exact hword.before

/--
**Which numbers stand alone.**

A whole number always stands alone: no word character comes right before it or right after it. Any
other number does just when it took no sign along, does not begin within a word that is not taken
whole, and ends where no word goes on. So no number begins within a word of which the first
character is a letter from A to Z, unless the word comes after the quote of a symbol.
-/
theorem number_standsAlone_iff [CharacterNames] {g : Grammar}
    (hg : (Offer.description description).compile (.string "ldscript") = .ok g) {text : String}
    {t : Token} (ht : t ∈ g.tokenize text) {n : Number} (hn : t.category = n.category) :
    StandsAlone (.ofString text) t ↔
      n = .whole ∨ ¬ SignedPoint t ∧ ¬ Buried (.ofString text) t ∧
        (Source.ofString text)[t.stop]?.any Unicode.isWord = false := by
  have hrules := rules_of_compile hg
  have hadvances := Offer.compile_advances hg
  have hne : t.category ≠ .text := by
    rw [hn]
    cases n <;> decide
  obtain ⟨pos, stop, c, hreach, hp, hhit, rfl⟩ :=
    (Grammar.scan_scans hadvances _).exists_hit .start ht hne
  obtain rfl : c = n.category := hn
  obtain ⟨k, hk⟩ := exists_kind hrules hhit
  obtain rfl := kind_of_number hk
  rw [n.hit?_rule] at hk
  obtain ⟨stop', hstop, heq⟩ := Option.map_eq_some_iff.mp hk
  obtain rfl : stop' = stop := congrArg Hit.stop heq
  have hstands := n.stop?_eq_some.mp hstop
  by_cases hwhole : n = .whole
  · subst hwhole
    exact iff_of_true (standsAlone_of_whole hstands) (Or.inl rfl)
  · have hbefore := before_number_iff hwhole hp (apart_of_reaches hrules hadvances hreach) hstands
    rw [or_iff_right hwhole, ← and_assoc, ← not_or, ← hbefore, Bool.not_eq_true]
    exact Iff.rfl

theorem number_standsAlone_iff_underscore :
    ∃ g, (Offer.description description).compile (.string "ldscript") = .ok g ∧
      g.tokenize "_0x1F 12" =
        [⟨⟨.text, "_"⟩, 0, 1⟩, ⟨⟨.hexNumber, "0x1F"⟩, 1, 5⟩, ⟨⟨.text, " "⟩, 5, 6⟩,
          ⟨⟨.decNumber, "12"⟩, 6, 8⟩] ∧
      Buried (.ofString "_0x1F 12") ⟨⟨.hexNumber, "0x1F"⟩, 1, 5⟩ ∧
      StandsAlone (.ofString "_0x1F 12") ⟨⟨.decNumber, "12"⟩, 6, 8⟩ := by
  obtain ⟨g, hg, _⟩ := exists_grammar
  have htokens : g.tokenize "_0x1F 12" =
      [⟨⟨.text, "_"⟩, 0, 1⟩, ⟨⟨.hexNumber, "0x1F"⟩, 1, 5⟩, ⟨⟨.text, " "⟩, 5, 6⟩,
        ⟨⟨.decNumber, "12"⟩, 6, 8⟩] := by
    rw [tokenize_eq_bare hg]
    decide +kernel
  have hhex : (⟨⟨.hexNumber, "0x1F"⟩, 1, 5⟩ : Token) ∈ g.tokenize "_0x1F 12" := by simp [htokens]
  have hdec : (⟨⟨.decNumber, "12"⟩, 6, 8⟩ : Token) ∈ g.tokenize "_0x1F 12" := by simp [htokens]
  have hfirst := number_standsAlone_iff hg hhex (n := .hex) rfl
  have hlast := number_standsAlone_iff hg hdec (n := .whole) rfl
  refine ⟨g, hg, htokens, ?_, hlast.mpr (Or.inl rfl)⟩
  -- what stands before the number is a word character, so the number does not stand alone
  have hnot : ¬ StandsAlone (.ofString "_0x1F 12") ⟨⟨.hexNumber, "0x1F"⟩, 1, 5⟩ := by
    rintro ⟨hbefore, _⟩
    exact absurd hbefore (by decide +kernel)
  by_contra hburied
  exact hnot (hfirst.mpr (Or.inr ⟨by decide, hburied, by decide +kernel⟩))

/-- **A number within a word**: after an underscore, a number with a prefix is still found. -/
theorem number_found_within_word :
    ∃ g, (Offer.description description).compile (.string "ldscript") = .ok g ∧
      g.tokenize "_0x1F" = [⟨⟨.text, "_"⟩, 0, 1⟩, ⟨⟨.hexNumber, "0x1F"⟩, 1, 5⟩] ∧
      ¬ StandsAlone (.ofString "_0x1F") ⟨⟨.hexNumber, "0x1F"⟩, 1, 5⟩ := by
  obtain ⟨g, hg, _⟩ := exists_grammar
  refine ⟨g, hg, ?_, ?_⟩
  · rw [tokenize_eq_bare hg]
    decide +kernel
  · rintro ⟨hbefore, _⟩
    exact absurd hbefore (by decide +kernel)

end LinkerScript
end Lexlight
