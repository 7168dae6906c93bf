import Lexlight.Proofs.Grammar.Words
import Lexlight.Proofs.LinkerScript.Exclusive
import Lexlight.Proofs.LinkerScript.Sound
import Lexlight.Proofs.Scan.Append
import Lexlight.Proofs.Source.Excerpt

/-!
# Tokens of linker scripts by themselves

What a rule found somewhere in a script it finds again when there is nothing else: a rule that takes
some characters never needs the ones around them, only that those do not forbid it. So every token,
tokenized by itself, is one token of its category.

There is one exception. A number with a point has to begin at the edge of a word, and a sign is no
word character, so a sign is taken along only right after a word: in `x-1.5` it is part of the
number, where it is the minus between two operands, and in `-1.5` it is not. Such a number by itself
is a sign of plain text and the number without it (`tokenize_token_alone`).
-/

namespace Lexlight.LinkerScript

open Source Pattern

variable {src : Source} {pos stop i : Nat}

/-! ## Ends within an excerpt -/

theorem wholeEnd?_excerpt {e : Nat} (h : wholeEnd? src (pos + i) = some e) (he : e ≤ stop) :
    wholeEnd? (src.excerpt pos stop) i = some (e - pos) := by
  unfold wholeEnd? at h
  split at h
  · next hzero =>
      obtain rfl := Option.some.inj h
      rw [wholeEnd?, getElem?_excerpt he, if_pos hzero]
      congr 1
      omega
  · next hzero =>
      split at h
      · next hlead =>
          obtain rfl := Option.some.inj h
          have hle := src.le_runEnd Unicode.isDigit (pos + i + 1)
          rw [wholeEnd?, getElem?_excerpt (by omega), if_neg hzero, if_pos hlead,
            runEnd_excerpt (by omega), ← Nat.add_assoc]
      · cases h

theorem le_of_wholeStop? (h : wholeStop? src pos = some stop) : pos ≤ stop := by
  have hunit := src.le_skip isUnit pos
  unfold wholeStop? at h
  split at h
  · cases h
  · exact Option.some.inj h ▸ hunit

theorem wholeStop?_excerpt (h : wholeStop? src (pos + i) = some stop) :
    wholeStop? (src.excerpt pos stop) i = some (stop - pos) := by
  have hle := le_of_wholeStop? h
  unfold wholeStop? at h
  split at h
  · cases h
  · have hunit := Option.some.inj h
    have hlast : (src.excerpt pos stop).skip isUnit i = stop - pos := by
      rw [skip_excerpt (Nat.le_of_eq hunit), hunit]
    -- nothing comes after an excerpt that could forbid to end there
    have hend : (src.excerpt pos stop)[stop - pos]? = none := getElem?_excerpt_end (by omega)
    have hfree : ¬ blocked (src.excerpt pos stop) (stop - pos) = true := by
      simp [blocked, hend]
    rw [wholeStop?, hlast, if_neg hfree]

theorem pointEnd?_eq_some :
    pointEnd? src pos = some stop ↔
      (src[pos]?.any Unicode.isDigit = true ∧ src[src.runEnd Unicode.isDigit pos]? = some '.' ∧
        src[src.runEnd Unicode.isDigit pos + 1]?.any Unicode.isDigit = true) ∧
      src.runEnd Unicode.isDigit (src.runEnd Unicode.isDigit pos + 1) = stop := by
  unfold pointEnd?
  simp only [Option.ite_none_right_eq_some, Option.some.injEq]

theorem lt_of_pointEnd? (h : pointEnd? src pos = some stop) : pos < stop := by
  obtain ⟨⟨hbefore, _, hafter⟩, hstop⟩ := pointEnd?_eq_some.mp h
  have hfirst := lt_runEnd_iff.mpr hbefore
  have hlast := lt_runEnd_iff.mpr hafter
  omega

theorem pointEnd?_excerpt (h : pointEnd? src (pos + i) = some stop) :
    pointEnd? (src.excerpt pos stop) i = some (stop - pos) := by
  obtain ⟨⟨hbefore, hdot, hafter⟩, hstop⟩ := pointEnd?_eq_some.mp h
  have hfirst := lt_runEnd_iff.mpr hbefore
  have hlast := lt_runEnd_iff.mpr hafter
  obtain ⟨point, hpoint⟩ : ∃ j, src.runEnd Unicode.isDigit (pos + i) = pos + j :=
    ⟨_, (Nat.add_sub_cancel' (by omega)).symm⟩
  have hrow : (src.excerpt pos stop).runEnd Unicode.isDigit i = point := by
    rw [runEnd_excerpt (by omega), hpoint, Nat.add_sub_cancel_left]
  rw [hpoint] at hdot hafter hstop hlast
  refine pointEnd?_eq_some.mpr ⟨?_, ?_⟩
  · rw [hrow, getElem?_excerpt (by omega), getElem?_excerpt (by omega),
      getElem?_excerpt (by omega)]
    exact ⟨hbefore, hdot, hafter⟩
  · rw [hrow]
    exact runEnd_excerpt_stop hstop

theorem dottedEnd?_excerpt {first rest : Char → Bool}
    (h : dottedEnd? src first rest (pos + i) = some stop) :
    dottedEnd? (src.excerpt pos stop) first rest i = some (stop - pos) := by
  unfold dottedEnd? at h
  split at h
  · next hfirst =>
      have hdot := src.le_skip (· = '.') (pos + i)
      have hend := src.le_runEnd rest (src.skip (· = '.') (pos + i) + 1)
      have hstop := Option.some.inj h
      obtain ⟨name, hname⟩ : ∃ j, src.skip (· = '.') (pos + i) = pos + j :=
        ⟨_, (Nat.add_sub_cancel' (by omega)).symm⟩
      rw [hname] at hfirst hend hstop
      have hrest : src.runEnd rest (pos + (name + 1)) = stop := hstop
      rw [dottedEnd?, skip_excerpt (by omega), hname,
        Nat.add_sub_cancel_left, getElem?_excerpt (by omega), if_pos hfirst,
        runEnd_excerpt_stop hrest]
  · cases h

/-! ## What rules find alone -/

theorem lineComment_alone (h : (lineComment .exact "#").matchEnd? src pos = some stop) :
    (lineComment .exact "#").matchEnd? (src.excerpt pos stop) 0 = some (stop - pos) := by
  rw [matchEnd?_lineComment] at h
  split at h
  · next hat =>
      have hstop := Option.some.inj h
      have hle := src.le_runEnd inLine (pos + "#".toList.length)
      rw [matchEnd?_lineComment, if_pos (hasAt_excerpt (by omega) hat), Nat.zero_add,
        runEnd_excerpt_stop hstop]
  · cases h

theorem blockComment_alone (hp : pos ≤ src.size) (hend : stop ≤ src.size)
    (h : (blockComment .exact "/*" "*/").matchEnd? src pos = some stop) :
    (blockComment .exact "/*" "*/").matchEnd? (src.excerpt pos stop) 0 = some (stop - pos) := by
  obtain ⟨hat, hclose⟩ := (matchEnd?_blockComment (by decide) hp).mp h
  have hle := hclose.le (hat.le_size hp)
  refine (matchEnd?_blockComment (by decide) (Nat.zero_le _)).mpr ⟨hasAt_excerpt hle hat, ?_⟩
  rw [Nat.zero_add]
  exact closes_excerpt hend hclose

theorem quotedString_alone (h : (quotedString .exact '"').matchEnd? src pos = some stop) :
    (quotedString .exact '"').matchEnd? (src.excerpt pos stop) 0 = some (stop - pos) := by
  obtain ⟨hquote, inside, hinside, hstop⟩ := matchEnd?_quotedString.mp h
  have hle := hinside.le
  have hskip := src.le_skip (· = '"') inside
  obtain ⟨j, rfl⟩ : ∃ j, inside = pos + j := ⟨inside - pos, by omega⟩
  have hquote' : (src.excerpt pos stop)[0]? = some '"' := by
    rw [getElem?_excerpt (by omega)]
    exact hquote
  have hinside' := quoted_excerpt hinside (hstop ▸ hskip) (0 + 1) rfl
  rw [matchEnd?_of_quoted hquote' hinside', Nat.add_sub_cancel_left,
    skip_excerpt (by omega), ← hstop]

theorem prefixedNumber_alone {mark : Char} {digits : CharTest}
    (h : (prefixedNumber mark digits).matchEnd? src pos = some stop) :
    (prefixedNumber mark digits).matchEnd? (src.excerpt pos stop) 0 = some (stop - pos) := by
  rw [matchEnd?_prefixedNumber] at h
  split at h
  · next hnumber =>
      obtain ⟨hat, hfirst⟩ := hnumber
      have hstop : src.runEnd digits.accepts (pos + (0 + 2)) = stop := Option.some.inj h
      have hlt : pos + 2 < stop := hstop ▸ lt_runEnd_iff.mpr hfirst
      have hfirst' : (src.excerpt pos stop)[0 + 2]?.any digits.accepts = true := by
        rw [getElem?_excerpt (by omega)]
        exact hfirst
      rw [matchEnd?_prefixedNumber, if_pos ⟨hasAt_excerpt (by simp; omega) hat, hfirst'⟩,
        runEnd_excerpt_stop hstop]
  · cases h

theorem wholeNumber_alone (h : wholeNumber.matchEnd? src pos = some stop) :
    wholeNumber.matchEnd? (src.excerpt pos stop) 0 = some (stop - pos) := by
  rw [matchEnd?_wholeNumber] at h
  split at h
  · cases h
  · obtain ⟨digits, hdigits, hstop⟩ := Option.bind_eq_some_iff.mp h
    obtain ⟨hle, _⟩ := wholeDigits_of_wholeEnd? hdigits
    have hsign := src.le_skip (· = '-') pos
    have hend := le_of_wholeStop? hstop
    have hskip : (src.excerpt pos stop).skip (· = '-') 0 = src.skip (· = '-') pos - pos :=
      skip_excerpt (Nat.le_trans hle hend)
    have hwhole : wholeEnd? (src.excerpt pos stop) (src.skip (· = '-') pos - pos) =
        some (digits - pos) := by
      refine wholeEnd?_excerpt ?_ hend
      rw [Nat.add_sub_cancel' hsign]
      exact hdigits
    rw [matchEnd?_wholeNumber, if_neg (by simp [before]), hskip, hwhole, Option.bind_some]
    refine wholeStop?_excerpt ?_
    rw [Nat.add_sub_cancel' (Nat.le_trans hsign hle)]
    exact hstop

theorem quotedName_alone (h : quotedName.matchEnd? src pos = some stop) :
    quotedName.matchEnd? (src.excerpt pos stop) 0 = some (stop - pos) := by
  rw [matchEnd?_quotedName] at h
  split at h
  · next hquote =>
      obtain ⟨hlt, _⟩ := dotted_of_dottedEnd? h
      have hquote' : (src.excerpt pos stop)[0]? = some '\'' := by
        rw [getElem?_excerpt (by omega)]
        exact hquote
      rw [matchEnd?_quotedName, if_pos hquote']
      exact dottedEnd?_excerpt h
  · cases h

/-- A number with a point begins with a digit, or right after a word. -/
theorem pointNumber_sign (hp : pos < src.size) (h : pointNumber.matchEnd? src pos = some stop) :
    pointEnd? src (src.skip (· = '-') pos) = some stop ∧
      (src[pos]? = some '-' → src.before Unicode.isWord pos = true) := by
  rw [matchEnd?_pointNumber, holds_wordEdge hp] at h
  split at h
  · next hedge =>
      refine ⟨h, fun hsign => ?_⟩
      rw [hsign, Option.any_some, show Unicode.isWord '-' = false by decide] at hedge
      simpa using hedge
  · cases h

/-- Where digits begin after no word, a number with a point is found wherever there is one. -/
theorem pointNumber_of_digit (hbefore : src.before Unicode.isWord pos = false)
    (h : pointEnd? src pos = some stop) : pointNumber.matchEnd? src pos = some stop := by
  obtain ⟨⟨hdigit, _⟩, _⟩ := pointEnd?_eq_some.mp h
  have hword := any_mono (fun _ => Unicode.isWord_of_isDigit) hdigit
  obtain ⟨c, hc, hd⟩ := (Option.any_eq_true _ _).mp hdigit
  have hskip : src.skip (· = '-') pos = pos := by
    refine skip_eq_self fun hsign => ?_
    rw [hc] at hsign
    obtain rfl := Option.some.inj hsign
    exact absurd hd (by decide)
  rw [matchEnd?_pointNumber, holds_wordEdge (lt_size hc), hbefore, hword, hskip]
  exact h

/-- The entry that is no lexeme, by itself. -/
theorem discard_alone (h : src.slice pos stop = discard) (hend : stop ≤ src.size) :
    (boundedEntries .exact [discard]).matchEnd? (src.excerpt pos stop) 0 = some (stop - pos) := by
  have hlength : (src.excerpt pos stop).size = discard.toList.length := by
    rw [← ofString_slice, h, size_ofString]
  have hat : (src.excerpt pos stop).HasAt 0 discard.toList := by
    rw [← ofString_slice, h, hasAt_iff_startsWith]
    exact List.prefix_refl _
  have hnext : ¬ (src.excerpt pos stop)[0 + discard.toList.length]?.any Unicode.isWord = true := by
    rw [Array.getElem?_eq_none (by omega), Option.any_none]
    exact Bool.false_ne_true
  rw [matchEnd?_boundedEntry, if_neg (by simp [before]), if_pos ⟨hat, hnext⟩, Nat.zero_add,
    ← hlength, size_excerpt hend]

/-- A listed word is found alone. -/
theorem lexeme_alone {c : Category} (hlt : pos < stop) (hend : stop ≤ src.size)
    (h : Kind.lexeme.rule.hit? src pos = some ⟨some c, stop⟩) :
    Kind.lexeme.rule.hit? (src.excerpt pos stop) 0 = some ⟨some c, stop - pos⟩ := by
  obtain ⟨_, _, hcategory, hfound⟩ := hit?_lexeme_cases h
  have hsame : (src.excerpt pos stop).slice 0 (stop - pos) = src.slice pos stop :=
    slice_excerpt (Nat.le_of_lt hlt)
  rw [← hsame] at hcategory
  rcases hfound with hdiscard | hname
  · exact Rule.hit?_lexeme.mpr ⟨rfl, hcategory, Or.inl (discard_alone hdiscard hend)⟩
  · rw [hit?_of_name rfl (dottedEnd?_excerpt hname), ← hcategory]

/-- **A rule finds alone what it found**, except for a number with a point that took a sign
along. -/
theorem hit?_alone {k : Kind} {c : Category} (hlt : pos < stop) (hend : stop ≤ src.size)
    (h : k.rule.hit? src pos = some ⟨some c, stop⟩)
    (hunsigned : k = .floatNumber → src[pos]? ≠ some '-') :
    k.rule.hit? (src.excerpt pos stop) 0 = some ⟨some c, stop - pos⟩ := by
  have hne : stop - pos ≠ 0 := by omega
  have hp : pos < src.size := by omega
  cases k with
  | lineComment =>
      obtain ⟨hm, _, hc⟩ := Rule.hit?_token.mp h
      exact Rule.hit?_token.mpr ⟨lineComment_alone hm, hne, hc⟩
  | blockComment =>
      obtain ⟨hm, _, hc⟩ := Rule.hit?_token.mp h
      exact Rule.hit?_token.mpr ⟨blockComment_alone (Nat.le_of_lt hp) hend hm, hne, hc⟩
  | string =>
      obtain ⟨hm, _, hc⟩ := Rule.hit?_token.mp h
      exact Rule.hit?_token.mpr ⟨quotedString_alone hm, hne, hc⟩
  | hexNumber =>
      obtain ⟨hm, _, hc⟩ := Rule.hit?_token.mp h
      exact Rule.hit?_token.mpr ⟨prefixedNumber_alone hm, hne, hc⟩
  | binNumber =>
      obtain ⟨hm, _, hc⟩ := Rule.hit?_token.mp h
      exact Rule.hit?_token.mpr ⟨prefixedNumber_alone hm, hne, hc⟩
  | decNumber =>
      obtain ⟨hm, _, hc⟩ := Rule.hit?_token.mp h
      exact Rule.hit?_token.mpr ⟨wholeNumber_alone hm, hne, hc⟩
  | floatNumber =>
      obtain ⟨hm, _, hc⟩ := Rule.hit?_token.mp h
      obtain ⟨hpoint, _⟩ := pointNumber_sign hp hm
      rw [skip_eq_self (hunsigned rfl)] at hpoint
      exact Rule.hit?_token.mpr ⟨pointNumber_of_digit rfl (pointEnd?_excerpt hpoint), hne, hc⟩
  | symbol =>
      obtain ⟨hm, _, hc⟩ := Rule.hit?_token.mp h
      exact Rule.hit?_token.mpr ⟨quotedName_alone hm, hne, hc⟩
  | lexeme => exact lexeme_alone hlt hend h

/-! ## Tokens alone -/

section Grammar

variable {g : Grammar} (hrules : g.rules = Kind.all.map Kind.rule)
include hrules

/-- A sign before a number with a point is no part of it where no word is before the sign. -/
theorem hit?_sign (hsign : src[pos]? = some '-') (hbefore : src.before Unicode.isWord pos = false)
    (h : pointEnd? src (pos + 1) = some stop) : g.hit? src pos = none := by
  have hp := lt_size hsign
  have hskip : src.skip (· = '-') pos = pos + 1 := skip_eq_succ hsign
  have hkind : kindAt src pos = .floatNumber := by
    rw [kindAt_of_number hsign (Or.inl rfl)]
    exact numberAt_of_point (hskip ▸ h)
  cases hhit : g.hit? src pos with
  | none => rfl
  | some hit =>
      obtain ⟨k, hk⟩ := exists_kind hrules hhit
      obtain rfl : k = .floatNumber := (kind_of_hit (Nat.le_of_lt hp) hk).symm.trans hkind
      obtain ⟨hm, _⟩ := Rule.hit?_token.mp hk
      have hword := (pointNumber_sign hp hm).2 hsign
      rw [hbefore] at hword
      cases hword

variable (hg : g.Advances)
include hg

theorem tokenize_found_alone {k : Kind} {c : Category} (hp : pos < src.size)
    (h : k.rule.hit? src pos = some ⟨some c, stop⟩)
    (hunsigned : k = .floatNumber → src[pos]? ≠ some '-') :
    g.tokenize (src.slice pos stop) =
      [⟨⟨c, src.slice pos stop⟩, 0, (src.slice pos stop).length⟩] := by
  have hhit := hit?_of_kind hrules (Nat.le_of_lt hp) h
  obtain ⟨hlt, hend⟩ := hg src pos _ hp hhit
  dsimp only at hlt hend
  have halone := hit?_alone hlt hend h hunsigned
  have hne : src.slice pos stop ≠ "" := by
    intro hempty
    have hlength := length_slice pos hend
    rw [hempty, String.length_empty] at hlength
    omega
  rw [Grammar.tokenize_eq_singleton_iff hg hne (ne_text_of_hit hrules hhit), ofString_slice,
    length_slice pos hend]
  exact hit?_of_kind hrules (Nat.zero_le _) halone

/-- A number with a point that took a sign along stands right after a word, and alone it is the sign
and the number without it. -/
theorem tokenize_signed_alone (hp : pos < src.size) (hsign : src[pos]? = some '-')
    (h : Kind.floatNumber.rule.hit? src pos = some ⟨some .floatNumber, stop⟩) :
    src.before Unicode.isWord pos = true ∧ src.slice pos stop = "-" ++ src.slice (pos + 1) stop ∧
      g.tokenize (src.slice pos stop) =
        [⟨⟨.text, "-"⟩, 0, 1⟩,
          ⟨⟨.floatNumber, src.slice (pos + 1) stop⟩, 1, (src.slice pos stop).length⟩] := by
  obtain ⟨_, hend⟩ := hg src pos _ hp (hit?_of_kind hrules (Nat.le_of_lt hp) h)
  dsimp only at hend
  have hm : pointNumber.matchEnd? src pos = some stop := (Rule.hit?_token.mp h).1
  obtain ⟨hpoint, hbefore⟩ := pointNumber_sign hp hm
  rw [skip_eq_succ hsign] at hpoint
  have hlt := lt_of_pointEnd? hpoint
  have hsize : (src.excerpt pos stop).size = stop - pos := size_excerpt hend
  have hsign' : (src.excerpt pos stop)[0]? = some '-' := by
    rw [getElem?_excerpt (by omega)]
    exact hsign
  have hpoint' := pointEnd?_excerpt hpoint
  -- alone, no word is before the sign, and the sign is before the digits
  have hnone : g.hit? (src.excerpt pos stop) 0 = none := hit?_sign hrules hsign' rfl hpoint'
  have hafter : (src.excerpt pos stop).before Unicode.isWord 1 = false := by
    simp only [before, Nat.sub_self, hsign']
    decide
  have hfound : g.hit? (src.excerpt pos stop) 1 = some ⟨some .floatNumber, stop - pos⟩ := by
    refine hit?_of_kind hrules (by omega) (k := .floatNumber) (Rule.hit?_token.mpr ⟨?_, ?_, rfl⟩)
    · exact pointNumber_of_digit hafter hpoint'
    · dsimp only
      omega
  have hscan : Grammar.Scans g (src.excerpt pos stop) 0 0 _ :=
    .of_none (by omega) hnone (.of_found (by omega) hfound (.done (by omega)))
  have htokens := (Grammar.scan_scans hg _).unique hscan
  have hdash : (src.excerpt pos stop).slice 0 1 = "-" := by
    rw [slice_cons hsign' Nat.zero_lt_one, ← String.toList_inj, String.toList_append, toList_slice,
      span_self]
    rfl
  have hnumber : (src.excerpt pos stop).slice 1 (stop - pos) = src.slice (pos + 1) stop :=
    slice_excerpt (by omega)
  refine ⟨hbefore hsign, slice_cons hsign (by omega), ?_⟩
  rw [Grammar.tokenize, ofString_slice, htokens, length_slice pos hend, hsize, plainTokens,
    if_pos Nat.zero_lt_one, plainTokens, if_neg (Nat.lt_irrefl _), token, token, hdash, hnumber]
  rfl

end Grammar

/-- Whether a token is a number with a point that took a sign along. -/
def SignedPoint (t : Token) : Prop := t.category = .floatNumber ∧ t.text.toList.head? = some '-'

instance (t : Token) : Decidable (SignedPoint t) := inferInstanceAs (Decidable (_ ∧ _))

/-- A token is a number with a point just when the rule of these found it. -/
theorem kind_of_floatNumber {k : Kind}
    (h : k.rule.hit? src pos = some ⟨some .floatNumber, stop⟩) : k = .floatNumber := by
  cases k with
  | floatNumber => rfl
  | lexeme =>
      obtain ⟨_, _, hcategory, _⟩ := hit?_lexeme_cases h
      rcases mem_of_classify hcategory.symm with ⟨hc, _⟩ | ⟨hc, _⟩ <;> cases hc
  | _ =>
      obtain ⟨_, _, hcategory⟩ := Rule.hit?_token.mp h
      cases hcategory

/--
**Tokens stand for themselves.**

Whatever stood around it, the text of a token that is not plain text is one token of the same
category when it is tokenized by itself, unless it is a number with a point that took a sign along.
Such a number stands right after a word, and by itself it is a sign of plain text and the number.
-/
theorem tokenize_token_alone [CharacterNames] {g : Grammar}
    (hg : (Offer.description description).compile (.string "ldscript") = .ok g) {text : String}
    {t : Token} (ht : t ∈ g.tokenize text) (hne : t.category ≠ .text) :
    (g.tokenize t.text = [⟨t.toPiece, 0, t.text.length⟩] ↔ ¬ SignedPoint t) ∧
      (SignedPoint t → (Source.ofString text).before Unicode.isWord t.start = true ∧
        ∃ number, t.text = "-" ++ number ∧
          g.tokenize t.text =
            [⟨⟨.text, "-"⟩, 0, 1⟩, ⟨⟨.floatNumber, number⟩, 1, t.text.length⟩]) := by
  have hrules := rules_of_compile hg
  have hadvances := Offer.compile_advances hg
  obtain ⟨pos, stop, c, hp, hhit, rfl⟩ := Grammar.exists_hit_of_mem hadvances ht hne
  obtain ⟨k, hk⟩ := exists_kind hrules hhit
  obtain ⟨hlt, _⟩ := hadvances _ pos _ hp hhit
  obtain ⟨d, hd⟩ : ∃ d, (ofString text)[pos]? = some d := ⟨_, Array.getElem?_eq_getElem hp⟩
  have hfirst : ((ofString text).token c pos stop).text.toList.head? = (ofString text)[pos]? := by
    rw [toList_token, span_cons hd hlt, List.head?_cons, hd]
  by_cases hpoint : SignedPoint ((ofString text).token c pos stop)
  · obtain ⟨hc, hhead⟩ := hpoint
    obtain rfl : c = .floatNumber := hc
    obtain rfl := kind_of_floatNumber hk
    obtain ⟨hbefore, htext, htokens⟩ :=
      tokenize_signed_alone hrules hadvances hp (hfirst.symm.trans hhead) hk
    refine ⟨iff_of_false (fun hsingle => ?_) fun h => h ⟨rfl, hhead⟩, fun _ => ?_⟩
    · have hlength := congrArg List.length (hsingle.symm.trans htokens)
      cases hlength
    · exact ⟨hbefore, _, htext, htokens⟩
  · have hunsigned : k = .floatNumber → (ofString text)[pos]? ≠ some '-' := by
      intro hkind hsign
      subst hkind
      obtain ⟨_, _, hc⟩ := Rule.hit?_token.mp hk
      exact hpoint ⟨Option.some.inj hc, hfirst.trans hsign⟩
    have hsingle := tokenize_found_alone hrules hadvances hp hk hunsigned
    exact ⟨iff_of_true hsingle hpoint, fun h => absurd h hpoint⟩

theorem tokenize_token_alone_difference :
    ∃ g, (Offer.description description).compile (.string "ldscript") = .ok g ∧
      g.tokenize "2-1.5" = [⟨⟨.decNumber, "2"⟩, 0, 1⟩, ⟨⟨.floatNumber, "-1.5"⟩, 1, 5⟩] ∧
      g.tokenize "2" = [⟨⟨.decNumber, "2"⟩, 0, 1⟩] ∧
      g.tokenize "-1.5" ≠ [⟨⟨.floatNumber, "-1.5"⟩, 0, 4⟩] := by
  obtain ⟨g, hg, _⟩ := exists_grammar
  have htokens : g.tokenize "2-1.5" =
      [⟨⟨.decNumber, "2"⟩, 0, 1⟩, ⟨⟨.floatNumber, "-1.5"⟩, 1, 5⟩] := by
    rw [tokenize_eq_bare hg]
    decide +kernel
  have hoperand : (⟨⟨.decNumber, "2"⟩, 0, 1⟩ : Token) ∈ g.tokenize "2-1.5" := by simp [htokens]
  have hnumber : (⟨⟨.floatNumber, "-1.5"⟩, 1, 5⟩ : Token) ∈ g.tokenize "2-1.5" := by simp [htokens]
  obtain ⟨hunsigned, _⟩ := tokenize_token_alone hg hoperand (by decide)
  obtain ⟨hsigned, _⟩ := tokenize_token_alone hg hnumber (by decide)
  exact ⟨g, hg, htokens, hunsigned.mpr (by decide), fun h => hsigned.mp h (by decide)⟩

/-- **A sign that is not found again**: after a word it belongs to the number, alone it does not. -/
theorem sign_taken_after_word :
    ∃ g, (Offer.description description).compile (.string "ldscript") = .ok g ∧
      g.tokenize "2-1.5" = [⟨⟨.decNumber, "2"⟩, 0, 1⟩, ⟨⟨.floatNumber, "-1.5"⟩, 1, 5⟩] ∧
      g.tokenize "-1.5" = [⟨⟨.text, "-"⟩, 0, 1⟩, ⟨⟨.floatNumber, "1.5"⟩, 1, 4⟩] := by
  obtain ⟨g, hg, _⟩ := exists_grammar
  refine ⟨g, hg, ?_, ?_⟩
  · rw [tokenize_eq_bare hg]
    decide +kernel
  · rw [tokenize_eq_bare hg]
    decide +kernel

end Lexlight.LinkerScript
