import Lexlight.Proofs.LinkerScript.Exclusive
import Lexlight.Proofs.LinkerScript.Sound
import Lexlight.Proofs.Scan.Append
import Lexlight.Proofs.Source.WholeLines

/-!
# Linker scripts line after line

No rule of the language sees past a line feed, apart from comments and strings that are still open
there: numbers, symbols and words end before it, and on its other side it stands for the start of
the source. So what a rule finds in some lines of a source is what it finds when they stand alone,
as long as it ends within them (`hit?_eq_of_wholeLines`). With it a script is the scan of its first
lines and the scan of the rest (`tokenize_append_lines`).
-/

namespace Lexlight.LinkerScript

open Source Pattern

variable {part whole : Source} {d n i : Nat}

/-! ## Ends that move -/

/-- Whether an end found in one source is found so many places further on in another, and lies
before a given place. -/
def Moved (d n : Nat) (x y : Option Nat) : Prop := y = x.map (d + ·) ∧ ∀ e, x = some e → e < n

namespace Moved

theorem none : Moved d n none none := ⟨rfl, fun _ h => by cases h⟩

theorem some {e e' : Nat} (h : e' = d + e ∧ e < n) : Moved d n (some e) (some e') := by
  obtain ⟨rfl, hlt⟩ := h
  exact ⟨rfl, fun _ he => Option.some.inj he ▸ hlt⟩

theorem ite {p p' : Prop} [Decidable p] [Decidable p'] {x y : Option Nat} (hp : p' ↔ p)
    (h : p → Moved d n x y) :
    Moved d n (if p then x else Option.none) (if p' then y else Option.none) := by
  by_cases hpart : p
  · rw [if_pos hpart, if_pos (hp.mpr hpart)]
    exact h hpart
  · rw [if_neg hpart, if_neg (mt hp.mp hpart)]
    exact none

theorem bind {x y : Option Nat} {f f' : Nat → Option Nat} (hx : Moved d n x y)
    (hf : ∀ e, e < n → Moved d n (f e) (f' (d + e))) : Moved d n (x.bind f) (y.bind f') := by
  obtain ⟨rfl, hlt⟩ := hx
  cases x with
  | none => exact none
  | some e => exact hf e (hlt e rfl)

end Moved

theorem hit?_token_of_moved {c : Category} {p : Pattern} {relevance : Int}
    (hmoved : Moved d n (p.matchEnd? part i) (p.matchEnd? whole (d + i))) :
    (Rule.token c p relevance).hit? whole (d + i) =
      ((Rule.token c p relevance).hit? part i).map (Hit.shift d) := by
  unfold Rule.hit? Rule.hitFrom
  dsimp only
  rw [hmoved.1]
  cases p.matchEnd? part i with
  | none => rfl
  | some e =>
      simp only [Option.map_some, Int.natCast_inj, Nat.add_left_cancel_iff]
      split <;> rfl

section Lines

variable (h : WholeLines part whole d n)
include h

theorem wholeEnd?_moved (hi : i < n) : Moved d n (wholeEnd? part i) (wholeEnd? whole (d + i)) := by
  unfold wholeEnd?
  rw [h.same i hi]
  split
  · next hzero => exact .some ⟨Nat.add_assoc .., h.lt_of_char hi hzero (by decide)⟩
  · refine .ite (Iff.rfl) fun hlead => .some ?_
    rw [Nat.add_assoc]
    exact h.runEnd_eq _ (by decide) (h.lt_of_any hi (by decide) hlead)

theorem blocked_eq (hi : i < n) : blocked whole (d + i) = blocked part i := by
  unfold blocked
  rw [h.same i hi]
  by_cases hdot : part[i]? = some '.'
  · rw [Nat.add_assoc, h.same (i + 1) (h.lt_of_char hi hdot (by decide))]
  · simp only [hdot, decide_false, Bool.false_and]

theorem wholeStop?_moved (hi : i < n) :
    Moved d n (wholeStop? part i) (wholeStop? whole (d + i)) := by
  obtain ⟨hskip, hlt⟩ := h.skip_eq isUnit (by decide) hi
  unfold wholeStop?
  rw [hskip, blocked_eq h hlt]
  split
  · exact .none
  · exact .some ⟨rfl, hlt⟩

theorem pointEnd?_moved (hi : i < n) : Moved d n (pointEnd? part i) (pointEnd? whole (d + i)) := by
  obtain ⟨hpoint, hlt⟩ := h.runEnd_eq Unicode.isDigit (by decide) hi
  unfold pointEnd?
  dsimp only
  rw [hpoint, h.same i hi, h.same _ hlt, Nat.add_assoc]
  -- the place after the point is known to lie within the lines only if there is a point
  by_cases hdot : part[part.runEnd Unicode.isDigit i]? = some '.'
  · have hnext := h.lt_of_char hlt hdot (by decide)
    rw [h.same _ hnext]
    refine .ite Iff.rfl fun hall => .some ?_
    exact h.runEnd_eq _ (by decide) hnext
  · rw [if_neg fun hall => hdot hall.2.1, if_neg fun hall => hdot hall.2.1]
    exact .none

theorem dottedEnd?_moved {first rest : Char → Bool} (hfirst : first '\n' = false)
    (hrest : rest '\n' = false) (hi : i < n) :
    Moved d n (dottedEnd? part first rest i) (dottedEnd? whole first rest (d + i)) := by
  obtain ⟨hskip, hlt⟩ := h.skip_eq (· = '.') (by decide) hi
  unfold dottedEnd?
  rw [hskip, h.same _ hlt]
  refine .ite Iff.rfl fun hany => .some ?_
  rw [Nat.add_assoc]
  exact h.runEnd_eq rest hrest (h.lt_of_any hlt hfirst hany)

/-! ## What rules find -/

theorem lineComment_moved (hi : i < n) :
    Moved d n ((lineComment .exact "#").matchEnd? part i)
      ((lineComment .exact "#").matchEnd? whole (d + i)) := by
  have hmark : '\n' ∉ "#".toList := by decide
  rw [matchEnd?_lineComment, matchEnd?_lineComment]
  refine .ite (h.hasAt_iff hmark hi) fun hat => .some ?_
  rw [Nat.add_assoc]
  exact h.runEnd_eq inLine (by decide) (h.lt_of_hasAt hmark hi hat)

theorem prefixedNumber_moved {mark : Char} (hmark : mark ≠ '\n') (digits : CharTest)
    (hdigits : digits.accepts '\n' = false) (hi : i < n) :
    Moved d n ((prefixedNumber mark digits).matchEnd? part i)
      ((prefixedNumber mark digits).matchEnd? whole (d + i)) := by
  have hcs : '\n' ∉ ['0', mark] := by simp [Ne.symm hmark]
  rw [matchEnd?_prefixedNumber, matchEnd?_prefixedNumber]
  by_cases hat : part.HasAt i ['0', mark]
  · have hnext : i + 2 < n := h.lt_of_hasAt hcs hi hat
    rw [Nat.add_assoc, h.same _ hnext]
    refine .ite (and_congr_left fun _ => h.hasAt_iff hcs hi) fun _ => .some ?_
    exact h.runEnd_eq digits.accepts hdigits hnext
  · rw [if_neg fun hall => hat hall.1,
      if_neg fun hall => hat ((h.hasAt_iff hcs hi).mp hall.1)]
    exact .none

theorem wholeNumber_moved (hi : i < n) :
    Moved d n (wholeNumber.matchEnd? part i) (wholeNumber.matchEnd? whole (d + i)) := by
  obtain ⟨hskip, hlt⟩ := h.skip_eq (· = '-') (by decide) hi
  rw [matchEnd?_wholeNumber, matchEnd?_wholeNumber, h.before_eq isWordOrDot (by decide) hi, hskip]
  split
  · exact .none
  · exact (wholeEnd?_moved h hlt).bind fun e he => wholeStop?_moved h he

theorem wordEdge_eq (hi : i < part.size) :
    (Anchor.wordEdge false false).holds whole (d + i) =
      (Anchor.wordEdge false false).holds part i := by
  have hlt : i < n := Nat.lt_of_lt_of_le hi h.covers
  rw [holds_wordEdge hi, holds_wordEdge (h.lt_size hi), h.before_eq _ (by decide) hlt, h.any_eq hlt]

theorem pointNumber_moved (hi : i < part.size) :
    Moved d n (pointNumber.matchEnd? part i) (pointNumber.matchEnd? whole (d + i)) := by
  obtain ⟨hskip, hlt⟩ := h.skip_eq (· = '-') (by decide) (Nat.lt_of_lt_of_le hi h.covers)
  rw [matchEnd?_pointNumber, matchEnd?_pointNumber, wordEdge_eq h hi, hskip]
  exact .ite Iff.rfl fun _ => pointEnd?_moved h hlt

theorem quotedName_moved (hi : i < n) :
    Moved d n (quotedName.matchEnd? part i) (quotedName.matchEnd? whole (d + i)) := by
  rw [matchEnd?_quotedName, matchEnd?_quotedName, h.same i hi, Nat.add_assoc]
  exact .ite Iff.rfl fun hquote =>
    dottedEnd?_moved h (by decide) (by decide) (h.lt_of_char hi hquote (by decide))

theorem lexeme_moved (hi : i < n) :
    Moved d n (lexicon.pattern.matchEnd? part i) (lexicon.pattern.matchEnd? whole (d + i)) := by
  rw [matchEnd?_lexeme, matchEnd?_lexeme]
  exact dottedEnd?_moved h (by decide) (by decide) hi

theorem discard_moved (hi : i < n) :
    Moved d n ((boundedEntries .exact [discard]).matchEnd? part i)
      ((boundedEntries .exact [discard]).matchEnd? whole (d + i)) := by
  have hentry : '\n' ∉ discard.toList := by decide
  rw [matchEnd?_boundedEntry, matchEnd?_boundedEntry, h.before_eq _ (by decide) hi]
  split
  · exact .none
  · by_cases hat : part.HasAt i discard.toList
    · have hend := h.lt_of_hasAt hentry hi hat
      rw [Nat.add_assoc, h.same _ hend]
      exact .ite (and_congr_left fun _ => h.hasAt_iff hentry hi) fun _ => .some ⟨rfl, hend⟩
    · rw [if_neg fun hall => hat hall.1,
        if_neg fun hall => hat ((h.hasAt_iff hentry hi).mp hall.1)]
      exact .none

/-- A block comment that is closed within the lines moves with them. -/
theorem blockComment_moved (hi : i < part.size)
    (hstop : ∀ stop, (blockComment .exact "/*" "*/").matchEnd? part i = some stop → stop < n) :
    Moved d n ((blockComment .exact "/*" "*/").matchEnd? part i)
      ((blockComment .exact "/*" "*/").matchEnd? whole (d + i)) := by
  have hlt : i < n := Nat.lt_of_lt_of_le hi h.covers
  have hp : i ≤ part.size := Nat.le_of_lt hi
  have hp' : d + i ≤ whole.size := Nat.le_of_lt (h.lt_size hi)
  have hopen : '\n' ∉ "/*".toList := by decide
  by_cases hat : part.HasAt i "/*".toList
  · obtain ⟨stop, hclose⟩ := exists_closes part "*/".toList (i + "/*".toList.length)
    have hmatch := matchEnd?_of_closes (by decide) hp hat hclose
    have hclose' := h.closes_of_lt (by decide) (by decide) (hstop stop hmatch) hclose
    rw [← Nat.add_assoc] at hclose'
    rw [hmatch, matchEnd?_of_closes (by decide) hp' ((h.hasAt_iff hopen hlt).mpr hat) hclose']
    exact .some ⟨rfl, hstop stop hmatch⟩
  · have hnone : (blockComment .exact "/*" "*/").matchEnd? part i = none :=
      Option.eq_none_iff_forall_ne_some.mpr fun stop hmatch =>
        hat ((matchEnd?_blockComment (by decide) hp).mp hmatch).1
    have hnone' : (blockComment .exact "/*" "*/").matchEnd? whole (d + i) = none :=
      Option.eq_none_iff_forall_ne_some.mpr fun stop hmatch =>
        hat ((h.hasAt_iff hopen hlt).mp ((matchEnd?_blockComment (by decide) hp').mp hmatch).1)
    rw [hnone, hnone']
    exact .none

/-- A string that is closed within the lines moves with them. -/
theorem quotedString_moved (hi : i < n)
    (hstop : ∀ stop, (quotedString .exact '"').matchEnd? part i = some stop → stop < n) :
    Moved d n ((quotedString .exact '"').matchEnd? part i)
      ((quotedString .exact '"').matchEnd? whole (d + i)) := by
  by_cases hquote : part[i]? = some '"'
  · obtain ⟨inside, hinside⟩ := exists_quoted part '"' (i + 1)
    have hmatch := matchEnd?_of_quoted hquote hinside
    have hle := part.le_skip (· = '"') inside
    have hlt := hstop _ hmatch
    have hinlt : inside < n := by omega
    have hquote' : whole[d + i]? = some '"' := (h.same i hi).trans hquote
    have hinside' := h.quoted_of_lt hinlt hinside
    rw [← Nat.add_assoc] at hinside'
    rw [hmatch, matchEnd?_of_quoted hquote' hinside', (h.skip_eq _ (by decide) hinlt).1]
    exact .some ⟨rfl, hlt⟩
  · have hnone : (quotedString .exact '"').matchEnd? part i = none :=
      Option.eq_none_iff_forall_ne_some.mpr fun stop hmatch =>
        hquote (matchEnd?_quotedString.mp hmatch).1
    have hnone' : (quotedString .exact '"').matchEnd? whole (d + i) = none :=
      Option.eq_none_iff_forall_ne_some.mpr fun stop hmatch =>
        hquote ((h.same i hi).symm.trans (matchEnd?_quotedString.mp hmatch).1)
    rw [hnone, hnone']
    exact .none

/-! ## What the grammar finds -/

theorem hit?_lexeme_moved (hi : i < n) :
    (Rule.lexeme lexicon).hit? whole (d + i) =
      ((Rule.lexeme lexicon).hit? part i).map (Hit.shift d) := by
  obtain ⟨hdiscard, hlt⟩ := discard_moved h hi
  obtain ⟨hlexeme, hlt'⟩ := lexeme_moved h hi
  have hbefore := h.before_eq Unicode.isWord (by decide) hi
  unfold before at hbefore
  have hliteral : lexicon.literals? = some (boundedEntries .exact [discard]) := rfl
  unfold Rule.hit? Rule.hitFrom Lexicon.hitFrom
  dsimp only
  rw [hbefore, hliteral, Option.bind_some, Option.bind_some, hdiscard, hlexeme]
  split
  · rfl
  · cases hd : (boundedEntries .exact [discard]).matchEnd? part i with
    | some e =>
        simp only [Option.map_some, h.slice_eq (Nat.le_of_lt (hlt e hd))]
        rfl
    | none =>
        cases hl : lexicon.pattern.matchEnd? part i with
        | none => rfl
        | some e =>
            simp only [Option.map_some, Option.map_none, Int.natCast_inj, Nat.add_left_cancel_iff,
              h.slice_eq (Nat.le_of_lt (hlt' e hl))]
            split <;> rfl

/-- What a rule finds in the lines moves with them. -/
theorem hit?_rule_moved (k : Kind) (hi : i < part.size)
    (hstop : ∀ hit, k.rule.hit? part i = some hit → hit.stop < n) :
    k.rule.hit? whole (d + i) = (k.rule.hit? part i).map (Hit.shift d) := by
  have hlt : i < n := Nat.lt_of_lt_of_le hi h.covers
  -- an empty match is no find, but it ends within the lines as well
  have hmatch : ∀ {c : Category} {p : Pattern}, k.rule = .token c p 0 →
      ∀ stop, p.matchEnd? part i = some stop → stop < n := by
    intro c p hrule stop hm
    by_cases hempty : stop = i
    · exact hempty ▸ hlt
    · exact hstop ⟨some c, stop⟩ (hrule ▸ Rule.hit?_token.mpr ⟨hm, hempty, rfl⟩)
  cases k with
  | lineComment => exact hit?_token_of_moved (lineComment_moved h hlt)
  | blockComment => exact hit?_token_of_moved (blockComment_moved h hi (hmatch rfl))
  | string => exact hit?_token_of_moved (quotedString_moved h hlt (hmatch rfl))
  | hexNumber =>
      refine hit?_token_of_moved (prefixedNumber_moved h (by decide) hexDigit ?_ hlt)
      rw [accepts_hexDigit]
      decide
  | binNumber =>
      refine hit?_token_of_moved (prefixedNumber_moved h (by decide) binDigit ?_ hlt)
      rw [accepts_binDigit]
      decide
  | decNumber => exact hit?_token_of_moved (wholeNumber_moved h hlt)
  | floatNumber => exact hit?_token_of_moved (pointNumber_moved h hi)
  | symbol => exact hit?_token_of_moved (quotedName_moved h hlt)
  | lexeme => exact hit?_lexeme_moved h hlt

variable {g : Grammar} (hrules : g.rules = Kind.all.map Kind.rule)
include hrules

/-- **What is found in some lines of a source** is what is found when they stand alone, as long as
it ends within them. -/
theorem hit?_of_wholeLines (hi : i < part.size)
    (hstop : ∀ hit, g.hit? part i = some hit → hit.stop < n) :
    g.hit? whole (d + i) = (g.hit? part i).map (Hit.shift d) := by
  have hrule : ∀ k : Kind, k.rule.hit? whole (d + i) = (k.rule.hit? part i).map (Hit.shift d) := by
    intro k
    refine hit?_rule_moved h k hi fun hit hhit => hstop hit ?_
    exact hit?_of_kind hrules (Nat.le_of_lt hi) hhit
  unfold Grammar.hit?
  rw [hrules, List.findSome?_map, List.findSome?_map, List.map_findSome?]
  congr 1
  funext k
  exact hrule k

end Lines

/-! ## Two scripts -/

section Grammar

variable {g : Grammar} (hrules : g.rules = Kind.all.map Kind.rule)
include hrules

/-- Only a name that is not listed is found without a category, and it ends within its line. -/
theorem stop_lt_of_unlisted {a : Source} (ha : a.EndsLine) {pos stop : Nat}
    (hhit : g.hit? a pos = some ⟨none, stop⟩) : stop < a.size := by
  obtain ⟨k, hk⟩ := exists_kind hrules hhit
  cases k with
  | lexeme =>
      obtain ⟨_, _, hcategory, hdiscard | hname⟩ := hit?_lexeme_cases hk
      · rw [hdiscard, classify_discard] at hcategory
        cases hcategory
      · obtain ⟨c, hc, _⟩ := exists_first_of_dottedEnd? hname
        have hlexeme : lexicon.pattern.matchEnd? a pos = some stop := matchEnd?_lexeme.trans hname
        exact (lexeme_moved (.left ha #[]) (lt_size hc)).2 stop hlexeme
  | _ =>
      obtain ⟨_, _, hcategory⟩ := Rule.hit?_token.mp hk
      cases hcategory

/-- After a line feed nothing sees what stands before it, and before it nothing sees what comes
after. -/
theorem seamless (hg : g.Advances) {a : Source} (ha : a.EndsLine) (b : Source) :
    g.Seamless a b where
  right pos hpos := by
    refine hit?_of_wholeLines (.right ha b) hrules hpos fun hit hhit => ?_
    have hend := (hg b pos hit hpos hhit).2
    omega
  left pos hpos hstop := by
    have hsame := hit?_of_wholeLines (.left ha b) hrules hpos hstop
    have hshift : Hit.shift 0 = id := by
      funext hit
      simp only [Hit.shift, Nat.zero_add, id]
    rwa [Nat.zero_add, hshift, Option.map_id_apply] at hsame
  unlisted pos stop := stop_lt_of_unlisted hrules ha
  found src pos stop c := ne_text_of_hit hrules

theorem relevanceOf_text : g.relevanceOf .text = 0 := by
  unfold Grammar.relevanceOf
  rw [hrules]
  rfl

end Grammar

theorem endsLine_ofString {s : String} (h : s.toList.getLast? = some '\n') :
    (Source.ofString s).EndsLine := by
  refine ⟨s.toList.length - 1, ?_, ?_⟩
  · have hne : s.toList ≠ [] := by
      rintro hnil
      rw [hnil] at h
      cases h
    have hpos := List.length_pos_iff.mpr hne
    rw [size_ofString]
    omega
  · rw [List.getLast?_eq_getElem?] at h
    rw [ofString, List.getElem?_toArray, h]

/--
**Scripts can be tokenized in parts.**

Where a script ends with a line feed, and its tokens with plain text, so that no comment or string
is open, the tokens of it and any other script after it are those of the one and those of the other,
moved. Only plain text at the seam is one token. So the weights of the two add up.
-/
theorem tokenize_append_lines [CharacterNames] :
    ∃ g, (Offer.description description).compile (.string "ldscript") = .ok g ∧
      ∀ s t : String, s.toList.getLast? = some '\n' →
        (∃ u, (g.tokenize s).getLast? = some u ∧ u.category = .text) →
        g.tokenize (s ++ t) =
            joinTokens (g.tokenize s) ((g.tokenize t).map (Token.shift s.toList.length)) ∧
          g.relevance (s ++ t) = g.relevance s + g.relevance t := by
  obtain ⟨g, hg, hrules⟩ := exists_grammar
  have hadvances := Offer.compile_advances hg
  refine ⟨g, hg, fun s t hs hlast => ?_⟩
  have hseam := seamless hrules hadvances (endsLine_ofString hs) (.ofString t)
  have htokens := Grammar.tokenize_append hseam hadvances hlast
  refine ⟨htokens, ?_⟩
  rw [Grammar.relevance_eq_weight, htokens, Grammar.weight_joinTokens (relevanceOf_text hrules),
    Grammar.weight_shift]
  rfl

/-- A line of a number and a comment, and one more number after it: the blank before that belongs to
the line feed. -/
theorem tokenize_append_lines_numbers :
    ∃ g, (Offer.description description).compile (.string "ldscript") = .ok g ∧
      g.tokenize "0x1F; # base\n" =
        [⟨⟨.hexNumber, "0x1F"⟩, 0, 4⟩, ⟨⟨.text, "; "⟩, 4, 6⟩, ⟨⟨.comment, "# base"⟩, 6, 12⟩,
          ⟨⟨.text, "\n"⟩, 12, 13⟩] ∧
      g.tokenize ("0x1F; # base\n" ++ " -8") =
        [⟨⟨.hexNumber, "0x1F"⟩, 0, 4⟩, ⟨⟨.text, "; "⟩, 4, 6⟩, ⟨⟨.comment, "# base"⟩, 6, 12⟩,
          ⟨⟨.text, "\n "⟩, 12, 14⟩, ⟨⟨.decNumber, "-8"⟩, 14, 16⟩] := by
  obtain ⟨g, hg, happend⟩ := tokenize_append_lines
  have hline : g.tokenize "0x1F; # base\n" =
      [⟨⟨.hexNumber, "0x1F"⟩, 0, 4⟩, ⟨⟨.text, "; "⟩, 4, 6⟩, ⟨⟨.comment, "# base"⟩, 6, 12⟩,
        ⟨⟨.text, "\n"⟩, 12, 13⟩] := by
    rw [tokenize_eq_bare hg]
    decide +kernel
  have hnext : g.tokenize " -8" = [⟨⟨.text, " "⟩, 0, 1⟩, ⟨⟨.decNumber, "-8"⟩, 1, 3⟩] := by
    rw [tokenize_eq_bare hg]
    decide +kernel
  obtain ⟨htokens, _⟩ := happend "0x1F; # base\n" " -8" (by decide) ⟨_, by rw [hline]; rfl, rfl⟩
  refine ⟨g, hg, hline, ?_⟩
  rw [htokens, hline, hnext]
  decide

end Lexlight.LinkerScript
