import Lexlight.Proofs.LinkerScript.Name
import Lexlight.Proofs.LinkerScript.Number

/-!
# What the tokens of a linker script look like

`Sound` says of a token, category by category, what its text is and what stands around it. The texts
are described by their parts, without the patterns: the digits and the unit of a number, the units
of a string, the markers of a comment.

A token that a rule found has the text that its pattern takes, which is followed part by part. Plain
text is what is left over, so there it is the other way around: a comment or a string that began in
it would have been found. Every place that the scan leaves in plain text is therefore shown to begin
neither (`Clear`), one turn of the scan after the other.
-/

namespace Lexlight.LinkerScript

open Source

variable {src : Source} {pos stop : Nat} {c : Char}

/-! ## Texts by their parts -/

/-- An optional character. -/
def Maybe (ok : Char → Bool) (cs : List Char) : Prop := cs = [] ∨ ∃ c, cs = [c] ∧ ok c = true

/-- At least one character of a kind, and no other. -/
def Digits (ok : Char → Bool) (cs : List Char) : Prop := cs ≠ [] ∧ ∀ c ∈ cs, ok c = true

/-- Digits after a zero and a mark. -/
def PrefixedText (mark : Char) (ok : Char → Bool) (cs : List Char) : Prop :=
  ∃ digits, cs = '0' :: mark :: digits ∧ Digits ok digits

/-- The digits of a whole number: a zero, or digits that begin with none. -/
def WholeDigits (cs : List Char) : Prop :=
  cs = ['0'] ∨ ∃ d ds, cs = d :: ds ∧ isLeading d = true ∧ ∀ e ∈ ds, Unicode.isDigit e = true

/-- A whole number with an optional sign and an optional unit. -/
def WholeText (cs : List Char) : Prop :=
  ∃ sign digits unit, cs = sign ++ digits ++ unit ∧ Maybe (· = '-') sign ∧ WholeDigits digits ∧
    Maybe isUnit unit

/-- A number with a point and an optional sign. -/
def PointText (cs : List Char) : Prop :=
  ∃ sign before after, cs = sign ++ before ++ '.' :: after ∧ Maybe (· = '-') sign ∧
    Digits Unicode.isDigit before ∧ Digits Unicode.isDigit after

/-- A name after a single quote and an optional dot. -/
def SymbolText (cs : List Char) : Prop :=
  ∃ dot first rest, cs = '\'' :: (dot ++ first :: rest) ∧ Maybe (· = '.') dot ∧
    isNameStart first = true ∧ ∀ c ∈ rest, isNameRest c = true

/-- A unit of a string: a character that is neither a quote nor a backslash, or any character after
a backslash. -/
def StringUnit (cs : List Char) : Prop :=
  (∃ c, cs = [c] ∧ c ≠ '"' ∧ c ≠ '\\') ∨ ∃ c, cs = ['\\', c]

/-- A string: a quote, units, and a quote. Where the source ends there may be no second quote, and a
backslash with nothing after it. -/
def StringText (atEnd : Prop) (cs : List Char) : Prop :=
  ∃ (units : List (List Char)) (last : List Char), cs = '"' :: (units.flatten ++ last) ∧
    (∀ u ∈ units, StringUnit u) ∧ (last = ['"'] ∨ atEnd ∧ (last = [] ∨ last = ['\\']))

/-! ## What holds of a token -/

/-- Whether a token stands where no word goes on, neither before it nor after it. -/
def StandsAlone (src : Source) (t : Token) : Prop :=
  src.before Unicode.isWord t.start = false ∧ src[t.stop]?.any Unicode.isWord = false

/-- A comment up to the end of its line. -/
def IsLineComment (src : Source) (t : Token) : Prop :=
  (∃ rest, t.text.toList = '#' :: rest) ∧ (∀ c ∈ t.text.toList, c ≠ '\r' ∧ c ≠ '\n') ∧
    (src[t.stop]? = none ∨ src[t.stop]? = some '\r' ∨ src[t.stop]? = some '\n')

/-- A comment up to the first end marker past its start marker, or to the end of the source. -/
def IsBlockComment (src : Source) (t : Token) : Prop :=
  (∃ rest, t.text.toList = '/' :: '*' :: rest) ∧ src.Closes ['*', '/'] (t.start + 2) t.stop

/-- What holds of a token of a linker script. -/
def Sound (src : Source) (t : Token) : Prop :=
  match t.category with
  | .keyword => t.text ∈ keywords ∧ StandsAlone src t
  | .builtin => t.text ∈ builtins ∧ StandsAlone src t
  | .comment => IsLineComment src t ∨ IsBlockComment src t
  | .string => StringText (t.stop = src.size) t.text.toList
  | .hexNumber => PrefixedText 'x' Reading.isHex t.text.toList
  | .binNumber => PrefixedText 'b' isBin t.text.toList
  | .decNumber =>
    WholeText t.text.toList ∧ src.before isWordOrDot t.start = false ∧ blocked src t.stop = false
  | .floatNumber => PointText t.text.toList
  | .symbol => SymbolText t.text.toList ∧ src[t.stop]?.any isNameRest = false
  | .text => '#' ∉ t.text.toList ∧ '"' ∉ t.text.toList ∧ ¬ ['/', '*'] <:+: t.text.toList

/-! ## The parts that patterns take -/

theorem toList_token (category : Category) (start stop : Nat) :
    (src.token category start stop).text.toList = src.span start stop :=
  toList_slice src start stop

theorem maybe_skip (src : Source) (ok : Char → Bool) (pos : Nat) :
    Maybe ok (src.span pos (src.skip ok pos)) :=
  src.span_skip ok pos

/-- A row that has a first character is made of digits. -/
theorem digits_runEnd {ok : Char → Bool} (h : src[pos]?.any ok = true) :
    Digits ok (src.span pos (src.runEnd ok pos)) := by
  refine ⟨fun hnil => ?_, fun c hc => of_mem_span_runEnd hc⟩
  obtain ⟨c, hc, _⟩ := (Option.any_eq_true _ _).mp h
  rw [span_cons hc (lt_runEnd_iff.mpr h)] at hnil
  exact List.cons_ne_nil _ _ hnil

theorem prefixedText_of_matchEnd? {mark : Char} {digits : CharTest}
    (h : (prefixedNumber mark digits).matchEnd? src pos = some stop) :
    PrefixedText mark digits.accepts (src.span pos stop) := by
  rw [matchEnd?_prefixedNumber] at h
  split at h
  · rename_i hat
    obtain ⟨⟨h0, hm, _⟩, hfirst⟩ := hat
    obtain rfl := Option.some.inj h
    have hlt := lt_runEnd_iff.mpr hfirst
    refine ⟨_, ?_, digits_runEnd hfirst⟩
    rw [span_cons h0 (by omega), span_cons hm (by omega)]
  · exact absurd h (by simp)

theorem wholeDigits_of_wholeEnd? (h : wholeEnd? src pos = some stop) :
    pos ≤ stop ∧ WholeDigits (src.span pos stop) := by
  unfold wholeEnd? at h
  split at h
  · rename_i h0
    obtain rfl := Option.some.inj h
    refine ⟨Nat.le_succ pos, Or.inl ?_⟩
    rw [span_cons h0 (Nat.lt_succ_self pos), span_self]
  · split at h
    · rename_i hlead
      obtain rfl := Option.some.inj h
      obtain ⟨d, hd, hlead⟩ := (Option.any_eq_true _ _).mp hlead
      have hle := src.le_runEnd Unicode.isDigit (pos + 1)
      refine ⟨by omega, Or.inr ⟨d, _, span_cons hd (by omega), hlead, ?_⟩⟩
      exact fun e he => of_mem_span_runEnd he
    · exact absurd h (by simp)

theorem wholeText_of_matchEnd? (h : wholeNumber.matchEnd? src pos = some stop) :
    WholeText (src.span pos stop) ∧ src.before isWordOrDot pos = false ∧
      blocked src stop = false := by
  rw [matchEnd?_wholeNumber] at h
  split at h
  · exact absurd h (by simp)
  · rename_i hbefore
    obtain ⟨digits, hdigits, hstop⟩ := Option.bind_eq_some_iff.mp h
    obtain ⟨hle, hwhole⟩ := wholeDigits_of_wholeEnd? hdigits
    unfold wholeStop? at hstop
    split at hstop
    · exact absurd hstop (by simp)
    · rename_i hblocked
      obtain rfl := Option.some.inj hstop
      have hsign := src.le_skip (· = '-') pos
      have hunit := src.le_skip isUnit digits
      refine ⟨⟨_, _, _, ?_, maybe_skip src _ pos, hwhole, maybe_skip src _ digits⟩, ?_, ?_⟩
      · rw [span_append hsign hle, span_append (by omega) hunit]
      · simpa using hbefore
      · simpa using hblocked

theorem pointText_of_matchEnd? (h : pointNumber.matchEnd? src pos = some stop) :
    PointText (src.span pos stop) := by
  rw [matchEnd?_pointNumber] at h
  split at h
  · unfold pointEnd? at h
    dsimp only at h
    split at h
    · rename_i hpoint
      obtain ⟨hbefore, hdot, hafter⟩ := hpoint
      obtain rfl := Option.some.inj h
      have hsign := src.le_skip (· = '-') pos
      have hpoint := lt_runEnd_iff.mpr hbefore
      have hstop := lt_runEnd_iff.mpr hafter
      refine ⟨_, _, _, ?_, maybe_skip src _ pos, digits_runEnd hbefore, digits_runEnd hafter⟩
      rw [← span_cons hdot (by omega), span_append hsign (by omega),
        span_append (by omega) (by omega)]
    · exact absurd h (by simp)
  · exact absurd h (by simp)

/-- A name with a dot, by its parts. -/
theorem dotted_of_dottedEnd? {first rest : Char → Bool}
    (h : dottedEnd? src first rest pos = some stop) :
    pos < stop ∧ src[stop]?.any rest = false ∧
      ∃ dot c cs, src.span pos stop = dot ++ c :: cs ∧ Maybe (· = '.') dot ∧ first c = true ∧
        ∀ d ∈ cs, rest d = true := by
  unfold dottedEnd? at h
  split at h
  · rename_i hfirst
    obtain rfl := Option.some.inj h
    obtain ⟨c, hc, hfirst⟩ := (Option.any_eq_true _ _).mp hfirst
    have hdot := src.le_skip (· = '.') pos
    have hend := src.le_runEnd rest (src.skip (· = '.') pos + 1)
    have hspan := @span_append src _ _ _ hdot (Nat.le_of_succ_le hend)
    rw [span_cons hc (by omega)] at hspan
    exact ⟨by omega, src.not_any_runEnd rest _, _, c, _, hspan.symm, maybe_skip src _ pos, hfirst,
      fun d hd => of_mem_span_runEnd hd⟩
  · exact absurd h (by simp)

theorem symbolText_of_matchEnd? (h : quotedName.matchEnd? src pos = some stop) :
    SymbolText (src.span pos stop) ∧ src[stop]?.any isNameRest = false := by
  rw [matchEnd?_quotedName] at h
  split at h
  · rename_i hquote
    obtain ⟨hlt, hend, dot, c, cs, hspan, hdot, hfirst, hrest⟩ := dotted_of_dottedEnd? h
    refine ⟨⟨dot, c, cs, ?_, hdot, hfirst, hrest⟩, hend⟩
    rw [span_cons hquote (by omega), hspan]
  · exact absurd h (by simp)

/-! ## Comments and strings -/

theorem isLineComment_of_matchEnd?
    (h : (Pattern.lineComment .exact "#").matchEnd? src pos = some stop) :
    IsLineComment src (src.token .comment pos stop) := by
  rw [Pattern.matchEnd?_lineComment] at h
  split at h
  · rename_i hat
    have hmark : src[pos]? = some '#' := hat.1
    obtain rfl := Option.some.inj h
    have hle := src.le_runEnd inLine (pos + 1)
    have hspan : src.span pos (src.runEnd inLine (pos + 1)) =
        '#' :: src.span (pos + 1) (src.runEnd inLine (pos + 1)) := span_cons hmark (by omega)
    refine ⟨⟨_, (toList_token ..).trans hspan⟩, fun c hc => ?_, ?_⟩
    · have hc : c ∈ src.span pos (src.runEnd inLine (pos + 1)) := toList_token _ pos _ ▸ hc
      rw [hspan] at hc
      rcases List.mem_cons.mp hc with rfl | hc
      · decide
      · have hok := of_mem_span_runEnd hc
        simpa [inLine] using hok
    · have hend := src.not_any_runEnd inLine (pos + 1)
      show src[src.runEnd inLine (pos + 1)]? = none ∨
        src[src.runEnd inLine (pos + 1)]? = some '\r' ∨
        src[src.runEnd inLine (pos + 1)]? = some '\n'
      cases hc : src[src.runEnd inLine (pos + 1)]? with
      | none => exact Or.inl rfl
      | some c =>
          rw [hc] at hend
          right
          by_cases hr : c = '\r'
          · exact Or.inl (congrArg some hr)
          · have hn : c = '\n' := by simpa [inLine, hr] using hend
            exact Or.inr (congrArg some hn)
  · exact absurd h (by simp)

theorem isBlockComment_of_matchEnd? (hp : pos ≤ src.size)
    (h : (Pattern.blockComment .exact "/*" "*/").matchEnd? src pos = some stop) :
    IsBlockComment src (src.token .comment pos stop) := by
  obtain ⟨hat, hclose⟩ := (Pattern.matchEnd?_blockComment (by decide) hp).mp h
  have hat : src.HasAt pos ['/', '*'] := hat
  have hclose : src.Closes ['*', '/'] (pos + 2) stop := hclose
  have hle := hclose.le (hat.le_size hp)
  have hspan : src.span pos stop = '/' :: '*' :: src.span (pos + 2) stop := by
    rw [span_cons hat.1 (by omega), span_cons hat.2.1 (by omega)]
  exact ⟨⟨_, (toList_token ..).trans hspan⟩, hclose⟩

/-- The inside of a string is made of units, up to a quote or the end of the source. -/
theorem units_of_quoted (h : src.Quoted '"' pos stop) :
    ∃ (units : List (List Char)) (last : List Char), src.span pos stop = units.flatten ++ last ∧
      (∀ u ∈ units, StringUnit u) ∧
      (last = [] ∧ (src[stop]? = none ∨ src[stop]? = some '"') ∨
        last = ['\\'] ∧ src[stop]? = none) := by
  induction h with
  | @done pos hdone =>
      refine ⟨[], [], by rw [span_self]; rfl, fun u hu => absurd hu (by simp), Or.inl ⟨rfl, ?_⟩⟩
      exact hdone.imp_right And.left
  -- each step over the inside puts one unit in front
  | @plain pos stop c hc hquote hslash hrest ih =>
      obtain ⟨units, last, hspan, hunits, hlast⟩ := ih
      have hle := hrest.le
      refine ⟨[c] :: units, last, ?_, ?_, hlast⟩
      · rw [span_cons hc (by omega), hspan]
        rfl
      · rintro u hu
        rcases List.mem_cons.mp hu with rfl | hu
        · exact Or.inl ⟨c, rfl, hquote, hslash⟩
        · exact hunits u hu
  | @escaped pos stop c hc hd hrest ih =>
      obtain ⟨units, last, hspan, hunits, hlast⟩ := ih
      have hle := hrest.le
      refine ⟨['\\', c] :: units, last, ?_, ?_, hlast⟩
      · rw [span_cons hc (by omega), span_cons hd (by omega), hspan]
        rfl
      · rintro u hu
        rcases List.mem_cons.mp hu with rfl | hu
        · exact Or.inr ⟨c, rfl⟩
        · exact hunits u hu
  | @lone pos hc hd =>
      refine ⟨[], ['\\'], ?_, fun u hu => absurd hu (by simp), Or.inr ⟨rfl, hd⟩⟩
      rw [span_cons hc (Nat.lt_succ_self pos), span_self]
      rfl

theorem stringText_of_matchEnd? (hp : pos ≤ src.size)
    (h : (Pattern.quotedString .exact '"').matchEnd? src pos = some stop) :
    StringText (stop = src.size) (src.span pos stop) := by
  have hend := (Pattern.matchEnd?_bounds hp h).2
  obtain ⟨hquote, inside, hinside, rfl⟩ := Pattern.matchEnd?_quotedString.mp h
  obtain ⟨units, last, hspan, hunits, hlast⟩ := units_of_quoted hinside
  have hle := hinside.le
  have hskip := src.le_skip (· = '"') inside
  have htext : src.span pos (src.skip (· = '"') inside) =
      '"' :: (units.flatten ++ (last ++ src.span inside (src.skip (· = '"') inside))) := by
    rw [span_cons hquote (by omega), ← span_append hle hskip, hspan, List.append_assoc]
  refine ⟨units, _, htext, hunits, ?_⟩
  -- where no quote follows, the source has ended
  have hnone : src[inside]? = none →
      src.skip (· = '"') inside = inside ∧ src.skip (· = '"') inside = src.size := by
    intro hnone
    have hsame : src.skip (· = '"') inside = inside := skip_eq_self (by simp [hnone])
    have hge : src.size ≤ inside := Array.getElem?_eq_none_iff.mp hnone
    exact ⟨hsame, by omega⟩
  rcases hlast with ⟨rfl, hnext | hnext⟩ | ⟨rfl, hnext⟩
  · obtain ⟨hsame, hsize⟩ := hnone hnext
    exact Or.inr ⟨hsize, Or.inl (by rw [hsame, span_self]; rfl)⟩
  · refine Or.inl ?_
    rw [skip_eq_succ hnext, span_cons hnext (Nat.lt_succ_self inside), span_self]
    rfl
  · obtain ⟨hsame, hsize⟩ := hnone hnext
    exact Or.inr ⟨hsize, Or.inr (by rw [hsame, span_self]; rfl)⟩

/-! ## Words -/

theorem slice_discard (h : src.HasAt pos discard.toList) :
    src.slice pos (pos + discard.toList.length) = discard :=
  String.toList_inj.mp ((toList_slice ..).trans (span_of_hasAt h))

/-- Where the lexeme rule finds something, by what it is: the entry that is no lexeme, or a name. -/
theorem hit?_lexeme_cases {category? : Option Category}
    (h : Kind.lexeme.rule.hit? src pos = some ⟨category?, stop⟩) :
    src.before Unicode.isWord pos = false ∧ src[stop]?.any Unicode.isWord = false ∧
      category? = lexicon.classify (src.slice pos stop) ∧
      (src.slice pos stop = discard ∨
        dottedEnd? src Char.isAlpha Unicode.isWord pos = some stop) := by
  obtain ⟨hbefore, hcategory, hfound⟩ := Rule.hit?_lexeme.mp h
  rcases hfound with hm | ⟨_, hm, _⟩
  · have hm : (Pattern.boundedEntries .exact [discard]).matchEnd? src pos = some stop := hm
    rw [matchEnd?_boundedEntry] at hm
    split at hm
    · exact absurd hm (by simp)
    · split at hm
      · rename_i hat
        obtain rfl := Option.some.inj hm
        exact ⟨hbefore, by simpa using hat.2, hcategory, Or.inl (slice_discard hat.1)⟩
      · exact absurd hm (by simp)
  · rw [matchEnd?_lexeme] at hm
    obtain ⟨_, hend, _⟩ := dotted_of_dottedEnd? hm
    exact ⟨hbefore, hend, hcategory, Or.inr hm⟩

/-- A name is found wherever it does not stand within a word, as no name begins like the entry that
is no lexeme. -/
theorem hit?_of_name (hbefore : src.before Unicode.isWord pos = false)
    (h : dottedEnd? src Char.isAlpha Unicode.isWord pos = some stop) :
    Kind.lexeme.rule.hit? src pos = some ⟨lexicon.classify (src.slice pos stop), stop⟩ := by
  obtain ⟨c, hc, hfirst⟩ := exists_first_of_dottedEnd? h
  obtain ⟨hlt, _⟩ := dotted_of_dottedEnd? h
  have hnone : (Pattern.boundedEntries .exact [discard]).matchEnd? src pos = none := by
    rw [matchEnd?_boundedEntry, if_neg (by simp [hbefore]), if_neg]
    rintro ⟨hat, _⟩
    have hslash : src[pos]? = some '/' := hat.1
    rw [hc] at hslash
    obtain rfl := Option.some.inj hslash
    exact absurd hfirst (by decide)
  have hname : lexicon.pattern.matchEnd? src pos = some stop := matchEnd?_lexeme.trans h
  exact Rule.hit?_lexeme.mpr ⟨hbefore, rfl, Or.inr ⟨hnone, hname, Nat.ne_of_gt hlt⟩⟩

theorem sound_word {category : Category}
    (h : Kind.lexeme.rule.hit? src pos = some ⟨some category, stop⟩) :
    Sound src (src.token category pos stop) := by
  obtain ⟨hbefore, hafter, hcategory, _⟩ := hit?_lexeme_cases h
  rcases mem_of_classify hcategory.symm with ⟨rfl, hmem⟩ | ⟨rfl, hmem⟩
  · exact ⟨hmem, hbefore, hafter⟩
  · exact ⟨hmem, hbefore, hafter⟩

/-- **What a rule finds has the form that its category asks for.** -/
theorem sound_of_hit {k : Kind} {category : Category} (hp : pos ≤ src.size)
    (h : k.rule.hit? src pos = some ⟨some category, stop⟩) :
    Sound src (src.token category pos stop) := by
  cases k with
  | lineComment =>
      obtain ⟨hm, _, hcategory⟩ := Rule.hit?_token.mp h
      obtain rfl := Option.some.inj hcategory
      exact Or.inl (isLineComment_of_matchEnd? hm)
  | blockComment =>
      obtain ⟨hm, _, hcategory⟩ := Rule.hit?_token.mp h
      obtain rfl := Option.some.inj hcategory
      exact Or.inr (isBlockComment_of_matchEnd? hp hm)
  | string =>
      obtain ⟨hm, _, hcategory⟩ := Rule.hit?_token.mp h
      obtain rfl := Option.some.inj hcategory
      show StringText (stop = src.size) (src.token .string pos stop).text.toList
      rw [toList_token]
      exact stringText_of_matchEnd? hp hm
  | hexNumber =>
      obtain ⟨hm, _, hcategory⟩ := Rule.hit?_token.mp h
      obtain rfl := Option.some.inj hcategory
      show PrefixedText 'x' Reading.isHex (src.token .hexNumber pos stop).text.toList
      rw [toList_token, ← accepts_hexDigit]
      exact prefixedText_of_matchEnd? hm
  | binNumber =>
      obtain ⟨hm, _, hcategory⟩ := Rule.hit?_token.mp h
      obtain rfl := Option.some.inj hcategory
      show PrefixedText 'b' isBin (src.token .binNumber pos stop).text.toList
      rw [toList_token, ← accepts_binDigit]
      exact prefixedText_of_matchEnd? hm
  | decNumber =>
      obtain ⟨hm, _, hcategory⟩ := Rule.hit?_token.mp h
      obtain rfl := Option.some.inj hcategory
      show WholeText (src.token .decNumber pos stop).text.toList ∧ _
      rw [toList_token]
      exact wholeText_of_matchEnd? hm
  | floatNumber =>
      obtain ⟨hm, _, hcategory⟩ := Rule.hit?_token.mp h
      obtain rfl := Option.some.inj hcategory
      show PointText (src.token .floatNumber pos stop).text.toList
      rw [toList_token]
      exact pointText_of_matchEnd? hm
  | symbol =>
      obtain ⟨hm, _, hcategory⟩ := Rule.hit?_token.mp h
      obtain rfl := Option.some.inj hcategory
      show SymbolText (src.token .symbol pos stop).text.toList ∧ _
      rw [toList_token]
      exact symbolText_of_matchEnd? hm
  | lexeme => exact sound_word h

/-! ## Plain text -/

/-- Plain text is never found. -/
theorem ne_text_of_hit {g : Grammar} (hrules : g.rules = Kind.all.map Kind.rule)
    {c : Category} (hhit : g.hit? src pos = some ⟨some c, stop⟩) : c ≠ .text := by
  obtain ⟨k, hk⟩ := exists_kind hrules hhit
  cases k with
  | lexeme =>
      obtain ⟨_, _, hcategory, _⟩ := hit?_lexeme_cases hk
      rcases mem_of_classify hcategory.symm with ⟨rfl, _⟩ | ⟨rfl, _⟩ <;> decide
  | _ =>
      obtain ⟨_, _, hcategory⟩ := Rule.hit?_token.mp hk
      obtain rfl := Option.some.inj hcategory
      decide

/-- Whether neither a comment nor a string begins at a place. -/
def Clear (src : Source) (pos : Nat) : Prop :=
  src[pos]? ≠ some '#' ∧ src[pos]? ≠ some '"' ∧ ¬ src.HasAt pos ['/', '*']

/-- Where no rule finds anything, no comment and no string begins. -/
theorem clear_of_no_hit (hp : pos ≤ src.size) (h : ∀ k : Kind, k.rule.hit? src pos = none) :
    Clear src pos := by
  refine ⟨fun hmark => ?_, fun hquote => ?_, fun hat => ?_⟩
  · have hat : src.HasAt pos "#".toList := ⟨hmark, trivial⟩
    have hm : (Pattern.lineComment .exact "#").matchEnd? src pos =
        some (src.runEnd inLine (pos + 1)) := by
      rw [Pattern.matchEnd?_lineComment, if_pos hat]
      rfl
    have hle := src.le_runEnd inLine (pos + 1)
    have hhit : Kind.lineComment.rule.hit? src pos =
        some ⟨some .comment, src.runEnd inLine (pos + 1)⟩ :=
      Rule.hit?_token.mpr ⟨hm, by dsimp only; omega, rfl⟩
    exact absurd (hhit.symm.trans (h _)) (by simp)
  · obtain ⟨inside, hinside⟩ := exists_quoted src '"' (pos + 1)
    have hm := Pattern.matchEnd?_of_quoted hquote hinside
    have hle := hinside.le
    have hskip := src.le_skip (· = '"') inside
    have hhit : Kind.string.rule.hit? src pos =
        some ⟨some .string, src.skip (· = '"') inside⟩ :=
      Rule.hit?_token.mpr ⟨hm, by dsimp only; omega, rfl⟩
    exact absurd (hhit.symm.trans (h _)) (by simp)
  · obtain ⟨stop, hclose⟩ := exists_closes src ['*', '/'] (pos + 2)
    have hm : (Pattern.blockComment .exact "/*" "*/").matchEnd? src pos = some stop :=
      Pattern.matchEnd?_of_closes (by decide) hp hat hclose
    have hle := hclose.le (hat.le_size hp)
    have hhit : Kind.blockComment.rule.hit? src pos = some ⟨some .comment, stop⟩ :=
      Rule.hit?_token.mpr ⟨hm, by dsimp only; omega, rfl⟩
    exact absurd (hhit.symm.trans (h _)) (by simp)

/-- Within a lexeme that is not listed, no comment and no string begins. -/
theorem clear_of_unlisted (h : Kind.lexeme.rule.hit? src pos = some ⟨none, stop⟩) {i : Nat}
    (h1 : pos ≤ i) (h2 : i < stop) : Clear src i := by
  obtain ⟨_, _, hcategory, hdiscard | hname⟩ := hit?_lexeme_cases h
  · -- the entry that is no lexeme is listed
    rw [hdiscard, classify_discard] at hcategory
    exact absurd hcategory (by simp)
  · obtain ⟨_, _, dot, first, rest, hspan, hdot, hfirst, hrest⟩ := dotted_of_dottedEnd? hname
    have hchars : ∀ c, src[i]? = some c → c = '.' ∨ Unicode.isWord c = true := by
      intro c hc
      have hmem : c ∈ dot ++ first :: rest := hspan ▸ mem_span.mpr ⟨i, h1, h2, hc⟩
      rcases List.mem_append.mp hmem with hmem | hmem
      · rcases hdot with rfl | ⟨d, rfl, hd⟩
        · exact absurd hmem (by simp)
        · obtain rfl := List.mem_singleton.mp hmem
          exact Or.inl (of_decide_eq_true hd)
      · rcases List.mem_cons.mp hmem with rfl | hmem
        · exact Or.inr (word_of_isAlpha hfirst)
        · exact Or.inr (hrest c hmem)
    refine ⟨fun hc => ?_, fun hc => ?_, fun hat => ?_⟩
    · exact absurd (hchars _ hc) (by decide)
    · exact absurd (hchars _ hc) (by decide)
    · exact absurd (hchars _ hat.1) (by decide)

theorem sound_text {start : Nat} (h : ∀ i, start ≤ i → i < stop → Clear src i) :
    Sound src (src.token .text start stop) := by
  show '#' ∉ (src.token .text start stop).text.toList ∧
    '"' ∉ (src.token .text start stop).text.toList ∧
    ¬ ['/', '*'] <:+: (src.token .text start stop).text.toList
  rw [toList_token]
  refine ⟨fun hmem => ?_, fun hmem => ?_, fun hinfix => ?_⟩
  · obtain ⟨i, h1, h2, hc⟩ := mem_span.mp hmem
    exact (h i h1 h2).1 hc
  · obtain ⟨i, h1, h2, hc⟩ := mem_span.mp hmem
    exact (h i h1 h2).2.1 hc
  · obtain ⟨i, h1, h2, hat⟩ := exists_hasAt_of_infix (by simp) hinfix
    exact (h i h1 h2).2.2 hat

/-! ## Every token -/

/-- The law of tokens holds of a whole scan, since it holds of each turn. -/
theorem scan_sound {g : Grammar} (hg : g.Advances) (hrules : g.rules = Kind.all.map Kind.rule)
    (src : Source) : ∀ t ∈ g.scan src, Sound src t := by
  have hskip : ∀ pos, pos < src.size → g.hit? src pos = none → Clear src pos :=
    fun pos hlt h => clear_of_no_hit (Nat.le_of_lt hlt) (hit?_none_of_kind hrules h)
  have hpass : ∀ pos stop, pos < src.size → g.hit? src pos = some ⟨none, stop⟩ →
      ∀ i, pos ≤ i → i < stop → Clear src i := by
    intro pos stop _ h i h1 h2
    obtain ⟨k, hhit⟩ := exists_kind hrules h
    -- only a lexeme is found without a category
    cases k with
    | lexeme => exact clear_of_unlisted hhit h1 h2
    | _ => exact absurd (Rule.hit?_token.mp hhit).2.2 (by simp)
  have hfind : ∀ pos stop c, pos < src.size → g.hit? src pos = some ⟨some c, stop⟩ →
      Sound src (src.token c pos stop) := by
    intro pos stop c hlt h
    obtain ⟨k, hhit⟩ := exists_kind hrules h
    exact sound_of_hit (Nat.le_of_lt hlt) hhit
  exact (Grammar.scan_scans hg src).forall_tokens hg hskip hpass hfind
    (fun start stop _ _ h => sound_text h) (Nat.le_refl _) (Nat.zero_le _)
    (fun i _ h2 => absurd h2 (Nat.not_lt_zero i))

/--
**The tokens of a linker script are what their categories say.**

Every token of every text has the form of its category (`Sound`): listed words stand alone, comments
and strings reach to their ends and no further, numbers and symbols are written as such, and plain
text holds nothing that begins a comment or a string.
-/
theorem tokenize_sound [CharacterNames] :
    ∃ g, (Offer.description description).compile (.string "ldscript") = .ok g ∧
      ∀ text, ∀ t ∈ g.tokenize text, Sound (.ofString text) t := by
  obtain ⟨g, hg, hrules⟩ := exists_grammar
  exact ⟨g, hg, fun text => scan_sound (Offer.compile_advances hg) hrules (.ofString text)⟩

end Lexlight.LinkerScript
