import Lexlight.Proofs.LinkerScript.Rules

/-!
# Names in linker scripts

Symbols and lexemes are both names with an optional dot before them, and end where the name does:
the dot is no character of a name, and what a name goes on with is all taken. The one entry that is
no lexeme stands by itself, with no word character on either side.
-/

namespace Lexlight.LinkerScript

open Pattern

variable {src : Source} {pos : Nat}

/-! ## Names with a dot -/

/-- Where a name ends that may have a dot before it. -/
def dottedEnd? (src : Source) (first rest : Char → Bool) (pos : Nat) : Option Nat :=
  if src[src.skip (· = '.') pos]?.any first then
    some (src.runEnd rest (src.skip (· = '.') pos + 1))
  else none

/-- A name with a dot begins with the dot, or as the name does. -/
theorem exists_first_of_dottedEnd? {first rest : Char → Bool} {stop : Nat}
    (h : dottedEnd? src first rest pos = some stop) :
    ∃ c, src[pos]? = some c ∧ (c = '.' ∨ first c = true) := by
  unfold dottedEnd? at h
  split at h
  · rename_i hfirst
    obtain ⟨c, hc, hfirst⟩ := (Option.any_eq_true _ _).mp hfirst
    unfold Source.skip at hc
    split at hc
    · rename_i hdot
      obtain ⟨d, hd, hdot⟩ := (Option.any_eq_true _ _).mp hdot
      exact ⟨d, hd, Or.inl (of_decide_eq_true hdot)⟩
    · exact ⟨c, hc, Or.inr hfirst⟩
  · exact absurd h (by simp)

theorem run_dottedName {first rest : CharTest} (hdot : first.accepts '.' = false) (s : MatchState) :
    (dottedName first rest).run src s some =
      (dottedEnd? src first.accepts rest.accepts s.pos).map fun e => { s with pos := e } := by
  have hname : ∀ s : MatchState, (ofList [.char first, .star rest]).run src s some =
      if src[s.pos]?.any first.accepts then
        some { s with pos := src.runEnd rest.accepts (s.pos + 1) } else none := by
    intro s
    have hrest : ∀ s : MatchState, (ofList [.star rest]).run src s some =
        some { s with pos := src.runEnd rest.accepts s.pos } :=
      fun s => run_star (settled_some _ _)
    rw [run_ofList_cons, run_char, hrest]
  rw [dottedName, run_ofList_cons]
  simp only [hname]
  rw [run_optional, accepts_ofChar]
  · unfold dottedEnd?
    split <;> rfl
  · refine settled_skip fun h => if_neg ?_
    have h : src[s.pos]? = some '.' := any_ofChar.mp h
    rw [h]
    exact fun hfirst => absurd hfirst (by simp [hdot])

/-- A symbol ends where its name does. -/
theorem matchEnd?_quotedName :
    quotedName.matchEnd? src pos =
      if src[pos]? = some '\'' then dottedEnd? src isNameStart isNameRest (pos + 1) else none := by
  have hdot : nameStart.accepts '.' = false := by
    rw [accepts_nameStart]
    decide
  rw [matchEnd?, quotedName, run_seq, run_char]
  simp only [run_dottedName hdot, accepts_nameStart, accepts_nameRest]
  by_cases hq : src[pos]? = some '\''
  · rw [if_pos (any_ofChar.mpr hq), if_pos hq]
    cases dottedEnd? src isNameStart isNameRest (pos + 1) <;> rfl
  · rw [if_neg (mt any_ofChar.mp hq), if_neg hq]
    rfl

/-- A lexeme ends where its word does. -/
theorem matchEnd?_lexeme :
    lexicon.pattern.matchEnd? src pos = dottedEnd? src Char.isAlpha Unicode.isWord pos := by
  have hdot : letter.accepts '.' = false := by
    rw [accepts_letter]
    decide
  show (dottedName letter word).matchEnd? src pos = _
  rw [matchEnd?, run_dottedName hdot, accepts_letter, accepts_word]
  cases dottedEnd? src Char.isAlpha Unicode.isWord pos <;> rfl

/-! ## The entry that is no lexeme -/

/-- An entry by itself. -/
theorem matchEnd?_boundedEntry (e : String) :
    (boundedEntries .exact [e]).matchEnd? src pos =
      if src.before Unicode.isWord pos then none
      else if src.HasAt pos e.toList ∧ ¬ src[pos + e.toList.length]?.any Unicode.isWord then
        some (pos + e.toList.length)
      else none := by
  have hparts : boundedEntries .exact [e] =
      .ofList (.behind false ⟨1, 1⟩ (.char word) ::
        (e.toList.map fun c => .char (.ofChar .exact c)) ++ [.ahead false (.char word)]) := by
    simp [boundedEntries, Part.sequence, Part.alternatives, Part.ofChar, Part.ofTest, word,
      Function.comp_def]
  have hahead : ∀ s : MatchState, (ofList [.ahead false (.char word)]).run src s some =
      if src[s.pos]?.any Unicode.isWord then none else some s := by
    intro s
    show (Pattern.ahead false (.char word)).run src s some = _
    rw [run_notAhead, run_char, accepts_word]
    by_cases hw : src[s.pos]?.any Unicode.isWord = true <;> simp [hw]
  rw [hparts, matchEnd?, List.cons_append, run_ofList_cons, run_notBehind_char, accepts_word]
  by_cases hbefore : src.before Unicode.isWord pos = true
  · rw [if_pos hbefore, if_pos hbefore]
    rfl
  · rw [if_neg hbefore, if_neg hbefore, run_ofList_append, run_chars]
    simp only [hahead]
    by_cases hat : src.HasAt pos e.toList
    · by_cases hw : src[pos + e.toList.length]?.any Unicode.isWord = true
      · rw [if_pos hat, if_pos hw, if_neg fun h => h.2 hw]
        rfl
      · rw [if_pos hat, if_neg hw, if_pos ⟨hat, hw⟩]
        rfl
    · rw [if_neg hat, if_neg fun h => hat h.1]
      rfl

/-! ## Listed words -/

/-- The category of a word tells which list it is in. -/
theorem mem_of_classify {word : String} {c : Category} (h : lexicon.classify word = some c) :
    c = .keyword ∧ word ∈ keywords ∨ c = .builtin ∧ word ∈ builtins := by
  rcases Lexicon.classify_eq_some h with ⟨hc, hmem⟩ | ⟨hc, hmem⟩
  · obtain ⟨e, he, rfl⟩ := mem_listedWords.mp hmem
    exact Or.inl ⟨hc, he⟩
  · obtain ⟨e, he, rfl⟩ := mem_listedWords.mp hmem
    exact Or.inr ⟨hc, he⟩

/-- The entry that is no lexeme is listed. -/
theorem classify_discard : lexicon.classify discard = some .builtin := by
  have hk : discard ∉ lexicon.keywords := by
    intro h
    obtain ⟨e, he, heq⟩ := mem_listedWords.mp h
    obtain rfl : discard = e := heq
    exact absurd he (by decide)
  have hb : discard ∈ lexicon.builtins := mem_listedWords.mpr ⟨discard, by decide, rfl⟩
  show (if discard ∈ lexicon.keywords then some Category.keyword
    else if discard ∈ lexicon.builtins then some .builtin else none) = _
  rw [if_neg hk, if_pos hb]

end Lexlight.LinkerScript
