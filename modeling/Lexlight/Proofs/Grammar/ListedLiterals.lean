import Lexlight.Proofs.Grammar.LongestEntry
import Lexlight.Proofs.Grammar.SameEntries
import Lexlight.Proofs.Grammar.WholeWords
import Lexlight.Proofs.Unicode.Folding

/-!
# Entries that are found and looked up

An entry with a matcher of its own goes two ways. The matcher finds a text for it, character by
character. Then the text is looked up in the sets of words, as any lexeme is, and nothing tells which
entry it was found for. Where case is looked at, the text is the entry, so it is listed. Where it is
not, the two ways part at the letter i: the case maps find `ı-` for the entry `i-`, and folding leaves
`ı-` as it is, so it is not listed, and what was found is plain text after all.

`literals_classified_iff` says that this is the only way for a text that the matcher finds to be
unlisted: if it has the same letters `ı` and `İ` in the same places as the entry it was found for, it
is listed, and if not, it is by chance only, as another entry.
-/

namespace Lexlight

/-! ## What an entry is read as -/

/-- The key of a key is itself. -/
theorem Fold.key_key (fold : Fold) (n : Nat) : fold.key (fold.key n) = fold.key n := by
  cases fold with
  | exact => rfl
  | ascii =>
      by_cases h : 0x41 ≤ n ∧ n ≤ 0x5A
      · simp only [key, if_pos h]
        rw [if_neg (by omega)]
      · simp only [key, if_neg h]
  | full => exact Unicode.lower_lower n

theorem CharTest.accepts_ofChar_same (fold : Fold) (c d : Char) :
    (CharTest.ofChar fold c).accepts d = fold.same c.toNat d.toNat := by
  simp [ofChar, accepts]

/-- **The set at the end of entries** takes no character that the test of one character does not
take, whatever it does past the basic plane. -/
theorem same_of_accepts_set {fold : Fold} {c d : Char}
    (h : (CharTest.oneOf [.one c.toNat] fold false).accepts d = true) :
    fold.same c.toNat d.toNat = true := by
  have hself : fold.same c.toNat c.toNat = true := by
    rw [← CharTest.accepts_ofChar_same]
    exact accepts_ofChar_self fold c
  have h : (SetMember.one c.toNat).accepts fold d = true := by
    simpa [CharTest.accepts] using h
  simp only [SetMember.accepts] at h
  split at h
  · rwa [of_decide_eq_true h]
  · split at h
    · -- the character is its own key, and that of the other
      have hkey : fold.key d.toNat = c.toNat := of_decide_eq_true h
      have hfix : fold.key c.toNat = c.toNat := by rw [← hkey, fold.key_key]
      unfold Fold.same at hself ⊢
      rw [hfix] at hself
      rwa [hkey, hfix]
    · exact h

/-- Whether a text is an entry, character by character, as patterns look at case. -/
def Lexicon.ReadsAs (l : Lexicon) (e text : String) : Prop :=
  List.Forall₂ (fun c d : Char => (foldFor !l.caseSensitive).same c.toNat d.toNat = true)
    e.toList text.toList

/-- What passes the tests of an entry is the same letters. -/
theorem forall₂_of_passesAt {src : Source} {fold : Fold} {apart : Bool} :
    ∀ {e : List Char} {pos : Nat}, src.PassesAt pos (entryTests fold apart e) →
      List.Forall₂ (fun c d : Char => fold.same c.toNat d.toNat = true) e
        (src.span pos (pos + e.length))
  | [], pos, _ => by
      rw [List.length_nil, Nat.add_zero, Source.span_self]
      exact .nil
  | [c], pos, h => by
      rw [entryTests, Source.passesAt_singleton] at h
      obtain ⟨d, hd, hok⟩ := (Option.any_eq_true _ _).mp h
      rw [List.length_singleton, Source.span_cons hd (Nat.lt_succ_self pos), Source.span_self]
      refine .cons ?_ .nil
      cases apart with
      | true => exact same_of_accepts_set hok
      | false => exact (CharTest.accepts_ofChar_same fold c d).symm.trans hok
  | c :: c' :: rest, pos, h => by
      rw [entryTests] at h
      · obtain ⟨hfirst, hrest⟩ := h
        obtain ⟨d, hd, hok⟩ := (Option.any_eq_true _ _).mp hfirst
        have htail := forall₂_of_passesAt hrest
        rw [List.length_cons, Source.span_cons hd (by omega)]
        refine .cons ?_ ?_
        · exact (CharTest.accepts_ofChar_same fold c d).symm.trans hok
        · rwa [Nat.add_comm (c' :: rest).length 1, ← Nat.add_assoc]
      · simp

namespace WordLists

variable {w : WordLists} {language : String} {caseSensitive : Bool} {l : Lexicon} {src : Source}
  {pos stop : Nat}

/-- The matcher of entries finds nothing within a word. -/
theorem before_of_literals [CharacterNames] (h : w.compile language caseSensitive = .ok l)
    (hfound : l.literals?.bind (·.matchEnd? src pos) = some stop) :
    src.before Unicode.isWord pos = false := by
  obtain ⟨-, hlit, -⟩ := lexicon_of_compile h
  rw [hlit] at hfound
  by_cases hempty : (w.others l.pattern).isEmpty = true
  · rw [if_pos hempty] at hfound
    cases hfound
  · have hperm := List.mergeSort_perm (w.others l.pattern) entryBefore
    have hne : (w.others l.pattern).mergeSort entryBefore ≠ [] := by
      intro hnil
      rw [hnil] at hperm
      exact hempty (List.isEmpty_iff.mpr hperm.nil_eq.symm)
    rw [if_neg hempty, Option.bind_some,
      Pattern.matchEnd?_boundedEntries hne (hperm.nodup_iff.mpr (w.nodup_others _))] at hfound
    cases hbefore : src.before Unicode.isWord pos with
    | false => rfl
    | true =>
        rw [hbefore, if_pos rfl] at hfound
        cases hfound

/-- What the matcher of entries finds is one of them, character by character. -/
theorem exists_readsAs [CharacterNames] (h : w.compile language caseSensitive = .ok l)
    (hfound : l.literals?.bind (·.matchEnd? src pos) = some stop) :
    ∃ e ∈ w.others l.pattern, stop = pos + e.length ∧ l.ReadsAs e (src.slice pos stop) := by
  obtain ⟨e, he, hat, rfl, -⟩ := (literals_eq_some h (before_of_literals h hfound)).mp hfound
  refine ⟨e, he, rfl, ?_⟩
  unfold Lexicon.ReadsAs
  rw [Source.toList_slice, ← String.length_toList]
  exact forall₂_of_passesAt hat.1

/-- A text has a category just when it is looked up in the same form as some entry. -/
theorem classify_isSome_iff [CharacterNames] (h : w.compile language caseSensitive = .ok l)
    {text : String} :
    (l.classify text = some .keyword ∨ l.classify text = some .builtin) ↔
      ∃ e ∈ w.entries, l.key e = l.key text := by
  constructor
  · rintro hc
    have hlisted : l.key text ∈ l.keywords ∨ l.key text ∈ l.builtins := by
      rcases hc with hc | hc
      · exact Or.inl (Lexicon.classify_eq_keyword.mp hc)
      · exact Or.inr (Lexicon.classify_eq_builtin.mp hc).1
    rcases hlisted with hk | hb
    · obtain ⟨e, he, heq⟩ := (mem_lexicon h _).1.mp hk
      exact ⟨e, List.mem_filterMap.mpr ⟨.string e, List.mem_append_left _ he, rfl⟩, heq.symm⟩
    · obtain ⟨e, he, heq⟩ := (mem_lexicon h _).2.mp hb
      exact ⟨e, List.mem_filterMap.mpr ⟨.string e, List.mem_append_right _ he, rfl⟩, heq.symm⟩
  · rintro ⟨e, he, heq⟩
    obtain ⟨-, -, hentries⟩ := lexicon_of_compile h
    have hlisted := (hentries e he).2
    rw [heq] at hlisted
    by_cases hk : l.key text ∈ l.keywords
    · exact Or.inl (Lexicon.classify_eq_keyword.mpr hk)
    · exact Or.inr (Lexicon.classify_eq_builtin.mpr ⟨hlisted.resolve_left hk, hk⟩)

end WordLists

/-! ## Listed or not -/

/-- Where case is looked at, what an entry is read as is the entry. -/
theorem Lexicon.ReadsAs.eq {l : Lexicon} {e text : String} (h : l.ReadsAs e text)
    (hcase : l.caseSensitive = true) : e = text := by
  unfold ReadsAs at h
  rw [hcase] at h
  have hsame : List.Forall₂ (· = ·) e.toList text.toList := by
    refine h.imp fun c d hcd => ?_
    have hok : (CharTest.ofChar .exact c).accepts d = true :=
      (CharTest.accepts_ofChar_same .exact c d).trans hcd
    exact ((CharTest.accepts_ofChar_exact c d).mp hok).symm
  rw [List.forall₂_eq_eq_eq] at hsame
  exact String.toList_inj.mp hsame

/-- Where case is not looked at, an entry and what it is read as are the same to the case maps. -/
theorem Lexicon.ReadsAs.same {l : Lexicon} {e text : String} (h : l.ReadsAs e text)
    (hcase : l.caseSensitive = false) :
    List.Forall₂ (fun c d : Char => Fold.full.same c.toNat d.toNat = true) e.toList text.toList := by
  unfold ReadsAs at h
  rwa [hcase] at h

/-- **An entry and what it is read as are looked up in one form** where case is looked at, or where
they have the same letters i that folding sets apart. -/
theorem Lexicon.ReadsAs.key_eq_iff {l : Lexicon} {e text : String} (h : l.ReadsAs e text) :
    l.key e = l.key text ↔
      l.caseSensitive = true ∨ List.Forall₂ Unicode.DottedAlike e.toList text.toList := by
  cases hcase : l.caseSensitive with
  | true =>
      rw [h.eq hcase]
      simp
  | false =>
      unfold key
      rw [hcase, if_neg Bool.false_ne_true, if_neg Bool.false_ne_true]
      simpa using Unicode.foldCase_eq_iff (h.same hcase)

/-- What an entry without a letter i is read as is always listed. -/
theorem WordLists.classify_of_readsAs [CharacterNames] {w : WordLists} {language : String}
    {caseSensitive : Bool} {l : Lexicon} (h : w.compile language caseSensitive = .ok l)
    {e text : String} (he : e ∈ w.entries) (hreads : l.ReadsAs e text)
    (hi : ∀ c ∈ e.toList, c.toNat ∉ Unicode.lettersI) :
    l.classify text = some .keyword ∨ l.classify text = some .builtin := by
  refine (classify_isSome_iff h).mpr ⟨e, he, hreads.key_eq_iff.mpr ?_⟩
  cases hcase : l.caseSensitive with
  | true => exact Or.inl rfl
  | false =>
      exact Or.inr (Unicode.forall₂_dottedAlike (hreads.same hcase) hi)

/--
**When what the matcher of entries finds is listed.**

Take the grammar of any description with word lists, and any place of any source where the matcher of
entries finds something. It has found one of the entries, character by character, and the text there
is classified as a keyword or as a built-in just in these cases: case is looked at; or the text has
`ı` and `İ` exactly where the entry has them; or it happens to fold to the same text as another
entry. In all other cases, which take a letter i in a language where case is not looked at, the text
has no category.
-/
theorem literals_classified_iff [CharacterNames] {language : Value} {d : LanguageDescription}
    {w : WordLists} {g : Grammar}
    (h : (Offer.description (d.withWords w)).compile language = .ok g) :
    ∃ l, g.lexicon? = some l ∧ ∀ (src : Source) (pos stop : Nat),
      l.literals?.bind (·.matchEnd? src pos) = some stop →
        ∃ e ∈ w.others l.pattern, stop = pos + e.length ∧ l.ReadsAs e (src.slice pos stop) ∧
          ((l.classify (src.slice pos stop) = some .keyword ∨
              l.classify (src.slice pos stop) = some .builtin) ↔
            l.caseSensitive = true ∨
            List.Forall₂ Unicode.DottedAlike e.toList (src.slice pos stop).toList ∨
            ∃ e' ∈ w.entries, e' ≠ e ∧
              Unicode.foldCase e' = Unicode.foldCase (src.slice pos stop)) := by
  obtain ⟨name, d', -, hd', hcompile⟩ := Offer.compile_ok h
  obtain rfl := Offer.description.inj hd'
  obtain ⟨aliases, rules, l, -, -, hl, rfl⟩ := LanguageDescription.compile_withWords hcompile
  refine ⟨l, by simp [Grammar.lexicon?], fun src pos stop hfound => ?_⟩
  obtain ⟨e, he, hstop, hreads⟩ := WordLists.exists_readsAs hl hfound
  refine ⟨e, he, hstop, hreads, ?_⟩
  generalize src.slice pos stop = text at hreads
  have hentry : e ∈ w.entries := (WordLists.mem_others.mp he).1
  rw [WordLists.classify_isSome_iff hl]
  constructor
  · rintro ⟨e', he', heq⟩
    by_cases hsame : e' = e
    · rw [hsame] at heq
      exact (hreads.key_eq_iff.mp heq).imp_right Or.inl
    · cases hcase : l.caseSensitive with
      | true => exact Or.inl rfl
      | false =>
          unfold Lexicon.key at heq
          rw [hcase, if_neg Bool.false_ne_true, if_neg Bool.false_ne_true] at heq
          exact Or.inr (Or.inr ⟨e', he', hsame, heq⟩)
  · intro hcases
    by_cases halike : l.caseSensitive = true ∨ List.Forall₂ Unicode.DottedAlike e.toList text.toList
    · exact ⟨e, hentry, hreads.key_eq_iff.mpr halike⟩
    · rcases hcases with hcase | hdots | ⟨e', he', -, heq⟩
      · exact absurd (Or.inl hcase) halike
      · exact absurd (Or.inr hdots) halike
      · refine ⟨e', he', ?_⟩
        unfold Lexicon.key
        rw [if_neg fun hcase => halike (Or.inl hcase), if_neg fun hcase => halike (Or.inl hcase), heq]

/-- A language in which case is not looked at, with one entry that is no lexeme. -/
def dashed : LanguageDescription where
  title := .string "Dashed"
  caseSensitive := false

/-- The one entry is the letter i and a dash. -/
def dashedWords : WordLists where
  keyword := [.string "i-"]

theorem literals_classified_iff_dashed :
    ∃ g, (Offer.description (dashed.withWords dashedWords)).compile (.string "dashed") = .ok g ∧
      ∃ l, g.lexicon? = some l ∧
        l.literals?.bind (·.matchEnd? (.ofString "a I-") 2) = some 4 ∧
        (l.classify "I-" = some .keyword ∨ l.classify "I-" = some .builtin) := by
  obtain ⟨g, hg, hfound⟩ := Compiling.exists_ok
    (show ((Offer.description (dashed.withWords dashedWords)).compile
      (.string "dashed")).toOption.any (fun g => g.lexicon?.any fun l =>
        l.literals?.bind (·.matchEnd? (.ofString "a I-") 2) = some 4) = true by decide +kernel)
  obtain ⟨l, hl, hcases⟩ := literals_classified_iff hg
  rw [hl, Option.any_some, decide_eq_true_eq] at hfound
  obtain ⟨e, he, hstop, hreads, hiff⟩ := hcases _ _ _ hfound
  have hentry : e = "i-" := by
    simpa [WordLists.entries, dashedWords, Value.text?] using (WordLists.mem_others.mp he).1
  have htext : (Source.ofString "a I-").slice 2 4 = "I-" := by decide
  rw [htext, hentry] at hiff
  refine ⟨g, hg, l, hl, hfound, hiff.mpr (Or.inr (Or.inl ?_))⟩
  have hi : Unicode.DottedAlike 'i' 'I' := by decide
  have hdash : Unicode.DottedAlike '-' '-' := by decide
  exact .cons hi (.cons hdash .nil)

/-- The matcher of entries takes `ı-` for the entry `i-`, and what it found is not listed. -/
theorem dotless_i_not_listed :
    ∃ g, (Offer.description (dashed.withWords dashedWords)).compile (.string "dashed") = .ok g ∧
      ∃ l, g.lexicon? = some l ∧
        l.literals?.bind (·.matchEnd? (.ofString "ı-") 0) = some 2 ∧
        l.classify ((Source.ofString "ı-").slice 0 2) = none ∧
        g.tokenize "ı-" = [⟨⟨.text, "ı-"⟩, 0, 2⟩] := by
  obtain ⟨g, hg, hrun⟩ := Compiling.exists_ok
    (show ((Offer.description (dashed.withWords dashedWords)).compile
      (.string "dashed")).toOption.any (fun g => g.lexicon?.any (fun l =>
        l.literals?.bind (·.matchEnd? (.ofString "ı-") 0) = some 2 ∧
        l.classify ((Source.ofString "ı-").slice 0 2) = none) ∧
        g.tokenize "ı-" = [⟨⟨.text, "ı-"⟩, 0, 2⟩]) = true by decide +kernel)
  rw [decide_eq_true_eq] at hrun
  obtain ⟨hlexicon, htokens⟩ := hrun
  obtain ⟨l, hl, hfound⟩ := (Option.any_eq_true _ _).mp hlexicon
  obtain ⟨hmatch, hclass⟩ := of_decide_eq_true hfound
  exact ⟨g, hg, l, hl, hmatch, hclass, htokens⟩

end Lexlight
