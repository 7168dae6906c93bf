import Lexlight.Proofs.Grammar.Compiled
import Lexlight.Proofs.Pattern.Entries

/-!
# Which listed words are recognized

A word list says which words are of a category, but not every word on it is found. An entry is found
by the lexeme pattern or by the matcher of entries, and which of them is responsible is decided when
the list is compiled: an entry is left to the lexeme pattern if that describes it, in one way or
another. The scan takes the pattern's first way only, and it takes an entry with a matcher of its
own before any lexeme. So there are two ways for an entry to be missed. The first match of the
lexeme pattern may end before the entry does, and a shorter entry may stand at its beginning.

`tokenize_entry_iff` says that there are no others. An entry by itself is one token of its category
just when an entry with a matcher of its own reads as the whole of it, or when none reads as its
beginning, up to the edge of a word, and the first match of the lexeme pattern is the whole of it.
-/

namespace Lexlight

/-! ## A text that is one token -/

/-- The whole of a source is its text. -/
theorem Source.slice_ofString (text : String) : (ofString text).slice 0 text.length = text := by
  rw [← String.toList_inj, toList_slice, span, Nat.sub_zero, List.drop_zero, ofString,
    List.toList_toArray, ← String.length_toList, List.take_length]

namespace Grammar

variable {g : Grammar} {src : Source}

/-- Text that is held back is given before anything else. -/
theorem Scans.head_text (hg : g.Advances) {pos pending : Nat} {ts : List Token}
    (h : Scans g src pos pending ts) (hlt : pending < pos) (hp : pos ≤ src.size) :
    ts.head?.map (·.category) = some .text := by
  have hplain : ∀ {start stop : Nat} (us : List Token), start < stop →
      (src.plainTokens start stop ++ us).head?.map (·.category) = some .text := by
    intro start stop us hlt
    rw [Source.plainTokens, if_pos hlt]
    rfl
  -- along the scan, what is held back grows until something is found or the source ends
  induction h with
  | @done pos pending hend =>
      have := hplain [] (by omega : pending < src.size)
      rwa [List.append_nil] at this
  | skip hpos _ _ ih => exact ih (by omega) hpos
  | pass hpos hf _ ih =>
      obtain ⟨hpast, hend⟩ := hg src _ _ hpos (hit?_of_probe hpos hf)
      dsimp only at hpast hend
      exact ih (by omega) hend
  | find hpos _ _ _ => exact hplain _ hlt

/-- **A text is one token** of a category just when the first find takes all of it. -/
theorem tokenize_eq_singleton_iff (hg : g.Advances) {text : String} (hne : text ≠ "")
    {c : Category} (hc : c ≠ .text) :
    g.tokenize text = [⟨⟨c, text⟩, 0, text.length⟩] ↔
      g.hit? (.ofString text) 0 = some ⟨some c, text.length⟩ := by
  have hsize : (Source.ofString text).size = text.length := by
    rw [Source.size_ofString, String.length_toList]
  have hpos : 0 < (Source.ofString text).size := by
    rw [hsize, Nat.pos_iff_ne_zero]
    simpa using hne
  have hwhole : (Source.ofString text).token c 0 text.length = ⟨⟨c, text⟩, 0, text.length⟩ := by
    rw [Source.token, Source.slice_ofString]
  have hscan : Scans g (.ofString text) 0 0 (g.tokenize text) := scan_scans hg _
  constructor
  · intro htokens
    rw [htokens] at hscan
    generalize hts : [(⟨⟨c, text⟩, 0, text.length⟩ : Token)] = ts at hscan
    have hhead : ts.head?.map (·.category) ≠ some .text := by
      subst hts
      simpa using hc
    -- unless there is a find at the start, text is held back and given first
    cases hscan with
    | done hend => omega
    | skip _ _ hrest => exact absurd (hrest.head_text hg (by omega) hpos) hhead
    | pass _ hf hrest =>
        obtain ⟨hpast, hend⟩ := hg _ _ _ hpos (hit?_of_probe hpos hf)
        exact absurd (hrest.head_text hg hpast hend) hhead
    | find _ hf _ =>
        have hit := hit?_of_probe hpos hf
        simp only [Source.plainTokens, Nat.lt_irrefl, if_false, List.nil_append, List.cons.injEq,
          Source.token, Token.mk.injEq, Piece.mk.injEq] at hts
        obtain ⟨⟨⟨rfl, -⟩, -, rfl⟩, -⟩ := hts
        exact hit
  · intro hit
    have hprobe : g.probe (.ofString text) (0 : Nat) = some (some ⟨some c, text.length⟩) := by
      rw [probe_eq (Nat.zero_le _), hit]
    have hdone : Scans g (.ofString text) text.length text.length _ :=
      .done (Nat.le_of_eq hsize)
    have hfind : Scans g (.ofString text) 0 0 _ := .find hpos hprobe hdone
    rw [hscan.unique hfind, hwhole, hsize]
    simp [Source.plainTokens]

end Grammar

/-! ## Word lists -/

open Compiling

/-- The texts of a checked list are all that is in it. -/
theorem textsOf_ok {flaw : Value → Flaw} {language : String} :
    ∀ {vs : List Value} {xs : List String}, textsOf flaw language vs = .ok xs →
      vs = xs.map .string
  | [], xs, h => by
      rw [textsOf, List.mapM_nil, pure_ok] at h
      rw [← h, List.map_nil]
  | v :: vs, xs, h => by
      rw [textsOf, List.mapM_cons] at h
      obtain ⟨x, hx, h⟩ := bind_ok.mp h
      obtain ⟨rest, hrest, h⟩ := bind_ok.mp h
      rw [← pure_ok.mp h, List.map_cons, ← textsOf_ok hrest]
      split at hx
      · rename_i y hy
        obtain rfl := pure_ok.mp hx
        rw [Value.string_of_nonEmpty? hy]
      · exact absurd hx reject_ok

namespace WordLists

/-- The entries of the two lists. -/
def entries (w : WordLists) : List String := (w.keyword ++ w.builtin).filterMap Value.text?

/-- The entries that a lexeme cannot be. They have a matcher of their own. -/
def others (w : WordLists) (pattern : Pattern) : List String :=
  w.entries.eraseDups.filter (!pattern.describes ·)

theorem nodup_others (w : WordLists) (pattern : Pattern) : (w.others pattern).Nodup :=
  (nodup_eraseDups _).filter _

/-- What the lexicon of compiled word lists knows of their entries. -/
theorem lexicon_of_compile [CharacterNames] {w : WordLists} {language : String}
    {caseSensitive : Bool} {l : Lexicon} (h : w.compile language caseSensitive = .ok l) :
    l.caseSensitive = caseSensitive ∧
    l.literals? = (if (w.others l.pattern).isEmpty then none
      else some (.boundedEntries (foldFor !caseSensitive)
        ((w.others l.pattern).mergeSort entryBefore))) ∧
    ∀ e ∈ w.entries, e ≠ "" ∧ (l.key e ∈ l.keywords ∨ l.key e ∈ l.builtins) := by
  obtain ⟨keywords, builtins, pattern, hk, hb, _, rfl⟩ := compile_ok h
  have htexts : ∀ xs : List String, (xs.map Value.string).filterMap Value.text? = xs := by
    intro xs
    rw [List.filterMap_map]
    exact List.filterMap_some
  have hentries : w.entries = keywords ++ builtins := by
    rw [entries, textsOf_ok hk, textsOf_ok hb, ← List.map_append, htexts]
  refine ⟨rfl, by rw [others, hentries]; rfl, fun e he => ?_⟩
  have hlisted : ∀ xs : List String, e ∈ xs →
      (if caseSensitive then e else Unicode.foldCase e) ∈ listedWords caseSensitive xs := by
    intro xs hmem
    exact mem_listedWords.mpr ⟨e, hmem, rfl⟩
  rw [hentries] at he
  rcases List.mem_append.mp he with he | he
  · exact ⟨ne_empty_of_textsOf hk he, Or.inl (hlisted _ he)⟩
  · exact ⟨ne_empty_of_textsOf hb he, Or.inr (hlisted _ he)⟩

/-! ## What the lexicon finds -/

section Finds

variable {w : WordLists} {language : String} {caseSensitive : Bool} {l : Lexicon} {src : Source}
  {pos : Nat}

/-- Whether an entry with a matcher of its own stands at a place, with no word character after
it. -/
def OtherAt (w : WordLists) (l : Lexicon) (src : Source) (pos : Nat) (e : String) : Prop :=
  Pattern.EntryAt src pos
    (Pattern.testsAmong (foldFor !l.caseSensitive) (w.others l.pattern) e)

/-- The matcher of entries finds nothing where no entry stands. -/
theorem literals_eq_none [CharacterNames] (h : w.compile language caseSensitive = .ok l)
    (hbefore : src.before Unicode.isWord pos = false) :
    l.literals?.bind (·.matchEnd? src pos) = none ↔
      ∀ e ∈ w.others l.pattern, ¬ w.OtherAt l src pos e := by
  obtain ⟨hcase, hlit, -⟩ := lexicon_of_compile h
  rw [hlit, ← hcase]
  by_cases hempty : (w.others l.pattern).isEmpty = true
  · rw [if_pos hempty, List.isEmpty_iff.mp hempty]
    simp
  · rw [if_neg hempty, Option.bind_some]
    exact Pattern.matchEnd?_sortedEntries_eq_none (by simpa using hempty) (w.nodup_others _) hbefore

/-- The matcher of entries finds the longest that stands there. -/
theorem literals_eq_some [CharacterNames] (h : w.compile language caseSensitive = .ok l)
    (hbefore : src.before Unicode.isWord pos = false) {stop : Nat} :
    l.literals?.bind (·.matchEnd? src pos) = some stop ↔
      ∃ e ∈ w.others l.pattern, w.OtherAt l src pos e ∧ stop = pos + e.length ∧
        ∀ e' ∈ w.others l.pattern, w.OtherAt l src pos e' → e'.length ≤ e.length := by
  obtain ⟨hcase, hlit, -⟩ := lexicon_of_compile h
  rw [hlit, ← hcase]
  by_cases hempty : (w.others l.pattern).isEmpty = true
  · rw [if_pos hempty, List.isEmpty_iff.mp hempty]
    simp
  · rw [if_neg hempty, Option.bind_some]
    exact Pattern.matchEnd?_sortedEntries_eq_some (by simpa using hempty) (w.nodup_others _) hbefore

/-- The matcher of entries finds the whole of a text where an entry reads as the whole of it. No
entry that stands at its start is longer, so the entry is the longest. -/
theorem literals_eq_length [CharacterNames] (h : w.compile language caseSensitive = .ok l)
    (text : String) :
    l.literals?.bind (·.matchEnd? (.ofString text) 0) = some text.length ↔
      ∃ e ∈ w.others l.pattern, e.length = text.length ∧ w.OtherAt l (.ofString text) 0 e := by
  rw [literals_eq_some h rfl]
  constructor
  · rintro ⟨e, he, hat, hlen, -⟩
    exact ⟨e, he, by omega, hat⟩
  · rintro ⟨e, he, hlen, hat⟩
    refine ⟨e, he, hat, by omega, fun e' _ hat' => ?_⟩
    have := hat'.1.le_size (Nat.zero_le _)
    rw [Pattern.length_testsAmong, Source.size_ofString, String.length_toList] at this
    omega

end Finds

end WordLists

/-! ## Entries by themselves -/

/-- The category that the lists give to an entry. -/
def Lexicon.listedAs (l : Lexicon) (e : String) : Category :=
  if l.key e ∈ l.keywords then .keyword else .builtin

theorem Lexicon.classify_entry {l : Lexicon} {e : String}
    (h : l.key e ∈ l.keywords ∨ l.key e ∈ l.builtins) : l.classify e = some (l.listedAs e) := by
  change (if l.key e ∈ l.keywords then some Category.keyword
    else if l.key e ∈ l.builtins then some .builtin else none) = _
  unfold listedAs
  split
  · rfl
  · rename_i hk
    rw [if_pos (h.resolve_left hk)]

theorem Lexicon.listedAs_ne_text (l : Lexicon) (e : String) : l.listedAs e ≠ .text := by
  unfold listedAs
  split <;> simp

/-- A grammar of a lexicon alone finds an entry at its start, whole, if the matcher of entries does,
or if that finds nothing there and the lexeme pattern does. -/
theorem Grammar.hit?_entry {g : Grammar} {l : Lexicon} (hlexeme : g.rules = [.lexeme l])
    {e : String} (hne : e ≠ "") (hlisted : l.key e ∈ l.keywords ∨ l.key e ∈ l.builtins) :
    g.hit? (.ofString e) 0 = some ⟨some (l.listedAs e), e.length⟩ ↔
      l.literals?.bind (·.matchEnd? (.ofString e) 0) = some e.length ∨
      l.literals?.bind (·.matchEnd? (.ofString e) 0) = none ∧
        l.pattern.matchEnd? (.ofString e) 0 = some e.length := by
  have hbefore : (Source.ofString e).before Unicode.isWord 0 = false := rfl
  have hlength : e.length ≠ 0 := by simpa using hne
  rw [Grammar.hit?, hlexeme, List.findSome?_singleton, Rule.hit?_lexeme]
  simp only [hbefore, Source.slice_ofString, Lexicon.classify_entry hlisted, true_and, ne_eq,
    hlength, not_false_eq_true, and_true]

/-- A description of word lists alone compiles to the rule of their lexicon. -/
theorem LanguageDescription.compile_words [CharacterNames] {language : String}
    {d : LanguageDescription} {w : WordLists} {g : Grammar} (h : d.compile language = .ok g)
    (hw : d.words? = some w) (hrules : d.contains = []) :
    ∃ l, w.compile language d.caseSensitive = .ok l ∧ g.rules = [.lexeme l] ∧
      g.keywords = l.keywords := by
  obtain ⟨aliases, rules, lexicon?, -, -, hr, hl, rfl⟩ := compile_ok h
  rw [hrules, List.mapM_nil, pure_ok] at hr
  rw [hw, Option.mapM_some] at hl
  obtain ⟨l, hlex, hl⟩ := bind_ok.mp hl
  obtain rfl := pure_ok.mp hl
  subst hr
  exact ⟨l, hlex, rfl, rfl⟩

/-- An entry with a matcher of its own stands in itself. -/
theorem WordLists.otherAt_self {w : WordLists} {l : Lexicon}
    (h : l.caseSensitive = true ∨ lastApart ((w.others l.pattern).map String.toList) = false)
    (e : String) : w.OtherAt l (.ofString e) 0 e := by
  have hfold : foldFor (!l.caseSensitive) = .exact ∨
      lastApart ((w.others l.pattern).map String.toList) = false := by
    refine h.imp_left fun hcase => ?_
    rw [hcase]
    rfl
  have hat : (Source.ofString e).HasAt 0 e.toList := by
    rw [Source.hasAt_iff_startsWith]
    exact List.prefix_refl _
  refine ⟨passesAt_of_hasAt hfold hat, ?_⟩
  have hend : (Source.ofString e)[e.length]? = none :=
    Array.getElem?_eq_none (by rw [Source.size_ofString, String.length_toList])
  rw [Pattern.length_testsAmong, Nat.zero_add, hend]
  simp

/--
**Which entries are recognized.**

In a language of word lists alone, an entry by itself is one token of its category just when an
entry with a matcher of its own reads as the whole of it, or when none stands at its beginning and
the first match of the lexeme pattern is the whole of it. An entry with a matcher of its own reads
as the whole of itself, so it is recognized, unless case is not looked at and the matcher is a set.
-/
theorem LanguageDescription.tokenize_entry_iff [CharacterNames] {language : Value}
    {d : LanguageDescription} {w : WordLists} {g : Grammar}
    (hg : (Offer.description d).compile language = .ok g) (hw : d.words? = some w)
    (hrules : d.contains = []) :
    ∃ l, g.rules = [.lexeme l] ∧ g.keywords = l.keywords ∧ l.caseSensitive = d.caseSensitive ∧
      ∀ e ∈ w.entries,
        (g.tokenize e = [⟨⟨l.listedAs e, e⟩, 0, e.length⟩] ↔
          (∃ u ∈ w.others l.pattern, u.length = e.length ∧ w.OtherAt l (.ofString e) 0 u) ∨
          (∀ u ∈ w.others l.pattern, ¬ w.OtherAt l (.ofString e) 0 u) ∧
            l.pattern.matchEnd? (.ofString e) 0 = some e.length) ∧
        (e ∈ w.others l.pattern →
          d.caseSensitive = true ∨ lastApart ((w.others l.pattern).map String.toList) = false →
          g.tokenize e = [⟨⟨l.listedAs e, e⟩, 0, e.length⟩]) := by
  obtain ⟨name, d', -, hd', hcompile⟩ := Offer.compile_ok hg
  obtain rfl : d = d' := by injection hd'
  obtain ⟨l, hl, hlexeme, hkeywords⟩ := compile_words hcompile hw hrules
  obtain ⟨hcase, -, hentries⟩ := WordLists.lexicon_of_compile hl
  have hadv := Offer.compile_advances hg
  refine ⟨l, hlexeme, hkeywords, hcase, fun e he => ?_⟩
  obtain ⟨hne, hlisted⟩ := hentries e he
  have hrecognized : g.tokenize e = [⟨⟨l.listedAs e, e⟩, 0, e.length⟩] ↔
      (∃ u ∈ w.others l.pattern, u.length = e.length ∧ w.OtherAt l (.ofString e) 0 u) ∨
      (∀ u ∈ w.others l.pattern, ¬ w.OtherAt l (.ofString e) 0 u) ∧
        l.pattern.matchEnd? (.ofString e) 0 = some e.length := by
    rw [Grammar.tokenize_eq_singleton_iff hadv hne (l.listedAs_ne_text e),
      Grammar.hit?_entry hlexeme hne hlisted, WordLists.literals_eq_length hl,
      WordLists.literals_eq_none hl rfl]
  refine ⟨hrecognized, fun hother hexact => hrecognized.mpr (Or.inl ⟨e, hother, rfl, ?_⟩)⟩
  exact WordLists.otherAt_self (hcase ▸ hexact) e

/-- A keyword of which the lexeme pattern takes the first character only, when it comes to it. -/
def shadowed : LanguageDescription where
  title := .string "Shadowed"
  words? := some { pattern := .string "a|ab", keyword := [.string "ab"] }

/-- **An entry that is missed**: the lexeme pattern describes it, so it has no matcher of its own,
but the first match ends before it does. -/
theorem shadowed_entry_missed :
    ∃ g, (Offer.description shadowed).compile (.string "shadowed") = .ok g ∧
      shadowed.contains = [] ∧ "ab" ∈ g.keywords ∧ g.tokenize "ab" = [⟨⟨.text, "ab"⟩, 0, 2⟩] := by
  obtain ⟨g, hg, hmissed⟩ := Compiling.exists_ok
    (show ((Offer.description shadowed).compile (.string "shadowed")).toOption.any
      (fun g => decide ("ab" ∈ g.keywords ∧ g.tokenize "ab" = [⟨⟨.text, "ab"⟩, 0, 2⟩])) = true by
        decide +kernel)
  have hmissed := of_decide_eq_true hmissed
  exact ⟨g, hg, rfl, hmissed.1, hmissed.2⟩

/-- A word, and a sign that is none. -/
def wordAndSign : WordLists where
  pattern := .string "[a-z]+"
  keyword := [.string "end"]
  builtin := [.string "@@"]

/-- A language of a word and a sign, of which case is not looked at. -/
def signed : LanguageDescription where
  title := .string "Signed"
  caseSensitive := false
  words? := some wordAndSign

/-- The lexicon of a rule that looks words up. -/
def Rule.lexicon? : Rule → Option Lexicon
  | .token .. => none
  | .lexeme l => some l

theorem LanguageDescription.tokenize_entry_iff_signed :
    ∃ g, (Offer.description signed).compile (.string "signed") = .ok g ∧
      g.tokenize "@@" = [⟨⟨.builtin, "@@"⟩, 0, 2⟩] ∧
      g.tokenize "end" = [⟨⟨.keyword, "end"⟩, 0, 3⟩] := by
  obtain ⟨g, hg, hfacts⟩ := Compiling.exists_ok
    (show ((Offer.description signed).compile (.string "signed")).toOption.any
      (fun g => g.rules.all fun r => r.lexicon?.any fun l =>
        wordAndSign.others l.pattern = ["@@"] ∧
          l.listedAs "@@" = .builtin ∧ l.listedAs "end" = .keyword ∧
          ¬ Pattern.EntryAt (.ofString "end") 0
            (Pattern.testsAmong (foldFor !l.caseSensitive) ["@@"] "@@") ∧
          l.pattern.matchEnd? (.ofString "end") 0 = some 3) = true by decide +kernel)
  obtain ⟨l, hlexeme, -, -, hentries⟩ := LanguageDescription.tokenize_entry_iff hg rfl rfl
  rw [hlexeme, List.all_cons, List.all_nil, Bool.and_true] at hfacts
  obtain ⟨hothers, hsign, hword, hnot, hend⟩ := of_decide_eq_true hfacts
  obtain ⟨-, hself⟩ := hentries "@@" (by decide)
  obtain ⟨hiff, -⟩ := hentries "end" (by decide)
  rw [hsign, hothers] at hself
  rw [hword, hothers] at hiff
  refine ⟨g, hg, hself (by simp) (Or.inr rfl), hiff.mpr (Or.inr ⟨fun u hu => ?_, hend⟩)⟩
  obtain rfl := List.mem_singleton.mp hu
  rw [WordLists.OtherAt, hothers]
  exact hnot

end Lexlight
