import Lexlight.Proofs.Grammar.NamedCharacters
import Lexlight.Proofs.Grammar.Words
import Lexlight.Proofs.Scan.Cover
import Lexlight.Proofs.Source.Words

/-!
# Word lists alone

In a language of word lists whose lexemes are rows of word characters, and whose entries are made of
word characters only, no entry needs a matcher of its own, and the one rule finds something wherever
a word begins and nowhere else: the whole word (`Lexicon.hit?_word`).

What the tokens are then depends on where the scan stands. It never stands within a word, since it
goes over a word in one turn and over anything else character by character; and it stands at every
other place, by induction on the place (`reaches_iff`). So looking words up is all that the scan
does: the tokens with a category are the words that are listed (`tokenize_words`).
-/

namespace Lexlight

/-- A test for word characters, as it is made for patterns. -/
def wordTest (ignoreCase : Bool) : CharTest := .ofClass (foldFor ignoreCase) .word

/-- The pattern that a lexeme has unless it is given another. -/
theorem read_wordPattern [CharacterNames] (ignoreCase : Bool) :
    Pattern.read "\\w+" ignoreCase = .ok (.plus (wordTest ignoreCase)) := by
  cases ignoreCase with
  | true => exact Pattern.read_of_nameless (by decide +kernel)
  | false => exact Pattern.read_of_nameless (by decide +kernel)

/-- Whether case is looked at makes no difference to what a word character is. -/
theorem accepts_wordTest (ignoreCase : Bool) : (wordTest ignoreCase).accepts = Unicode.isWord := by
  funext c
  simp [wordTest, CharTest.ofClass, CharTest.accepts, SetMember.accepts, CharClass.holds]

variable {src : Source} {pos stop : Nat}

/-- A lexeme is the word that begins at a place. -/
theorem matchEnd?_word (ignoreCase : Bool) :
    (Pattern.plus (wordTest ignoreCase)).matchEnd? src pos =
      if src[pos]?.any Unicode.isWord then some (src.runEnd Unicode.isWord pos) else none := by
  rw [Pattern.matchEnd?, Pattern.run_plus (Pattern.settled_some _ _), accepts_wordTest]
  split <;> rfl

/-- Every text of word characters is a lexeme. -/
theorem describes_word {e : String} (hne : e ≠ "") (hword : ∀ c ∈ e.toList, Unicode.isWord c = true)
    (ignoreCase : Bool) : (Pattern.plus (wordTest ignoreCase)).describes e = true := by
  have hat : (Source.ofString e).HasAt 0 e.toList :=
    Source.hasAt_iff_startsWith.mpr (List.prefix_refl _)
  have hsize : (Source.ofString e).size = e.toList.length := Source.size_ofString e
  have hpos : 0 < e.toList.length := by
    rw [List.length_pos_iff, ne_eq, String.toList_eq_nil_iff]
    exact hne
  -- the row of word characters that begins at the start is the whole text
  have hfirst : (Source.ofString e)[0]?.any Unicode.isWord = true :=
    hat.any hword (Nat.le_refl 0) (by omega)
  have hend : (Source.ofString e).runEnd Unicode.isWord 0 = (Source.ofString e).size := by
    have hrow : (Source.ofString e).WordAt 0 (Source.ofString e).size := {
      lt := by omega
      each := fun i h1 h2 => hat.any hword h1 (by omega)
      first := rfl
      last := by rw [Array.getElem?_eq_none (Nat.le_refl _)]; rfl }
    exact hrow.stop_eq.symm
  have hsettled : Pattern.Settled
      (fun s => if s.pos = (Source.ofString e).size then some s else none) ⟨0, {}⟩
      ((Source.ofString e).runEnd (wordTest ignoreCase).accepts 0) := by
    refine Or.inl ?_
    rw [accepts_wordTest, hend]
    simp
  rw [Pattern.describes, Pattern.matchesAll, Pattern.run_plus hsettled, accepts_wordTest,
    if_pos hfirst, hend]
  simp

/-! ## The rule of word lists -/

namespace Lexicon

variable {l : Lexicon} {ignoreCase : Bool}

/-- **What the rule finds**: the word that begins at a place, and nothing where none begins. -/
theorem hit?_word (hpattern : l.pattern = .plus (wordTest ignoreCase)) (hliterals : l.literals? = none)
    {hit : Hit} :
    (Rule.lexeme l).hit? src pos = some hit ↔
      src.WordAt pos hit.stop ∧ hit.category? = l.classify (src.slice pos hit.stop) := by
  rw [Rule.hit?_lexeme, hliterals, hpattern, matchEnd?_word]
  simp only [Option.bind_none, reduceCtorEq, false_or, true_and]
  constructor
  · intro h
    obtain ⟨hbefore, hcategory, hend, -⟩ := h
    obtain ⟨hword, hend⟩ := Option.ite_none_right_eq_some.mp hend
    have hat := Source.wordAt_runEnd hbefore hword
    rw [Option.some.inj hend] at hat
    exact ⟨hat, hcategory⟩
  · intro h
    obtain ⟨hat, hcategory⟩ := h
    refine ⟨hat.first, hcategory, ?_, Nat.ne_of_gt hat.lt⟩
    rw [if_pos hat.any, ← hat.stop_eq]

theorem hit?_word_eq_none (hpattern : l.pattern = .plus (wordTest ignoreCase))
    (hliterals : l.literals? = none) :
    (Rule.lexeme l).hit? src pos = none ↔
      src.before Unicode.isWord pos = true ∨ src[pos]?.any Unicode.isWord = false := by
  rw [Option.eq_none_iff_forall_ne_some]
  constructor
  · intro h
    by_contra hnot
    simp only [not_or, Bool.not_eq_true, Bool.not_eq_false] at hnot
    have hat := Source.wordAt_runEnd hnot.1 hnot.2
    generalize src.runEnd Unicode.isWord pos = stop at hat
    have hfound : (Rule.lexeme l).hit? src pos = some ⟨l.classify (src.slice pos stop), stop⟩ :=
      (hit?_word hpattern hliterals).mpr ⟨hat, rfl⟩
    exact h _ hfound
  · intro h hit hfound
    obtain ⟨hat, -⟩ := (hit?_word hpattern hliterals).mp hfound
    rcases h with hbefore | hword
    · rw [hat.first] at hbefore
      cases hbefore
    · rw [hat.any] at hword
      cases hword

/-- The category of a word by the lists, the first list first. -/
theorem classify_eq_keyword {word : String} :
    l.classify word = some .keyword ↔ l.key word ∈ l.keywords := by
  change (if l.key word ∈ l.keywords then some Category.keyword
    else if l.key word ∈ l.builtins then some .builtin else none) = _ ↔ _
  by_cases hk : l.key word ∈ l.keywords
  · simp [hk]
  · by_cases hb : l.key word ∈ l.builtins <;> simp [hk, hb]

theorem classify_eq_builtin {word : String} :
    l.classify word = some .builtin ↔ l.key word ∈ l.builtins ∧ l.key word ∉ l.keywords := by
  change (if l.key word ∈ l.keywords then some Category.keyword
    else if l.key word ∈ l.builtins then some .builtin else none) = _ ↔ _
  by_cases hk : l.key word ∈ l.keywords
  · simp [hk]
  · by_cases hb : l.key word ∈ l.builtins <;> simp [hk, hb]

end Lexicon

/-! ## Where the scan stands -/

namespace Grammar

variable {g : Grammar} {l : Lexicon} {ignoreCase : Bool}

/-- Whether a place lies within a word, with a word character on both sides. -/
def Within (src : Source) (pos : Nat) : Prop :=
  src.before Unicode.isWord pos = true ∧ src[pos]?.any Unicode.isWord = true

theorem not_within_of_first (h : src.before Unicode.isWord pos = false) : ¬ Within src pos :=
  fun hwithin => absurd (h.symm.trans hwithin.1) Bool.false_ne_true

theorem not_within_of_last (h : src[pos]?.any Unicode.isWord = false) : ¬ Within src pos :=
  fun hwithin => absurd (h.symm.trans hwithin.2) Bool.false_ne_true

section Places

variable (hrules : g.rules = [.lexeme l]) (hpattern : l.pattern = .plus (wordTest ignoreCase))
  (hliterals : l.literals? = none)

include hrules hpattern hliterals

theorem hit?_words {hit : Hit} :
    g.hit? src pos = some hit ↔
      src.WordAt pos hit.stop ∧ hit.category? = l.classify (src.slice pos hit.stop) := by
  rw [Grammar.hit?, hrules, List.findSome?_singleton, Lexicon.hit?_word hpattern hliterals]

theorem hit?_words_eq_none :
    g.hit? src pos = none ↔
      src.before Unicode.isWord pos = true ∨ src[pos]?.any Unicode.isWord = false := by
  rw [Grammar.hit?, hrules, List.findSome?_singleton, Lexicon.hit?_word_eq_none hpattern hliterals]

/-- The scan never stands within a word. -/
theorem Reaches.not_within (h : g.Reaches src pos) : ¬ Within src pos := by
  induction h with
  | start => exact not_within_of_first rfl
  | @skip pos _ _ hnone ih =>
      intro hwithin
      have hword := hwithin.1
      rw [Source.before_succ] at hword
      rcases (hit?_words_eq_none hrules hpattern hliterals).mp hnone with hbefore | hnot
      · exact ih ⟨hbefore, hword⟩
      · rw [hnot] at hword
        cases hword
  | hit _ _ hfound =>
      obtain ⟨hat, -⟩ := (hit?_words hrules hpattern hliterals).mp hfound
      exact not_within_of_last hat.last

/-- **The scan stands everywhere but within words.** -/
theorem reaches_iff (hpos : pos ≤ src.size) : g.Reaches src pos ↔ ¬ Within src pos := by
  refine ⟨Reaches.not_within hrules hpattern hliterals, ?_⟩
  induction pos using Nat.strongRecOn with
  | ind pos ih =>
      intro houtside
      cases hbefore : src.before Unicode.isWord pos with
      | true =>
          -- the place is the end of a word, which the scan goes over from its beginning
          obtain ⟨start, hfrom⟩ := Source.exists_wordFrom hbefore
          have hat : src.WordAt start pos :=
            ⟨hfrom, Bool.eq_false_iff.mpr fun hword => houtside ⟨hbefore, hword⟩⟩
          have hlt := hfrom.lt
          have hstart : g.Reaches src start :=
            ih start hlt (by omega) (not_within_of_first hfrom.first)
          have hit : g.hit? src start = some ⟨l.classify (src.slice start pos), pos⟩ :=
            (hit?_words hrules hpattern hliterals).mpr ⟨hat, rfl⟩
          exact hstart.hit (by omega) hit
      | false =>
          -- a character that is none of a word stands before, and the scan goes over it
          cases pos with
          | zero => exact .start
          | succ pos =>
              rw [Source.before_succ] at hbefore
              have hstand : g.Reaches src pos :=
                ih pos (Nat.lt_succ_self pos) (by omega) (not_within_of_last hbefore)
              exact hstand.skip (by omega)
                ((hit?_words_eq_none hrules hpattern hliterals).mpr (Or.inr hbefore))

/-- **The tokens of a category are the words that the lists give it**, unless it is that of plain
text. -/
theorem mem_scan_words (hg : g.Advances) {t : Token} {c : Category} (hc : c ≠ .text) :
    t ∈ g.scan src ∧ t.category = c ↔
      ∃ start stop, src.WordAt start stop ∧ l.classify (src.slice start stop) = some c ∧
        t = src.token c start stop := by
  have hscan := scan_scans hg src
  constructor
  · intro h
    obtain ⟨ht, hcategory⟩ := h
    obtain ⟨pos, stop, c', -, -, hit, rfl⟩ := hscan.exists_hit .start ht (hcategory ▸ hc)
    obtain rfl : c' = c := hcategory
    obtain ⟨hat, hlisted⟩ := (hit?_words hrules hpattern hliterals).mp hit
    exact ⟨pos, stop, hat, hlisted.symm, rfl⟩
  · intro h
    obtain ⟨start, stop, hat, hlisted, rfl⟩ := h
    have hlt := Source.lt_size_of_any hat.any
    have hreached : g.Reaches src start :=
      (reaches_iff hrules hpattern hliterals (Nat.le_of_lt hlt)).mpr
        (not_within_of_first hat.first)
    have hit : g.hit? src start = some ⟨some c, stop⟩ :=
      (hit?_words hrules hpattern hliterals).mpr ⟨hat, hlisted.symm⟩
    exact ⟨hscan.mem_of_hit hreached hlt hit, rfl⟩

end Places

/-- The form in which a word is looked up. -/
def wordKey (g : Grammar) (word : String) : String :=
  if g.caseSensitive then word else Unicode.foldCase word

/-- What the tokens of a text are when all that is done is to look its words up. -/
structure LooksWordsUp (g : Grammar) (w : WordLists) (src : Source) (ts : List Token) : Prop where
  /-- The set of keywords is made from the list of keywords, -/
  keywords : ∀ x, x ∈ g.keywords ↔ ∃ e, Value.string e ∈ w.keyword ∧ x = g.wordKey e
  /-- and the set of built-ins from the list of built-ins. -/
  builtins : ∀ x, x ∈ g.builtins ↔ ∃ e, Value.string e ∈ w.builtin ∧ x = g.wordKey e
  /-- The tokens lie end to end over the text. -/
  covers : Covers src 0 ts
  /-- The keywords are the words that are in the set of keywords. -/
  keyword : ∀ t, t ∈ ts ∧ t.category = .keyword ↔
    ∃ start stop, src.WordAt start stop ∧ g.wordKey (src.slice start stop) ∈ g.keywords ∧
      t = src.token .keyword start stop
  /-- The built-ins are the words that are in the set of built-ins and in that of keywords not. -/
  builtin : ∀ t, t ∈ ts ∧ t.category = .builtin ↔
    ∃ start stop, src.WordAt start stop ∧ g.wordKey (src.slice start stop) ∈ g.builtins ∧
      g.wordKey (src.slice start stop) ∉ g.keywords ∧ t = src.token .builtin start stop
  /-- All other tokens are plain text. -/
  plain : ∀ t ∈ ts, t.category = .keyword ∨ t.category = .builtin ∨ t.category = .text
  /-- Nothing is found within a longer word. -/
  whole : ∀ t ∈ ts, t.category ≠ .text → src.WordAt t.start t.stop

end Grammar

/-! ## Compiled word lists -/

open Compiling

theorem Compiling.written_wordPattern [CharacterNames] (language : String) (ignoreCase : Bool) :
    written language ignoreCase (.string "\\w+") = .ok (.plus (wordTest ignoreCase)) := by
  have htext : (Value.string "\\w+").nonEmpty? = some "\\w+" := by decide
  rw [written, htext]
  dsimp only
  rw [read_wordPattern]
  rfl

namespace WordLists

variable {w : WordLists} {language : String} {caseSensitive : Bool} {l : Lexicon}

/-- The sets of a lexicon hold the forms in which the entries of the lists are looked up. -/
theorem mem_lexicon [CharacterNames] (h : w.compile language caseSensitive = .ok l) (x : String) :
    (x ∈ l.keywords ↔ ∃ e, Value.string e ∈ w.keyword ∧ x = l.key e) ∧
      (x ∈ l.builtins ↔ ∃ e, Value.string e ∈ w.builtin ∧ x = l.key e) := by
  obtain ⟨keywords, builtins, pattern, hk, hb, -, rfl⟩ := compile_ok h
  rw [textsOf_ok hk, textsOf_ok hb]
  simp [mem_listedWords, Lexicon.key]

/-- With word characters only, the lexeme pattern is responsible for every entry. -/
theorem lexicon_of_words [CharacterNames] (h : w.compile language caseSensitive = .ok l)
    (hpattern : w.pattern = .string "\\w+")
    (hword : ∀ e ∈ w.entries, ∀ c ∈ e.toList, Unicode.isWord c = true) :
    l.pattern = .plus (wordTest !caseSensitive) ∧ l.literals? = none := by
  have hread : l.pattern = .plus (wordTest !caseSensitive) := by
    obtain ⟨_, _, pattern, -, -, hp, rfl⟩ := compile_ok h
    rw [hpattern, written_wordPattern] at hp
    exact (Except.ok.inj hp).symm
  obtain ⟨-, hliterals, hentries⟩ := lexicon_of_compile h
  have hothers : w.others l.pattern = [] := by
    refine List.filter_eq_nil_iff.mpr fun e he => ?_
    have he := List.mem_eraseDups.mp he
    rw [hread, describes_word (hentries e he).1 (hword e he)]
    exact Bool.false_ne_true
  rw [hothers] at hliterals
  exact ⟨hread, hliterals⟩

end WordLists

namespace LanguageDescription

/-- The sets of a grammar are those of its lexicon. -/
theorem compile_sets [CharacterNames] {language : String} {d : LanguageDescription} {w : WordLists}
    {g : Grammar} {l : Lexicon} (h : d.compile language = .ok g) (hw : d.words? = some w)
    (hl : w.compile language d.caseSensitive = .ok l) :
    g.caseSensitive = d.caseSensitive ∧ g.keywords = l.keywords ∧ g.builtins = l.builtins := by
  obtain ⟨_, _, lexicon?, -, -, -, hlex, rfl⟩ := compile_ok h
  rw [hw, Option.mapM_some] at hlex
  obtain ⟨l', hl', hlex⟩ := bind_ok.mp hlex
  obtain rfl := Except.ok.inj (hl.symm.trans hl')
  obtain rfl := pure_ok.mp hlex
  exact ⟨rfl, rfl, rfl⟩

/--
**Word lists alone look words up.**

In a language that has no other rules than word lists, where a lexeme is a row of word characters and
the entries are made of word characters only, the keywords in a text are its words that are in the
set of keywords, and the built-ins are those that are in the set of built-ins only. A word is as long
as word characters go, on both sides, so nothing is found within a longer one. All else is plain
text. Where case is not looked at, entries and words are looked up by their folded forms.
-/
theorem tokenize_words [CharacterNames] {language : Value} {d : LanguageDescription} {w : WordLists}
    {g : Grammar} (hg : (Offer.description d).compile language = .ok g) (hw : d.words? = some w)
    (hrules : d.contains = []) (hpattern : w.pattern = .string "\\w+")
    (hword : ∀ e ∈ w.entries, ∀ c ∈ e.toList, Unicode.isWord c = true) (text : String) :
    g.LooksWordsUp w (.ofString text) (g.tokenize text) := by
  obtain ⟨name, d', -, hd', hcompile⟩ := Offer.compile_ok hg
  obtain rfl : d = d' := Offer.description.inj hd'
  obtain ⟨l, hl, hlexeme, -⟩ := compile_words hcompile hw hrules
  obtain ⟨hcase, hkeywords, hbuiltins⟩ := compile_sets hcompile hw hl
  obtain ⟨hread, hliterals⟩ := WordLists.lexicon_of_words hl hpattern hword
  have hkey : g.wordKey = l.key := by
    funext word
    rw [Grammar.wordKey, Lexicon.key, hcase, (WordLists.lexicon_of_compile hl).1]
  have hadv := Offer.compile_advances hg
  have hfound : ∀ {t : Token} {c : Category}, c ≠ .text →
      (t ∈ g.tokenize text ∧ t.category = c ↔ ∃ start stop, (Source.ofString text).WordAt start stop ∧
        l.classify ((Source.ofString text).slice start stop) = some c ∧
        t = (Source.ofString text).token c start stop) :=
    fun hc => Grammar.mem_scan_words hlexeme hread hliterals hadv hc
  refine ⟨fun x => ?_, fun x => ?_, ?_, fun t => ?_, fun t => ?_, fun t ht => ?_, fun t ht hne => ?_⟩
  · rw [hkeywords, hkey]
    exact (WordLists.mem_lexicon hl x).1
  · rw [hbuiltins, hkey]
    exact (WordLists.mem_lexicon hl x).2
  · exact (Grammar.scan_scans hadv _).covers hadv (Nat.le_refl _) (Nat.zero_le _)
  · rw [hkey, hkeywords, hfound (by decide)]
    simp only [Lexicon.classify_eq_keyword]
  · rw [hkey, hkeywords, hbuiltins, hfound (by decide)]
    simp only [Lexicon.classify_eq_builtin, and_assoc]
  · by_cases hne : t.category = .text
    · exact Or.inr (Or.inr hne)
    · obtain ⟨_, _, _, hlisted, _⟩ := (hfound hne).mp ⟨ht, rfl⟩
      rcases Lexicon.classify_eq_some hlisted with ⟨hc, -⟩ | ⟨hc, -⟩
      · exact Or.inl hc
      · exact Or.inr (Or.inl hc)
  · obtain ⟨_, _, hat, _, heq⟩ := (hfound hne).mp ⟨ht, rfl⟩
    rw [heq]
    exact hat

/-- A keyword, and a built-in that has another form where case is not looked at. -/
def roadWords : WordLists where
  keyword := [.string "end"]
  builtin := [.string "Straße"]

/-- A language of these words, of which case is not looked at. -/
def roads : LanguageDescription where
  title := .string "Roads"
  caseSensitive := false
  words? := some roadWords

theorem tokenize_words_roads :
    ∃ g, (Offer.description roads).compile (.string "roads") = .ok g ∧
      g.LooksWordsUp roadWords (.ofString "End ends STRASSE") (g.tokenize "End ends STRASSE") ∧
      g.tokenize "End ends STRASSE" =
        [⟨⟨.keyword, "End"⟩, 0, 3⟩, ⟨⟨.text, " ends "⟩, 3, 9⟩, ⟨⟨.builtin, "STRASSE"⟩, 9, 16⟩] := by
  obtain ⟨g, hg, htokens⟩ := Compiling.exists_ok
    (show ((Offer.description roads).compile (.string "roads")).toOption.any (fun g =>
      g.tokenize "End ends STRASSE" =
        [⟨⟨.keyword, "End"⟩, 0, 3⟩, ⟨⟨.text, " ends "⟩, 3, 9⟩, ⟨⟨.builtin, "STRASSE"⟩, 9, 16⟩]) =
      true by decide +kernel)
  have hall : roadWords.entries.all (fun e => e.toList.all Unicode.isWord) = true := by
    decide +kernel
  have hword : ∀ e ∈ roadWords.entries, ∀ c ∈ e.toList, Unicode.isWord c = true :=
    fun e he => List.all_eq_true.mp (List.all_eq_true.mp hall e he)
  exact ⟨g, hg, tokenize_words hg rfl rfl rfl hword "End ends STRASSE", of_decide_eq_true htokens⟩

end LanguageDescription
end Lexlight
