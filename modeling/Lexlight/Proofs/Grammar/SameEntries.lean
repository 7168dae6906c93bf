import Lexlight.Proofs.Grammar.Refused
import Lexlight.Proofs.Grammar.Words

/-!
# Entries in any order

A word list is written in some order, and an entry may stand in it more than once. What is compiled
knows nothing of that. The words to look up are kept as sets, in increasing order. The entries with a
matcher of their own are another matter, because the order in which the matcher tries them decides
what it finds. But that order is not the order of the list. Entries are tried by their length and
then by their characters, and this leaves no two of them to be tried in either order, so sorting
takes lists with the same members to the same list (`mergeSort_congr`).

A fault may be found at another entry when the order is another. That is all that order can do: the
first faults of two lists with the same members are the same, or both are entries that are no texts
(`FirstAlike`).
-/

namespace Lexlight

open Compiling

/-! ## Sorting -/

/-- **Sorting forgets the order.** Lists without repetitions that have the same members are sorted
into the same list, if no two texts come before each other. -/
theorem mergeSort_congr (before : String → String → Bool)
    (htrans : ∀ a b c, before a b = true → before b c = true → before a c = true)
    (htotal : ∀ a b, (before a b || before b a) = true)
    (hantisymm : ∀ a b, before a b = true → before b a = true → a = b) {xs ys : List String}
    (hxs : xs.Nodup) (hys : ys.Nodup) (h : ∀ x, x ∈ xs ↔ x ∈ ys) :
    xs.mergeSort before = ys.mergeSort before := by
  have hperm : xs.Perm ys := (List.perm_ext_iff_of_nodup hxs hys).mpr h
  have hsorted : (xs.mergeSort before).Perm (ys.mergeSort before) :=
    (List.mergeSort_perm xs before).trans (hperm.trans (List.mergeSort_perm ys before).symm)
  exact hsorted.eq_of_pairwise (fun a b _ _ hab hba => hantisymm a b hab hba)
    (List.pairwise_mergeSort htrans htotal xs) (List.pairwise_mergeSort htrans htotal ys)

theorem mem_eraseDups_congr {xs ys : List String} (h : ∀ x, x ∈ xs ↔ x ∈ ys) (x : String) :
    x ∈ xs.eraseDups ↔ x ∈ ys.eraseDups := by
  rw [List.mem_eraseDups, List.mem_eraseDups, h]

/-- A set of texts is the same for all lists of them. -/
theorem sortedSet_congr {xs ys : List String} (h : ∀ x, x ∈ xs ↔ x ∈ ys) :
    sortedSet xs = sortedSet ys := by
  refine mergeSort_congr _ ?_ ?_ ?_ (nodup_eraseDups xs) (nodup_eraseDups ys) (mem_eraseDups_congr h)
  · intro a b c hab hbc
    exact decide_eq_true (String.le_trans (of_decide_eq_true hab) (of_decide_eq_true hbc))
  · intro a b
    simpa using String.le_total a b
  · intro a b hab hba
    exact String.le_antisymm (of_decide_eq_true hab) (of_decide_eq_true hba)

/-- Two entries that come before each other are of one length and not told apart by their
characters. -/
theorem entryBefore_antisymm {a b : String} (hab : entryBefore a b = true)
    (hba : entryBefore b a = true) : a = b := by
  simp only [entryBefore, Bool.or_eq_true, Bool.and_eq_true, decide_eq_true_eq] at hab hba
  rcases hab with hab | ⟨hlength, hab⟩
  · rcases hba with hba | ⟨hlength, -⟩ <;> omega
  · rcases hba with hba | ⟨-, hba⟩
    · omega
    · exact String.le_antisymm hab hba

/-- Words are kept in the same way if they are the same words. -/
theorem listedWords_congr (caseSensitive : Bool) {xs ys : List String} (h : ∀ x, x ∈ xs ↔ x ∈ ys) :
    listedWords caseSensitive xs = listedWords caseSensitive ys := by
  unfold listedWords
  apply sortedSet_congr
  intro x
  cases caseSensitive with
  | true => exact h x
  | false => simp [h]

theorem mem_otherEntries {pattern : Pattern} {keywords builtins : List String} {e : String} :
    e ∈ otherEntries pattern keywords builtins ↔
      (e ∈ keywords ∨ e ∈ builtins) ∧ pattern.describes e = false := by
  rw [otherEntries, List.mem_filter, List.mem_eraseDups, List.mem_append, Bool.not_eq_true']

theorem nodup_otherEntries (pattern : Pattern) (keywords builtins : List String) :
    (otherEntries pattern keywords builtins).Nodup :=
  (nodup_eraseDups _).filter _

/-- **The order in which entries are tried** is the same for all lists of them. -/
theorem sort_otherEntries_congr (pattern : Pattern) {ks ks' bs bs' : List String}
    (hk : ∀ x, x ∈ ks ↔ x ∈ ks') (hb : ∀ x, x ∈ bs ↔ x ∈ bs') :
    (otherEntries pattern ks bs).mergeSort entryBefore =
      (otherEntries pattern ks' bs').mergeSort entryBefore := by
  have hmem : ∀ e, e ∈ otherEntries pattern ks bs ↔ e ∈ otherEntries pattern ks' bs' := by
    intro e
    rw [mem_otherEntries, mem_otherEntries, hk, hb]
  exact mergeSort_congr entryBefore (fun _ _ _ => entryBefore_trans) entryBefore_total
    (fun _ _ => entryBefore_antisymm) (nodup_otherEntries pattern ks bs)
    (nodup_otherEntries pattern ks' bs') hmem

/-! ## Word lists with the same entries -/

/-- Whether two word lists have the same keywords and the same built-ins, in any order and any
number of times, and are alike otherwise. -/
structure WordLists.SameEntries (v w : WordLists) : Prop where
  keyword : ∀ e, e ∈ v.keyword ↔ e ∈ w.keyword
  builtin : ∀ e, e ∈ v.builtin ↔ e ∈ w.builtin
  pattern : v.pattern = w.pattern
  relevance : v.relevance = w.relevance

/-- Checked lists with the same items hold the same texts. -/
theorem mem_congr_of_textsOf {flaw : Value → Flaw} {language : String} {vs ws : List Value}
    {xs ys : List String} (h : ∀ v, v ∈ vs ↔ v ∈ ws) (hxs : textsOf flaw language vs = .ok xs)
    (hys : textsOf flaw language ws = .ok ys) (x : String) : x ∈ xs ↔ x ∈ ys := by
  have hitem := h (.string x)
  rw [textsOf_ok hxs, textsOf_ok hys] at hitem
  simpa using hitem

/-- **Word lists with the same entries have one lexicon**, if they have any. -/
theorem WordLists.SameEntries.lexicon [CharacterNames] {v w : WordLists} (h : v.SameEntries w)
    {language : String} {caseSensitive : Bool} {l l' : Lexicon}
    (hv : v.compile language caseSensitive = .ok l)
    (hw : w.compile language caseSensitive = .ok l') : l = l' := by
  obtain ⟨ks, bs, p, hks, hbs, hp, rfl⟩ := WordLists.compile_ok hv
  obtain ⟨ks', bs', p', hks', hbs', hp', rfl⟩ := WordLists.compile_ok hw
  obtain rfl : p = p' := by
    rw [h.pattern, hp'] at hp
    exact (Except.ok.inj hp).symm
  have hk := mem_congr_of_textsOf h.keyword hks hks'
  have hb := mem_congr_of_textsOf h.builtin hbs hbs'
  have htried := sort_otherEntries_congr p hk hb
  have hempty : (otherEntries p ks bs).isEmpty = (otherEntries p ks' bs').isEmpty := by
    have hlength := congrArg List.length htried
    rw [List.length_mergeSort, List.length_mergeSort] at hlength
    rw [Bool.eq_iff_iff, List.isEmpty_iff_length_eq_zero, List.isEmpty_iff_length_eq_zero, hlength]
  rw [h.relevance, htried, hempty, listedWords_congr caseSensitive hk,
    listedWords_congr caseSensitive hb]

/-- A description with given word lists. -/
def LanguageDescription.withWords (d : LanguageDescription) (w : WordLists) : LanguageDescription :=
  { d with words? := some w }

namespace LanguageDescription

variable {v w : WordLists} {language : String} {d : LanguageDescription}

/-- The parts of a compiled description with given word lists. -/
theorem compile_withWords [CharacterNames] {g : Grammar}
    (h : (d.withWords w).compile language = .ok g) :
    ∃ aliases rules l,
      textsOf .badAlias language d.aliases = .ok aliases ∧
      d.contains.mapM (·.compile language (!d.caseSensitive)) = .ok rules ∧
      w.compile language d.caseSensitive = .ok l ∧
      g = {
        language
        title := d.title
        aliases := sortedSet (aliases.filter (· ≠ language))
        caseSensitive := d.caseSensitive
        rules := rules.flatten ++ [.lexeme l]
        keywords := l.keywords
        builtins := l.builtins } := by
  obtain ⟨aliases, rules, lexicon?, -, ha, hr, hlex, rfl⟩ := compile_ok h
  have hsome : (some w).mapM (·.compile language d.caseSensitive) = .ok lexicon? := hlex
  rw [Option.mapM_some] at hsome
  obtain ⟨l, hl, hsome⟩ := bind_ok.mp hsome
  obtain rfl := pure_ok.mp hsome
  exact ⟨aliases, rules, l, ha, hr, hl, rfl⟩

/-- **Descriptions with the same entries make one grammar**, if they make any. -/
theorem grammar_of_sameEntries [CharacterNames] (h : v.SameEntries w) {g g' : Grammar}
    (hv : (d.withWords v).compile language = .ok g)
    (hw : (d.withWords w).compile language = .ok g') : g = g' := by
  obtain ⟨aliases, rules, l, ha, hr, hl, rfl⟩ := compile_withWords hv
  obtain ⟨aliases', rules', l', ha', hr', hl', rfl⟩ := compile_withWords hw
  obtain rfl := Except.ok.inj (ha.symm.trans ha')
  obtain rfl := Except.ok.inj (hr.symm.trans hr')
  obtain rfl := h.lexicon hl hl'
  rfl

end LanguageDescription

/-! ## The first faults -/

/-- Whether two failures are the same, or both are for entries that are no texts. -/
def Failure.AlikeButForEntry (f f' : Failure) : Prop :=
  f = f' ∨ ∃ language e e', f = .flaw language (.badEntry e) ∧ f' = .flaw language (.badEntry e')

/-- Whether there are no faults in two lists, or the first of them are alike. -/
def FirstAlike (fs gs : List Failure) : Prop :=
  fs = [] ∧ gs = [] ∨
    ∃ f g, fs.head? = some f ∧ gs.head? = some g ∧ f.AlikeButForEntry g

namespace FirstAlike

variable {fs gs fs' gs' : List Failure}

theorem refl (fs : List Failure) : FirstAlike fs fs := by
  cases fs with
  | nil => exact Or.inl ⟨rfl, rfl⟩
  | cons f fs => exact Or.inr ⟨f, f, rfl, rfl, Or.inl rfl⟩

theorem append (h : FirstAlike fs gs) (h' : FirstAlike fs' gs') :
    FirstAlike (fs ++ fs') (gs ++ gs') := by
  rcases h with ⟨rfl, rfl⟩ | ⟨f, g, hf, hg, halike⟩
  · exact h'
  · refine Or.inr ⟨f, g, ?_, ?_, halike⟩
    · rw [List.head?_append, hf, Option.some_or]
    · rw [List.head?_append, hg, Option.some_or]

/-- Of lists with the same faults, all for entries, none has any or both have one at the start. -/
theorem of_mem_iff (language : String) (h : ∀ f, f ∈ fs ↔ f ∈ gs)
    (hentry : ∀ f ∈ fs, ∃ e, f = .flaw language (.badEntry e)) : FirstAlike fs gs := by
  rcases fs with _ | ⟨f, fs⟩
  · refine Or.inl ⟨rfl, List.eq_nil_iff_forall_not_mem.mpr fun g hg => ?_⟩
    exact absurd ((h g).mpr hg) List.not_mem_nil
  · rcases gs with _ | ⟨g, gs⟩
    · exact absurd ((h f).mp List.mem_cons_self) List.not_mem_nil
    · obtain ⟨e, rfl⟩ := hentry f List.mem_cons_self
      obtain ⟨e', rfl⟩ := hentry g ((h g).mpr List.mem_cons_self)
      exact Or.inr ⟨_, _, rfl, rfl, Or.inr ⟨language, e, e', rfl, rfl⟩⟩

end FirstAlike

/-- Lists with the same entries have first faults that are alike, if they have any. -/
theorem firstAlike_entries (language : String) {vs ws : List Value} (h : ∀ e, e ∈ vs ↔ e ∈ ws) :
    FirstAlike (vs.flatMap fun e => e.textFaults language (.badEntry e))
      (ws.flatMap fun e => e.textFaults language (.badEntry e)) := by
  refine FirstAlike.of_mem_iff language (fun f => ?_) fun f hf => ?_
  · simp only [List.mem_flatMap, h]
  · obtain ⟨e, -, hf⟩ := List.mem_flatMap.mp hf
    unfold Value.textFaults at hf
    split at hf
    · cases hf
    · exact ⟨e, List.mem_singleton.mp hf⟩

theorem WordLists.SameEntries.firstAlike [CharacterNames] {v w : WordLists} (h : v.SameEntries w)
    (language : String) (ignoreCase : Bool) :
    FirstAlike (v.faults language ignoreCase) (w.faults language ignoreCase) := by
  unfold WordLists.faults
  rw [h.pattern]
  exact (firstAlike_entries language h.keyword).append
    ((firstAlike_entries language h.builtin).append (.refl _))

/-- The word lists are the last part of a description. What comes before them has the same faults. -/
theorem Offer.firstAlike_of_sameEntries [CharacterNames] {v w : WordLists} (h : v.SameEntries w)
    (language : Value) (d : LanguageDescription) :
    FirstAlike ((Offer.description (d.withWords v)).faults language)
      ((Offer.description (d.withWords w)).faults language) := by
  have hwords : FirstAlike ([v].flatMap (·.faults language.plain (!d.caseSensitive)))
      ([w].flatMap (·.faults language.plain (!d.caseSensitive))) := by
    rw [List.flatMap_singleton, List.flatMap_singleton]
    exact h.firstAlike language.plain (!d.caseSensitive)
  unfold Offer.faults
  refine (FirstAlike.refl _).append ?_
  exact (FirstAlike.refl _).append ((FirstAlike.refl _).append ((FirstAlike.refl _).append hwords))

/--
**Order and repetition of entries do not matter.**

Take any description, of a language where case is looked at or one where it is not, and give it two
word lists with the same keywords and the same built-ins, in any order and any number of times, and
with the same pattern and weight. Either both are refused, or both are compiled into one and the same
grammar: the tokens of every text, the sets of words and the weight of every text are the same. Where
both are refused, it is for the same fault, or for an entry that is no text in either case.
-/
theorem compile_same_entries [CharacterNames] {v w : WordLists} (h : v.SameEntries w)
    (language : Value) (d : LanguageDescription) :
    (∃ g, (Offer.description (d.withWords v)).compile language = .ok g ∧
      (Offer.description (d.withWords w)).compile language = .ok g) ∨
    ∃ f f', (Offer.description (d.withWords v)).compile language = .error f ∧
      (Offer.description (d.withWords w)).compile language = .error f' ∧ f.AlikeButForEntry f' := by
  have hv := (Offer.description (d.withWords v)).compile_reports language
  have hw := (Offer.description (d.withWords w)).compile_reports language
  unfold Compiling.Reports at hv hw
  rcases Offer.firstAlike_of_sameEntries h language d with ⟨hfs, hgs⟩ | ⟨f, f', hf, hf', halike⟩
  · rw [hfs, List.head?_nil, failure?_eq_none] at hv
    rw [hgs, List.head?_nil, failure?_eq_none] at hw
    obtain ⟨g, hg⟩ := hv
    obtain ⟨g', hg'⟩ := hw
    obtain ⟨name, d₁, hname, hd₁, hcompile⟩ := Offer.compile_ok hg
    obtain ⟨name', d₂, hname', hd₂, hcompile'⟩ := Offer.compile_ok hg'
    obtain rfl := Offer.description.inj hd₁
    obtain rfl := Offer.description.inj hd₂
    obtain rfl := Option.some.inj (hname.symm.trans hname')
    obtain rfl := LanguageDescription.grammar_of_sameEntries h hcompile hcompile'
    exact Or.inl ⟨g, hg, hg'⟩
  · rw [hf, failure?_eq_some] at hv
    rw [hf', failure?_eq_some] at hw
    exact Or.inr ⟨f, f', hv, hw, halike⟩

/-- Two signs of which one begins the other, and a word. -/
def signsAndEnd : WordLists where
  keyword := [.string "+", .string "+=", .string "end"]
  builtin := [.string "x"]

/-- The same in another order, with repetitions. -/
def endAndSigns : WordLists where
  keyword := [.string "end", .string "+=", .string "+", .string "+="]
  builtin := [.string "x", .string "x"]

/-- A language in which case is not looked at. -/
def sums : LanguageDescription where
  title := .string "Sums"
  caseSensitive := false

theorem compile_same_entries_sums :
    signsAndEnd.SameEntries endAndSigns ∧ signsAndEnd.entries ≠ endAndSigns.entries ∧
    ∃ g, (Offer.description (sums.withWords signsAndEnd)).compile (.string "sums") = .ok g ∧
      (Offer.description (sums.withWords endAndSigns)).compile (.string "sums") = .ok g := by
  have hsame : signsAndEnd.SameEntries endAndSigns := by
    refine ⟨fun e => ?_, fun e => ?_, rfl, rfl⟩
    · simp only [signsAndEnd, endAndSigns, List.mem_cons, List.not_mem_nil, or_false]
      tauto
    · simp only [signsAndEnd, endAndSigns, List.mem_cons, List.not_mem_nil, or_false, or_self]
  obtain ⟨g, hg, -⟩ := Compiling.exists_ok
    (show ((Offer.description (sums.withWords signsAndEnd)).compile (.string "sums")).toOption.any
      (fun _ => true) = true by decide +kernel)
  refine ⟨hsame, by decide, g, hg, ?_⟩
  rcases compile_same_entries hsame (.string "sums") sums with ⟨g', hg', hw⟩ | ⟨f, f', hf, -, -⟩
  · obtain rfl := Except.ok.inj (hg.symm.trans hg')
    exact hw
  · rw [hg] at hf
    cases hf

end Lexlight
