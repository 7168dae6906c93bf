import Lexlight.Proofs.Scan.Append
import Lexlight.Proofs.Scan.Gather

/-!
# What a text weighs

Weights are declared by rules and looked up by category. What a rule has found weighs as much as its
category, and the weight of a category is what the first of the rules declares that declare one for
it, whichever rule the find comes from. So when two rules share a category, the weight that the later
one declares is never looked at.

The weight of a text is put together here from the strides of its path (`relevance_by_category`).
Where rules that share a category declare the same weight for it, each find weighs what the rule
declares that found it; rules that do not agree are the exception (`weight_of_other_rule`).
-/

namespace Lexlight

/-! ## What rules declare -/

/-- The weight that a rule declares, for whatever category. -/
def Rule.declared : Rule → Int
  | .token _ _ relevance => relevance
  | .lexeme l => l.relevance

variable {src : Source} {pos stop : Nat} {c : Category} {w : Int}

theorem Rule.eq_declared {r : Rule} (h : r.weight? c = some w) : w = r.declared := by
  cases r with
  | token category p relevance =>
      obtain ⟨_, h⟩ := Option.ite_none_right_eq_some.mp h
      exact (Option.some.inj h).symm
  | lexeme l =>
      obtain ⟨_, h⟩ := Option.ite_none_right_eq_some.mp h
      exact (Option.some.inj h).symm

/-- A rule declares a weight for each category that it gives. -/
theorem Rule.weight?_of_hit {r : Rule} (h : r.hit? src pos = some ⟨some c, stop⟩) :
    r.weight? c = some r.declared := by
  cases r with
  | token category p relevance =>
      obtain ⟨_, _, hc⟩ := Rule.hit?_token.mp h
      exact if_pos (Option.some.inj hc).symm
  | lexeme l =>
      obtain ⟨_, hc, _⟩ := Rule.hit?_lexeme.mp h
      rcases Lexicon.classify_eq_some hc.symm with ⟨hc, _⟩ | ⟨hc, _⟩
      · exact if_pos (Or.inl hc)
      · exact if_pos (Or.inr hc)

/-- Whether a rule declares the weight that the part of the description says which it comes from. -/
def LanguageDescription.Declares [CharacterNames] (d : LanguageDescription) (language : String)
    (r : Rule) : Prop :=
  (∃ rd ∈ d.contains, ∃ rs, rd.compile language (!d.caseSensitive) = .ok rs ∧ r ∈ rs ∧
      r.declared = rd.relevance) ∨
    ∃ w l, d.words? = some w ∧ w.compile language d.caseSensitive = .ok l ∧ r = .lexeme l ∧
      r.declared = w.relevance

theorem LanguageDescription.declares_of_mem [CharacterNames] {language : String}
    {d : LanguageDescription} {g : Grammar} {r : Rule} (h : d.compile language = .ok g)
    (hr : r ∈ g.rules) : d.Declares language r := by
  rcases mem_rules h hr with ⟨rd, hmem, rs, hrd, hr⟩ | ⟨w, l, hw, hl, rfl⟩
  · obtain ⟨c, p, rfl⟩ := rd.compile_token hrd hr
    exact Or.inl ⟨rd, hmem, rs, hrd, hr, rfl⟩
  · refine Or.inr ⟨w, l, hw, hl, rfl, ?_⟩
    obtain ⟨_, _, _, _, _, _, rfl⟩ := WordLists.compile_ok hl
    rfl

/-! ## Sums over strides -/

/-- The sum of a number for each stride of a path. -/
def total (f : Stride → Int) (path : List Stride) : Int := (path.map f).foldr (· + ·) 0

theorem total_cons (f : Stride → Int) (s : Stride) (path : List Stride) :
    total f (s :: path) = f s + total f path := rfl

theorem total_append (f : Stride → Int) (path more : List Stride) :
    total f (path ++ more) = total f path + total f more := by
  induction path with
  | nil => exact (Int.zero_add _).symm
  | cons s path ih => rw [List.cons_append, total_cons, total_cons, ih, Int.add_assoc]

theorem total_congr {f f' : Stride → Int} {path : List Stride} (h : ∀ s ∈ path, f s = f' s) :
    total f path = total f' path := by
  unfold total
  rw [List.map_congr_left h]

theorem total_eq_zero {f : Stride → Int} {path : List Stride} (h : ∀ s ∈ path, f s = 0) :
    total f path = 0 := by
  induction path with
  | nil => rfl
  | cons s path ih =>
      rw [total_cons, h s (List.mem_cons_self ..), ih fun t ht => h t (List.mem_cons_of_mem _ ht)]
      rfl

namespace Grammar

variable {g : Grammar}

/-! ## The weight of a category -/

/-- `w` is what the first rule declares that declares a weight for a category. -/
def FirstDeclares (g : Grammar) (c : Category) (w : Int) : Prop :=
  ∃ before r after, g.rules = before ++ r :: after ∧ r.weight? c = some w ∧ r.declared = w ∧
    ∀ q ∈ before, q.weight? c = none

/-- Whether rules that declare weights for one category declare the same. -/
def Agreeing (g : Grammar) : Prop :=
  ∀ r ∈ g.rules, ∀ q ∈ g.rules, ∀ c v w, r.weight? c = some v → q.weight? c = some w → v = w

theorem firstDeclares_of_mem {r : Rule} (hr : r ∈ g.rules) (h : r.weight? c = some w) :
    g.FirstDeclares c (g.relevanceOf c) := by
  unfold relevanceOf
  cases hfirst : g.rules.findSome? (·.weight? c) with
  | none =>
      rw [List.findSome?_eq_none_iff.mp hfirst r hr] at h
      cases h
  | some v =>
      obtain ⟨before, q, after, hrules, hq, hbefore⟩ := List.findSome?_eq_some_iff.mp hfirst
      exact ⟨before, q, after, hrules, hq, (Rule.eq_declared hq).symm, hbefore⟩

/-- Among rules that agree, each declares the weight of its category. -/
theorem Agreeing.declared_eq (h : g.Agreeing) {r : Rule} (hr : r ∈ g.rules)
    (hw : r.weight? c = some r.declared) : g.relevanceOf c = r.declared := by
  obtain ⟨_, q, _, hrules, hq, _⟩ := firstDeclares_of_mem hr hw
  have hmem : q ∈ g.rules := by
    rw [hrules]
    exact List.mem_append_right _ (List.mem_cons_self ..)
  exact h q hmem r hr c _ _ hq hw

/-- Plain text weighs nothing when no rule is for it. -/
theorem relevanceOf_text_eq_zero (h : ∀ r ∈ g.rules, r.category? ≠ some .text) :
    g.relevanceOf .text = 0 := by
  have hnone : g.rules.findSome? (·.weight? .text) = none := by
    refine List.findSome?_eq_none_iff.mpr fun r hr => ?_
    cases r with
    | token category p relevance => exact if_neg fun hc => h _ hr (congrArg some hc)
    | lexeme l => rfl
  rw [relevanceOf, hnone, Option.getD_none]

/-! ## The rule that found something -/

/-- The rule that finds something at a place, which is the first that does. -/
def finder? (g : Grammar) (src : Source) (pos : Nat) : Option Rule :=
  g.rules.find? fun r => (r.hit? src pos).isSome

theorem finder?_of_firstHit {hit : Hit} (h : g.FirstHit src pos hit) :
    ∃ r ∈ g.rules, g.finder? src pos = some r ∧ r.hit? src pos = some hit := by
  obtain ⟨before, r, after, hrules, hhit, hbefore⟩ := h
  refine ⟨r, ?_, ?_, hhit⟩
  · rw [hrules]
    exact List.mem_append_right _ (List.mem_cons_self ..)
  · refine List.find?_eq_some_iff_append.mpr ⟨by rw [hhit]; rfl, before, after, hrules, ?_⟩
    intro q hq
    rw [hbefore q hq]
    rfl

/-- A stride with a category was found by a rule, which declares a weight for the category. -/
theorem Path.exists_finder {path : List Stride} {s : Stride} (h : Path g src pos path)
    (hs : s ∈ path) (hc : s.category? = some c) :
    ∃ r ∈ g.rules, g.finder? src s.start = some r ∧ r.weight? c = some r.declared := by
  induction h with
  | done => cases hs
  | @hit pos hit rest _ hf _ ih =>
      rcases List.mem_cons.mp hs with rfl | hs
      · obtain ⟨category?, stop⟩ := hit
        obtain rfl : category? = some c := hc
        obtain ⟨r, hr, hfinder, hhit⟩ := finder?_of_firstHit hf
        exact ⟨r, hr, hfinder, Rule.weight?_of_hit hhit⟩
      · exact ih hs
  | skip _ _ _ ih =>
      rcases List.mem_cons.mp hs with rfl | hs
      · cases hc
      · exact ih hs

/-! ## The weight of a text -/

/-- What a stride weighs: as much as its category, if it has one. -/
def weightOf (g : Grammar) (s : Stride) : Int := (s.category?.map g.relevanceOf).getD 0

/-- What the rule declares that found a stride, if the stride has a category. -/
def declaredFor (g : Grammar) (src : Source) (s : Stride) : Int :=
  (s.category?.bind fun _ => (g.finder? src s.start).map Rule.declared).getD 0

theorem weightOf_of_plain {s : Stretch} (h : s.Plain) : total g.weightOf s.strides = 0 := by
  refine total_eq_zero fun t ht => ?_
  rw [weightOf, h t ht]
  rfl

/-- How many of some stretches are plain. -/
def plainRuns (stretches : List Stretch) : Nat :=
  stretches.countP fun s => s.first.category?.isNone

/-- The tokens of some stretches weigh what the strides do, and as much more for each plain stretch
as plain text weighs. -/
theorem weight_tokenOf {stretches : List Stretch}
    (h : ∀ s ∈ stretches, (s.more = [] ∧ s.first.category?.isSome) ∨ s.Plain) :
    g.weight (stretches.map src.tokenOf) =
      total g.weightOf (stretches.flatMap Stretch.strides) +
        plainRuns stretches * g.relevanceOf .text := by
  induction stretches with
  | nil => simp [weight, total, plainRuns]
  | cons s rest ih =>
      have hrest := ih fun t ht => h t (List.mem_cons_of_mem _ ht)
      rw [List.map_cons, weight_cons, hrest, List.flatMap_cons, total_append]
      rcases h s (List.mem_cons_self ..) with ⟨hmore, hsome⟩ | hplain
      · obtain ⟨c, hc⟩ := Option.isSome_iff_exists.mp hsome
        have hcategory : (src.tokenOf s).category = c := by
          show s.first.category?.getD .text = c
          rw [hc, Option.getD_some]
        have htotal : total g.weightOf s.strides = g.relevanceOf c := by
          rw [Stretch.strides, hmore, total_cons, weightOf, hc]
          exact Int.add_zero _
        have hruns : plainRuns (s :: rest) = plainRuns rest :=
          List.countP_cons_of_neg (by simp [hc])
        rw [hcategory, htotal, hruns]
        omega
      · have hnone : s.first.category? = none := hplain _ (List.mem_cons_self ..)
        have hcategory : (src.tokenOf s).category = .text := by
          show s.first.category?.getD .text = .text
          rw [hnone, Option.getD_none]
        have hruns : plainRuns (s :: rest) = plainRuns rest + 1 :=
          List.countP_cons_of_pos (by simp [hnone])
        rw [hcategory, weightOf_of_plain hplain, hruns, Int.natCast_add, Int.add_mul]
        omega

/-- What a text weighs, by the strides of its path and its plain stretches. -/
structure Weighed [CharacterNames] (g : Grammar) (d : LanguageDescription) (src : Source)
    (path : List Stride) (stretches : List Stretch) (weight : Int) : Prop where
  /-- Finds and plain stretches weigh what their categories do. -/
  sum : weight = total g.weightOf path + plainRuns stretches * g.relevanceOf .text
  /-- A category that something was found of weighs what the first rule declares for it. -/
  first : ∀ s ∈ path, ∀ c, s.category? = some c → g.FirstDeclares c (g.relevanceOf c)
  /-- The rule that found something declares a weight for its category. -/
  own : ∀ s ∈ path, ∀ c, s.category? = some c →
    ∃ r ∈ g.rules, g.finder? src s.start = some r ∧ r.weight? c = some r.declared
  /-- What rules declare is what the description gives. -/
  declares : ∀ r ∈ g.rules, d.Declares g.language r
  /-- Plain text weighs nothing unless a rule is for it. -/
  plain : (∀ r ∈ g.rules, r.category? ≠ some .text) → g.relevanceOf .text = 0
  /-- When the rules agree, each find weighs what the rule declares that found it. -/
  agreeing : g.Agreeing → total g.weightOf path = total (g.declaredFor src) path

/--
**Weights go by category.**

The tokens of a text are the stretches of its path. What a rule has found weighs as much as its
category, and a category weighs what the first rule declares that declares a weight for it. What
rules declare is what the description gives. Plain text that no rule has found weighs nothing when no
rule is for plain text. When rules that share a category agree, what a rule has found weighs what
this very rule declares.
-/
theorem relevance_by_category [CharacterNames] {language : Value} {d : LanguageDescription}
    {g : Grammar} (h : (Offer.description d).compile language = .ok g) (text : String) :
    ∃ path stretches, (∀ p, Path g (.ofString text) 0 p ↔ p = path) ∧ Gathers path stretches ∧
      g.tokenize text = stretches.map (Source.ofString text).tokenOf ∧
      g.Weighed d (.ofString text) path stretches (g.relevance text) := by
  have hadvances := Offer.compile_advances h
  obtain ⟨path, hpath, hts⟩ :=
    (scan_scans hadvances (.ofString text)).gathers hadvances (Nat.zero_le _)
  obtain ⟨stretches, hgather, htokens⟩ := hts [] .nil
  have hgather : Gathers path stretches := hgather
  have htokens : g.tokenize text = stretches.map (Source.ofString text).tokenOf := htokens
  have hunique : ∀ p, Path g (.ofString text) 0 p ↔ p = path :=
    fun p => ⟨fun hp => hp.unique hpath, fun hp => hp ▸ hpath⟩
  obtain ⟨name, d', _, hd, hcompile⟩ := Offer.compile_ok h
  obtain rfl : d = d' := Offer.description.inj hd
  obtain rfl : g.language = name := by
    obtain ⟨_, _, _, _, _, _, _, rfl⟩ := LanguageDescription.compile_ok hcompile
    rfl
  refine ⟨path, stretches, hunique, hgather, htokens, ?_, fun s hs c hc => ?_,
    fun s hs c => hpath.exists_finder hs,
    fun r => LanguageDescription.declares_of_mem hcompile, relevanceOf_text_eq_zero,
    fun hagree => ?_⟩
  · rw [relevance_eq_weight, htokens, weight_tokenOf hgather.kinds, hgather.whole]
  · obtain ⟨r, hr, _, hw⟩ := hpath.exists_finder hs hc
    exact firstDeclares_of_mem hr hw
  · refine total_congr fun s hs => ?_
    cases hc : s.category? with
    | none =>
        rw [weightOf, declaredFor, hc]
        rfl
    | some c =>
        obtain ⟨r, hr, hfinder, hw⟩ := hpath.exists_finder hs hc
        rw [weightOf, declaredFor, hc, Option.map_some, Option.getD_some, Option.bind_some, hfinder,
          Option.map_some, Option.getD_some, hagree.declared_eq hr hw]

/-- Two rules for symbols that declare different weights. -/
def rivalSymbols : LanguageDescription where
  title := .string "Symbols"
  contains := [.custom (.string "symbol") (.string "a") 5 [],
    .custom (.string "symbol") (.string "b") 3 []]

/-- A rule for plain text. -/
def weighedText : LanguageDescription where
  title := .string "Text"
  contains := [.custom (.string "text") (.string "a") 5 []]

theorem relevance_by_category_rivals :
    ∃ g, (Offer.description rivalSymbols).compile (.string "x") = .ok g ∧
      ∃ path stretches, (∀ p, Path g (.ofString "b a") 0 p ↔ p = path) ∧ Gathers path stretches ∧
        g.tokenize "b a" = stretches.map (Source.ofString "b a").tokenOf ∧
        g.Weighed rivalSymbols (.ofString "b a") path stretches (g.relevance "b a") := by
  obtain ⟨g, hg, _⟩ := Compiling.exists_ok
    (show ((Offer.description rivalSymbols).compile (.string "x")).toOption.any (fun _ => true) =
      true by decide +kernel)
  exact ⟨g, hg, relevance_by_category hg "b a"⟩

/-- **A weight that no rule on the path declares.** The second rule for symbols declares three, and
what it finds weighs five. Plain text that no rule has found weighs five where a rule is for plain
text. -/
theorem weight_of_other_rule :
    (∃ g path, (Offer.description rivalSymbols).compile (.string "x") = .ok g ∧
      Path g (.ofString "b") 0 path ∧ g.relevance "b" = 5 ∧
      total (g.declaredFor (.ofString "b")) path = 3) ∧
    ∃ g path, (Offer.description weighedText).compile (.string "x") = .ok g ∧
      Path g (.ofString "b") 0 path ∧ g.relevance "b" = 5 ∧
      total (g.declaredFor (.ofString "b")) path = 0 := by
  constructor
  · obtain ⟨g, hg, hseen⟩ := Compiling.exists_ok
      (show ((Offer.description rivalSymbols).compile (.string "x")).toOption.any (fun g =>
        g.relevance "b" = 5 ∧ g.hit? (.ofString "b") 0 = some ⟨some .symbol, 1⟩ ∧
          (g.finder? (.ofString "b") 0).map Rule.declared = some 3) = true by decide +kernel)
    obtain ⟨hweight, hhit, hfinder⟩ := of_decide_eq_true hseen
    refine ⟨g, _, hg, .hit Nat.zero_lt_one (hit?_eq_some_iff.mp hhit) .done, hweight, ?_⟩
    rw [total_cons, declaredFor, Option.bind_some, hfinder]
    rfl
  · obtain ⟨g, hg, hseen⟩ := Compiling.exists_ok
      (show ((Offer.description weighedText).compile (.string "x")).toOption.any (fun g =>
        g.relevance "b" = 5 ∧ g.hit? (.ofString "b") 0 = none) = true by decide +kernel)
    obtain ⟨hweight, hnone⟩ := of_decide_eq_true hseen
    refine ⟨g, _, hg, .skip Nat.zero_lt_one (hit?_eq_none_iff.mp hnone) .done, hweight, ?_⟩
    rfl

end Grammar
end Lexlight
