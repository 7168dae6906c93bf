import Lexlight.Proofs.Grammar.Weights

/-!
# Groups of rules, and the weights of categories

A description with variants stands for as many rules. They are the rules that the variants would make
one by one, each with a pattern of its own and with the category and the weight that the group gives
it (`Variant.alone`): a group can be written out in its place, and what is compiled is the same
grammar (`Ungroups.compile`).

The weights of categories are gathered while the rules are made (`Rule.enter`). What a rule declares
is entered only for a category that has no weight yet, and the word lists come after all the rules.
So the first rule of a category fixes its weight (`relevanceOf_eq_weightBy`), and a description that
is added after the others leaves the weights of their categories as they were.
-/

namespace Lexlight

open Compiling

variable {language : String} {ignoreCase : Bool} {c base : Category} {relevance w : Int}

/-! ## Groups written out -/

/-- A variant as a description of its own, with the weight of its group, and with the category of
its group if it has none. -/
def Variant.alone (category : Value) (relevance : Int) : Variant → RuleDescription
  | .bare pattern => .custom category (.string pattern) relevance []
  | .of pattern .null => .custom category pattern relevance []
  | .of pattern own => .custom own pattern relevance []
  | .unknown v => .unknown v

/-- Whether some descriptions are others in which groups are written out: each group may stay as it
is, or have its variants in its place. -/
inductive Ungroups : List RuleDescription → List RuleDescription → Prop
  | nil : Ungroups [] []
  | keep (d : RuleDescription) {ds es : List RuleDescription} (rest : Ungroups ds es) :
      Ungroups (d :: ds) (d :: es)
  | split (category : Value) (relevance : Int) (variants : List Variant)
      {ds es : List RuleDescription} (rest : Ungroups ds es) :
      Ungroups (.custom category .null relevance variants :: ds)
        (variants.map (Variant.alone category relevance) ++ es)

/-- A description with one pattern makes one rule. -/
theorem RuleDescription.compile_single [CharacterNames] {category pattern : Value} {p : Pattern}
    (hc : Compiling.category language category = .ok c)
    (hp : Compiling.written language ignoreCase pattern = .ok p) :
    (RuleDescription.custom category pattern relevance []).compile language ignoreCase =
      .ok [.token c p relevance] := by
  cases pattern with
  | null => exact absurd hp reject_ok
  | _ => exact bind_ok.mpr ⟨c, hc, bind_ok.mpr ⟨p, hp, rfl⟩⟩

/-- **A variant alone** makes the rule that it makes in its group. -/
theorem Variant.compile_alone [CharacterNames] {category : Value} {v : Variant} {r : Rule}
    (hc : Compiling.category language category = .ok base)
    (h : v.compile language ignoreCase base relevance = .ok r) :
    (v.alone category relevance).compile language ignoreCase = .ok [r] := by
  cases v with
  | bare pattern =>
      obtain ⟨p, hp, hr⟩ := bind_ok.mp h
      obtain rfl := pure_ok.mp hr
      exact RuleDescription.compile_single hc hp
  | of pattern own =>
      cases own with
      | null =>
          obtain ⟨b, hb, h⟩ := bind_ok.mp h
          obtain rfl := pure_ok.mp hb
          obtain ⟨p, hp, hr⟩ := bind_ok.mp h
          obtain rfl := pure_ok.mp hr
          exact RuleDescription.compile_single hc hp
      | _ =>
          obtain ⟨b, hb, h⟩ := bind_ok.mp h
          obtain ⟨p, hp, hr⟩ := bind_ok.mp h
          obtain rfl := pure_ok.mp hr
          exact RuleDescription.compile_single hb hp
  | unknown v => cases h

theorem Variant.mapM_alone [CharacterNames] {category : Value}
    (hc : Compiling.category language category = .ok base) :
    ∀ {variants : List Variant} {rs : List Rule},
      variants.mapM (·.compile language ignoreCase base relevance) = .ok rs →
        (variants.map (Variant.alone category relevance)).mapM (·.compile language ignoreCase) =
          .ok (rs.map ([·]))
  | [], rs, h => by
      rw [List.mapM_nil, pure_ok] at h
      subst h
      rfl
  | v :: variants, rs, h => by
      rw [List.mapM_cons] at h
      obtain ⟨r, hr, h⟩ := bind_ok.mp h
      obtain ⟨rest, hrest, h⟩ := bind_ok.mp h
      obtain rfl := pure_ok.mp h
      rw [List.map_cons, List.mapM_cons, compile_alone hc hr, mapM_alone hc hrest]
      rfl

/-- **Groups written out** make the same rules in the same order. -/
theorem Ungroups.mapM [CharacterNames] {ds es : List RuleDescription} (h : Ungroups ds es) :
    ∀ {rss : List (List Rule)}, ds.mapM (·.compile language ignoreCase) = .ok rss →
      ∃ rss', es.mapM (·.compile language ignoreCase) = .ok rss' ∧ rss'.flatten = rss.flatten := by
  induction h with
  | nil => exact fun h => ⟨_, h, rfl⟩
  | keep d _ ih =>
      intro rss h
      rw [List.mapM_cons] at h
      obtain ⟨rs, hrs, h⟩ := bind_ok.mp h
      obtain ⟨rest, hrest, h⟩ := bind_ok.mp h
      obtain rfl := pure_ok.mp h
      obtain ⟨rest', hrest', hflat⟩ := ih hrest
      refine ⟨rs :: rest', ?_, by rw [List.flatten_cons, List.flatten_cons, hflat]⟩
      rw [List.mapM_cons, hrs, hrest']
      rfl
  | split category relevance variants _ ih =>
      intro rss h
      rw [List.mapM_cons] at h
      obtain ⟨rs, hrs, h⟩ := bind_ok.mp h
      obtain ⟨rest, hrest, h⟩ := bind_ok.mp h
      obtain rfl := pure_ok.mp h
      obtain ⟨rest', hrest', hflat⟩ := ih hrest
      obtain ⟨base, hbase, hrs⟩ := bind_ok.mp hrs
      -- a group without variants is refused, so the rules are those of the variants
      cases variants with
      | nil => exact absurd hrs reject_ok
      | cons v variants =>
          refine ⟨rs.map ([·]) ++ rest', ?_, ?_⟩
          · rw [List.mapM_append, Variant.mapM_alone hbase hrs, hrest']
            rfl
          · rw [List.flatten_append, hflat, List.flatten_cons, ← List.flatMap_def,
              List.flatMap_singleton']

theorem Ungroups.compile [CharacterNames] {d : LanguageDescription} {g : Grammar}
    {es : List RuleDescription} (h : Ungroups d.contains es) (hd : d.compile language = .ok g) :
    { d with contains := es }.compile language = .ok g := by
  obtain ⟨aliases, rules, lexicon?, hset, ha, hr, hl, rfl⟩ := LanguageDescription.compile_ok hd
  obtain ⟨rules', hr', hflat⟩ := h.mapM hr
  have hes := LanguageDescription.compile_eq (d := { d with contains := es }) hset ha hr' hl
  rw [hes, hflat]

/-! ## The weights as they are gathered -/

/-- Enters a weight for a category, unless it has one. -/
def enterWeight (table : List (Category × Int)) (c : Category) (w : Int) : List (Category × Int) :=
  if (table.lookup c).isSome then table else table ++ [(c, w)]

/-- Enters what a rule declares: for its own category, or, if it looks words up, for the two that
words can have. -/
def Rule.enter (table : List (Category × Int)) : Rule → List (Category × Int)
  | .token c _ relevance => enterWeight table c relevance
  | .lexeme l => enterWeight (enterWeight table .keyword l.relevance) .builtin l.relevance

/-- The weights that the rules of a grammar declare, gathered in their order. -/
def Grammar.weights (g : Grammar) : List (Category × Int) := g.rules.foldl Rule.enter []

theorem lookup_enterWeight (table : List (Category × Int)) (c c' : Category) (w : Int) :
    (enterWeight table c w).lookup c' =
      (table.lookup c').or (if c = c' then some w else none) := by
  have hnew : List.lookup c' [(c, w)] = if c = c' then some w else none := by
    by_cases heq : c = c'
    · subst heq
      simp
    · have hne : (c' == c) = false := beq_eq_false_iff_ne.mpr (Ne.symm heq)
      rw [if_neg heq, List.lookup_cons, hne]
      rfl
  unfold enterWeight
  by_cases hsome : (table.lookup c).isSome
  · rw [if_pos hsome]
    by_cases heq : c = c'
    · subst heq
      obtain ⟨v, hv⟩ := Option.isSome_iff_exists.mp hsome
      rw [hv, Option.some_or]
    · rw [if_neg heq, Option.or_none]
  · rw [if_neg hsome, List.lookup_append, hnew]

theorem Rule.lookup_enter (table : List (Category × Int)) (r : Rule) (c : Category) :
    (r.enter table).lookup c = (table.lookup c).or (r.weight? c) := by
  cases r with
  | token category p relevance => exact lookup_enterWeight table category c relevance
  | lexeme l =>
      rw [enter, lookup_enterWeight, lookup_enterWeight, Option.or_assoc]
      cases c <;> rfl

theorem Grammar.lookup_weights (c : Category) : ∀ (rules : List Rule) (table : List (Category × Int)),
    (rules.foldl Rule.enter table).lookup c =
      (table.lookup c).or (rules.findSome? (·.weight? c))
  | [], table => by rw [List.foldl_nil, List.findSome?_nil, Option.or_none]
  | r :: rules, table => by
      rw [List.foldl_cons, lookup_weights c rules, Rule.lookup_enter, Option.or_assoc,
        List.findSome?_cons]
      cases r.weight? c <;> rfl

/-! ## The first rule of a category -/

/-- The weight of a category by the token rules in order and the word lists: what the first rule of
the category declares, and if there is none what the lists declare, when they are for it. -/
def weightBy (tokens : List Rule) (words? : Option WordLists) (c : Category) : Int :=
  match tokens.find? fun r => r.category? = some c with
  | some r => r.declared
  | none => if c = .keyword ∨ c = .builtin then (words?.map WordLists.relevance).getD 0 else 0

/-- Among token rules, the first to declare a weight for a category is the first of the category. -/
theorem findSome?_weight? {c : Category} : ∀ {tokens : List Rule},
    (∀ r ∈ tokens, ∃ c p w, r = .token c p w) →
      tokens.findSome? (·.weight? c) =
        (tokens.find? fun r => r.category? = some c).map Rule.declared
  | [], _ => rfl
  | r :: tokens, h => by
      obtain ⟨hr, htokens⟩ := List.forall_mem_cons.mp h
      obtain ⟨own, p, w, rfl⟩ := hr
      rw [List.findSome?_cons, List.find?_cons, findSome?_weight? htokens]
      by_cases hown : own = c
      · simp [Rule.weight?, Rule.category?, hown, Rule.declared]
      · simp [Rule.weight?, Rule.category?, hown]

namespace LanguageDescription

variable {d : LanguageDescription} {g : Grammar}

/-- What a compiled description has for rules: those of its rule descriptions, in order, and last the
one that looks words up. -/
theorem exists_tokens [CharacterNames] (h : d.compile language = .ok g) :
    ∃ rss lexicon?, d.contains.mapM (·.compile language (!d.caseSensitive)) = .ok rss ∧
      d.words?.mapM (·.compile language d.caseSensitive) = .ok lexicon? ∧
      g.rules = rss.flatten ++ (lexicon?.map Rule.lexeme).toList ∧
      ∀ r ∈ rss.flatten, ∃ c p w, r = .token c p w := by
  obtain ⟨_, rss, lexicon?, _, _, hrules, hlex, rfl⟩ := compile_ok h
  refine ⟨rss, lexicon?, hrules, hlex, rfl, fun r hr => ?_⟩
  obtain ⟨rs, hrs, hr⟩ := List.mem_flatten.mp hr
  obtain ⟨rd, _, hrd⟩ := mem_of_mapM_ok hrules hrs
  obtain ⟨c, p, rfl⟩ := rd.compile_token hrd hr
  exact ⟨c, p, _, rfl⟩

/-- The word lists declare their weight for the categories of words. -/
theorem weight_of_words [CharacterNames] {words? : Option WordLists} {caseSensitive : Bool}
    {lexicon? : Option Lexicon}
    (h : words?.mapM (·.compile language caseSensitive) = .ok lexicon?) (c : Category) :
    ((lexicon?.map Rule.lexeme).toList.findSome? (·.weight? c)).getD 0 =
      if c = .keyword ∨ c = .builtin then (words?.map WordLists.relevance).getD 0 else 0 := by
  cases words? with
  | none =>
      rw [Option.mapM_none] at h
      obtain rfl := pure_ok.mp h
      exact (ite_self 0).symm
  | some lists =>
      rw [Option.mapM_some] at h
      obtain ⟨l, hl, h⟩ := bind_ok.mp h
      obtain rfl := pure_ok.mp h
      obtain ⟨_, _, _, _, _, _, rfl⟩ := WordLists.compile_ok hl
      by_cases hc : c = .keyword ∨ c = .builtin
      · simp [Rule.weight?, hc]
      · simp [Rule.weight?, hc]

/-- **The first rule of a category fixes its weight.** -/
theorem relevanceOf_eq_weightBy [CharacterNames] {tokens : List Rule} {lexicon? : Option Lexicon}
    (htokens : ∀ r ∈ tokens, ∃ c p w, r = .token c p w)
    (hlex : d.words?.mapM (·.compile language d.caseSensitive) = .ok lexicon?)
    (hrules : g.rules = tokens ++ (lexicon?.map Rule.lexeme).toList) (c : Category) :
    g.relevanceOf c = weightBy tokens d.words? c := by
  rw [Grammar.relevanceOf, hrules, List.findSome?_append, findSome?_weight? htokens, weightBy]
  cases tokens.find? fun r => r.category? = some c with
  | some r => rfl
  | none => exact weight_of_words hlex c

end LanguageDescription

/-- What comes first among some rules comes first when more rules follow. -/
theorem weightBy_append {tokens more : List Rule} {words? : Option WordLists} {c : Category}
    (h : ∃ r ∈ tokens, r.category? = some c) :
    weightBy (tokens ++ more) words? c = weightBy tokens words? c := by
  obtain ⟨r, hr, hc⟩ := h
  have hsome : (tokens.find? fun r => r.category? = some c).isSome := by
    rw [List.find?_isSome]
    exact ⟨r, hr, decide_eq_true hc⟩
  obtain ⟨first, hfirst⟩ := Option.isSome_iff_exists.mp hsome
  rw [weightBy, weightBy, List.find?_append, hfirst, Option.some_or]

/-- What the order of its rule descriptions means for a compiled grammar. -/
structure Grammar.InOrder [CharacterNames] (g : Grammar) (language : Value)
    (d : LanguageDescription) (tokens : List Rule) : Prop where
  /-- The rules of the descriptions stand in the order of the descriptions, -/
  made : ∃ rss, d.contains.mapM (·.compile g.language (!d.caseSensitive)) = .ok rss ∧
    rss.flatten = tokens
  /-- and after them at most the rule that looks words up. -/
  rules : ∃ lexicon?, d.words?.mapM (·.compile g.language d.caseSensitive) = .ok lexicon? ∧
    g.rules = tokens ++ (lexicon?.map Rule.lexeme).toList
  /-- With groups written out the grammar is the same. -/
  ungrouped : ∀ es, Ungroups d.contains es →
    (Offer.description { d with contains := es }).compile language = .ok g
  /-- A category weighs what its first rule declares, and without one what the word lists do. -/
  weight : ∀ c, g.relevanceOf c = weightBy tokens d.words? c
  /-- This is what is found in the table that is gathered rule by rule. -/
  gathered : ∀ c, g.relevanceOf c = (g.weights.lookup c).getD 0
  /-- With more descriptions at the end, a category of an earlier rule weighs the same. -/
  appended : ∀ more g',
    (Offer.description { d with contains := d.contains ++ more }).compile language = .ok g' →
      ∀ c, (∃ r ∈ tokens, r.category? = some c) → g'.relevanceOf c = g.relevanceOf c

/--
**A group is the sequence of its variants, and the first rule of a category fixes its weight.**

For every description that compiles, groups can be written out as one description for each variant,
in their place, without any change to the grammar: so the tokens of a text and its weight are the
same. A category weighs what the first of its rules declares in the order of the descriptions. The
weight of the word lists counts only for their two categories, and only where these have no rule.
-/
theorem compile_in_order [CharacterNames] {language : Value} {d : LanguageDescription} {g : Grammar}
    (h : (Offer.description d).compile language = .ok g) :
    ∃ tokens, g.InOrder language d tokens := by
  obtain ⟨name, d', hname, hd, hcompile⟩ := Offer.compile_ok h
  obtain rfl : d = d' := Offer.description.inj hd
  obtain rfl : g.language = name := by
    obtain ⟨_, _, _, _, _, _, _, rfl⟩ := LanguageDescription.compile_ok hcompile
    rfl
  obtain rfl := Value.string_of_nonEmpty? hname
  have hne := Value.ne_empty_of_nonEmpty? hname
  obtain ⟨rss, lexicon?, hmade, hlex, hrules, htokens⟩ := LanguageDescription.exists_tokens hcompile
  have hweight := LanguageDescription.relevanceOf_eq_weightBy htokens hlex hrules
  refine ⟨rss.flatten, ⟨rss, hmade, rfl⟩, ⟨lexicon?, hlex, hrules⟩, fun es hes => ?_, hweight,
    fun c => ?_, fun more g' h' c hc => ?_⟩
  · rw [Offer.compile_description hne]
    exact hes.compile hcompile
  · rw [Grammar.weights, Grammar.lookup_weights]
    rfl
  · rw [Offer.compile_description hne] at h'
    obtain ⟨rss', lexicon?', hmade', hlex', hrules', htokens'⟩ :=
      LanguageDescription.exists_tokens h'
    -- the rules of the descriptions that were there come first among those of all
    rw [List.mapM_append] at hmade'
    obtain ⟨earlier, hearlier, hmade'⟩ := bind_ok.mp hmade'
    obtain ⟨later, _, hmade'⟩ := bind_ok.mp hmade'
    obtain rfl := pure_ok.mp hmade'
    obtain rfl := Except.ok.inj (hmade.symm.trans hearlier)
    rw [LanguageDescription.relevanceOf_eq_weightBy htokens' hlex' hrules', hweight,
      List.flatten_append, weightBy_append hc]

/-- A group of two variants, one of them for keywords, a later rule for symbols, and words. -/
def groupedMarks : LanguageDescription where
  title := .string "Marks"
  words? := some { keyword := [.string "let"], relevance := 7 }
  contains := [
    .custom (.string "symbol") .null 2 [.bare "x", .of (.string "y") (.string "keyword")],
    .custom (.string "symbol") (.string "z") 3 []]

/-- The same with the group written out. -/
def separateMarks : LanguageDescription :=
  { groupedMarks with
    contains := [
      .custom (.string "symbol") (.string "x") 2 [],
      .custom (.string "keyword") (.string "y") 2 [],
      .custom (.string "symbol") (.string "z") 3 []] }

theorem compile_in_order_grouped :
    ∃ g tokens, (Offer.description groupedMarks).compile (.string "x") = .ok g ∧
      g.InOrder (.string "x") groupedMarks tokens ∧
      (Offer.description separateMarks).compile (.string "x") = .ok g ∧
      g.relevanceOf .symbol = 2 ∧ g.relevanceOf .keyword = 2 ∧ g.relevanceOf .builtin = 7 := by
  obtain ⟨g, hg, hseen⟩ := Compiling.exists_ok
    (show ((Offer.description groupedMarks).compile (.string "x")).toOption.any (fun g =>
      g.relevanceOf .symbol = 2 ∧ g.relevanceOf .keyword = 2 ∧ g.relevanceOf .builtin = 7) = true by
      decide +kernel)
  obtain ⟨tokens, htokens⟩ := compile_in_order hg
  have hsplit : Ungroups groupedMarks.contains separateMarks.contains :=
    .split (.string "symbol") 2 [.bare "x", .of (.string "y") (.string "keyword")] (.keep _ .nil)
  exact ⟨g, tokens, hg, htokens, htokens.ungrouped _ hsplit, of_decide_eq_true hseen⟩

end Lexlight
