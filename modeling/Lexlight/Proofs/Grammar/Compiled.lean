import Lexlight.Proofs.Scan.Loop
import Lexlight.Proofs.Pattern.Advance
import Mathlib.Data.List.Nodup

/-!
# What a compiled grammar is made of

Compiling runs through many checks. What is left of them in a grammar is read off here once: a
compiled grammar has the token rules of its descriptions in order, and after them the lexeme rule of
its word lists, if it has any (`LanguageDescription.compile_ok`, `WordLists.compile_ok`). No entry
of a word list is empty, which is all it takes for every find of a compiled grammar to end past its
start (`Offer.compile_advances`).
-/

namespace Lexlight

/-! ## Sets of texts -/

theorem nodup_eraseDups (xs : List String) : xs.eraseDups.Nodup := by
  match xs with
  | [] => exact List.nodup_nil
  | x :: xs =>
    rw [List.eraseDups_cons, List.nodup_cons]
    exact ⟨fun hx => by simpa using List.mem_eraseDups.mp hx, nodup_eraseDups _⟩
termination_by xs.length
decreasing_by exact Nat.lt_succ_of_le (List.length_filter_le _ _)

@[simp]
theorem mem_sortedSet {x : String} {xs : List String} : x ∈ sortedSet xs ↔ x ∈ xs := by
  simp [sortedSet]

theorem nodup_sortedSet (xs : List String) : (sortedSet xs).Nodup :=
  (nodup_eraseDups xs).mergeSort

theorem sorted_sortedSet (xs : List String) : (sortedSet xs).Pairwise (· ≤ ·) := by
  have hsorted := @List.pairwise_mergeSort _ (fun a b : String => decide (a ≤ b))
    (fun a b c hab hbc => by simpa using String.le_trans (by simpa using hab) (by simpa using hbc))
    (fun a b => by simpa using String.le_total a b) xs.eraseDups
  exact hsorted.imp fun h => by simpa using h

/-! ## Steps of compiling -/

namespace Compiling

variable {α β : Type}

theorem bind_ok {x : Compiling α} {f : α → Compiling β} {b : β} :
    (x >>= f) = .ok b ↔ ∃ a, x = .ok a ∧ f a = .ok b := by
  cases x with
  | error e => simp [bind, Except.bind]
  | ok a => simp [bind, Except.bind]

theorem pure_ok {a b : α} : (pure a : Compiling α) = .ok b ↔ a = b := by
  simp [pure, Except.pure]

theorem reject_ok {language : String} {f : Flaw} {a : α} : reject language f ≠ .ok a := by
  simp [reject, throw, throwThe, MonadExceptOf.throw]

/-- A step that is seen to end in something of a kind does. -/
theorem exists_ok {x : Compiling α} {p : α → Bool} (h : x.toOption.any p = true) :
    ∃ a, x = .ok a ∧ p a = true := by
  cases x with
  | error e => exact absurd h (by simp [Except.toOption])
  | ok a => exact ⟨a, rfl, h⟩

/-- Every result comes from some item. -/
theorem mem_of_mapM_ok {f : α → Compiling β} {b : β} :
    ∀ {as : List α} {bs : List β}, as.mapM f = .ok bs → b ∈ bs → ∃ a ∈ as, f a = .ok b
  | [], bs, h, hb => by
      rw [List.mapM_nil, pure_ok] at h
      subst h; exact absurd hb (by simp)
  | a :: as, bs, h, hb => by
      rw [List.mapM_cons] at h
      obtain ⟨b', hb', h⟩ := bind_ok.mp h
      obtain ⟨bs', hbs', h⟩ := bind_ok.mp h
      obtain rfl := pure_ok.mp h
      rcases List.mem_cons.mp hb with hb | hb
      · exact ⟨a, List.mem_cons_self .., hb ▸ hb'⟩
      · obtain ⟨a', ha', hf⟩ := mem_of_mapM_ok hbs' hb
        exact ⟨a', List.mem_cons_of_mem _ ha', hf⟩

end Compiling

open Compiling

theorem Value.ne_empty_of_nonEmpty? {v : Value} {s : String} (h : v.nonEmpty? = some s) :
    s ≠ "" := by
  unfold Value.nonEmpty? at h
  split at h
  · rename_i t
    split at h
    · exact absurd h (by simp)
    · rename_i hne
      obtain rfl := Option.some.inj h
      simpa using hne
  · exact absurd h (by simp)

theorem Value.string_of_nonEmpty? {v : Value} {s : String} (h : v.nonEmpty? = some s) :
    v = .string s := by
  unfold Value.nonEmpty? at h
  split at h
  · split at h
    · exact absurd h (by simp)
    · rw [Option.some.inj h]
  · exact absurd h (by simp)

/-- The texts of a checked list are not empty. -/
theorem ne_empty_of_textsOf {flaw : Value → Flaw} {language : String} {vs : List Value}
    {xs : List String} {x : String} (h : textsOf flaw language vs = .ok xs) (hx : x ∈ xs) :
    x ≠ "" := by
  obtain ⟨v, _, hv⟩ := mem_of_mapM_ok h hx
  split at hv
  · rename_i s hs
    obtain rfl := pure_ok.mp hv
    exact Value.ne_empty_of_nonEmpty? hs
  · exact absurd hv reject_ok

/-- The entries of two lists that a lexeme cannot be. -/
def otherEntries (pattern : Pattern) (keywords builtins : List String) : List String :=
  (keywords ++ builtins).eraseDups.filter (!pattern.describes ·)

/-- A list of words as a lexicon keeps it. -/
def listedWords (caseSensitive : Bool) (xs : List String) : List String :=
  sortedSet (if caseSensitive then xs else xs.map Unicode.foldCase)

/-- What is kept of a list is each word in the form in which it is looked up. -/
theorem mem_listedWords {caseSensitive : Bool} {xs : List String} {x : String} :
    x ∈ listedWords caseSensitive xs ↔
      ∃ e ∈ xs, x = if caseSensitive then e else Unicode.foldCase e := by
  rw [listedWords, mem_sortedSet]
  cases caseSensitive with
  | true => simp
  | false => simp [eq_comm]

/-- What compiled word lists are. -/
theorem WordLists.compile_ok [CharacterNames] {language : String} {caseSensitive : Bool}
    {w : WordLists} {l : Lexicon} (h : w.compile language caseSensitive = .ok l) :
    ∃ keywords builtins pattern,
      textsOf .badEntry language w.keyword = .ok keywords ∧
      textsOf .badEntry language w.builtin = .ok builtins ∧
      Compiling.written language (!caseSensitive) w.pattern = .ok pattern ∧
      l = {
        pattern, caseSensitive, relevance := w.relevance
        keywords := listedWords caseSensitive keywords
        builtins := listedWords caseSensitive builtins
        literals? :=
          if (otherEntries pattern keywords builtins).isEmpty then none
          else some (.boundedEntries (foldFor !caseSensitive)
            ((otherEntries pattern keywords builtins).mergeSort entryBefore)) } := by
  unfold WordLists.compile at h
  obtain ⟨keywords, hk, h⟩ := bind_ok.mp h
  obtain ⟨builtins, hb, h⟩ := bind_ok.mp h
  obtain ⟨pattern, hp, h⟩ := bind_ok.mp h
  exact ⟨keywords, builtins, pattern, hk, hb, hp, (pure_ok.mp h).symm⟩

/-- What a compiled description is. -/
theorem LanguageDescription.compile_ok [CharacterNames] {language : String}
    {d : LanguageDescription} {g : Grammar} (h : d.compile language = .ok g) :
    ∃ aliases rules lexicon?,
      d.title.isSet = true ∧
      textsOf .badAlias language d.aliases = .ok aliases ∧
      d.contains.mapM (·.compile language (!d.caseSensitive)) = .ok rules ∧
      d.words?.mapM (·.compile language d.caseSensitive) = .ok lexicon? ∧
      g = {
        language
        title := d.title
        aliases := sortedSet (aliases.filter (· ≠ language))
        caseSensitive := d.caseSensitive
        rules := rules.flatten ++ (lexicon?.map Rule.lexeme).toList
        keywords := (lexicon?.map Lexicon.keywords).getD []
        builtins := (lexicon?.map Lexicon.builtins).getD [] } := by
  unfold LanguageDescription.compile at h
  dsimp only at h
  split at h
  · obtain ⟨_, hrej, _⟩ := bind_ok.mp h
    exact absurd hrej reject_ok
  · rename_i hset
    obtain ⟨aliases, ha, h⟩ := bind_ok.mp h
    obtain ⟨rules, hr, h⟩ := bind_ok.mp h
    obtain ⟨lexicon?, hl, h⟩ := bind_ok.mp h
    exact ⟨aliases, rules, lexicon?, by simpa using hset, ha, hr, hl, (pure_ok.mp h).symm⟩

/-- A description is compiled when each of its parts is. -/
theorem LanguageDescription.compile_eq [CharacterNames] {language : String}
    {d : LanguageDescription} {aliases : List String} {rules : List (List Rule)}
    {lexicon? : Option Lexicon} (hset : d.title.isSet = true)
    (ha : textsOf .badAlias language d.aliases = .ok aliases)
    (hr : d.contains.mapM (·.compile language (!d.caseSensitive)) = .ok rules)
    (hl : d.words?.mapM (·.compile language d.caseSensitive) = .ok lexicon?) :
    d.compile language = .ok {
        language
        title := d.title
        aliases := sortedSet (aliases.filter (· ≠ language))
        caseSensitive := d.caseSensitive
        rules := rules.flatten ++ (lexicon?.map Rule.lexeme).toList
        keywords := (lexicon?.map Lexicon.keywords).getD []
        builtins := (lexicon?.map Lexicon.builtins).getD [] } := by
  unfold LanguageDescription.compile
  simp only [hset, ha, hr, hl, Bool.not_true, Bool.false_eq_true, if_false, bind, Except.bind]
  rfl

/-- What is compiled is a description under a name. -/
theorem Offer.compile_ok [CharacterNames] {language : Value} {offer : Offer} {g : Grammar}
    (h : offer.compile language = .ok g) :
    ∃ name d, language.nonEmpty? = some name ∧ offer = .description d ∧ d.compile name = .ok g := by
  unfold Offer.compile at h
  split at h
  · exact absurd h reject_ok
  · rename_i name hname
    split at h
    · exact absurd h reject_ok
    · rename_i d
      exact ⟨name, d, hname, rfl, h⟩

theorem Offer.compile_description [CharacterNames] {name : String} (h : name ≠ "")
    (d : LanguageDescription) : (Offer.description d).compile (.string name) = d.compile name := by
  simp [Offer.compile, Value.nonEmpty?, h]

/-! ## Where the rules come from -/

/-- The weight that a description gives to its rules. -/
def RuleDescription.relevance : RuleDescription → Int
  | .lineComment _ relevance => relevance
  | .blockComment _ _ relevance => relevance
  | .quotedString _ relevance => relevance
  | .custom _ _ relevance _ => relevance
  | .unknown _ => 0

theorem Variant.compile_token [CharacterNames] {language : String} {ignoreCase : Bool}
    {base : Category} {relevance : Int} {v : Variant} {r : Rule}
    (h : v.compile language ignoreCase base relevance = .ok r) :
    ∃ c p, r = .token c p relevance := by
  cases v with
  | bare pattern =>
      obtain ⟨p, _, h⟩ := bind_ok.mp h
      exact ⟨_, _, (pure_ok.mp h).symm⟩
  | of pattern own =>
      have hrule : ∃ c, (do
          return Rule.token c (← Compiling.written language ignoreCase pattern) relevance) =
          Except.ok r := by
        unfold Variant.compile at h
        dsimp only at h
        split at h <;> exact (bind_ok.mp h).imp fun c hc => hc.2
      obtain ⟨c, h⟩ := hrule
      obtain ⟨p, _, h⟩ := bind_ok.mp h
      exact ⟨_, _, (pure_ok.mp h).symm⟩
  | unknown v => exact absurd h (by simp [Variant.compile, throw, throwThe, MonadExceptOf.throw])

/-- A description makes only token rules, all of its own weight. -/
theorem RuleDescription.compile_token [CharacterNames] {language : String} {ignoreCase : Bool}
    {d : RuleDescription} {rs : List Rule} {r : Rule}
    (h : d.compile language ignoreCase = .ok rs) (hr : r ∈ rs) :
    ∃ c p, r = .token c p d.relevance := by
  cases d with
  | lineComment marker relevance =>
      obtain ⟨m, _, h⟩ := bind_ok.mp h
      obtain rfl := pure_ok.mp h
      exact ⟨_, _, List.mem_singleton.mp hr⟩
  | blockComment start stop relevance =>
      obtain ⟨a, _, h⟩ := bind_ok.mp h
      obtain ⟨b, _, h⟩ := bind_ok.mp h
      obtain rfl := pure_ok.mp h
      exact ⟨_, _, List.mem_singleton.mp hr⟩
  | quotedString quote relevance =>
      obtain ⟨q, _, h⟩ := bind_ok.mp h
      split at h
      · obtain rfl := pure_ok.mp h
        exact ⟨_, _, List.mem_singleton.mp hr⟩
      · exact absurd h reject_ok
  | custom category pattern relevance variants =>
      obtain ⟨base, _, h⟩ := bind_ok.mp h
      split at h
      · exact absurd h reject_ok
      · obtain ⟨v, _, hv⟩ := mem_of_mapM_ok h hr
        exact v.compile_token hv
      · obtain ⟨p, _, h⟩ := bind_ok.mp h
        obtain rfl := pure_ok.mp h
        exact ⟨_, _, List.mem_singleton.mp hr⟩
      · exact absurd h reject_ok
  | unknown v => exact absurd h reject_ok

/-- A rule of a compiled description comes from one of its rule descriptions, or looks up the words
of its word lists. -/
theorem LanguageDescription.mem_rules [CharacterNames] {language : String} {d : LanguageDescription}
    {g : Grammar} {r : Rule} (h : d.compile language = .ok g) (hr : r ∈ g.rules) :
    (∃ rd ∈ d.contains, ∃ rs, rd.compile language (!d.caseSensitive) = .ok rs ∧ r ∈ rs) ∨
      ∃ w l, d.words? = some w ∧ w.compile language d.caseSensitive = .ok l ∧ r = .lexeme l := by
  obtain ⟨aliases, rules, lexicon?, _, _, hrules, hlex, rfl⟩ := compile_ok h
  rcases List.mem_append.mp hr with hr | hr
  · obtain ⟨rs, hrs, hr⟩ := List.mem_flatten.mp hr
    obtain ⟨rd, hmem, hrd⟩ := mem_of_mapM_ok hrules hrs
    exact Or.inl ⟨rd, hmem, rs, hrd, hr⟩
  · right
    cases hw : d.words? with
    | none =>
        rw [hw, Option.mapM_none] at hlex
        obtain rfl := pure_ok.mp hlex
        exact absurd hr (by simp)
    | some w =>
        rw [hw, Option.mapM_some] at hlex
        obtain ⟨l, hl, h⟩ := bind_ok.mp hlex
        obtain rfl := pure_ok.mp h
        exact ⟨w, l, rfl, hl, by simpa using hr⟩

/-! ## Every find goes forward -/

/-- The matcher for entries that are no lexemes never matches nothing. -/
theorem WordLists.literals_advancing [CharacterNames] {language : String} {caseSensitive : Bool}
    {w : WordLists} {l : Lexicon} (h : w.compile language caseSensitive = .ok l) :
    ∀ p ∈ l.literals?, p.Advancing := by
  obtain ⟨keywords, builtins, pattern, hk, hb, _, rfl⟩ := compile_ok h
  intro p hp
  dsimp only at hp
  split at hp
  · exact absurd hp (by simp)
  · -- an entry that is no lexeme comes from one of the lists, whose entries are not empty
    rename_i hne
    obtain rfl := Option.some.inj hp
    refine Pattern.advancing_boundedEntries ?_ fun e he => ?_
    · intro hnil
      have := congrArg List.length hnil
      rw [List.length_mergeSort] at this
      exact hne (by simpa using this)
    · have he := (List.mem_filter.mp (List.mem_mergeSort.mp he)).1
      rcases List.mem_append.mp (List.mem_eraseDups.mp he) with he | he
      · exact ne_empty_of_textsOf hk he
      · exact ne_empty_of_textsOf hb he

/-- **Every find of a compiled grammar ends past its start**, whatever its description says. -/
theorem Offer.compile_advances [CharacterNames] {language : Value} {offer : Offer} {g : Grammar}
    (h : offer.compile language = .ok g) : g.Advances := by
  obtain ⟨name, d, _, _, hd⟩ := compile_ok h
  refine Grammar.advances_of_rules fun r hr => ?_
  rcases LanguageDescription.mem_rules hd hr with ⟨rd, _, rs, hrd, hr⟩ | ⟨w, l, _, hw, rfl⟩
  · obtain ⟨c, p, rfl⟩ := rd.compile_token hrd hr
    exact Rule.advances_token c p rd.relevance
  · exact Rule.advances_lexeme (WordLists.literals_advancing hw)

/-! ## Names of other languages

Compiling looks at one description alone, so it never finds that a name is taken. -/

/-- Whether a step of compiling fails, if it does, on something else than a name that is taken. -/
def Compiling.Untaken {α : Type} (x : Compiling α) : Prop :=
  ∀ language key owner, x ≠ .error (.taken language key owner)

namespace Compiling

variable {α β : Type}

theorem untaken_ok {a : α} : Untaken (.ok a) := by simp [Untaken]

theorem untaken_error {f : Failure} (h : ∀ language key owner, f ≠ .taken language key owner) :
    Untaken (α := α) (.error f) := by
  intro language key owner heq
  exact h language key owner (Except.error.inj heq)

theorem untaken_reject {language : String} {f : Flaw} : Untaken (α := α) (reject language f) :=
  untaken_error (by simp)

theorem Untaken.bind {x : Compiling α} {f : α → Compiling β} (hx : x.Untaken)
    (hf : ∀ a, (f a).Untaken) : (x >>= f).Untaken := by
  cases x with
  | error e => exact untaken_error fun language key owner he => hx language key owner (he ▸ rfl)
  | ok a => exact hf a

theorem untaken_mapM {f : α → Compiling β} (hf : ∀ a, (f a).Untaken) :
    ∀ as : List α, (as.mapM f).Untaken
  | [] => by rw [List.mapM_nil]; exact untaken_ok
  | a :: as => by
      rw [List.mapM_cons]
      exact (hf a).bind fun _ => (untaken_mapM hf as).bind fun _ => untaken_ok

theorem untaken_mapM_option {f : α → Compiling β} (hf : ∀ a, (f a).Untaken) :
    ∀ a? : Option α, (a?.mapM f).Untaken
  | none => by rw [Option.mapM_none]; exact untaken_ok
  | some a => by rw [Option.mapM_some]; exact (hf a).bind fun _ => untaken_ok

theorem untaken_marker {language what : String} {v : Value} :
    (marker language what v).Untaken := by
  unfold marker
  split
  · exact untaken_ok
  · exact untaken_reject

theorem untaken_written [CharacterNames] {language : String} {ignoreCase : Bool} {v : Value} :
    (written language ignoreCase v).Untaken := by
  unfold written
  split
  · exact untaken_reject
  · split
    · exact untaken_ok
    · exact untaken_error (by simp)
    · exact untaken_error (by simp)
    · exact untaken_reject

theorem untaken_category {language : String} {v : Value} : (category language v).Untaken := by
  unfold category
  split
  · exact untaken_ok
  · exact untaken_reject

end Compiling

theorem Variant.compile_untaken [CharacterNames] {language : String} {ignoreCase : Bool}
    {base : Category} {relevance : Int} (v : Variant) :
    (v.compile language ignoreCase base relevance).Untaken := by
  cases v with
  | bare pattern => exact untaken_written.bind fun _ => untaken_ok
  | of pattern own =>
      have hrest : ∀ c : Category, Compiling.Untaken (do
          return Rule.token c (← Compiling.written language ignoreCase pattern) relevance) :=
        fun c => untaken_written.bind fun _ => untaken_ok
      unfold Variant.compile
      dsimp only
      split
      · exact untaken_ok.bind hrest
      · exact untaken_category.bind hrest
  | unknown v => exact untaken_error (by simp)

theorem RuleDescription.compile_untaken [CharacterNames] {language : String} {ignoreCase : Bool}
    (d : RuleDescription) : (d.compile language ignoreCase).Untaken := by
  cases d with
  | lineComment marker relevance => exact untaken_marker.bind fun _ => untaken_ok
  | blockComment start stop relevance =>
      exact untaken_marker.bind fun _ => untaken_marker.bind fun _ => untaken_ok
  | quotedString quote relevance =>
      refine untaken_marker.bind fun q => ?_
      split
      · exact untaken_ok
      · exact untaken_reject
  | custom category pattern relevance variants =>
      refine untaken_category.bind fun base => ?_
      split
      · exact untaken_reject
      · exact untaken_mapM Variant.compile_untaken _
      · exact untaken_written.bind fun _ => untaken_ok
      · exact untaken_reject
  | unknown v => exact untaken_reject

theorem textsOf_untaken {flaw : Value → Flaw} {language : String} {vs : List Value} :
    (textsOf flaw language vs).Untaken := by
  refine untaken_mapM (fun v => ?_) vs
  split
  · exact untaken_ok
  · exact untaken_reject

theorem WordLists.compile_untaken [CharacterNames] {language : String} {caseSensitive : Bool}
    (w : WordLists) : (w.compile language caseSensitive).Untaken :=
  textsOf_untaken.bind fun _ => textsOf_untaken.bind fun _ =>
    untaken_written.bind fun _ => untaken_ok

theorem LanguageDescription.compile_untaken [CharacterNames] {language : String}
    (d : LanguageDescription) : (d.compile language).Untaken := by
  have hrest : Compiling.Untaken (do
      let aliases ← textsOf .badAlias language d.aliases
      let rules ← d.contains.mapM (·.compile language (!d.caseSensitive))
      let lexicon? ← d.words?.mapM (·.compile language d.caseSensitive)
      return ({
        language
        title := d.title
        aliases := sortedSet (aliases.filter (· ≠ language))
        caseSensitive := d.caseSensitive
        rules := rules.flatten ++ (lexicon?.map Rule.lexeme).toList
        keywords := (lexicon?.map Lexicon.keywords).getD []
        builtins := (lexicon?.map Lexicon.builtins).getD [] } : Grammar)) :=
    textsOf_untaken.bind fun _ =>
      (untaken_mapM RuleDescription.compile_untaken _).bind fun _ =>
        (untaken_mapM_option WordLists.compile_untaken _).bind fun _ => untaken_ok
  unfold LanguageDescription.compile
  dsimp only
  split
  · exact untaken_reject.bind fun _ => hrest
  · exact hrest

/-- **Compiling never fails on a name that is taken.** -/
theorem Offer.compile_untaken [CharacterNames] (language : Value) (offer : Offer) :
    (offer.compile language).Untaken := by
  unfold Offer.compile
  split
  · exact untaken_reject
  · split
    · exact untaken_reject
    · rename_i d
      exact d.compile_untaken

end Lexlight
