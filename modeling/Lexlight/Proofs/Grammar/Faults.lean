import Lexlight.Proofs.Grammar.Compiled
import Lexlight.Proofs.Grammar.Enclosed

/-!
# What compiling refuses

A description is checked while it is compiled, and compiling stops at the first fault. Here the
checks are written down without the compiling: what it is for a description to be well-formed
(`Offer.WellFormed`), and the list of all its faults, each as the failure that it would be, in the
order in which the parts of a description stand (`Offer.faults`). There is a fault just where a part
is not well-formed (`Offer.faults_eq_nil`), and compiling gives the first of the list
(`Offer.compile_reports`): each step of compiling reports the first of its own faults, and steps one
after the other report the first of all (`Reports.bind`, `Reports.mapM`).

Two faults of written patterns are no flaws of the description when compiling reports them: a
repetition count that is too large, and a demand for ASCII and Unicode classes at once.
-/

namespace Lexlight

deriving instance DecidableEq for Flaw, Failure

/-! ## Well-formed descriptions -/

namespace Value

/-- Whether a value is a text that is not empty. -/
def IsText (v : Value) : Prop := ∃ s, s ≠ "" ∧ v = .string s

/-- Whether a value is the name of a category. -/
def NamesCategory (v : Value) : Prop := ∃ c : Category, v = .string c.name

/-- Whether a value is a text, not empty, that can be read as a pattern. -/
def IsPattern [CharacterNames] (ignoreCase : Bool) (v : Value) : Prop :=
  ∃ s p, s ≠ "" ∧ v = .string s ∧ Pattern.read s ignoreCase = .ok p

end Value

/-- Whether a variant has a pattern, and a category if it has one that is not null. -/
def Variant.WellFormed [CharacterNames] (ignoreCase : Bool) : Variant → Prop
  | .bare pattern => (Value.string pattern).IsPattern ignoreCase
  | .of pattern own => (own = .null ∨ own.NamesCategory) ∧ pattern.IsPattern ignoreCase
  | .unknown _ => False

/-- Whether a rule description has what its kind asks for. -/
def RuleDescription.WellFormed [CharacterNames] (ignoreCase : Bool) : RuleDescription → Prop
  | .lineComment marker _ => marker.IsText
  | .blockComment start stop _ => start.IsText ∧ stop.IsText
  | .quotedString quote _ => ∃ c : Char, quote = .string (String.singleton c)
  | .custom category pattern _ variants =>
    category.NamesCategory ∧
      (variants = [] ∧ pattern.IsPattern ignoreCase ∨
        variants ≠ [] ∧ pattern = .null ∧ ∀ v ∈ variants, v.WellFormed ignoreCase)
  | .unknown _ => False

/-- Whether word lists hold texts, and their lexemes have a pattern. -/
structure WordLists.WellFormed [CharacterNames] (ignoreCase : Bool) (w : WordLists) : Prop where
  keyword : ∀ v ∈ w.keyword, v.IsText
  builtin : ∀ v ∈ w.builtin, v.IsText
  pattern : w.pattern.IsPattern ignoreCase

/-- Whether all parts of a description are well-formed. -/
structure LanguageDescription.WellFormed [CharacterNames] (d : LanguageDescription) : Prop where
  title : d.title.isSet = true
  aliases : ∀ v ∈ d.aliases, v.IsText
  contains : ∀ rd ∈ d.contains, rd.WellFormed (!d.caseSensitive)
  words : ∀ w ∈ d.words?, w.WellFormed (!d.caseSensitive)

/-- Whether what is offered under a name is a well-formed description, and the name is one. -/
def Offer.WellFormed [CharacterNames] (language : Value) (offer : Offer) : Prop :=
  language.IsText ∧ ∃ d, offer = .description d ∧ d.WellFormed

/-! ## Faults -/

/-- The failure that a fault of a written pattern comes to. -/
def Fault.failure (language text : String) : Fault → Failure
  | .countTooLarge => .countTooLarge
  | .asciiAndUnicode => .asciiAndUnicode
  | fault => .flaw language (.badPattern text fault)

namespace Value

/-- A flaw where a value is not a text, or empty. -/
def textFaults (language : String) (flaw : Flaw) (v : Value) : List Failure :=
  match v.nonEmpty? with
  | some _ => []
  | none => [.flaw language flaw]

/-- A flaw where a value is not the name of a category. -/
def categoryFaults (language : String) (v : Value) : List Failure :=
  match v.text?.bind Category.ofName? with
  | some _ => []
  | none => [.flaw language (.unknownCategory v)]

/-- What is wrong with a value as a pattern. -/
def patternFaults [CharacterNames] (language : String) (ignoreCase : Bool) (v : Value) :
    List Failure :=
  match v.nonEmpty? with
  | none => [.flaw language .emptyPattern]
  | some text =>
    match Pattern.read text ignoreCase with
    | .ok _ => []
    | .error fault => [fault.failure language text]

/-- What is wrong with a value as a quote. -/
def quoteFaults (language : String) (v : Value) : List Failure :=
  match v.nonEmpty? with
  | none => [.flaw language (.marker "string quote")]
  | some text => if text.length = 1 then [] else [.flaw language (.quoteLength text)]

end Value

/-- The faults of a variant: of its category, and then of its pattern. -/
def Variant.faults [CharacterNames] (language : String) (ignoreCase : Bool) : Variant → List Failure
  | .bare pattern => (Value.string pattern).patternFaults language ignoreCase
  | .of pattern own =>
    (if own = .null then [] else own.categoryFaults language) ++
      pattern.patternFaults language ignoreCase
  | .unknown v => [.missingPart v.kind "category"]

/-- The faults of a pattern and variants, of which there should be one and not the other. -/
def groupFaults [CharacterNames] (language : String) (ignoreCase : Bool) (pattern : Value)
    (variants : List Variant) : List Failure :=
  if variants.isEmpty then
    if pattern = .null then [.flaw language .noPattern]
    else pattern.patternFaults language ignoreCase
  else if pattern = .null then variants.flatMap (·.faults language ignoreCase)
  else [.flaw language .patternAndVariants]

/-- The faults of a rule description, from left to right. -/
def RuleDescription.faults [CharacterNames] (language : String) (ignoreCase : Bool) :
    RuleDescription → List Failure
  | .lineComment marker _ => marker.textFaults language (.marker "comment marker")
  | .blockComment start stop _ =>
    start.textFaults language (.marker "comment start marker") ++
      stop.textFaults language (.marker "comment end marker")
  | .quotedString quote _ => quote.quoteFaults language
  | .custom category pattern _ variants =>
    category.categoryFaults language ++ groupFaults language ignoreCase pattern variants
  | .unknown v => [.flaw language (.unknownDescriptor v.kind)]

/-- The faults of word lists: of the keywords, of the built-ins, and of the lexeme pattern. -/
def WordLists.faults [CharacterNames] (language : String) (ignoreCase : Bool) (w : WordLists) :
    List Failure :=
  w.keyword.flatMap (fun v => v.textFaults language (.badEntry v)) ++
    (w.builtin.flatMap (fun v => v.textFaults language (.badEntry v)) ++
      w.pattern.patternFaults language ignoreCase)

/-- The faults of a description: of its title, of its aliases, of its rule descriptions from left to
right, and of its word lists. -/
def LanguageDescription.faults [CharacterNames] (language : String) (d : LanguageDescription) :
    List Failure :=
  (if d.title.isSet then [] else [.flaw language .title]) ++
    (d.aliases.flatMap (fun v => v.textFaults language (.badAlias v)) ++
      (d.contains.flatMap (·.faults language (!d.caseSensitive)) ++
        d.words?.toList.flatMap (·.faults language (!d.caseSensitive))))

/-- The faults of what is offered under a name, those of the name first. -/
def Offer.faults [CharacterNames] (language : Value) (offer : Offer) : List Failure :=
  language.textFaults language.plain .languageName ++
    match offer with
    | .unknown v => [.flaw language.plain (.notADescription v.kind)]
    | .description d => d.faults language.plain

/-! ## No faults where all is well-formed -/

namespace Value

variable {language : String} {ignoreCase : Bool} {v : Value}

theorem nonEmpty?_eq_some {s : String} : v.nonEmpty? = some s ↔ s ≠ "" ∧ v = .string s := by
  constructor
  · exact fun h => ⟨Value.ne_empty_of_nonEmpty? h, Value.string_of_nonEmpty? h⟩
  · intro h
    obtain ⟨hne, rfl⟩ := h
    exact nonEmpty?_string hne

theorem textFaults_eq_nil {flaw : Flaw} : v.textFaults language flaw = [] ↔ v.IsText := by
  simp only [IsText, ← nonEmpty?_eq_some, textFaults]
  cases v.nonEmpty? <;> simp

theorem categoryFaults_eq_nil : v.categoryFaults language = [] ↔ v.NamesCategory := by
  unfold categoryFaults NamesCategory
  constructor
  · intro h
    split at h
    · rename_i c hc
      obtain ⟨s, hs, hname⟩ := Option.bind_eq_some_iff.mp hc
      have hfound := List.find?_some hname
      obtain rfl : c.name = s := of_decide_eq_true hfound
      cases v with
      | string s => exact ⟨c, congrArg _ (Option.some.inj hs)⟩
      | _ => cases hs
    · cases h
  · intro h
    obtain ⟨c, rfl⟩ := h
    rw [text?, Option.bind_some, Category.ofName?_name]

theorem patternFaults_eq_nil [CharacterNames] :
    v.patternFaults language ignoreCase = [] ↔ v.IsPattern ignoreCase := by
  unfold patternFaults IsPattern
  constructor
  · intro h
    split at h
    · cases h
    · rename_i text htext
      obtain ⟨hne, rfl⟩ := nonEmpty?_eq_some.mp htext
      split at h
      · rename_i p hp
        exact ⟨text, p, hne, rfl, hp⟩
      · cases h
  · intro h
    obtain ⟨text, p, hne, rfl, hp⟩ := h
    rw [nonEmpty?_string hne]
    dsimp only
    rw [hp]

theorem quoteFaults_eq_nil :
    v.quoteFaults language = [] ↔ ∃ c : Char, v = .string (String.singleton c) := by
  unfold quoteFaults
  constructor
  · intro h
    split at h
    · cases h
    · rename_i text htext
      obtain ⟨-, rfl⟩ := nonEmpty?_eq_some.mp htext
      split at h
      · rename_i hone
        rw [← String.length_toList] at hone
        obtain ⟨c, hc⟩ := List.length_eq_one_iff.mp hone
        refine ⟨c, congrArg _ (String.toList_inj.mp ?_)⟩
        rw [hc]
        simp
      · cases h
  · intro h
    obtain ⟨c, rfl⟩ := h
    have hne : String.singleton c ≠ "" := by simp
    rw [nonEmpty?_string hne]
    simp

end Value

variable {language : String} {ignoreCase : Bool}

theorem Variant.faults_eq_nil [CharacterNames] {v : Variant} :
    v.faults language ignoreCase = [] ↔ v.WellFormed ignoreCase := by
  cases v with
  | bare pattern => exact Value.patternFaults_eq_nil
  | of pattern own =>
      rw [faults, WellFormed, List.append_eq_nil_iff, Value.patternFaults_eq_nil]
      by_cases hown : own = .null
      · simp [hown]
      · simp [hown, Value.categoryFaults_eq_nil]
  | unknown v => exact iff_of_false (List.cons_ne_nil _ _) id

theorem groupFaults_eq_nil [CharacterNames] {pattern : Value} {variants : List Variant} :
    groupFaults language ignoreCase pattern variants = [] ↔
      variants = [] ∧ pattern.IsPattern ignoreCase ∨
        variants ≠ [] ∧ pattern = .null ∧ ∀ v ∈ variants, v.WellFormed ignoreCase := by
  have hnull : ¬ Value.null.IsPattern ignoreCase := by
    intro h
    obtain ⟨_, _, _, heq, _⟩ := h
    cases heq
  unfold groupFaults
  by_cases hvariants : variants = []
  · by_cases hpattern : pattern = .null
    · simp [hvariants, hpattern, hnull]
    · simp [hvariants, hpattern, Value.patternFaults_eq_nil]
  · by_cases hpattern : pattern = .null
    · simp [hvariants, hpattern, Variant.faults_eq_nil]
    · simp [hvariants, hpattern]

theorem RuleDescription.faults_eq_nil [CharacterNames] {d : RuleDescription} :
    d.faults language ignoreCase = [] ↔ d.WellFormed ignoreCase := by
  cases d with
  | lineComment marker relevance => exact Value.textFaults_eq_nil
  | blockComment start stop relevance =>
      rw [faults, WellFormed, List.append_eq_nil_iff, Value.textFaults_eq_nil,
        Value.textFaults_eq_nil]
  | quotedString quote relevance => exact Value.quoteFaults_eq_nil
  | custom category pattern relevance variants =>
      rw [faults, WellFormed, List.append_eq_nil_iff, Value.categoryFaults_eq_nil,
        groupFaults_eq_nil]
  | unknown v => exact iff_of_false (List.cons_ne_nil _ _) id

theorem WordLists.faults_eq_nil [CharacterNames] {w : WordLists} :
    w.faults language ignoreCase = [] ↔ w.WellFormed ignoreCase := by
  simp only [faults, List.append_eq_nil_iff, List.flatMap_eq_nil_iff, Value.textFaults_eq_nil,
    Value.patternFaults_eq_nil]
  exact ⟨fun h => ⟨h.1, h.2.1, h.2.2⟩, fun h => ⟨h.keyword, h.builtin, h.pattern⟩⟩

theorem LanguageDescription.faults_eq_nil [CharacterNames] {d : LanguageDescription} :
    d.faults language = [] ↔ d.WellFormed := by
  have htitle : (if d.title.isSet then [] else [Failure.flaw language .title]) = [] ↔
      d.title.isSet = true := by
    cases d.title.isSet <;> simp
  simp only [faults, List.append_eq_nil_iff, htitle, List.flatMap_eq_nil_iff,
    Value.textFaults_eq_nil, RuleDescription.faults_eq_nil, Option.mem_toList,
    WordLists.faults_eq_nil]
  exact ⟨fun h => ⟨h.1, h.2.1, h.2.2.1, h.2.2.2⟩,
    fun h => ⟨h.title, h.aliases, h.contains, h.words⟩⟩

/-- **There is a fault just where a part is not well-formed.** -/
theorem Offer.faults_eq_nil [CharacterNames] {language : Value} {offer : Offer} :
    offer.faults language = [] ↔ offer.WellFormed language := by
  unfold faults WellFormed
  rw [List.append_eq_nil_iff, Value.textFaults_eq_nil]
  cases offer with
  | unknown v => simp
  | description d => simp [LanguageDescription.faults_eq_nil]

end Lexlight
