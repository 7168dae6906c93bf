import Lexlight.LinkerScript
import Lexlight.Proofs.Grammar.Compiled
import Lexlight.Proofs.Grammar.NamedCharacters
import Lexlight.Proofs.Pattern.Enclosed

/-!
# The rules of linker scripts

What the description of the language compiles to, written out: nine rules, one for each `Kind`, in
the order of `Kind.all`. The patterns that the description gives as texts are put together here from
the classes of characters that they speak of, and `exists_grammar` says that reading the texts gives
these patterns.

Each class is given twice, as the test that the pattern makes and as a property of characters, and
the two are the same function. Proofs speak of the property.
-/

namespace Lexlight.LinkerScript

/-! ## Classes of characters -/

/-- A unit of size. -/
def isUnit (c : Char) : Bool := c ∈ ['k', 'K', 'm', 'M', 'g', 'G']

/-- A binary digit. -/
def isBin (c : Char) : Bool := c ∈ ['0', '1']

/-- A digit but zero. -/
def isLeading (c : Char) : Bool := '1' ≤ c && c ≤ '9'

/-- What the name of a symbol begins with. -/
def isNameStart (c : Char) : Bool := c.isAlpha || c = '_'

/-- What the name of a symbol goes on with. -/
def isNameRest (c : Char) : Bool := c.isAlphanum || c = '_'

/-- What a whole number must not stand after. -/
def isWordOrDot (c : Char) : Bool := Unicode.isWord c || c = '.'

/-- What a whole number must not stand before. -/
def isWordOrColon (c : Char) : Bool := Unicode.isWord c || c = ':'

/-- The test for a character of some ranges and some single characters. -/
def among (ranges : List (Char × Char)) (singles : List Char) : CharTest :=
  .oneOf (ranges.map (fun r => .range r.1.toNat r.2.toNat) ++ singles.map (.one ·.toNat)) .exact
    false

theorem accepts_among {ranges : List (Char × Char)} {singles : List Char} {c : Char} :
    (among ranges singles).accepts c = true ↔
      (∃ r ∈ ranges, r.1.toNat ≤ c.toNat ∧ c.toNat ≤ r.2.toNat) ∨ c ∈ singles := by
  simp [among, CharTest.accepts, SetMember.accepts, Char.toNat_inj]

theorem le_iff_toNat {c d : Char} : c ≤ d ↔ c.toNat ≤ d.toNat := by
  rw [Char.le_def, UInt32.le_iff_toNat_le]
  rfl

theorem isAlpha_iff {c : Char} :
    c.isAlpha = true ↔ 97 ≤ c.toNat ∧ c.toNat ≤ 122 ∨ 65 ≤ c.toNat ∧ c.toNat ≤ 90 := by
  show (decide ('A'.val ≤ c.val ∧ c.val ≤ 'Z'.val) ||
    (decide ('a'.val ≤ c.val) && decide (c.val ≤ 'z'.val))) = true ↔ _
  simp [UInt32.le_iff_toNat_le]
  omega

/-- The test for a digit of base sixteen. -/
def hexDigit : CharTest := among [('0', '9'), ('a', 'f'), ('A', 'F')] []

/-- The test for a binary digit. -/
def binDigit : CharTest := among [] ['0', '1']

/-- The test for a digit but zero. -/
def leading : CharTest := among [('1', '9')] []

/-- The test for a unit of size. -/
def unit : CharTest := among [] ['k', 'K', 'm', 'M', 'g', 'G']

/-- The test for a letter of ASCII. -/
def letter : CharTest := among [('a', 'z'), ('A', 'Z')] []

/-- The test for what the name of a symbol begins with. -/
def nameStart : CharTest := among [('a', 'z'), ('A', 'Z')] ['_']

/-- The test for what the name of a symbol goes on with. -/
def nameRest : CharTest := among [('a', 'z'), ('A', 'Z'), ('0', '9')] ['_']

/-- The test for a digit of any script. -/
def digit : CharTest := .ofClass .exact .digit

/-- The test for a word character. -/
def word : CharTest := .ofClass .exact .word

/-- The test for what a whole number must not stand after. -/
def wordOrDot : CharTest := .oneOf [.kind .word false false, .one '.'.toNat] .exact false

/-- The test for what a whole number must not stand right before. -/
def wordOrColon : CharTest := .oneOf [.one ':'.toNat, .kind .word false false] .exact false

theorem accepts_hexDigit : hexDigit.accepts = Reading.isHex := by
  funext c
  rw [Bool.eq_iff_iff, hexDigit, accepts_among]
  simp [Reading.isHex, Reading.isDecimal, le_iff_toNat]
  omega

theorem accepts_binDigit : binDigit.accepts = isBin := by
  funext c
  rw [Bool.eq_iff_iff, binDigit, accepts_among]
  simp [isBin]

theorem accepts_leading : leading.accepts = isLeading := by
  funext c
  rw [Bool.eq_iff_iff, leading, accepts_among]
  simp [isLeading, le_iff_toNat]

theorem accepts_unit : unit.accepts = isUnit := by
  funext c
  rw [Bool.eq_iff_iff, unit, accepts_among]
  simp [isUnit]

theorem accepts_letter : letter.accepts = Char.isAlpha := by
  funext c
  rw [Bool.eq_iff_iff, letter, accepts_among, isAlpha_iff]
  simp

theorem accepts_nameStart : nameStart.accepts = isNameStart := by
  funext c
  rw [Bool.eq_iff_iff, nameStart, accepts_among]
  simp [isNameStart, isAlpha_iff]

theorem accepts_nameRest : nameRest.accepts = isNameRest := by
  funext c
  rw [Bool.eq_iff_iff, nameRest, accepts_among]
  simp [isNameRest, Char.isAlphanum, isAlpha_iff, Char.isDigit_iff_toNat, or_assoc]

theorem accepts_digit : digit.accepts = Unicode.isDigit := by
  funext c
  simp [digit, CharTest.ofClass, CharTest.accepts, SetMember.accepts, CharClass.holds]

theorem accepts_word : word.accepts = Unicode.isWord := by
  funext c
  simp [word, CharTest.ofClass, CharTest.accepts, SetMember.accepts, CharClass.holds]

theorem accepts_wordOrDot : wordOrDot.accepts = isWordOrDot := by
  funext c
  have hdot : c.toNat = 46 ↔ c = '.' := @Char.toNat_inj c '.'
  rw [Bool.eq_iff_iff]
  simp only [wordOrDot, CharTest.accepts, SetMember.accepts, CharClass.holds, isWordOrDot]
  simp [hdot]

theorem accepts_wordOrColon : wordOrColon.accepts = isWordOrColon := by
  funext c
  have hcolon : c.toNat = 58 ↔ c = ':' := @Char.toNat_inj c ':'
  rw [Bool.eq_iff_iff]
  simp only [wordOrColon, CharTest.accepts, SetMember.accepts, CharClass.holds, isWordOrColon]
  simp [hcolon, or_comm]

/-! ## The patterns -/

/-- Digits after a zero and a letter that tells their base. -/
def prefixedNumber (mark : Char) (digits : CharTest) : Pattern :=
  .ofList [.char (.ofChar .exact '0'), .char (.ofChar .exact mark), .plus digits]

/-- What a whole number must not stand before: a word character, a colon, or a point and a digit. -/
def noEnd : Pattern :=
  .alt (.char wordOrColon) (.seq (.char (.ofChar .exact '.')) (.char digit))

/-- The digits of a whole number, without a zero before them. -/
def wholeDigits : Pattern :=
  .alt (.char (.ofChar .exact '0')) (.seq (.char leading) (.star digit))

/-- A whole number with an optional unit. -/
def wholeNumber : Pattern :=
  .ofList [.behind false ⟨1, 1⟩ (.char wordOrDot), .optional (.ofChar .exact '-'), wholeDigits,
    .optional unit, .ahead false noEnd]

/-- A number with a point. -/
def pointNumber : Pattern :=
  .ofList [.anchor (.wordEdge false false), .optional (.ofChar .exact '-'), .plus digit,
    .char (.ofChar .exact '.'), .plus digit]

/-- A name with an optional dot before it. -/
def dottedName (first rest : CharTest) : Pattern :=
  .ofList [.optional (.ofChar .exact '.'), .char first, .star rest]

/-- A name after a single quote. -/
def quotedName : Pattern :=
  .seq (.char (.ofChar .exact '\'')) (dottedName nameStart nameRest)

/-- The entry that no lexeme can be. -/
def discard : String := "/DISCARD/"

/-- The words of the language. -/
def lexicon : Lexicon where
  pattern := dottedName letter word
  keywords := listedWords true keywords
  builtins := listedWords true builtins
  literals? := some (.boundedEntries .exact [discard])
  caseSensitive := true
  relevance := 1

/-! ## The rules -/

/-- What a rule of the language is for. -/
inductive Kind where
  | lineComment
  | blockComment
  | string
  | hexNumber
  | binNumber
  | decNumber
  | floatNumber
  | symbol
  | lexeme
  deriving DecidableEq

/-- All kinds, in the order of their rules. -/
def Kind.all : List Kind :=
  [.lineComment, .blockComment, .string, .hexNumber, .binNumber, .decNumber, .floatNumber, .symbol,
    .lexeme]

/-- The rule of a kind. -/
def Kind.rule : Kind → Rule
  | .lineComment => .token .comment (.lineComment .exact "#") 0
  | .blockComment => .token .comment (.blockComment .exact "/*" "*/") 0
  | .string => .token .string (.quotedString .exact '"') 0
  | .hexNumber => .token .hexNumber (prefixedNumber 'x' hexDigit) 0
  | .binNumber => .token .binNumber (prefixedNumber 'b' binDigit) 0
  | .decNumber => .token .decNumber wholeNumber 0
  | .floatNumber => .token .floatNumber pointNumber 0
  | .symbol => .token .symbol quotedName 0
  | .lexeme => .lexeme lexicon

/-! ## What the description compiles to -/

theorem ok_of_toOption {α : Type} {x : Compiling α} {a : α} (h : x.toOption = some a) :
    x = .ok a := by
  cases x with
  | error e => exact absurd h (by simp [Except.toOption])
  | ok b =>
      obtain rfl := Option.some.inj h
      rfl

/-- A list of texts is checked by looking at each. -/
theorem textsOf_strings {flaw : Value → Flaw} {language : String} :
    ∀ {xs : List String}, (∀ x ∈ xs, x ≠ "") →
      textsOf flaw language (xs.map .string) = .ok xs
  | [], _ => rfl
  | x :: xs, h => by
      have hx : (Value.string x).nonEmpty? = some x := by
        simp [Value.nonEmpty?, h x (List.mem_cons_self ..)]
      have hrest : textsOf flaw language (xs.map .string) = .ok xs :=
        textsOf_strings fun y hy => h y (List.mem_cons_of_mem _ hy)
      unfold textsOf at hrest ⊢
      rw [List.map_cons, List.mapM_cons, hx, hrest]
      rfl

deriving instance DecidableEq for Lexicon

deriving instance DecidableEq for Rule

section Nameless

-- no pattern of the language writes a character by its name, so they are read without names first
attribute [local instance] CharacterNames.nameless

/-- The token rules, by the descriptions they come from. -/
theorem compile_contains :
    (description.contains.mapM (RuleDescription.compile "ldscript" false)).toOption =
      some [[Kind.rule .lineComment], [Kind.rule .blockComment], [Kind.rule .string],
        [Kind.rule .hexNumber, Kind.rule .binNumber, Kind.rule .decNumber, Kind.rule .floatNumber],
        [Kind.rule .symbol]] := by
  decide +kernel

theorem written_lexeme :
    (Compiling.written "ldscript" false (.string LinkerScript.lexeme)).toOption =
      some (dottedName letter word) := by
  decide +kernel

/-- One entry is no lexeme. -/
theorem otherEntries_eq : otherEntries (dottedName letter word) keywords builtins = [discard] := by
  decide +kernel

/-- The word lists of the language. -/
def words : WordLists where
  pattern := .string LinkerScript.lexeme
  keyword := keywords.map .string
  builtin := builtins.map .string

theorem compile_words : words.compile "ldscript" true = .ok lexicon := by
  have hk : textsOf .badEntry "ldscript" words.keyword = .ok keywords :=
    textsOf_strings (by decide)
  have hb : textsOf .badEntry "ldscript" words.builtin = .ok builtins :=
    textsOf_strings (by decide)
  have hp : Compiling.written "ldscript" (!true) words.pattern = .ok (dottedName letter word) :=
    ok_of_toOption written_lexeme
  have hothers : (keywords ++ builtins).eraseDups.filter
      (fun e => !(dottedName letter word).describes e) = [discard] := otherEntries_eq
  unfold WordLists.compile
  rw [hk, hb, hp]
  simp only [bind, Except.bind, hothers, List.mergeSort_singleton]
  rfl

theorem exists_grammar_nameless :
    ∃ g, (Offer.description description).compile (.string "ldscript") = .ok g ∧
      g.rules = Kind.all.map Kind.rule := by
  have haliases : textsOf .badAlias "ldscript" description.aliases = .ok ["ld"] :=
    @textsOf_strings _ _ ["ld"] (by decide)
  have hwords : description.words?.mapM (WordLists.compile "ldscript" true) =
      .ok (some lexicon) := by
    show (some words).mapM (WordLists.compile "ldscript" true) = _
    rw [Option.mapM_some, compile_words]
    rfl
  have hset : description.title.isSet = true := by decide
  -- the parts are put together by lemmas: to evaluate the whole would also sort the word lists
  rw [Offer.compile_description (by decide)]
  refine ⟨_, LanguageDescription.compile_eq hset haliases (ok_of_toOption compile_contains)
    hwords, ?_⟩
  simp only [List.flatten_cons, List.flatten_nil, List.cons_append, List.nil_append,
    Option.map_some, Option.toList_some, Kind.all, List.map_cons, List.map_nil]
  rfl

end Nameless

/-- **The language has a grammar, and its rules are these nine.** -/
theorem exists_grammar [CharacterNames] :
    ∃ g, (Offer.description description).compile (.string "ldscript") = .ok g ∧
      g.rules = Kind.all.map Kind.rule := by
  obtain ⟨g, hg, hrules⟩ := exists_grammar_nameless
  exact ⟨g, Offer.compile_mono (CharacterNames.nameless_within _) hg, hrules⟩

/-- The rules of the grammar, however it was come by. -/
theorem rules_of_compile [CharacterNames] {g : Grammar}
    (hg : (Offer.description description).compile (.string "ldscript") = .ok g) :
    g.rules = Kind.all.map Kind.rule := by
  obtain ⟨g', hg', hrules⟩ := exists_grammar
  rw [hg] at hg'
  obtain rfl : g = g' := Except.ok.inj hg'
  exact hrules

theorem Kind.mem_all (k : Kind) : k ∈ Kind.all := by cases k <;> decide

section Rules

variable {g : Grammar} (hrules : g.rules = Kind.all.map Kind.rule) {src : Source} {pos : Nat}
include hrules

/-- What the grammar finds, the rule of some kind finds. -/
theorem exists_kind {hit : Hit} (h : g.hit? src pos = some hit) :
    ∃ k : Kind, k.rule.hit? src pos = some hit := by
  obtain ⟨r, hr, hhit⟩ := List.exists_of_findSome?_eq_some h
  rw [hrules] at hr
  obtain ⟨k, _, rfl⟩ := List.mem_map.mp hr
  exact ⟨k, hhit⟩

/-- Where the grammar finds nothing, no rule does. -/
theorem hit?_none_of_kind (h : g.hit? src pos = none) (k : Kind) : k.rule.hit? src pos = none := by
  refine List.findSome?_eq_none_iff.mp h k.rule ?_
  rw [hrules]
  exact List.mem_map_of_mem k.mem_all

end Rules

end Lexlight.LinkerScript
