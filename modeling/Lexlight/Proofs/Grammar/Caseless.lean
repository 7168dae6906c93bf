import Lexlight.Proofs.Grammar.Compiled
import Lexlight.Proofs.Pattern.CaselessReading
import Lexlight.Proofs.Pattern.Entries
import Lexlight.Proofs.Source.Row
import Lexlight.Detection

/-!
# Grammars that do not see case

A grammar may be compiled so that case is not looked at. Its patterns are then read under a flag,
its markers and quotes are compared by folded characters, and its words are listed and looked up
folded. These are two ways of not looking at case, and they agree: every rule finds the same in two
sources that differ in the case of ASCII letters only, so the two scans go side by side
(`tokenize_sameLetters`).

A written pattern can look at case again in a part of its own. Then it is no such pattern, and
nothing is said of its grammar (`StaysCaseless`).
-/

namespace Lexlight

/-! ## Rules -/

/-- Whether a lexicon is looked up without regard to case. -/
structure Lexicon.Caseless (l : Lexicon) : Prop where
  folded : l.caseSensitive = false
  pattern : l.pattern.caseless = true
  literals : ∀ p ∈ l.literals?, p.caseless = true

/-- Whether a rule compares nothing exactly. -/
def Rule.Caseless : Rule → Prop
  | .token _ p _ => p.caseless = true
  | .lexeme l => l.Caseless

namespace Source.SameLetters

variable {a b : Source}

/-- What lies between two places of both sources folds to one text. -/
theorem foldCase_slice (h : a.SameLetters b) (start stop : Nat) :
    Unicode.foldCase (a.slice start stop) = Unicode.foldCase (b.slice start stop) := by
  have hlist : a.toList.map Char.toLower = b.toList.map Char.toLower := by
    simpa using congrArg Array.toList h
  have hspan : (a.span start stop).map Char.toLower = (b.span start stop).map Char.toLower := by
    simp only [span, List.map_take, List.map_drop, hlist]
  have hfold : ∀ cs : List Char, (cs.map Char.toLower).flatMap Unicode.foldChar =
      cs.flatMap Unicode.foldChar := by
    intro cs
    simp only [List.flatMap_map, foldChar_toLower]
  unfold Unicode.foldCase
  rw [toList_slice, toList_slice, ← hfold, hspan, hfold]

theorem hitFrom_lexicon (h : a.SameLetters b) {l : Lexicon} (hl : l.Caseless) (start : Nat)
    (asked : Int) : l.hitFrom a start asked = l.hitFrom b start asked := by
  have hclassify : ∀ stop, l.classify (a.slice start stop) = l.classify (b.slice start stop) := by
    intro stop
    simp only [Lexicon.classify, hl.folded, Bool.false_eq_true, if_false, h.foldCase_slice]
  have hliterals : l.literals?.bind (·.matchEnd? a start) =
      l.literals?.bind (·.matchEnd? b start) := by
    cases hp : l.literals? with
    | none => rfl
    | some p => exact Pattern.matchEnd?_eq_of_sameLetters h (hl.literals p hp) start
  have hword : a[start - 1]?.any Unicode.isWord = b[start - 1]?.any Unicode.isWord :=
    h.any_eq (start - 1) fun c d hcd => hcd.holds_eq .word false
  simp only [Lexicon.hitFrom, hword, hliterals, hclassify,
    Pattern.matchEnd?_eq_of_sameLetters h hl.pattern]

/-- A rule that compares nothing exactly finds the same in both sources. -/
theorem hit?_eq (h : a.SameLetters b) {r : Rule} (hr : r.Caseless) (pos : Nat) :
    r.hit? a pos = r.hit? b pos := by
  cases r with
  | token c p relevance =>
      simp only [Rule.hit?, Rule.hitFrom, Pattern.matchEnd?_eq_of_sameLetters h hr]
  | lexeme l => exact h.hitFrom_lexicon hr pos pos

end Source.SameLetters

/-! ## Scans side by side -/

/-- Where a token stands and what it is, without its text. -/
def Token.place (t : Token) : Category × Nat × Nat := (t.category, t.start, t.stop)

namespace Grammar

variable {g : Grammar} {a b : Source}

theorem hit?_eq_of_sameLetters (hg : ∀ r ∈ g.rules, r.Caseless) (h : a.SameLetters b) (pos : Nat) :
    g.hit? a pos = g.hit? b pos :=
  findSome?_congr fun r hr => h.hit?_eq (hg r hr) pos

theorem place_plainTokens (start stop : Nat) :
    (a.plainTokens start stop).map Token.place = (b.plainTokens start stop).map Token.place := by
  unfold Source.plainTokens
  split <;> rfl

/-- Two scans at one place go on side by side. -/
theorem scanFrom_sameLetters (hg : ∀ r ∈ g.rules, r.Caseless) (h : a.SameLetters b)
    (n pos pending : Nat) :
    (g.scanFrom a n pos pending).map Token.place =
      (g.scanFrom b n pos pending).map Token.place := by
  induction n generalizing pos pending with
  | zero =>
      unfold scanFrom
      rw [h.size_eq, place_plainTokens]
  | succ n ih =>
      unfold scanFrom
      rw [h.size_eq, hit?_eq_of_sameLetters hg h]
      split
      · split
        · exact ih _ _
        · exact ih _ _
        · rw [List.map_append, List.map_append, place_plainTokens, List.map_cons, List.map_cons, ih]
          rfl
      · exact place_plainTokens _ _

theorem tokenize_sameLetters (hg : ∀ r ∈ g.rules, r.Caseless) {s t : String}
    (hst : s.toList.map Char.toLower = t.toList.map Char.toLower) :
    (g.tokenize s).map Token.place = (g.tokenize t).map Token.place := by
  have hsame : (Source.ofString s).SameLetters (.ofString t) := by
    simpa [Source.SameLetters, Source.ofString] using hst
  unfold tokenize scan
  rw [hsame.size_eq]
  exact scanFrom_sameLetters hg hsame _ 0 0

/-- The weight of a text is that of the places of its tokens. -/
theorem relevance_eq_place (s : String) :
    g.relevance s =
      (((g.tokenize s).map Token.place).map
        fun place => g.relevanceOf place.1).foldr (· + ·) 0 := by
  rw [List.map_map]
  rfl

end Grammar

/-! ## Compiling without regard to case -/

/-- Whether a text, read without regard to case, is a pattern that never looks at case again: no
group that would is spelled out in it, or the characters of one only occur in it where they do not
open a group, as in a set, and nothing in it is compared exactly. -/
def StaysCaseless [CharacterNames] (text : String) : Prop :=
  ¬ SpellsCaseOff text.toList ∨ ∀ p, Pattern.read text true = .ok p → p.caseless = true

theorem StaysCaseless.caseless [CharacterNames] {text : String} (h : StaysCaseless text)
    {p : Pattern} (hp : Pattern.read text true = .ok p) : p.caseless = true := by
  rcases h with hspells | hread
  · exact Pattern.caseless_of_read hspells hp
  · exact hread p hp

/-- What a variant gives for a pattern. -/
def Variant.written : Variant → List Value
  | .bare pattern => [.string pattern]
  | .of pattern _ => [pattern]
  | .unknown _ => []

/-- What the description of a rule gives for patterns. -/
def RuleDescription.written : RuleDescription → List Value
  | .custom _ pattern _ variants => pattern :: variants.flatMap Variant.written
  | _ => []

/-- The texts in the description of a language that are read as patterns. -/
def LanguageDescription.written (d : LanguageDescription) : List String :=
  (d.contains.flatMap RuleDescription.written ++
    (d.words?.map WordLists.pattern).toList).filterMap Value.text?

namespace Compiling

theorem foldFor_ne_exact : foldFor true ≠ .exact := by decide

/-- A pattern that was read comes from a text. -/
theorem written_ok [CharacterNames] {language : String} {ignoreCase : Bool} {v : Value}
    {p : Pattern} (h : written language ignoreCase v = .ok p) :
    ∃ text, v = .string text ∧ Pattern.read text ignoreCase = .ok p := by
  unfold written at h
  split at h
  · exact absurd h reject_ok
  · next text hv =>
      refine ⟨text, Value.string_of_nonEmpty? hv, ?_⟩
      split at h
      · next hread =>
          obtain rfl := pure_ok.mp h
          exact hread
      · cases h
      · cases h
      · exact absurd h reject_ok

/-- A pattern that stays without regard to case compares nothing exactly. -/
theorem caseless_of_written [CharacterNames] {language : String} {v : Value} {p : Pattern}
    (hv : ∀ text, v.text? = some text → StaysCaseless text)
    (h : written language true v = .ok p) : p.caseless = true := by
  obtain ⟨text, rfl, hread⟩ := written_ok h
  exact (hv text rfl).caseless hread

end Compiling

open Compiling

theorem Variant.compile_caseless [CharacterNames] {language : String} {base : Category}
    {relevance : Int} {v : Variant} {r : Rule}
    (hv : ∀ w ∈ v.written, ∀ text, w.text? = some text → StaysCaseless text)
    (h : v.compile language true base relevance = .ok r) : r.Caseless := by
  cases v with
  | bare pattern =>
      obtain ⟨p, hp, h⟩ := bind_ok.mp h
      obtain rfl := pure_ok.mp h
      exact caseless_of_written (hv _ (List.mem_singleton.mpr rfl)) hp
  | of pattern own =>
      have hrule : ∃ c, (do
          return Rule.token c (← Compiling.written language true pattern) relevance) =
          Except.ok r := by
        unfold Variant.compile at h
        dsimp only at h
        split at h <;> exact (bind_ok.mp h).imp fun c hc => hc.2
      obtain ⟨c, h⟩ := hrule
      obtain ⟨p, hp, h⟩ := bind_ok.mp h
      obtain rfl := pure_ok.mp h
      exact caseless_of_written (hv _ (List.mem_singleton.mpr rfl)) hp
  | unknown v => exact absurd h (by simp [Variant.compile, throw, throwThe, MonadExceptOf.throw])

theorem RuleDescription.compile_caseless [CharacterNames] {language : String} {d : RuleDescription}
    {rs : List Rule} {r : Rule}
    (hd : ∀ w ∈ d.written, ∀ text, w.text? = some text → StaysCaseless text)
    (h : d.compile language true = .ok rs) (hr : r ∈ rs) : r.Caseless := by
  cases d with
  | lineComment marker relevance =>
      obtain ⟨m, _, h⟩ := bind_ok.mp h
      obtain rfl := pure_ok.mp h
      obtain rfl := List.mem_singleton.mp hr
      exact Pattern.caseless_lineComment foldFor_ne_exact m
  | blockComment start stop relevance =>
      obtain ⟨a, _, h⟩ := bind_ok.mp h
      obtain ⟨b, _, h⟩ := bind_ok.mp h
      obtain rfl := pure_ok.mp h
      obtain rfl := List.mem_singleton.mp hr
      exact Pattern.caseless_blockComment foldFor_ne_exact a b
  | quotedString quote relevance =>
      obtain ⟨q, _, h⟩ := bind_ok.mp h
      split at h
      · next c _ =>
          obtain rfl := pure_ok.mp h
          obtain rfl := List.mem_singleton.mp hr
          exact Pattern.caseless_quotedString foldFor_ne_exact c
      · exact absurd h reject_ok
  | custom category pattern relevance variants =>
      obtain ⟨base, _, h⟩ := bind_ok.mp h
      split at h
      · exact absurd h reject_ok
      · obtain ⟨v, hv, hrule⟩ := mem_of_mapM_ok h hr
        exact v.compile_caseless (fun w hw => hd w (List.mem_cons_of_mem _
          (List.mem_flatMap.mpr ⟨v, hv, hw⟩))) hrule
      · obtain ⟨p, hp, h⟩ := bind_ok.mp h
        obtain rfl := pure_ok.mp h
        obtain rfl := List.mem_singleton.mp hr
        exact caseless_of_written (hd _ List.mem_cons_self) hp
      · exact absurd h reject_ok
  | unknown v => exact absurd h reject_ok

theorem WordLists.compile_caseless [CharacterNames] {language : String} {w : WordLists}
    {l : Lexicon} (hw : ∀ text, w.pattern.text? = some text → StaysCaseless text)
    (h : w.compile language false = .ok l) : l.Caseless := by
  obtain ⟨keywords, builtins, pattern, _, _, hp, rfl⟩ := compile_ok h
  refine ⟨rfl, caseless_of_written hw hp, fun p hp => ?_⟩
  dsimp only at hp
  split at hp
  · cases hp
  · obtain rfl := Option.some.inj hp
    exact Pattern.caseless_boundedEntries foldFor_ne_exact _

/-- **All rules of a grammar compiled without regard to case compare nothing exactly**, if none of
its written patterns looks at case again. -/
theorem LanguageDescription.compile_caseless [CharacterNames] {language : String}
    {d : LanguageDescription} {g : Grammar} (hcase : d.caseSensitive = false)
    (hd : ∀ text ∈ d.written, StaysCaseless text) (h : d.compile language = .ok g) :
    ∀ r ∈ g.rules, r.Caseless := by
  obtain ⟨aliases, rules, lexicon?, _, _, hrules, hlexicon, rfl⟩ := compile_ok h
  rw [hcase] at hrules hlexicon
  intro r hr
  rcases List.mem_append.mp hr with hr | hr
  · obtain ⟨rs, hrs, hr⟩ := List.mem_flatten.mp hr
    obtain ⟨rd, hrd, hcompiled⟩ := mem_of_mapM_ok hrules hrs
    refine rd.compile_caseless (fun w hw text htext => hd text ?_) hcompiled hr
    exact List.mem_filterMap.mpr ⟨w, List.mem_append_left _ (List.mem_flatMap.mpr ⟨rd, hrd, hw⟩),
      htext⟩
  · cases hwords : d.words? with
    | none =>
        rw [hwords, Option.mapM_none] at hlexicon
        obtain rfl := pure_ok.mp hlexicon
        cases hr
    | some w =>
        rw [hwords, Option.mapM_some] at hlexicon
        obtain ⟨l, hl, hsome⟩ := bind_ok.mp hlexicon
        obtain rfl := pure_ok.mp hsome
        obtain rfl := List.mem_singleton.mp hr
        refine w.compile_caseless (fun text htext => hd text ?_) hl
        exact List.mem_filterMap.mpr ⟨w.pattern, List.mem_append_right _ (by simp [hwords]), htext⟩

/--
**A grammar that does not look at case cannot see it.**

If none of its patterns looks at case again, then two texts of equal length that differ in the case
of ASCII letters only are given tokens of the same categories in the same places, and weigh the
same.
-/
theorem Offer.tokenize_caseless [CharacterNames] {language : Value} {d : LanguageDescription}
    {g : Grammar} (h : (Offer.description d).compile language = .ok g)
    (hcase : d.caseSensitive = false) (hd : ∀ text ∈ d.written, StaysCaseless text) {s t : String}
    (hst : s.toList.map Char.toLower = t.toList.map Char.toLower) :
    (g.tokenize s).map Token.place = (g.tokenize t).map Token.place ∧
      g.relevance s = g.relevance t := by
  obtain ⟨name, d', _, hoffer, hcompile⟩ := Offer.compile_ok h
  obtain rfl := Offer.description.inj hoffer
  have hplaces := Grammar.tokenize_sameLetters (d.compile_caseless hcase hd hcompile) hst
  refine ⟨hplaces, ?_⟩
  rw [Grammar.relevance_eq_place, Grammar.relevance_eq_place, hplaces]

/-- A language with a marker that has letters, a pattern that refers back and looks ahead, and an
entry that is no lexeme. -/
def remarks : LanguageDescription where
  title := .string "Remarks"
  caseSensitive := false
  words? := some { keyword := [.string "begin", .string "x-y"] }
  contains := [.lineComment (.string "rem") 0,
    .custom (.string "symbol") (.string "([p-q])\\1(?!b)") 1 []]

theorem Offer.tokenize_caseless_remarks :
    ∃ g, (Offer.description remarks).compile (.string "remarks") = .ok g ∧
      remarks.caseSensitive = false ∧ (∀ text ∈ remarks.written, StaysCaseless text) ∧
      (g.tokenize "X-y pP REM").map Token.place = (g.tokenize "x-Y Pp rem").map Token.place ∧
      g.relevance "X-y pP REM" = g.relevance "x-Y Pp rem" := by
  have hwritten : ∀ text ∈ remarks.written, StaysCaseless text := by
    have hcolon : ∀ text ∈ remarks.written, ':' ∉ text.toList := by decide
    exact fun text htext => Or.inl fun hspells => hcolon text htext hspells.colon_mem
  obtain ⟨g, hg, -⟩ := Compiling.exists_ok
    (show ((Offer.description remarks).compile (.string "remarks")).toOption.any
      (fun _ => true) = true by decide +kernel)
  exact ⟨g, hg, rfl, hwritten, Offer.tokenize_caseless hg rfl hwritten (by decide)⟩

end Lexlight
