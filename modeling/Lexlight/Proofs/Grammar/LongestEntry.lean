import Lexlight.Proofs.Grammar.Words

/-!
# The longest entry wins

Entries that a lexeme cannot be may begin one another, and several of them may stand at one place.
An entry counts there only when no word character comes after it, so a longer one may be out of the
question where a shorter one is not. Of those that count the lexeme rule finds the longest, and
gives it the category of its list. Where none counts, it finds what the lexeme pattern alone does.

Where case is looked at, an entry is read as it is written (`otherAt_iff`), whatever tests its
characters have become. That leaves the order of the entries, and there the longest comes first.
-/

namespace Lexlight

variable {src : Source} {pos : Nat}

/-- Whether an entry stands at a place as it is written, with no word character after it. -/
def Source.BoundedAt (src : Source) (pos : Nat) (e : String) : Prop :=
  src.HasAt pos e.toList ∧ src[pos + e.length]?.any Unicode.isWord = false

instance (src : Source) (pos : Nat) (e : String) : Decidable (src.BoundedAt pos e) :=
  inferInstanceAs (Decidable (_ ∧ _))

/-- What is bounded stands between its place and its end. -/
theorem Source.BoundedAt.slice_eq {e : String} (h : src.BoundedAt pos e) :
    src.slice pos (pos + e.length) = e := by
  rw [← String.toList_inj, toList_slice, ← String.length_toList]
  exact span_of_hasAt h.1

/-! ## Entries as they are written -/

/-- Tests that look at case pass only what is written. -/
theorem hasAt_of_passesAt {apart : Bool} : ∀ {e : List Char} {pos : Nat},
    src.PassesAt pos (entryTests .exact apart e) → src.HasAt pos e
  | [], _, _ => trivial
  | [c], pos, h => by
      rw [entryTests, Source.passesAt_singleton] at h
      obtain ⟨d, hd, hok⟩ := (Option.any_eq_true _ _).mp h
      have hdc : d = c := by
        cases apart with
        | true => simpa [CharTest.accepts, SetMember.accepts, Char.toNat_inj] using hok
        | false => exact (CharTest.accepts_ofChar_exact c d).mp hok
      exact ⟨hdc ▸ hd, trivial⟩
  | c :: d :: rest, pos, h => by
      rw [entryTests] at h
      · exact ⟨Pattern.any_ofChar.mp h.1, hasAt_of_passesAt h.2⟩
      · simp

namespace WordLists

variable {w : WordLists} {language : String} {l : Lexicon}

/-- Where case is looked at, an entry with a matcher of its own stands where it is written. -/
theorem otherAt_iff (hcase : l.caseSensitive = true) {e : String} :
    w.OtherAt l src pos e ↔ src.BoundedAt pos e := by
  have htests : src.PassesAt pos
      (Pattern.testsAmong (foldFor !l.caseSensitive) (w.others l.pattern) e) ↔
      src.HasAt pos e.toList := by
    rw [hcase]
    exact ⟨hasAt_of_passesAt, passesAt_of_hasAt (Or.inl rfl)⟩
  rw [OtherAt, Pattern.EntryAt, htests, Pattern.length_testsAmong, Bool.not_eq_true]
  rfl

/-- The entries with a matcher of their own are those that the lexeme pattern does not describe. -/
theorem mem_others {pattern : Pattern} {e : String} :
    e ∈ w.others pattern ↔ e ∈ w.entries ∧ pattern.describes e = false := by
  rw [others, List.mem_filter, List.mem_eraseDups, Bool.not_eq_true']

/-- Where case is looked at, an entry is a keyword of the lexicon when it is listed as one. -/
theorem keyword_iff [CharacterNames] (h : w.compile language true = .ok l) {e : String} :
    l.key e ∈ l.keywords ↔ Value.string e ∈ w.keyword := by
  obtain ⟨keywords, builtins, pattern, hk, _, _, rfl⟩ := compile_ok h
  show e ∈ listedWords true keywords ↔ _
  rw [textsOf_ok hk, mem_listedWords]
  simp

/-- The category of an entry: what its list is for, and a keyword if it is in both. -/
def categoryOf (w : WordLists) (e : String) : Category :=
  if .string e ∈ w.keyword then .keyword else .builtin

theorem classify_of_mem [CharacterNames] (h : w.compile language true = .ok l) {e : String}
    (he : e ∈ w.entries) : l.classify e = some (w.categoryOf e) := by
  obtain ⟨_, _, hlisted⟩ := lexicon_of_compile h
  rw [Lexicon.classify_entry (hlisted e he).2, Lexicon.listedAs, categoryOf]
  simp only [keyword_iff h]

/-! ## What the lexeme rule finds -/

/-- Whether the lexeme rule finds, at a place that is not within a word, the longest entry that
counts there, or what the lexeme pattern alone finds when none does. -/
structure LongestWins (w : WordLists) (l : Lexicon) (src : Source) (pos : Nat) : Prop where
  entry : (∃ e ∈ w.others l.pattern, src.BoundedAt pos e) →
    ∃ e ∈ w.others l.pattern, src.BoundedAt pos e ∧
      (∀ e' ∈ w.others l.pattern, src.BoundedAt pos e' → e'.length ≤ e.length) ∧
      (Rule.lexeme l).hit? src pos = some ⟨some (w.categoryOf e), pos + e.length⟩
  lexeme : (∀ e ∈ w.others l.pattern, ¬ src.BoundedAt pos e) →
    (Rule.lexeme l).hit? src pos = (Rule.lexeme { l with literals? := none }).hit? src pos

section Finds

variable [CharacterNames] (h : w.compile language true = .ok l)
  (hbefore : src.before Unicode.isWord pos = false)
include h hbefore

/-- The longest entry that counts is what the rule finds, with the category of the entry. -/
theorem hit?_of_longest {e : String} (he : e ∈ w.others l.pattern) (hat : src.BoundedAt pos e)
    (hmax : ∀ e' ∈ w.others l.pattern, src.BoundedAt pos e' → e'.length ≤ e.length) :
    (Rule.lexeme l).hit? src pos = some ⟨some (w.categoryOf e), pos + e.length⟩ := by
  obtain ⟨hcase, _⟩ := lexicon_of_compile h
  have hlit : l.literals?.bind (·.matchEnd? src pos) = some (pos + e.length) := by
    refine (literals_eq_some h hbefore).mpr ⟨e, he, (otherAt_iff hcase).mpr hat, rfl, ?_⟩
    exact fun e' he' hat' => hmax e' he' ((otherAt_iff hcase).mp hat')
  refine Rule.hit?_lexeme.mpr ⟨hbefore, ?_, Or.inl hlit⟩
  rw [hat.slice_eq, classify_of_mem h (mem_others.mp he).1]

/-- Where an entry counts, the matcher of entries finds something, and so there is a longest. -/
theorem exists_longest (hex : ∃ e ∈ w.others l.pattern, src.BoundedAt pos e) :
    ∃ e ∈ w.others l.pattern, src.BoundedAt pos e ∧
      ∀ e' ∈ w.others l.pattern, src.BoundedAt pos e' → e'.length ≤ e.length := by
  obtain ⟨hcase, _⟩ := lexicon_of_compile h
  cases hlit : l.literals?.bind (·.matchEnd? src pos) with
  | none =>
      obtain ⟨e, he, hat⟩ := hex
      exact absurd ((otherAt_iff hcase).mpr hat) ((literals_eq_none h hbefore).mp hlit e he)
  | some stop =>
      obtain ⟨e, he, hat, _, hmax⟩ := (literals_eq_some h hbefore).mp hlit
      refine ⟨e, he, (otherAt_iff hcase).mp hat, fun e' he' hat' => ?_⟩
      exact hmax e' he' ((otherAt_iff hcase).mpr hat')

/-- Where no entry counts, the rule does without the matcher of entries. -/
theorem hit?_of_no_entry (hnone : ∀ e ∈ w.others l.pattern, ¬ src.BoundedAt pos e) :
    (Rule.lexeme l).hit? src pos = (Rule.lexeme { l with literals? := none }).hit? src pos := by
  obtain ⟨hcase, _⟩ := lexicon_of_compile h
  have hlit : l.literals?.bind (·.matchEnd? src pos) = none := by
    refine (literals_eq_none h hbefore).mpr fun e he hat => ?_
    exact hnone e he ((otherAt_iff hcase).mp hat)
  refine Option.ext fun hit => ?_
  rw [Rule.hit?_lexeme, Rule.hit?_lexeme, hlit]
  rfl

end Finds

/--
**The longest entry wins.**

The lexicon of word lists that look at case has the lexeme pattern that is written there. Its rule
finds nothing within a word. Anywhere else it finds the longest of the entries with a matcher of
their own that stand there with no word character after them, as what it is listed, and when there
is none, what the lexeme pattern alone finds.
-/
theorem longest_entry_wins [CharacterNames] (h : w.compile language true = .ok l) (src : Source)
    (pos : Nat) :
    Compiling.written language false w.pattern = .ok l.pattern ∧
      (src.before Unicode.isWord pos = true → (Rule.lexeme l).hit? src pos = none) ∧
      (src.before Unicode.isWord pos = false → w.LongestWins l src pos) := by
  refine ⟨?_, fun hword => ?_, fun hbefore => ⟨fun hex => ?_, hit?_of_no_entry h hbefore⟩⟩
  · obtain ⟨_, _, pattern, _, _, hpattern, rfl⟩ := compile_ok h
    exact hpattern
  · refine Option.eq_none_iff_forall_ne_some.mpr fun hit hhit => ?_
    rw [(Rule.hit?_lexeme.mp hhit).1] at hword
    cases hword
  · obtain ⟨e, he, hat, hmax⟩ := exists_longest h hbefore hex
    exact ⟨e, he, hat, hmax, hit?_of_longest h hbefore he hat hmax⟩

/-- Signs that begin one another, and a word. -/
def signs : WordLists where
  pattern := .string "[a-z]+"
  keyword := [.string "+", .string "+*", .string "go"]
  builtin := [.string "+*+", .string "+"]

/-- Of the three signs that stand at the start, a word goes on after the longest. -/
theorem longest_entry_wins_signs :
    ∃ l, signs.compile "signs" true = .ok l ∧
      (Rule.lexeme l).hit? (.ofString "+*+a") 0 = some ⟨some .keyword, 2⟩ ∧
      (Rule.lexeme l).hit? (.ofString "go+") 2 = none ∧
      (Rule.lexeme l).hit? (.ofString "go+") 0 =
        (Rule.lexeme { l with literals? := none }).hit? (.ofString "go+") 0 := by
  obtain ⟨l, hl, hothers⟩ := Compiling.exists_ok
    (show (signs.compile "signs" true).toOption.any
      (fun l => decide (signs.others l.pattern = ["+", "+*", "+*+"])) = true by decide +kernel)
  have hothers := of_decide_eq_true hothers
  obtain ⟨-, -, hstart⟩ := longest_entry_wins hl (.ofString "+*+a") 0
  obtain ⟨-, hwithin, -⟩ := longest_entry_wins hl (.ofString "go+") 2
  obtain ⟨-, -, hword⟩ := longest_entry_wins hl (.ofString "go+") 0
  refine ⟨l, hl, ?_, hwithin (by decide +kernel), (hword rfl).lexeme ?_⟩
  · obtain ⟨e, he, hat, hmax, hhit⟩ := (hstart rfl).entry
      ⟨"+*", by rw [hothers]; decide, by decide +kernel⟩
    have htwo : 2 ≤ e.length := hmax "+*" (by rw [hothers]; decide) (by decide +kernel)
    rw [hothers] at he
    simp only [List.mem_cons, List.not_mem_nil, or_false] at he
    rcases he with rfl | rfl | rfl
    · exact absurd htwo (by decide)
    · exact hhit
    · exact absurd hat (by decide +kernel)
  · rw [hothers]
    decide +kernel

end WordLists
end Lexlight
