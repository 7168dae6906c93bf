import Lexlight.Proofs.Pattern.Advance
import Lexlight.Unicode.CaseFold

/-!
# Patterns that do not see case

Two sources of the same letters differ in the case of ASCII letters only (`SameLetters`). A pattern
that compares no character exactly (`Pattern.caseless`) runs on both of them in the same way,
whatever state it starts from and whatever follows it (`Pattern.run_eq_of_sameLetters`). Everything
a pattern can ask of a source is a question about the character at one place: its key, its class,
or whether it is a line feed. None of these tells a capital letter from the small one.
-/

namespace Lexlight

/-! ## Letters -/

/-- Only the capital letters have another lower-case form. -/
theorem toLower_cases (c : Char) : c.toLower = c ∨ ∃ n < 26, c = Char.ofNat (65 + n) := by
  unfold Char.toLower
  split
  · next h =>
      refine Or.inr ⟨c.toNat - 65, ?_, ?_⟩
      · have hle : c.toNat ≤ 90 := h.2
        omega
      · have hge : 65 ≤ c.toNat := h.1
        rw [show 65 + (c.toNat - 65) = c.toNat by omega, Char.ofNat_toNat]
  · exact Or.inl rfl

/-- Whether two characters are the same, or the same ASCII letter in another case. -/
def SameLetter (c d : Char) : Prop := c.toLower = d.toLower

/-- What tells no capital letter from the small one tells no character from its lower-case form. -/
theorem apply_toLower {β : Type} {f : Char → β}
    (hf : ∀ n < 26, f (Char.ofNat (65 + n)).toLower = f (Char.ofNat (65 + n))) (c : Char) :
    f c.toLower = f c := by
  rcases toLower_cases c with hsame | ⟨n, hn, rfl⟩
  · rw [hsame]
  · exact hf n hn

theorem SameLetter.apply_eq {β : Type} {f : Char → β} {c d : Char} (h : SameLetter c d)
    (hf : ∀ n < 26, f (Char.ofNat (65 + n)).toLower = f (Char.ofNat (65 + n))) : f c = f d := by
  rw [← apply_toLower hf c, ← apply_toLower hf d, h]

theorem SameLetter.isNewline_eq {c d : Char} (h : SameLetter c d) : (c == '\n') = (d == '\n') :=
  h.apply_eq (f := (· == '\n')) (by decide)

theorem foldChar_toLower (c : Char) : Unicode.foldChar c.toLower = Unicode.foldChar c :=
  apply_toLower (by decide +kernel) c

theorem SameLetter.holds_eq {c d : Char} (h : SameLetter c d) (cls : CharClass) (ascii : Bool) :
    cls.holds ascii c = cls.holds ascii d := by
  cases cls <;> cases ascii <;> exact h.apply_eq (by decide +kernel)

theorem SameLetter.key_eq {c d : Char} (h : SameLetter c d) {fold : Fold} (hfold : fold ≠ .exact) :
    fold.key c.toNat = fold.key d.toNat := by
  cases fold with
  | exact => exact absurd rfl hfold
  | ascii => exact h.apply_eq (f := fun c => Fold.ascii.key c.toNat) (by decide +kernel)
  | full => exact h.apply_eq (f := fun c => Fold.full.key c.toNat) (by decide +kernel)

/-! ## Tests of one character -/

theorem SetMember.accepts_eq {c d : Char} (h : SameLetter c d) {fold : Fold}
    (hfold : fold ≠ .exact) (m : SetMember) : m.accepts fold c = m.accepts fold d := by
  have hkey := h.key_eq hfold
  cases m with
  | one n => simp only [SetMember.accepts, if_neg hfold, Fold.same, hkey]
  | range first last => simp only [SetMember.accepts, if_neg hfold, Fold.variants, hkey]
  | kind cls ascii negated => simp only [SetMember.accepts, h.holds_eq]

namespace CharTest

/-- Whether a test compares nothing exactly. -/
def caseless : CharTest → Bool
  | .any | .inLine => true
  | .one _ fold _ | .oneOf _ fold _ => fold ≠ .exact

theorem accepts_eq {t : CharTest} (ht : t.caseless = true) {c d : Char} (h : SameLetter c d) :
    t.accepts c = t.accepts d := by
  cases t with
  | any => rfl
  | inLine => simp only [accepts, bne, h.isNewline_eq]
  | one n fold negated =>
      have hfold : fold ≠ .exact := by simpa [caseless] using ht
      simp only [accepts, Fold.same, h.key_eq hfold]
  | oneOf members fold negated =>
      have hfold : fold ≠ .exact := by simpa [caseless] using ht
      simp only [accepts, SetMember.accepts_eq h hfold]

end CharTest

/-! ## Sources of the same letters -/

/-- Whether two sources differ at most in the case of ASCII letters. -/
def Source.SameLetters (a b : Source) : Prop := a.map Char.toLower = b.map Char.toLower

namespace Source.SameLetters

variable {a b : Source}

theorem size_eq (h : a.SameLetters b) : a.size = b.size := by
  simpa using congrArg Array.size h

/-- Both sources have a character at a place, of the same letter, or neither has one. -/
theorem getElem?_cases (h : a.SameLetters b) (i : Nat) :
    (a[i]? = none ∧ b[i]? = none) ∨
      ∃ c d, a[i]? = some c ∧ b[i]? = some d ∧ SameLetter c d := by
  have hmap : a[i]?.map Char.toLower = b[i]?.map Char.toLower := by
    simpa using congrArg (·[i]?) h
  cases ha : a[i]? with
  | none =>
      rw [ha, Option.map_none, eq_comm, Option.map_eq_none_iff] at hmap
      exact Or.inl ⟨rfl, hmap⟩
  | some c =>
      rw [ha, Option.map_some, eq_comm, Option.map_eq_some_iff] at hmap
      obtain ⟨d, hd, hcd⟩ := hmap
      exact Or.inr ⟨c, d, rfl, hd, hcd.symm⟩

/-- What is asked of the character at a place has one answer, if it tells no letters of another case
apart. -/
theorem any_eq (h : a.SameLetters b) (i : Nat) {f : Char → Bool}
    (hf : ∀ c d, SameLetter c d → f c = f d) : a[i]?.any f = b[i]?.any f := by
  rcases h.getElem?_cases i with ⟨ha, hb⟩ | ⟨c, d, ha, hb, hcd⟩
  · rw [ha, hb]
  · rw [ha, hb, Option.any_some, Option.any_some, hf c d hcd]

theorem newline_iff (h : a.SameLetters b) (i : Nat) :
    a[i]? = some '\n' ↔ b[i]? = some '\n' := by
  rcases h.getElem?_cases i with ⟨ha, hb⟩ | ⟨c, d, ha, hb, hcd⟩
  · rw [ha, hb]
  · rw [ha, hb, Option.some.injEq, Option.some.injEq, ← beq_iff_eq, hcd.isNewline_eq, beq_iff_eq]

theorem holds_eq (h : a.SameLetters b) (anchor : Anchor) (pos : Nat) :
    anchor.holds a pos = anchor.holds b pos := by
  have hword : ∀ ascii i, a[i]?.any (CharClass.word.holds ascii) =
      b[i]?.any (CharClass.word.holds ascii) := fun ascii i =>
    h.any_eq i fun c d hcd => hcd.holds_eq .word ascii
  cases anchor with
  | wordEdge ascii inside =>
      simp only [Anchor.holds, h.size_eq]
      split <;> simp only [hword]
  | _ => simp only [Anchor.holds, h.size_eq, h.newline_iff]

theorem repeatEnd?_eq (h : a.SameLetters b) {fold : Fold} (hfold : fold ≠ .exact)
    (start n pos : Nat) : a.repeatEnd? fold start n pos = b.repeatEnd? fold start n pos := by
  induction n generalizing start pos with
  | zero => rfl
  | succ n ih =>
      unfold Source.repeatEnd?
      rcases h.getElem?_cases start with ⟨ha, hb⟩ | ⟨c, d, ha, hb, hcd⟩
      · rw [ha, hb]
      · rcases h.getElem?_cases pos with ⟨ha', hb'⟩ | ⟨c', d', ha', hb', hcd'⟩
        · rw [ha, hb, ha', hb']
        · simp only [ha, hb, ha', hb', hcd.key_eq hfold, hcd'.key_eq hfold, ih]

end Source.SameLetters

/-! ## Patterns -/

namespace Pattern

/-- Whether a pattern compares nothing exactly. -/
def caseless : Pattern → Bool
  | .empty | .anchor _ => true
  | .char t => t.caseless
  | .again _ fold => fold ≠ .exact
  | .seq p q | .alt p q | .ifGroup _ p q => p.caseless && q.caseless
  | .rep body _ _ _ | .group _ body | .ahead _ body | .behind _ _ body | .atomic body =>
    body.caseless

/-- **A pattern that compares nothing exactly runs in the same way on sources of the same
letters.** -/
theorem run_eq_of_sameLetters {a b : Source} (h : a.SameLetters b) {p : Pattern}
    (hp : p.caseless = true) : p.run a = p.run b := by
  induction p with
  | empty => rfl
  | char t =>
      funext s k
      unfold run
      rcases h.getElem?_cases s.pos with ⟨ha, hb⟩ | ⟨c, d, ha, hb, hcd⟩
      · rw [ha, hb]
      · simp only [ha, hb, t.accepts_eq hp hcd]
  | anchor anchor =>
      funext s k
      simp only [run, h.holds_eq]
  | again g fold =>
      have hfold : fold ≠ .exact := by simpa [caseless] using hp
      funext s k
      simp only [run, h.repeatEnd?_eq hfold]
  | seq p q ihp ihq =>
      obtain ⟨hp, hq⟩ := Bool.and_eq_true_iff.mp hp
      funext s k
      simp only [run, ihp hp, ihq hq]
  | alt p q ihp ihq =>
      obtain ⟨hp, hq⟩ := Bool.and_eq_true_iff.mp hp
      funext s k
      simp only [run, ihp hp, ihq hq]
  | ifGroup g p q ihp ihq =>
      obtain ⟨hp, hq⟩ := Bool.and_eq_true_iff.mp hp
      funext s k
      simp only [run, ihp hp, ihq hq]
  | rep body least most greed ih | group g body ih | ahead wanted body ih | atomic body ih
  | behind wanted width body ih =>
      funext s k
      simp only [run, ih hp, h.size_eq]

theorem matchEnd?_eq_of_sameLetters {a b : Source} (h : a.SameLetters b) {p : Pattern}
    (hp : p.caseless = true) (pos : Nat) : p.matchEnd? a pos = p.matchEnd? b pos := by
  simp only [matchEnd?, run_eq_of_sameLetters h hp]

/-! ## Patterns put together -/

@[simp] theorem caseless_char {t : CharTest} : (char t).caseless = t.caseless := rfl

theorem caseless_ofList : ∀ {ps : List Pattern}, (∀ p ∈ ps, p.caseless = true) →
    (ofList ps).caseless = true
  | [], _ => rfl
  | [p], h => h p (List.mem_singleton.mpr rfl)
  | p :: q :: rest, h => by
      have hrest := caseless_ofList fun r hr => h r (List.mem_cons_of_mem p hr)
      exact Bool.and_eq_true_iff.mpr ⟨h p List.mem_cons_self, hrest⟩

end Pattern

theorem CharTest.caseless_ofChar {fold : Fold} (h : fold ≠ .exact) (c : Char) :
    (CharTest.ofChar fold c).caseless = true := by
  simpa [ofChar, caseless] using h

namespace Part

open Pattern

/-- Whether all parts of a row compare nothing exactly. -/
def AllCaseless (ps : List Part) : Prop := ∀ p ∈ ps, p.pattern.caseless = true

theorem allCaseless_nil : AllCaseless [] := fun _ hp => by cases hp

theorem allCaseless_singleton {p : Part} : AllCaseless [p] ↔ p.pattern.caseless = true :=
  List.forall_mem_singleton

theorem AllCaseless.append {ps qs : List Part} (hp : AllCaseless ps) (hq : AllCaseless qs) :
    AllCaseless (ps ++ qs) :=
  List.forall_mem_append.mpr ⟨hp, hq⟩

theorem AllCaseless.sequence {ps : List Part} (h : AllCaseless ps) :
    (sequence ps).caseless = true := by
  refine caseless_ofList fun p hp => ?_
  obtain ⟨part, hpart, rfl⟩ := List.mem_map.mp hp
  exact h part hpart

theorem caseless_choice : ∀ {as : List (List Part)}, (∀ a ∈ as, AllCaseless a) →
    (choice as).caseless = true
  | [], _ => rfl
  | [a], h => (h a (List.mem_singleton.mpr rfl)).sequence
  | a :: b :: rest, h => by
      have hrest := caseless_choice fun c hc => h c (List.mem_cons_of_mem a hc)
      exact Bool.and_eq_true_iff.mpr ⟨(h a List.mem_cons_self).sequence, hrest⟩

/-- A test that a set can stand for says how case is looked at. -/
theorem fold_of_members? {p : Part} {m : List SetMember × Fold} (h : p.members? = some m)
    (hp : p.pattern.caseless = true) : m.2 ≠ .exact := by
  unfold members? at h
  split at h
  · next hpattern => cases h; simpa [hpattern, caseless, CharTest.caseless] using hp
  · next hpattern => cases h; simpa [hpattern, caseless, CharTest.caseless] using hp
  · cases h

theorem caseless_asSet? {as : List (List Part)} {t : CharTest} (h : asSet? as = some t)
    (has : ∀ a ∈ as, AllCaseless a) : t.caseless = true := by
  cases as with
  | nil => cases h
  | cons a rest =>
      obtain ⟨ms, hms, hset⟩ := Option.bind_eq_some_iff.mp h
      rw [List.mapM_cons] at hms
      obtain ⟨m, hm, hms⟩ := Option.bind_eq_some_iff.mp hms
      obtain ⟨ms', _, hms⟩ := Option.bind_eq_some_iff.mp hms
      obtain rfl := Option.some.inj hms
      obtain rfl := Option.some.inj hset
      -- the set looks at case as the first alternative does, which is a test by itself
      split at hm
      · next p =>
          have hp : p.pattern.caseless = true :=
            has [p] List.mem_cons_self p (List.mem_singleton.mpr rfl)
          exact decide_eq_true (fold_of_members? hm hp)
      · cases hm

/-- The parts that stand for a choice between rows of such parts are such parts. -/
theorem allCaseless_alternatives : ∀ {as : List (List Part)}, (∀ a ∈ as, AllCaseless a) →
    AllCaseless (alternatives as)
  | [], _ => allCaseless_nil
  | [a], h => h a (List.mem_singleton.mpr rfl)
  | a :: b :: rest, h => by
      have hstart : AllCaseless (sharedStart a (b :: rest)) := fun p hp =>
        h a List.mem_cons_self p (mem_of_mem_sharedStart hp)
      have htails : ∀ tail ∈ (a :: b :: rest).map (·.drop (sharedStart a (b :: rest)).length),
          AllCaseless tail := by
        intro tail htail p hp
        obtain ⟨c, hc, rfl⟩ := List.mem_map.mp htail
        exact h c hc p (List.mem_of_mem_drop hp)
      unfold alternatives
      dsimp only
      split
      · next t ht => exact hstart.append (allCaseless_singleton.mpr (caseless_asSet? ht htails))
      · exact hstart.append (allCaseless_singleton.mpr (caseless_choice htails))

end Part

namespace Pattern

variable {fold : Fold}

theorem caseless_literal (h : fold ≠ .exact) (s : String) : (literal fold s).caseless = true := by
  refine caseless_ofList fun p hp => ?_
  obtain ⟨c, _, rfl⟩ := List.mem_map.mp hp
  exact CharTest.caseless_ofChar h c

theorem caseless_lineComment (h : fold ≠ .exact) (marker : String) :
    (lineComment fold marker).caseless = true := by
  simpa [lineComment, caseless, CharTest.caseless, caseless_literal h] using h

theorem caseless_blockComment (h : fold ≠ .exact) (start stop : String) :
    (blockComment fold start stop).caseless = true := by
  simp [blockComment, caseless, CharTest.caseless, caseless_literal h]

theorem caseless_quotedString (h : fold ≠ .exact) (quote : Char) :
    (quotedString fold quote).caseless = true := by
  have hunquoted : (unquoted fold quote).caseless = true := by
    unfold unquoted
    split <;> simpa [CharTest.caseless] using h
  have hany : CharTest.any.caseless = true := rfl
  simp [quotedString, caseless, CharTest.caseless_ofChar h, hunquoted, hany]

theorem caseless_boundedEntries (h : fold ≠ .exact) (entries : List String) :
    (boundedEntries fold entries).caseless = true := by
  have hword : (Pattern.char (.ofClass fold .word)).caseless = true := by
    simpa [CharTest.ofClass, CharTest.caseless] using h
  have hentries : Part.AllCaseless
      (Part.alternatives (entries.map fun e => e.toList.map (Part.ofChar fold))) := by
    refine Part.allCaseless_alternatives fun a ha p hp => ?_
    obtain ⟨e, _, rfl⟩ := List.mem_map.mp ha
    obtain ⟨c, _, rfl⟩ := List.mem_map.mp hp
    exact CharTest.caseless_ofChar h c
  have hbefore : Part.AllCaseless [⟨.closed, .behind false ⟨1, 1⟩ (.char (.ofClass fold .word))⟩] :=
    Part.allCaseless_singleton.mpr hword
  have hafter : Part.AllCaseless [⟨.closed, .ahead false (.char (.ofClass fold .word))⟩] :=
    Part.allCaseless_singleton.mpr hword
  exact ((hbefore.append hentries).append hafter).sequence

end Pattern
end Lexlight
