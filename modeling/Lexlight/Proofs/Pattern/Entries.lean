import Lexlight.Grammar.Compile
import Lexlight.Proofs.Pattern.OneWay
import Mathlib.Data.List.Infix
import Mathlib.Data.List.Nodup
import Mathlib.Data.Set.List

/-!
# The matcher of entries

The entries that are no lexemes have one pattern together, and it is put together with more care
than its meaning asks for: what all entries begin with is matched once, and entries that differ in
their last characters only have a set in place of a choice. What it does is simple all the same. It
looks through the entries in their order, and takes the first that stands there with no word
character on either side (`matchEnd?_boundedEntries`).

The set leaves one trace, when case is not looked at: a set compares code points past the basic
plane in its own way. So what it is for an entry to stand somewhere is said by tests of characters
(`entryTests`), of which the last is that of a set where there is one.
-/

namespace Lexlight

/-! ## The first that gives something -/

section FindSome

variable {α β : Type} {f g : α → Option β} {as : List α}

/-- The first of a list is tried before the rest. -/
theorem findSome?_cons_orElse (f : α → Option β) (a : α) (as : List α) :
    (a :: as).findSome? f = (f a <|> as.findSome? f) := by
  rw [List.findSome?_cons]
  cases f a <;> rfl

theorem findSome?_congr (h : ∀ a ∈ as, f a = g a) : as.findSome? f = as.findSome? g := by
  induction as with
  | nil => rfl
  | cons a as ih =>
      obtain ⟨ha, has⟩ := List.forall_mem_cons.mp h
      rw [List.findSome?_cons, List.findSome?_cons, ha, ih has]

/-- Where all give the same, it is enough that one does. -/
theorem findSome?_ite (p : α → Bool) (x : Option β) (as : List α) :
    as.findSome? (fun a => if p a then x else none) = if as.any p then x else none := by
  induction as with
  | nil => rfl
  | cons a as ih =>
      rw [findSome?_cons_orElse, ih, List.any_cons]
      cases p a
      · simp
      · cases x <;> simp

end FindSome

/-! ## Tests one after the other -/

namespace Source

variable {src : Source} {pos : Nat}

/-- Whether the characters at a place pass tests, one after the other. -/
def PassesAt (src : Source) : (pos : Nat) → List CharTest → Prop
  | _, [] => True
  | pos, t :: ts => src[pos]?.any t.accepts = true ∧ PassesAt src (pos + 1) ts

instance decidablePassesAt (src : Source) :
    (pos : Nat) → (ts : List CharTest) → Decidable (src.PassesAt pos ts)
  | _, [] => inferInstanceAs (Decidable True)
  | pos, t :: ts =>
    have := decidablePassesAt src (pos + 1) ts
    inferInstanceAs (Decidable (src[pos]?.any t.accepts = true ∧ src.PassesAt (pos + 1) ts))

theorem passesAt_append {ts us : List CharTest} :
    src.PassesAt pos (ts ++ us) ↔ src.PassesAt pos ts ∧ src.PassesAt (pos + ts.length) us := by
  induction ts generalizing pos with
  | nil => simp [PassesAt]
  | cons t ts ih =>
      rw [List.cons_append, PassesAt, PassesAt, ih, List.length_cons, and_assoc,
        show pos + 1 + ts.length = pos + (ts.length + 1) by omega]

@[simp]
theorem passesAt_singleton {t : CharTest} :
    src.PassesAt pos [t] ↔ src[pos]?.any t.accepts = true := by
  simp [PassesAt]

/-- What passes lies within the source. -/
theorem PassesAt.le_size {ts : List CharTest} (h : src.PassesAt pos ts) (hpos : pos ≤ src.size) :
    pos + ts.length ≤ src.size := by
  induction ts generalizing pos with
  | nil => simpa using hpos
  | cons t ts ih =>
      have hlt := lt_size_of_any h.1
      have := ih h.2 hlt
      rw [List.length_cons]
      omega

end Source

namespace Pattern

variable {src : Source} {s : MatchState} {k : MatchState → Option MatchState}

/-- What follows makes of the state after tests that all pass. -/
def follow (src : Source) (k : MatchState → Option MatchState) (s : MatchState)
    (ts : List CharTest) : Option MatchState :=
  if src.PassesAt s.pos ts then k { s with pos := s.pos + ts.length } else none

theorem follow_append (ts us : List CharTest) :
    follow src k s (ts ++ us) = follow src (fun s' => follow src k s' us) s ts := by
  unfold follow
  by_cases hts : src.PassesAt s.pos ts
  · simp only [Source.passesAt_append, hts, true_and, if_true, List.length_append, Nat.add_assoc]
  · simp only [Source.passesAt_append, hts, false_and, if_false]

theorem follow_singleton (t : CharTest) :
    follow src k s [t] = if src[s.pos]?.any t.accepts then k { s with pos := s.pos + 1 }
      else none := by
  simp only [follow, Source.passesAt_singleton, List.length_singleton]

/-- Of tests that pass, the first continuation that accepts is looked for after them. -/
theorem findSome?_follow {α : Type} (g : α → MatchState → Option MatchState) (as : List α)
    (ts : List CharTest) : as.findSome? (fun a => follow src (g a) s ts) =
      follow src (fun s' => as.findSome? fun a => g a s') s ts := by
  unfold follow
  by_cases hts : src.PassesAt s.pos ts
  · simp only [if_pos hts]
  · simp only [if_neg hts, List.findSome?_eq_none_iff, implies_true]

theorem run_tests (ts : List CharTest) : ∀ s : MatchState,
    (ofList (ts.map .char)).run src s k = follow src k s ts := by
  induction ts with
  | nil => exact fun s => (if_pos trivial).symm
  | cons t ts ih =>
      intro s
      rw [List.map_cons, run_ofList_cons, run_char, ← List.singleton_append, follow_append,
        follow_singleton]
      simp only [ih]

end Pattern

/-! ## How entries are read -/

/-- The tests that the characters of an entry become. Where entries differ in their last characters
only, that of the last one is the test of a set. -/
def entryTests (fold : Fold) (apart : Bool) : List Char → List CharTest
  | [] => []
  | [c] => [if apart then .oneOf [.one c.toNat] fold false else .ofChar fold c]
  | c :: rest => .ofChar fold c :: entryTests fold apart rest

/-- Whether there are several entries, and they differ in their last characters only. -/
def lastApart : List (List Char) → Bool
  | e :: e' :: rest => (e :: e' :: rest).all fun x => x ≠ [] && x.dropLast = e.dropLast
  | _ => false

@[simp]
theorem length_entryTests (fold : Fold) (apart : Bool) :
    ∀ e : List Char, (entryTests fold apart e).length = e.length
  | [] => rfl
  | [_] => rfl
  | _ :: c :: rest => by
      rw [entryTests, List.length_cons, length_entryTests fold apart (c :: rest)]
      · rfl
      · simp

theorem entryTests_false (fold : Fold) : ∀ e : List Char,
    entryTests fold false e = e.map (.ofChar fold)
  | [] => rfl
  | [_] => rfl
  | _ :: c :: rest => by
      rw [entryTests, entryTests_false fold (c :: rest)]
      · rfl
      · simp

theorem entryTests_true (fold : Fold) (c : Char) : ∀ start : List Char,
    entryTests fold true (start ++ [c]) =
      start.map (.ofChar fold) ++ [.oneOf [.one c.toNat] fold false]
  | [] => rfl
  | d :: start => by
      rw [List.cons_append, entryTests, entryTests_true fold c start]
      · rfl
      · simp

theorem lastApart_iff {es : List (List Char)} :
    lastApart es = true ↔ 2 ≤ es.length ∧ ∃ start, ∀ e ∈ es, ∃ c, e = start ++ [c] := by
  have hlast : ∀ {e start : List Char}, (∃ c, e = start ++ [c]) ↔ e ≠ [] ∧ e.dropLast = start := by
    intro e start
    constructor
    · rintro ⟨c, rfl⟩; simp
    · rintro ⟨hne, rfl⟩; exact ⟨e.getLast hne, (List.dropLast_append_getLast hne).symm⟩
  match es with
  | [] => simp [lastApart]
  | [_] => simp [lastApart]
  | e :: e' :: rest =>
      simp only [lastApart, List.all_eq_true, Bool.and_eq_true, decide_eq_true_eq, hlast]
      constructor
      · exact fun h => ⟨by simp, e.dropLast, h⟩
      · rintro ⟨-, start, h⟩ x hx
        exact ⟨(h x hx).1, (h x hx).2.trans (h e (List.mem_cons_self ..)).2.symm⟩

/-- A character is not told apart from itself. -/
theorem accepts_ofChar_self (fold : Fold) (c : Char) :
    (CharTest.ofChar fold c).accepts c = true := by
  -- the characters that are alike have a class, or there is the one only
  have halike : fold.key c.toNat ∈ fold.alike (fold.key c.toNat) := by
    cases fold with
    | exact => exact List.mem_singleton.mpr rfl
    | ascii => exact List.mem_singleton.mpr rfl
    | full =>
        change _ ∈ Unicode.twins _
        unfold Unicode.twins
        cases hfind : Unicode.twinClasses.find? (·.contains (Fold.full.key c.toNat)) with
        | none => exact List.mem_singleton.mpr rfl
        | some alike => simpa using List.find?_some hfind
  simpa [CharTest.ofChar, CharTest.accepts, Fold.same] using halike

/-- Where an entry stands as it is written, it is read, but perhaps by a set that looks through
case. -/
theorem passesAt_of_hasAt {src : Source} {fold : Fold} {apart : Bool}
    (h : fold = .exact ∨ apart = false) : ∀ {e : List Char} {pos : Nat}, src.HasAt pos e →
      src.PassesAt pos (entryTests fold apart e)
  | [], _, _ => trivial
  | [c], pos, hat => by
      have hc : src[pos]? = some c := hat.1
      rw [entryTests, Source.passesAt_singleton, hc, Option.any_some]
      rcases h with rfl | rfl
      · cases apart with
        | true => simp [CharTest.accepts, SetMember.accepts]
        | false => exact accepts_ofChar_self .exact c
      · exact accepts_ofChar_self fold c
  | c :: d :: rest, pos, hat => by
      have hc : src[pos]? = some c := hat.1
      rw [entryTests]
      · refine ⟨?_, passesAt_of_hasAt h hat.2⟩
        rw [hc, Option.any_some]
        exact accepts_ofChar_self fold c
      · simp

/-! ## The choice between entries -/

namespace Part

open Pattern

variable {src : Source} {fold : Fold} {k : MatchState → Option MatchState}

theorem ofChar_inj {c d : Char} : ofChar fold c = ofChar fold d ↔ c = d := by
  simp only [ofChar, ofTest, CharTest.ofChar, mk.injEq, Pattern.char.injEq, CharTest.one.injEq,
    true_and, and_true]
  exact Char.toNat_inj

theorem map_pattern_ofChar (e : List Char) :
    (e.map (ofChar fold)).map (·.pattern) = (e.map (CharTest.ofChar fold)).map .char := by
  simp [ofChar, ofTest]

/-- Characters as parts are read one after the other. -/
theorem run_chars (e : List Char) (s : MatchState) :
    (sequence (e.map (ofChar fold))).run src s k =
      follow src k s (e.map (CharTest.ofChar fold)) := by
  rw [sequence, map_pattern_ofChar, run_tests]

/-- What all entries begin with, as far as it goes. -/
theorem sharedStart_chars (fold : Fold) (e : List Char) : ∀ others : List (List Char),
    ∃ start, sharedStart (e.map (ofChar fold)) (others.map (·.map (ofChar fold))) =
        start.map (ofChar fold) ∧
      (∀ x ∈ e :: others, start <+: x) ∧
      ∀ start', (∀ x ∈ e :: others, start' <+: x) → start' <+: start := by
  induction e with
  | nil =>
      refine fun others => ⟨[], rfl, fun x _ => List.nil_prefix, fun start' h => ?_⟩
      exact h [] (List.mem_cons_self ..)
  | cons c e ih =>
      intro others
      by_cases hall : ∀ x ∈ others, x.head? = some c
      · -- all begin with this character, and the rest of each is looked at further
        obtain ⟨start, hstart, hpre, hmax⟩ := ih (others.map List.tail)
        have hcons : ∀ x ∈ others, x = c :: x.tail := fun x hx =>
          (List.cons_head?_tail (hall x hx)).symm
        refine ⟨c :: start, ?_, ?_, ?_⟩
        · rw [List.map_cons, sharedStart, if_pos, List.map_cons, ← hstart]
          · simp [Function.comp_def, List.map_tail]
          · refine Bool.and_eq_true_iff.mpr ⟨rfl, List.all_eq_true.mpr fun p hp => ?_⟩
            obtain ⟨x, hx, rfl⟩ := List.mem_map.mp hp
            rw [List.head?_map, hall x hx]
            simp
        · refine List.forall_mem_cons.mpr ⟨?_, fun x hx => ?_⟩
          · exact List.prefix_cons_inj c |>.mpr (hpre e (List.mem_cons_self ..))
          · rw [hcons x hx]
            exact (List.prefix_cons_inj c).mpr
              (hpre _ (List.mem_cons_of_mem _ (List.mem_map_of_mem hx)))
        · intro start' h
          match start' with
          | [] => exact List.nil_prefix
          | d :: start' =>
            obtain ⟨hhead, hothers⟩ := List.forall_mem_cons.mp h
            obtain ⟨rfl, htail⟩ := List.cons_prefix_cons.mp hhead
            refine (List.prefix_cons_inj d).mpr (hmax start' ?_)
            refine List.forall_mem_cons.mpr ⟨htail, fun x hx => ?_⟩
            obtain ⟨y, hy, rfl⟩ := List.mem_map.mp hx
            have hy' := hothers y hy
            rw [hcons y hy] at hy'
            exact (List.cons_prefix_cons.mp hy').2
      · -- one begins differently, so nothing is shared
        refine ⟨[], ?_, fun x _ => List.nil_prefix, fun start' h => ?_⟩
        · rw [List.map_cons, sharedStart, if_neg, List.map_nil]
          intro hcond
          refine hall fun x hx => ?_
          have hp := List.all_eq_true.mp (Bool.and_eq_true_iff.mp hcond).2 _
            (List.mem_map_of_mem (f := List.map (ofChar fold)) hx)
          rw [List.head?_map, beq_iff_eq, Option.map_eq_some_iff] at hp
          obtain ⟨d, hd, hdc⟩ := hp
          rw [hd, ofChar_inj.mp hdc]
        · match start' with
          | [] => exact List.nil_prefix
          | d :: start' =>
            obtain ⟨hhead, hothers⟩ := List.forall_mem_cons.mp h
            obtain ⟨rfl, -⟩ := List.cons_prefix_cons.mp hhead
            refine absurd (fun x hx => ?_) hall
            obtain ⟨rest, rfl⟩ := hothers x hx
            rfl

/-- The members of the set that single characters make. -/
def setMembers? (a : List Part) : Option (List SetMember × Fold) :=
  match a with
  | [p] => p.members?
  | _ => none

theorem setMembers?_singles (fold : Fold) : ∀ cs : List Char,
    (cs.map fun c => [ofChar fold c]).mapM setMembers? =
      some (cs.map fun c => ([.one c.toNat], fold))
  | [] => rfl
  | c :: cs => by
      rw [List.map_cons, List.mapM_cons, setMembers?_singles fold cs]
      rfl

/-- Single characters become one set. -/
theorem asSet?_singles (fold : Fold) {cs : List Char} (hne : cs ≠ []) :
    asSet? (cs.map fun c => [ofChar fold c]) =
      some (.oneOf (cs.map fun c => SetMember.one c.toNat).eraseDups fold false) := by
  obtain ⟨c, cs, rfl⟩ := List.exists_cons_of_ne_nil hne
  have hmembers := setMembers?_singles fold (c :: cs)
  change ((c :: cs).map fun c => [ofChar fold c]).mapM setMembers? >>= _ = _
  have hflat : ∀ cs : List Char, (cs.map fun c => ([SetMember.one c.toNat], fold)).flatMap
      Prod.fst = cs.map fun c => .one c.toNat := by
    intro cs
    rw [List.flatMap_map, List.map_eq_flatMap]
  rw [hmembers, Option.bind_eq_bind, Option.bind_some, hflat]
  rfl

/-- Where one is no single character, there is no set. -/
theorem asSet?_eq_none {fold : Fold} {tails : List (List Char)} {x : List Char} (hx : x ∈ tails)
    (hne : ∀ c, x ≠ [c]) : asSet? (tails.map (·.map (ofChar fold))) = none := by
  have hnone : setMembers? (x.map (ofChar fold)) = none := by
    match x with
    | [] => rfl
    | [c] => exact absurd rfl (hne c)
    | _ :: _ :: _ => rfl
  have hmapM : (tails.map (·.map (ofChar fold))).mapM setMembers? = none := by
    induction tails with
    | nil => exact absurd hx (by simp)
    | cons y tails ih =>
        rw [List.map_cons, List.mapM_cons]
        rcases List.mem_cons.mp hx with rfl | hx
        · rw [hnone]; rfl
        · rw [ih hx]
          cases setMembers? (y.map (ofChar fold)) <;> rfl
  obtain ⟨y, tails, rfl⟩ := List.exists_cons_of_ne_nil (List.ne_nil_of_mem hx)
  change ((y :: tails).map (·.map (ofChar fold))).mapM setMembers? >>= _ = _
  rw [hmapM]
  rfl

/-- What is left of entries after a common start makes no set, unless it is the last character of
each. -/
theorem asSet?_tails_eq_none {fold : Fold} {es : List (List Char)} {start : List Char}
    (hseveral : 2 ≤ es.length) (hpre : ∀ x ∈ es, start <+: x) (hlast : lastApart es = false) :
    asSet? ((es.map (·.drop start.length)).map (·.map (ofChar fold))) = none := by
  by_contra hset
  have hsingle : ∀ x ∈ es, ∃ c, x.drop start.length = [c] := by
    intro x hx
    by_contra hnot
    exact hset (asSet?_eq_none (List.mem_map_of_mem hx) (not_exists.mp hnot))
  have hapart : lastApart es = true := by
    refine lastApart_iff.mpr ⟨hseveral, start, fun x hx => ?_⟩
    obtain ⟨c, hc⟩ := hsingle x hx
    exact ⟨c, hc ▸ (List.prefix_iff_eq_append.mp (hpre x hx)).symm⟩
  exact absurd (hlast.symm.trans hapart) (by simp)

/-- A choice takes the first that what follows accepts. -/
theorem run_choice {tails : List (List Char)} (hne : tails ≠ []) (s : MatchState) :
    (choice (tails.map (·.map (ofChar fold)))).run src s k =
      tails.findSome? fun x => follow src k s (x.map (CharTest.ofChar fold)) := by
  induction tails with
  | nil => exact absurd rfl hne
  | cons x tails ih =>
      cases tails with
      | nil => rw [List.map_singleton, choice, run_chars, List.findSome?_singleton]
      | cons y tails =>
          rw [findSome?_cons_orElse, ← ih (by simp), List.map_cons, choice, run_alt, run_chars]
          simp

/-- A set takes a character that one of its members does. -/
theorem accepts_set (fold : Fold) (cs : List Char) (d : Char) :
    (CharTest.oneOf (cs.map fun c => SetMember.one c.toNat).eraseDups fold false).accepts d =
      cs.any fun c => (CharTest.oneOf [.one c.toNat] fold false).accepts d := by
  rw [Bool.eq_iff_iff]
  simp [CharTest.accepts, List.mem_eraseDups]

/-- A part after characters is reached when they are read. -/
theorem run_chars_append (start : List Char) (p : Part) (s : MatchState) :
    (sequence (start.map (ofChar fold) ++ [p])).run src s k =
      follow src (fun s' => p.pattern.run src s' k) s (start.map (CharTest.ofChar fold)) := by
  rw [sequence, List.map_append, run_ofList_append, map_pattern_ofChar, run_tests]
  rfl

/-- Trying the members of a set one after the other is trying the set. -/
theorem run_set (fold : Fold) (cs : List Char) (s : MatchState) :
    (Pattern.char (.oneOf (cs.map fun c => SetMember.one c.toNat).eraseDups fold false)).run
        src s k =
      cs.findSome? fun c => follow src k s [.oneOf [.one c.toNat] fold false] := by
  have hany : src[s.pos]?.any
      (CharTest.oneOf (cs.map fun c => SetMember.one c.toNat).eraseDups fold false).accepts =
      cs.any fun c => src[s.pos]?.any (CharTest.oneOf [.one c.toNat] fold false).accepts := by
    cases src[s.pos]? with
    | none => simp
    | some d => exact accepts_set fold cs d
  simp only [run_char, hany, follow_singleton]
  exact (findSome?_ite _ _ cs).symm

/-- Entries that differ in their last characters only share all the others. -/
theorem sharedStart_lastApart {e e' start start' : List Char} {rest : List (List Char)}
    (hne : e ≠ e') (hpre : ∀ x ∈ e :: e' :: rest, start <+: x)
    (hmax : ∀ start', (∀ x ∈ e :: e' :: rest, start' <+: x) → start' <+: start)
    (hlast : ∀ x ∈ e :: e' :: rest, ∃ c, x = start' ++ [c]) : start = start' := by
  have hle : start' <+: start := hmax start' fun x hx => by
    obtain ⟨c, rfl⟩ := hlast x hx
    exact List.prefix_append _ _
  obtain ⟨c, hc⟩ := hlast e (by simp)
  obtain ⟨c', hc'⟩ := hlast e' (by simp)
  have hpre₁ := hpre e (by simp)
  have hpre₂ := hpre e' (by simp)
  have hlen : start.length ≤ start'.length := by
    by_contra hlt
    have hfull : ∀ {x : List Char} {d : Char}, start <+: x → x = start' ++ [d] → start = x := by
      intro x d hx hxd
      refine hx.eq_of_length_le ?_
      rw [hxd, List.length_append, List.length_singleton]
      omega
    exact hne ((hfull hpre₁ hc).symm.trans (hfull hpre₂ hc'))
  exact (hle.eq_of_length_le hlen).symm

/-- The parts that stand for several entries: what they share, and a set or a choice after it. -/
theorem alternatives_chars (fold : Fold) (e e' : List Char) (rest : List (List Char)) :
    ∃ start, (∀ x ∈ e :: e' :: rest, start <+: x) ∧
      (∀ start', (∀ x ∈ e :: e' :: rest, start' <+: x) → start' <+: start) ∧
      alternatives ((e :: e' :: rest).map (·.map (ofChar fold))) = start.map (ofChar fold) ++
        [match asSet? (((e :: e' :: rest).map (·.drop start.length)).map (·.map (ofChar fold))) with
          | some t => ofTest t
          | none => ⟨.closed, choice
              (((e :: e' :: rest).map (·.drop start.length)).map (·.map (ofChar fold)))⟩] := by
  obtain ⟨start, hstart, hpre, hmax⟩ := sharedStart_chars fold e (e' :: rest)
  refine ⟨start, hpre, hmax, ?_⟩
  have htails : ((e :: e' :: rest).map (·.map (ofChar fold))).map
      (·.drop (start.map (ofChar fold)).length) =
      ((e :: e' :: rest).map (·.drop start.length)).map (·.map (ofChar fold)) := by
    simp [Function.comp_def, List.map_drop]
  rw [← htails, ← hstart]
  rw [List.map_cons, List.map_cons, alternatives]
  · generalize asSet? (List.map _ _) = set?
    cases set? <;> rfl
  · simp

/-- **The choice between entries** takes the first that what follows accepts, whatever they share
and whether or not there is a set. -/
theorem run_alternatives {es : List (List Char)} (hne : es ≠ []) (hnd : es.Nodup)
    (s : MatchState) :
    (sequence (alternatives (es.map (·.map (ofChar fold))))).run src s k =
      es.findSome? fun e => follow src k s (entryTests fold (lastApart es) e) := by
  match es with
  | [] => exact absurd rfl hne
  | [e] =>
      rw [List.findSome?_singleton, show lastApart [e] = false from rfl, entryTests_false]
      exact run_chars e s
  | e :: e' :: rest =>
      obtain ⟨start, hpre, hmax, halt⟩ := alternatives_chars fold e e' rest
      rw [halt, run_chars_append]
      cases hlast : lastApart (e :: e' :: rest) with
      | true =>
          -- what is left of each entry is one character, and these make a set
          obtain ⟨-, start', hchars⟩ := lastApart_iff.mp hlast
          have hee' : e ≠ e' := by
            rintro rfl
            exact (List.nodup_cons.mp hnd).1 (List.mem_cons_self ..)
          obtain rfl := sharedStart_lastApart hee' hpre hmax hchars
          have hrange : e :: e' :: rest ∈ Set.range (List.map fun c => start ++ [c]) := by
            rw [Set.range_list_map]
            exact fun x hx => (hchars x hx).imp fun _ hc => hc.symm
          obtain ⟨cs, hcs⟩ := hrange
          have hne' : cs ≠ [] := by
            rintro rfl
            exact absurd hcs (by simp)
          have htails : ((cs.map fun c => start ++ [c]).map (·.drop start.length)).map
              (·.map (ofChar fold)) = cs.map fun c => [ofChar fold c] := by
            simp [Function.comp_def]
          rw [← hcs, htails, asSet?_singles fold hne', List.findSome?_map]
          simp only [Function.comp_def, entryTests_true, follow_append, findSome?_follow, ofTest,
            run_set]
      | false =>
          have hnone : asSet? (((e :: e' :: rest).map (·.drop start.length)).map
              (·.map (ofChar fold))) = none := asSet?_tails_eq_none (by simp) hpre hlast
          have hentry : ∀ x ∈ e :: e' :: rest, follow src k s (x.map (CharTest.ofChar fold)) =
              follow src (fun s' => follow src k s' ((x.drop start.length).map (.ofChar fold))) s
                (start.map (.ofChar fold)) := by
            intro x hx
            rw [← follow_append, ← List.map_append, List.prefix_iff_eq_append.mp (hpre x hx)]
          simp only [entryTests_false]
          rw [hnone, findSome?_congr hentry, findSome?_follow]
          simp only [run_choice (by simp : (e :: e' :: rest).map (·.drop start.length) ≠ []),
            List.findSome?_map, Function.comp_def]

end Part

namespace Pattern

variable {src : Source} {pos : Nat} {fold : Fold}

theorem accepts_ofClass_word (fold : Fold) :
    (CharTest.ofClass fold .word).accepts = Unicode.isWord := by
  funext c
  simp [CharTest.ofClass, CharTest.accepts, SetMember.accepts, CharClass.holds]

/-- The end of an entry is no place in a word. -/
theorem run_wordEnd (s : MatchState) :
    (ofList [.ahead false (.char (.ofClass fold .word))]).run src s some =
      if src[s.pos]?.any Unicode.isWord then none else some s := by
  change (Pattern.ahead false (.char (.ofClass fold .word))).run src s some = _
  rw [run_notAhead, run_char, accepts_ofClass_word]
  cases src[s.pos]?.any Unicode.isWord <;> rfl

/-- Whether an entry, read by given tests, stands at a place with no word character after it. -/
def EntryAt (src : Source) (pos : Nat) (ts : List CharTest) : Prop :=
  src.PassesAt pos ts ∧ ¬ src[pos + ts.length]?.any Unicode.isWord

instance (src : Source) (pos : Nat) (ts : List CharTest) : Decidable (EntryAt src pos ts) :=
  inferInstanceAs (Decidable (_ ∧ _))

/-- **What the matcher of entries matches**: the first entry that stands there with no word
character on either side. -/
theorem matchEnd?_boundedEntries {entries : List String} (hne : entries ≠ [])
    (hnd : entries.Nodup) :
    (boundedEntries fold entries).matchEnd? src pos =
      if src.before Unicode.isWord pos then none
      else entries.findSome? fun e =>
        if EntryAt src pos (entryTests fold (lastApart (entries.map String.toList)) e.toList) then
          some (pos + e.toList.length)
        else none := by
  have hchars : entries.map (fun e => e.toList.map (Part.ofChar fold)) =
      (entries.map String.toList).map (·.map (Part.ofChar fold)) := by
    rw [List.map_map]
    rfl
  have hnd' : (entries.map String.toList).Nodup :=
    List.Nodup.map (fun _ _ h => String.toList_inj.mp h) hnd
  have hchoice : ∀ k : MatchState → Option MatchState,
      (ofList ((Part.alternatives (entries.map fun e => e.toList.map (Part.ofChar fold))).map
        (·.pattern))).run src ⟨pos, {}⟩ k =
      entries.findSome? fun e => follow src k ⟨pos, {}⟩
        (entryTests fold (lastApart (entries.map String.toList)) e.toList) := by
    intro k
    rw [hchars]
    exact (Part.run_alternatives (by simpa using hne) hnd' ⟨pos, {}⟩).trans List.findSome?_map
  rw [matchEnd?, boundedEntries, Part.sequence, List.map_append, List.map_cons, List.cons_append,
    run_ofList_cons, run_notBehind_char, accepts_ofClass_word]
  cases hbefore : src.before Unicode.isWord pos with
  | true => rfl
  | false =>
      rw [if_neg (by simp), if_neg (by simp), run_ofList_append, hchoice,
        List.map_findSome?]
      refine findSome?_congr fun e he => ?_
      simp only [List.map_singleton, run_wordEnd, Function.comp_apply, follow, EntryAt,
        length_entryTests]
      by_cases hpass : src.PassesAt pos
        (entryTests fold (lastApart (entries.map String.toList)) e.toList)
      · by_cases hword : src[pos + e.toList.length]?.any Unicode.isWord = true
        · simp [hpass, hword]
        · simp [hpass, hword]
      · simp [hpass]

end Pattern

/-! ## Longer entries first -/

theorem entryBefore_trans {a b c : String} (hab : entryBefore a b = true)
    (hbc : entryBefore b c = true) : entryBefore a c = true := by
  simp only [entryBefore, Bool.or_eq_true, Bool.and_eq_true, decide_eq_true_eq] at *
  rcases hab with hab | ⟨hab, hle⟩
  · exact Or.inl (by omega)
  · rcases hbc with hbc | ⟨hbc, hle'⟩
    · exact Or.inl (by omega)
    · exact Or.inr ⟨hab.trans hbc, String.le_trans hle hle'⟩

theorem entryBefore_total (a b : String) : (entryBefore a b || entryBefore b a) = true := by
  simp only [entryBefore, Bool.or_eq_true, Bool.and_eq_true, decide_eq_true_eq]
  rcases Nat.lt_trichotomy a.length b.length with h | h | h
  · exact Or.inr (Or.inl h)
  · rcases String.le_total a b with hle | hle
    · exact Or.inl (Or.inr ⟨h, hle⟩)
    · exact Or.inr (Or.inr ⟨h.symm, hle⟩)
  · exact Or.inl (Or.inl h)

/-- Of sorted entries none is longer than one before it. -/
theorem sorted_entries (entries : List String) :
    (entries.mergeSort entryBefore).Pairwise fun a b => b.length ≤ a.length := by
  have hsorted : (entries.mergeSort entryBefore).Pairwise fun a b => entryBefore a b = true :=
    @List.pairwise_mergeSort _ entryBefore (fun _ _ _ h h' => entryBefore_trans h h')
      entryBefore_total entries
  refine hsorted.imp fun h => ?_
  simp only [entryBefore, Bool.or_eq_true, Bool.and_eq_true, decide_eq_true_eq] at h
  omega

/-- Whether there is a set does not depend on the order of the entries. -/
theorem lastApart_perm {es es' : List (List Char)} (h : es.Perm es') :
    lastApart es = lastApart es' := by
  rw [Bool.eq_iff_iff, lastApart_iff, lastApart_iff, h.length_eq]
  simp only [h.mem_iff]

namespace Pattern

variable {src : Source} {pos : Nat} {fold : Fold} {entries : List String}

/-- The tests by which one of some entries is read. -/
def testsAmong (fold : Fold) (entries : List String) (e : String) : List CharTest :=
  entryTests fold (lastApart (entries.map String.toList)) e.toList

theorem length_testsAmong (e : String) : (testsAmong fold entries e).length = e.length := by
  rw [testsAmong, length_entryTests, String.length_toList]

/-- What the matcher of sorted entries goes through. -/
theorem matchEnd?_sortedEntries (hne : entries ≠ []) (hnd : entries.Nodup)
    (hbefore : src.before Unicode.isWord pos = false) :
    (boundedEntries fold (entries.mergeSort entryBefore)).matchEnd? src pos =
      (entries.mergeSort entryBefore).findSome? fun e =>
        if EntryAt src pos (testsAmong fold entries e) then some (pos + e.length) else none := by
  have hperm := List.mergeSort_perm entries entryBefore
  have hne' : entries.mergeSort entryBefore ≠ [] := by
    rw [← List.length_pos_iff, hperm.length_eq, List.length_pos_iff]
    exact hne
  rw [matchEnd?_boundedEntries hne' (hperm.nodup_iff.mpr hnd), hbefore, if_neg (by simp),
    lastApart_perm (hperm.map String.toList)]
  rfl

/-- **No entry is matched** where none stands. -/
theorem matchEnd?_sortedEntries_eq_none (hne : entries ≠ []) (hnd : entries.Nodup)
    (hbefore : src.before Unicode.isWord pos = false) :
    (boundedEntries fold (entries.mergeSort entryBefore)).matchEnd? src pos = none ↔
      ∀ e ∈ entries, ¬ EntryAt src pos (testsAmong fold entries e) := by
  rw [matchEnd?_sortedEntries hne hnd hbefore, List.findSome?_eq_none_iff]
  simp

/-- **The longest entry is matched** of those that stand there. -/
theorem matchEnd?_sortedEntries_eq_some (hne : entries ≠ []) (hnd : entries.Nodup)
    (hbefore : src.before Unicode.isWord pos = false) {stop : Nat} :
    (boundedEntries fold (entries.mergeSort entryBefore)).matchEnd? src pos = some stop ↔
      ∃ e ∈ entries, EntryAt src pos (testsAmong fold entries e) ∧ stop = pos + e.length ∧
        ∀ e' ∈ entries, EntryAt src pos (testsAmong fold entries e') → e'.length ≤ e.length := by
  have hlongest : ∀ {stop}, (boundedEntries fold (entries.mergeSort entryBefore)).matchEnd? src
      pos = some stop → ∃ e ∈ entries, EntryAt src pos (testsAmong fold entries e) ∧
        stop = pos + e.length ∧
        ∀ e' ∈ entries, EntryAt src pos (testsAmong fold entries e') → e'.length ≤ e.length := by
    intro stop h
    rw [matchEnd?_sortedEntries hne hnd hbefore, List.findSome?_eq_some_iff] at h
    obtain ⟨before, e, rest, hsplit, hfound, hnone⟩ := h
    have hsorted := sorted_entries entries
    rw [hsplit, List.pairwise_append, List.pairwise_cons] at hsorted
    have hmem : ∀ x, x ∈ entries ↔ x ∈ before ++ e :: rest := fun x => by
      rw [← hsplit, List.mem_mergeSort]
    split at hfound
    · rename_i hat
      refine ⟨e, (hmem e).mpr (by simp), hat, (Option.some.inj hfound).symm, fun e' he' hat' => ?_⟩
      -- what stands before the one found does not stand in the source, and what is after it in
      -- the order is no longer
      rcases List.mem_append.mp ((hmem e').mp he') with hin | hin
      · exact absurd (hnone e' hin) (by simp [hat'])
      · rcases List.mem_cons.mp hin with rfl | hin
        · exact Nat.le_refl _
        · exact hsorted.2.1.1 e' hin
    · exact absurd hfound (by simp)
  refine ⟨hlongest, ?_⟩
  rintro ⟨e, he, hat, rfl, hmax⟩
  cases hm : (boundedEntries fold (entries.mergeSort entryBefore)).matchEnd? src pos with
  | none => exact absurd hat ((matchEnd?_sortedEntries_eq_none hne hnd hbefore).mp hm e he)
  | some stop =>
      -- the one found may be another, but then of the same length
      obtain ⟨e', he', hat', rfl, hmax'⟩ := hlongest hm
      have := hmax e' he' hat'
      have := hmax' e he hat
      rw [show e'.length = e.length by omega]

end Pattern
end Lexlight
