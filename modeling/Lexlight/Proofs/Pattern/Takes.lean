import Lexlight.Pattern.Reading.Read

/-!
# What a written text is read as

A piece of a pattern is read to the same end wherever it stands: the step that reads it takes just
its characters, gives what they stand for, and changes nothing else (`Takes`). Pieces are put
together by `Takes.bind`, in the order in which they are written, so a pattern that is given by its
text can be read here as it is read by the program, with unknown pieces in between.

What may follow a piece matters in two places. A text is refused as soon as all that is left of it
is one backslash, so that is asked not to be so after every step. And some readers look ahead for
what is not there, such as a quantifier for a sign that makes it lazy.

Characters that mean something else in a pattern stand for themselves after a backslash (`spelled`).
Such a text is read as those characters wherever a sequence or a set goes on
(`takes_sequence_spelled`, `takes_setMembers_glyph`).
-/

namespace Lexlight.Reading

variable {α β : Type} {u v rest : List Char}

/-- Whether a step takes some text that has the rest after it, gives an answer and changes nothing
else. -/
def Takes (x : Reading α) (u rest : List Char) (a : α) : Prop :=
  ∀ s : ReadState, s.rest = u ++ rest →
    x.run s = .ok (a, { s with rest := rest, pos := s.pos + u.length })

namespace Takes

theorem pure (a : α) (rest : List Char) : Takes (pure a) [] rest a := by
  rintro s rfl
  rfl

theorem bind {x : Reading α} {f : α → Reading β} {a : α} {b : β} (hx : Takes x u (v ++ rest) a)
    (hf : Takes (f a) v rest b) : Takes (x >>= f) (u ++ v) rest b := by
  intro s hs
  rw [StateT.run_bind, hx s (by rw [hs, List.append_assoc])]
  change (f a).run _ = _
  rw [hf _ rfl, List.length_append, Nat.add_assoc]

/-- The second step takes nothing. -/
theorem bind_nil {x : Reading α} {f : α → Reading β} {a : α} {b : β} (hx : Takes x u rest a)
    (hf : Takes (f a) [] rest b) : Takes (x >>= f) u rest b := by
  have h := Takes.bind (v := []) hx hf
  rwa [List.append_nil] at h

/-- The first step takes nothing. -/
theorem nil_bind {x : Reading α} {f : α → Reading β} {a : α} {b : β}
    (hx : Takes x [] (u ++ rest) a) (hf : Takes (f a) u rest b) : Takes (x >>= f) u rest b :=
  Takes.bind (u := []) hx hf

/-- A step that looks at the state sees the text. -/
theorem get {f : ReadState → Reading β} {b : β}
    (hf : ∀ s : ReadState, s.rest = u ++ rest → Takes (f s) u rest b) :
    Takes (MonadState.get >>= f) u rest b := fun s hs => hf s hs s hs

theorem position {f : Nat → Reading β} {b : β} (hf : ∀ pos, Takes (f pos) u rest b) :
    Takes (position >>= f) u rest b := fun s hs => hf s.pos s hs

end Takes

/-! ## Glyphs -/

theorem headGlyph?_plain {c : Char} (hc : c ≠ '\\') (rest : List Char) :
    headGlyph? (c :: rest) = some (.plain c) := by
  unfold headGlyph?
  split
  · contradiction
  · simp_all
  · simp_all

/-- A text with a character in it that is no backslash is more than a backslash. -/
theorem append_cons_ne {c : Char} (hc : c ≠ '\\') (u rest : List Char) :
    u ++ c :: rest ≠ ['\\'] := by
  cases u with
  | nil => simp [hc]
  | cons d u => simp

theorem takes_peek {g : Option Glyph} (h : headGlyph? rest = g) : Takes peek [] rest g := by
  rintro s rfl
  subst h
  rfl

theorem takes_checkDangling (hrest : rest ≠ ['\\']) : Takes checkDangling [] rest () := by
  refine Takes.get fun s hs => ?_
  have hs : s.rest = rest := hs
  rw [hs, if_neg hrest]
  exact Takes.pure _ _

theorem takes_advance {g : Glyph} (hg : headGlyph? (g.text ++ rest) = some g)
    (hrest : rest ≠ ['\\']) : Takes advance g.text rest () := by
  intro s hs
  have hdrop : s.rest.drop g.size = rest := by rw [hs]; exact List.drop_left
  unfold advance
  rw [StateT.run_bind, StateT.run_get]
  change StateT.run _ s = _
  rw [hs, hg]
  dsimp only
  rw [← hs, hdrop]
  exact takes_checkDangling hrest _ rfl

theorem takes_advance_plain {c : Char} (hc : c ≠ '\\') (hrest : rest ≠ ['\\']) :
    Takes advance [c] rest () :=
  takes_advance (g := .plain c) (headGlyph?_plain hc rest) hrest

theorem takes_advance_escaped (c : Char) (hrest : rest ≠ ['\\']) :
    Takes advance ['\\', c] rest () :=
  takes_advance (g := .escaped c) rfl hrest

/-- A step that is told where a character stands, and comes after it. -/
theorem takes_position_advance {f : Nat → Reading β} {b : β} {c : Char} (hc : c ≠ '\\')
    (hrest : u ++ rest ≠ ['\\']) (hf : ∀ pos, Takes (f pos) u rest b) :
    Takes (position >>= fun pos => advance >>= fun _ => f pos) (c :: u) rest b :=
  Takes.position fun pos => (takes_advance_plain hc hrest).bind (hf pos)

theorem takes_next {g : Glyph} (hg : headGlyph? (g.text ++ rest) = some g)
    (hrest : rest ≠ ['\\']) : Takes next g.text rest (some g) :=
  (takes_peek hg).nil_bind ((takes_advance hg hrest).bind_nil (Takes.pure _ rest))

theorem takes_accept {c : Char} (hc : c ≠ '\\') (hrest : rest ≠ ['\\']) :
    Takes (accept c) [c] rest true := by
  refine (takes_peek (headGlyph?_plain hc rest)).nil_bind ?_
  rw [if_pos rfl]
  exact (takes_advance_plain hc hrest).bind_nil (Takes.pure true rest)

theorem takes_accept_not {c : Char} (h : headGlyph? rest ≠ some (.plain c)) :
    Takes (accept c) [] rest false := by
  refine (takes_peek rfl).nil_bind ?_
  rw [List.nil_append, if_neg h]
  exact Takes.pure false rest

/-! ## Characters with a meaning of their own -/

/-- The characters that a backslash takes a meaning from. -/
def special : List Char :=
  ['(', ')', '[', ']', '\x7b', '\x7d', '?', '*', '+', '-', '|', '^', '$', '\\', '.', '&', '~', '#',
   ' ', '\t', '\n', '\r', '\x0b', '\x0c']

/-- The glyph that stands for a character and for nothing else. -/
def glyphOf (c : Char) : Glyph := if c ∈ special then .escaped c else .plain c

/-- The text that stands for some characters and for nothing else. -/
def spelled (u : List Char) : List Char := u.flatMap fun c => (glyphOf c).text

theorem headGlyph?_glyphOf (c : Char) (rest : List Char) :
    headGlyph? ((glyphOf c).text ++ rest) = some (glyphOf c) := by
  unfold glyphOf
  split
  · rfl
  · rename_i hc
    exact headGlyph?_plain (fun h => hc (by rw [h]; decide)) rest

theorem glyphOf_ne_plain {d : Char} (hd : d ∈ special) (c : Char) : glyphOf c ≠ .plain d := by
  unfold glyphOf
  split
  · simp
  · rename_i hc
    simp only [ne_eq, Glyph.plain.injEq]
    rintro rfl
    exact hc hd

theorem spelled_cons (c : Char) (u rest : List Char) :
    spelled (c :: u) ++ rest = (glyphOf c).text ++ (spelled u ++ rest) := by
  simp [spelled]

/-- No text that stands for some characters ends in a backslash of its own. -/
theorem spelled_append_ne (h : rest ≠ ['\\']) : ∀ u, spelled u ++ rest ≠ ['\\']
  | [] => h
  | c :: u => by
      rw [spelled_cons]
      unfold glyphOf
      split
      · simp [Glyph.text]
      · rename_i hc
        rintro heq
        exact hc (by rw [(List.cons.inj heq).1]; decide)

theorem length_le_length_spelled (u : List Char) : u.length ≤ (spelled u).length := by
  induction u with
  | nil => exact Nat.le_refl _
  | cons c u ih =>
      have hglyph : 1 ≤ (glyphOf c).text.length := by
        unfold glyphOf
        split <;> simp [Glyph.text]
      simp only [spelled, List.flatMap_cons, List.length_append, List.length_cons] at ih ⊢
      omega

/-- A backslash before a special character makes it stand for itself, in a set and outside. -/
theorem takes_special [CharacterNames] (flags : Flags) {c : Char} (hc : c ∈ special)
    (rest : List Char) :
    Takes (escape flags c) [] rest (.ofChar flags.fold c) ∧
      Takes (setEscape flags c) [] rest (.one c.toNat) := by
  simp only [special, List.mem_cons, List.not_mem_nil, or_false] at hc
  rcases hc with rfl | rfl | rfl | rfl | rfl | rfl | rfl | rfl | rfl | rfl | rfl | rfl | rfl | rfl |
    rfl | rfl | rfl | rfl | rfl | rfl | rfl | rfl | rfl | rfl <;>
    exact ⟨Takes.pure _ rest, Takes.pure _ rest⟩

/-! ## Parts of a sequence -/

section Sequence

variable {n : Nat} {start : Bool} {flags : Flags} {before : List Entry} {ps : List Part}

/-- A sequence ends with the text, and where another one begins. -/
theorem takes_sequence_end [CharacterNames] (hps : before.reverse.flatMap Entry.parts = ps)
    (h : headGlyph? rest = none ∨ ∃ c, headGlyph? rest = some (.plain c) ∧ (c = '|' ∨ c = ')')) :
    Takes (sequence (n + 1) start flags before) [] rest ps := by
  unfold sequence
  refine (takes_peek rfl).nil_bind ?_
  rw [List.nil_append]
  rcases h with h | ⟨c, h, hc⟩
  · rw [h]
    exact hps ▸ Takes.pure _ rest
  · rw [h]
    dsimp only
    rw [if_pos (by simpa using hc)]
    exact hps ▸ Takes.pure _ rest

/-- An escape is a part. -/
theorem takes_sequence_escape [CharacterNames] {c : Char} {p : Part} (hrest : u ++ rest ≠ ['\\'])
    (hp : Takes (escape flags c) [] (u ++ rest) p)
    (h : Takes (sequence n start flags (.part p :: before)) u rest ps) :
    Takes (sequence (n + 1) start flags before) ('\\' :: c :: u) rest ps := by
  unfold sequence
  refine (takes_peek (g := some (.escaped c)) rfl).nil_bind ?_
  dsimp only
  exact (takes_advance_escaped c hrest).bind (hp.bind h)

/-- A set is a part. -/
theorem takes_sequence_set [CharacterNames] {t : CharTest} (hverbose : flags.verbose = false)
    (hrest : v ++ u ++ rest ≠ ['\\']) (ht : ∀ pos, Takes (bracketed flags pos) v (u ++ rest) t)
    (h : Takes (sequence n start flags (.part (.ofTest t) :: before)) u rest ps) :
    Takes (sequence (n + 1) start flags before) ('[' :: (v ++ u)) rest ps := by
  unfold sequence
  refine (takes_peek (g := some (.plain '[')) rfl).nil_bind ?_
  refine takes_position_advance (by decide) hrest fun pos => ?_
  rw [hverbose]
  exact (ht pos).bind h

/-- A quantifier is applied to what is before it. -/
theorem takes_sequence_quantifier [CharacterNames] {c : Char} (hc : c = '*' ∨ c = '?')
    (hverbose : flags.verbose = false) (hrest : v ++ u ++ rest ≠ ['\\']) {after : List Entry}
    (hq : ∀ pos, Takes (quantifier flags c pos before) v (u ++ rest) after)
    (h : Takes (sequence n start flags after) u rest ps) :
    Takes (sequence (n + 1) start flags before) (c :: (v ++ u)) rest ps := by
  unfold sequence
  rcases hc with rfl | rfl
  · refine (takes_peek (g := some (.plain '*')) rfl).nil_bind ?_
    refine takes_position_advance (by decide) hrest fun pos => ?_
    rw [hverbose]
    exact (hq pos).bind h
  · refine (takes_peek (g := some (.plain '?')) rfl).nil_bind ?_
    refine takes_position_advance (by decide) hrest fun pos => ?_
    rw [hverbose]
    exact (hq pos).bind h

/-- A group is an entry. -/
theorem takes_sequence_group [CharacterNames] {e : Entry}
    (hverbose : flags.verbose = false) (hrest : v ++ u ++ rest ≠ ['\\'])
    (he : ∀ pos, Takes (opened n (start && before.isEmpty) flags pos) v (u ++ rest) (.entry e))
    (h : Takes (sequence n start flags (e :: before)) u rest ps) :
    Takes (sequence (n + 1) start flags before) ('(' :: (v ++ u)) rest ps := by
  unfold sequence
  refine (takes_peek (g := some (.plain '(')) rfl).nil_bind ?_
  refine takes_position_advance (by decide) hrest fun pos => ?_
  rw [hverbose]
  exact (he pos).bind h

/-- Any other character is a part. -/
theorem takes_sequence_plain [CharacterNames] {c : Char} (hc : c ∉ special)
    (hverbose : flags.verbose = false) (hrest : u ++ rest ≠ ['\\'])
    (h : Takes (sequence n start flags (.part (.ofChar flags.fold c) :: before)) u rest ps) :
    Takes (sequence (n + 1) start flags before) (c :: u) rest ps := by
  unfold sequence
  simp only [special, List.mem_cons, List.not_mem_nil, or_false, not_or] at hc
  refine (takes_peek (headGlyph?_plain (by simp [hc]) _)).nil_bind ?_
  dsimp only
  rw [if_neg (by simp [hc])]
  refine takes_position_advance (by simp [hc]) hrest fun pos => ?_
  rw [hverbose]
  simp only [Bool.false_and, Bool.false_eq_true, if_false]
  split
  · simp_all
  · simp_all
  · simp_all
  · simp_all
  · simp_all
  · rw [if_neg (by simp [hc])]
    exact h

/-- A character that stands for itself is a part. -/
theorem takes_sequence_glyph [CharacterNames] (c : Char) (hverbose : flags.verbose = false)
    (hrest : u ++ rest ≠ ['\\'])
    (h : Takes (sequence n start flags (.part (.ofChar flags.fold c) :: before)) u rest ps) :
    Takes (sequence (n + 1) start flags before) ((glyphOf c).text ++ u) rest ps := by
  unfold glyphOf
  split
  · rename_i hc
    exact takes_sequence_escape hrest (takes_special flags hc _).1 h
  · rename_i hc
    exact takes_sequence_plain hc hverbose hrest h

/-- The parts that some characters are. -/
def charParts (fold : Fold) (u : List Char) : List Part := u.map (Part.ofChar fold)

/-- The entries that some parts are leave those parts. -/
@[simp]
theorem flatMap_parts (ps : List Part) : (ps.map Entry.part).flatMap Entry.parts = ps := by
  induction ps with
  | nil => rfl
  | cons p ps ih => rw [List.map_cons, List.flatMap_cons, ih]; rfl

/-- Characters that stand for themselves are parts. -/
theorem takes_sequence_spelled [CharacterNames] (hverbose : flags.verbose = false)
    (hrest : u ++ rest ≠ ['\\']) :
    ∀ (m : List Char) {before : List Entry},
      Takes (sequence n start flags ((charParts flags.fold m).reverse.map Entry.part ++ before)) u
        rest ps →
      Takes (sequence (n + m.length) start flags before) (spelled m ++ u) rest ps
  | [], _, h => h
  | c :: m, before, h => by
      have hlater : Takes (sequence n start flags ((charParts flags.fold m).reverse.map Entry.part ++
          .part (.ofChar flags.fold c) :: before)) u rest ps := by
        simpa [charParts] using h
      have ih := takes_sequence_spelled hverbose hrest m hlater
      rw [spelled_cons]
      refine takes_sequence_glyph c hverbose ?_ ih
      rw [List.append_assoc]
      exact spelled_append_ne hrest m

/-- Characters that stand for themselves, up to the end of an alternative. -/
theorem takes_sequence_only [CharacterNames] (hverbose : flags.verbose = false) {m : List Char}
    (hn : m.length < n)
    (h : headGlyph? rest = none ∨ ∃ c, headGlyph? rest = some (.plain c) ∧ (c = '|' ∨ c = ')')) :
    Takes (sequence n start flags []) (spelled m) rest (charParts flags.fold m) := by
  obtain ⟨k, rfl⟩ : ∃ k, n = k + 1 + m.length := ⟨n - 1 - m.length, by omega⟩
  have hrest : rest ≠ ['\\'] := by
    rintro rfl
    simp [headGlyph?] at h
  have hend : Takes (sequence (k + 1) start flags
      ((charParts flags.fold m).reverse.map .part ++ [])) [] rest (charParts flags.fold m) :=
    takes_sequence_end (by simp) h
  have htaken := takes_sequence_spelled (u := []) hverbose hrest m hend
  rwa [List.append_nil] at htaken

/-! ## Quantifiers -/

theorem takes_greedMark_greedy (hlazy : headGlyph? rest ≠ some (.plain '?'))
    (hpossessive : headGlyph? rest ≠ some (.plain '+')) : Takes greedMark [] rest .greedy := by
  refine (takes_accept_not hlazy).nil_bind ?_
  exact (takes_accept_not hpossessive).nil_bind (Takes.pure _ rest)

theorem takes_greedMark_lazy (hrest : rest ≠ ['\\']) : Takes greedMark ['?'] rest .lazy :=
  (takes_accept (by decide) hrest).bind_nil (Takes.pure _ rest)

theorem takes_quantifier {c : Char} {least : Nat} {most : Option Nat} {e : Entry} {body : Pattern}
    {greed : Greed} (hc : counts c = pure (some (least, most)))
    (he : ∀ pos, repeated pos (e :: before) = pure (body, before))
    (hgreed : Takes greedMark u rest greed) (pos : Nat) :
    Takes (quantifier flags c pos (e :: before)) u rest
      (.part ⟨.repetition, .rep body least most greed⟩ :: before) := by
  unfold quantifier
  rw [hc, pure_bind]
  dsimp only
  rw [he pos, pure_bind]
  exact hgreed.bind_nil (Takes.pure _ rest)

/-- A quantifier with no sign after it. -/
theorem takes_sequence_greedy [CharacterNames] {c : Char} {least : Nat} {most : Option Nat}
    {e : Entry} {body : Pattern} (hc : c = '*' ∨ c = '?')
    (hcounts : counts c = pure (some (least, most)))
    (he : ∀ pos, repeated pos (e :: before) = pure (body, before))
    (hverbose : flags.verbose = false) (hrest : u ++ rest ≠ ['\\'])
    (hlazy : headGlyph? (u ++ rest) ≠ some (.plain '?'))
    (hpossessive : headGlyph? (u ++ rest) ≠ some (.plain '+'))
    (h : Takes (sequence n start flags
      (.part ⟨.repetition, .rep body least most .greedy⟩ :: before)) u rest ps) :
    Takes (sequence (n + 1) start flags (e :: before)) (c :: u) rest ps :=
  takes_sequence_quantifier (v := []) hc hverbose hrest
    (takes_quantifier hcounts he (takes_greedMark_greedy hlazy hpossessive)) h

/-! ## Groups and alternatives -/

/-- The last alternative, or the only one. -/
theorem takes_branches_last [CharacterNames] {top isFirst : Bool}
    (hrest : headGlyph? rest ≠ some (.plain '|'))
    (h : Takes (sequence n (top && isFirst) flags []) u rest ps) :
    Takes (branches top (n + 1) isFirst flags) u rest [ps] := by
  unfold branches
  refine h.bind_nil ((takes_accept_not hrest).nil_bind ?_)
  exact Takes.pure _ rest

/-- An alternative inside of a group, with others after it. -/
theorem takes_branches_more [CharacterNames] {isFirst : Bool} {pss : List (List Part)}
    (hrest : v ++ rest ≠ ['\\']) (h : Takes (sequence n false flags []) u ('|' :: v ++ rest) ps)
    (hmore : Takes (branches false n false flags) v rest pss) :
    Takes (branches false (n + 1) isFirst flags) (u ++ '|' :: v) rest (ps :: pss) := by
  unfold branches
  refine h.bind ?_
  refine Takes.bind (u := ['|']) (takes_accept (by decide) hrest) ?_
  refine Takes.get fun s _ => ?_
  exact hmore.bind_nil (Takes.pure _ rest)

theorem takes_closing (hrest : rest ≠ ['\\']) (pos : Nat) : Takes (closing pos) [')'] rest () :=
  (takes_accept (by decide) hrest).bind_nil (Takes.pure _ rest)

theorem append_closing_ne (u rest : List Char) : u ++ [')'] ++ rest ≠ ['\\'] := by
  rw [List.append_assoc]
  exact append_cons_ne (by decide) u rest

/-- A group that only holds its parts together. -/
theorem takes_opened_bundle [CharacterNames] {pss : List (List Part)} (hrest : rest ≠ ['\\'])
    (h : Takes (branches false n true flags) u (')' :: rest) pss) (start : Bool) (pos : Nat) :
    Takes (opened (n + 1) start flags pos) ('?' :: ':' :: (u ++ [')'])) rest
      (.entry (.bundle (Part.alternatives pss))) := by
  unfold opened
  extract_lets inner capture
  have hinner : Takes (inner flags) (u ++ [')']) rest (Part.alternatives pss) :=
    h.bind ((takes_closing hrest pos).bind_nil (Takes.pure _ rest))
  refine Takes.bind (u := ['?']) (takes_accept (by decide) (by simp)) ?_
  refine Takes.bind (u := [':']) (takes_next (g := .plain ':') rfl (append_closing_ne u rest)) ?_
  exact hinner.bind_nil (Takes.pure _ rest)

/-! ## Sets -/

theorem takes_setMembers_end [CharacterNames] {seen : List SetMember} (hrest : rest ≠ ['\\'])
    (hseen : seen ≠ []) (pos : Nat) :
    Takes (setMembers flags pos (n + 1) seen) [']'] rest seen.reverse := by
  unfold setMembers
  refine (takes_next (g := .plain ']') rfl hrest).bind_nil ?_
  dsimp only
  rw [if_pos (by simpa using hseen)]
  exact Takes.pure _ rest

/-- A member of a set that is not the start of a range. -/
theorem takes_setMembers_one [CharacterNames] {g : Glyph} {m : SetMember} {seen l : List SetMember}
    {pos : Nat} (hg : headGlyph? (g.text ++ (u ++ rest)) = some g) (hend : g ≠ .plain ']')
    (hrest : u ++ rest ≠ ['\\']) (hm : Takes (setMember flags g) [] (u ++ rest) m)
    (hrange : headGlyph? (u ++ rest) ≠ some (.plain '-'))
    (h : Takes (setMembers flags pos n (m :: seen)) u rest l) :
    Takes (setMembers flags pos (n + 1) seen) (g.text ++ u) rest l := by
  unfold setMembers
  refine (takes_next hg hrest).bind ?_
  dsimp only
  rw [if_neg (by simp [hend])]
  exact hm.nil_bind ((takes_accept_not hrange).nil_bind h)

theorem takes_setMembers_escaped [CharacterNames] {c : Char} {m : SetMember}
    {seen l : List SetMember} {pos : Nat} (hrest : u ++ rest ≠ ['\\'])
    (hm : Takes (setEscape flags c) [] (u ++ rest) m)
    (hrange : headGlyph? (u ++ rest) ≠ some (.plain '-'))
    (h : Takes (setMembers flags pos n (m :: seen)) u rest l) :
    Takes (setMembers flags pos (n + 1) seen) ('\\' :: c :: u) rest l :=
  takes_setMembers_one (g := .escaped c) rfl (by simp) hrest hm hrange h

/-- A character that stands for itself is a member of a set. -/
theorem takes_setMembers_glyph [CharacterNames] (c : Char) {seen l : List SetMember} {pos : Nat}
    (hrest : u ++ rest ≠ ['\\']) (hrange : headGlyph? (u ++ rest) ≠ some (.plain '-'))
    (h : Takes (setMembers flags pos n (.one c.toNat :: seen)) u rest l) :
    Takes (setMembers flags pos (n + 1) seen) ((glyphOf c).text ++ u) rest l := by
  refine takes_setMembers_one (headGlyph?_glyphOf c _) (glyphOf_ne_plain (by decide) c) hrest ?_
    hrange h
  unfold glyphOf
  split
  · rename_i hc
    exact (takes_special flags hc _).2
  · exact Takes.pure _ _

/-- The test that a set with some members is. -/
def setTest (fold : Fold) (negated : Bool) (l : List SetMember) : CharTest :=
  match l.eraseDups with
  | [.one k] => .one k fold negated
  | distinct => .oneOf distinct fold negated

/-- A set, read in no more steps than it has characters. -/
theorem takes_bracketed [CharacterNames] {l : List SetMember} {negated : Bool} {pos k : Nat}
    (hk : k ≤ u.length + 1) (hmark : Takes (accept '^') v (u ++ rest) negated)
    (h : ∀ n, Takes (setMembers flags pos (n + k) []) u rest l) :
    Takes (bracketed flags pos) (v ++ u) rest (setTest flags.fold negated l) := by
  unfold bracketed
  refine hmark.bind (Takes.get fun s hs => ?_)
  obtain ⟨n, hn⟩ : ∃ n, s.rest.length + 1 = n + k := by
    refine ⟨s.rest.length + 1 - k, ?_⟩
    rw [hs, List.length_append]
    omega
  rw [hn]
  refine (h n).bind_nil ?_
  unfold setTest
  generalize l.eraseDups = distinct
  rcases distinct with _ | ⟨m, _ | ⟨_, _⟩⟩
  · exact Takes.pure _ rest
  · cases m <;> exact Takes.pure _ rest
  · cases m <;> exact Takes.pure _ rest

end Sequence

/-! ## Whole patterns -/

variable {pss : List (List Part)}

theorem run_whole [CharacterNames] {s : ReadState} (hs : s.rest ≠ ['\\'])
    (hascii : s.flags.ascii = false) (hconditions : s.conditions = [])
    (h : Takes (branches true (3 * s.rest.length + 3) true s.flags) s.rest [] pss) :
    whole.run s = .ok (Part.sequence (Part.alternatives pss),
      { s with rest := [], pos := s.pos + s.rest.length }) := by
  have hbranches := h s (List.append_nil _).symm
  unfold whole
  rw [StateT.run_bind, takes_checkDangling hs s rfl]
  change Except.bind (StateT.run (branches true (3 * s.rest.length + 3) true s.flags) s) _ = _
  rw [hbranches]
  change StateT.run (if (s.flags.ascii && s.flags.unicode) = true then _ else _) _ = _
  rw [hascii]
  dsimp only
  rw [hconditions]
  rfl

/-- A pattern is read when its alternatives are, and nothing is wrong with it as a whole. -/
theorem read_of_takes [CharacterNames] {text : String} {ignoreCase : Bool}
    (htext : text.toList ≠ ['\\'])
    (h : Takes (branches true (3 * text.toList.length + 3) true { ignoreCase := ignoreCase })
      text.toList [] pss)
    (hflaw : flaw? false (Part.sequence (Part.alternatives pss)) = none) :
    Pattern.read text ignoreCase = .ok (Part.sequence (Part.alternatives pss)) := by
  have hrun := run_whole
    (s := { rest := text.toList, pos := 0, flags := { ignoreCase := ignoreCase } }) htext rfl rfl h
  unfold Pattern.read
  rw [hrun]
  change Except.bind (Except.ok _) _ = _
  unfold Except.bind
  dsimp only
  rw [hflaw]
  rfl

end Lexlight.Reading
