import Lexlight.Pattern.Reading.Read

/-!
# Steps of reading

What a step of reading does is said by what holds after it when it does not fail (`Leads`). Reading
goes through its text from left to right, so what is left is always an end of the text, and what was
taken stands right before it (`After`). Most steps keep what they are read with: they stay inside
the text and leave the flags alone (`Keeps`).
-/

namespace Lexlight.Reading

variable {α β : Type}

/-! ## Before and after -/

/-- Whether a step leads from what holds before it to what holds after it, unless it fails. -/
def Leads (before : ReadState → Prop) (x : Reading α) (after : α → ReadState → Prop) : Prop :=
  ∀ s, before s → ∀ a s', x.run s = .ok (a, s') → after a s'

namespace Leads

variable {P : ReadState → Prop} {Q : α → ReadState → Prop} {R : β → ReadState → Prop}

theorem pure {a : α} (h : ∀ s, P s → Q a s) : Leads P (pure a) Q := by
  intro s hs b s' hrun
  rw [StateT.run_pure] at hrun
  cases hrun
  exact h s hs

theorem bind {x : Reading α} {f : α → Reading β} (hx : Leads P x Q)
    (hf : ∀ a, Leads (Q a) (f a) R) : Leads P (x >>= f) R := by
  intro s hs b s' hrun
  rw [StateT.run_bind] at hrun
  cases hfirst : x.run s with
  | error e =>
      rw [hfirst] at hrun
      cases hrun
  | ok p =>
      rw [hfirst] at hrun
      exact hf p.1 p.2 (hx s hs p.1 p.2 hfirst) b s' hrun

theorem throw (e : Fault) : Leads P (throw e : Reading α) Q := by
  intro s hs a s' hrun
  cases hrun

theorem get : Leads P get fun a s => a = s ∧ P s := by
  intro s hs a s' hrun
  cases hrun
  exact ⟨rfl, hs⟩

theorem fail (reason : Reason) (back : Nat) : Leads P (fail reason back : Reading α) Q :=
  get.bind fun _ => throw _

theorem set {t : ReadState} {after : ReadState → Prop} (h : after t) :
    Leads P (set t) fun _ => after := by
  intro s hs a s' hrun
  cases hrun
  exact h

theorem modify {f : ReadState → ReadState} {after : ReadState → Prop}
    (h : ∀ s, P s → after (f s)) : Leads P (modify f) fun _ => after := by
  intro s hs a s' hrun
  cases hrun
  exact h s hs

/-- More may hold before, and less need hold after. -/
theorem mono {P' : ReadState → Prop} {Q' : α → ReadState → Prop} {x : Reading α}
    (h : Leads P x Q) (hP : ∀ s, P' s → P s) (hQ : ∀ a s, Q a s → Q' a s) : Leads P' x Q' :=
  fun s hs a s' hrun => hQ a s' (h s (hP s hs) a s' hrun)

/-- What does not depend on the state may be taken for granted. -/
theorem given {p : Prop} {x : Reading α} (h : p → Leads P x Q) :
    Leads (fun s => P s ∧ p) x Q :=
  fun s hs => h hs.2 s hs.1

end Leads

/-! ## What is left of the text -/

/-- Whether what is left stands in a text right after a row of characters, and case is not looked
at. -/
structure After (text row : List Char) (s : ReadState) : Prop where
  suffix : row ++ s.rest <:+ text
  ignoreCase : s.flags.ignoreCase = true

variable {text row : List Char}

theorem After.forget {s : ReadState} (h : After text row s) : After text [] s :=
  ⟨(List.suffix_append row s.rest).trans h.suffix, h.ignoreCase⟩

theorem append_drop_of_headGlyph? {cs : List Char} {g : Glyph} (h : headGlyph? cs = some g) :
    cs = g.text ++ cs.drop g.size := by
  unfold headGlyph? at h
  split at h
  · cases h
  · cases h; rfl
  · cases h; rfl

theorem leads_peek {P : ReadState → Prop} :
    Leads P peek fun g? s => P s ∧ g? = headGlyph? s.rest :=
  Leads.get.bind fun _ => Leads.pure fun s hs => by
    obtain ⟨rfl, hs⟩ := hs
    exact ⟨hs, rfl⟩

theorem leads_checkDangling {P : ReadState → Prop} : Leads P checkDangling fun _ => P := by
  refine Leads.get.bind fun s => ?_
  split
  · exact Leads.fail _ _
  · exact Leads.pure fun _ hs => hs.2

theorem leads_position {P : ReadState → Prop} : Leads P position fun _ => P :=
  Leads.get.bind fun _ => Leads.pure fun _ hs => hs.2

/-- Stepping over a glyph puts it into the row before what is left. -/
theorem leads_advance {g? : Option Glyph} :
    Leads (fun s => After text row s ∧ g? = headGlyph? s.rest) advance
      fun _ => After text (row ++ g?.elim [] Glyph.text) := by
  refine Leads.get.bind fun t => ?_
  split
  · next hnone =>
      refine Leads.pure fun s hs => ?_
      obtain ⟨rfl, hafter, rfl⟩ := hs
      rw [hnone, Option.elim_none, List.append_nil]
      exact hafter
  · next g hsome =>
      refine (Leads.bind (Q := fun _ => After text (row ++ g?.elim [] Glyph.text)) ?_
        fun _ => leads_checkDangling)
      intro s hs a s' hrun
      obtain ⟨rfl, hafter, rfl⟩ := hs
      cases hrun
      refine ⟨?_, hafter.ignoreCase⟩
      rw [hsome, Option.elim_some, List.append_assoc, ← append_drop_of_headGlyph? hsome]
      exact hafter.suffix

theorem leads_next :
    Leads (After text row) next fun g? => After text (row ++ g?.elim [] Glyph.text) :=
  leads_peek.bind fun _ => leads_advance.bind fun _ => Leads.pure fun _ hs => hs

theorem leads_accept (c : Char) :
    Leads (After text row) (accept c) fun b => After text (row ++ if b then [c] else []) := by
  refine leads_peek.bind fun g? => ?_
  split
  · next hg =>
      subst hg
      exact leads_advance.bind fun _ => Leads.pure fun _ hs => hs
  · refine Leads.pure fun s hs => ?_
    rw [if_neg Bool.false_ne_true, List.append_nil]
    exact hs.1

/-! ## Steps that keep what they are read with -/

/-- Whether a step stays inside a text and keeps to ignoring case, and gives only what is good. -/
def Keeps (text : List Char) (x : Reading α) (good : α → Prop) : Prop :=
  Leads (After text []) x fun a s => After text [] s ∧ good a

/-- A step of which nothing else is said. -/
abbrev Moves (text : List Char) (x : Reading α) : Prop := Keeps text x fun _ => True

namespace Keeps

variable {good : α → Prop} {fine : β → Prop}

theorem pure {a : α} (h : good a) : Keeps text (pure a) good := Leads.pure fun _ hs => ⟨hs, h⟩

theorem bind {x : Reading α} {f : α → Reading β} (hx : Keeps text x good)
    (hf : ∀ a, good a → Keeps text (f a) fine) : Keeps text (x >>= f) fine :=
  Leads.bind hx fun a => Leads.given (hf a)

theorem fail (reason : Reason) (back : Nat) : Keeps text (fail reason back : Reading α) good :=
  Leads.fail reason back

theorem failAt (reason : Reason) (pos : Nat) : Keeps text (failAt reason pos : Reading α) good :=
  Leads.throw _

theorem get : Keeps text get (After text []) :=
  Leads.get.mono (fun _ hs => hs) fun _ _ hs => ⟨hs.2, hs.1 ▸ hs.2⟩

theorem set {t : ReadState} (h : After text [] t) : Moves text (set t) :=
  Leads.set ⟨h, trivial⟩

theorem modify {f : ReadState → ReadState} (h : ∀ s, After text [] s → After text [] (f s)) :
    Moves text (modify f) :=
  Leads.modify fun s hs => ⟨h s hs, trivial⟩

/-- A step is taken from anywhere in the text. -/
theorem anywhere {x : Reading α} (h : Keeps text x good) :
    Leads (After text row) x fun a s => After text [] s ∧ good a :=
  h.mono (fun _ hs => hs.forget) fun _ _ hs => hs

/-- What is known of the row before what is left may be forgotten. -/
theorem of_leads {x : Reading α} {row : α → List Char}
    (h : Leads (After text []) x fun a => After text (row a)) : Moves text x :=
  h.mono (fun _ hs => hs) fun _ _ hs => ⟨hs.forget, trivial⟩

end Keeps

theorem moves_peek : Moves text peek :=
  leads_peek.mono (fun _ hs => hs) fun _ _ hs => ⟨hs.1, trivial⟩

theorem moves_position : Moves text position :=
  leads_position.mono (fun _ hs => hs) fun _ _ hs => ⟨hs, trivial⟩

theorem moves_advance : Moves text advance := fun s hs a s' hrun =>
  ⟨(leads_advance s ⟨hs, rfl⟩ a s' hrun).forget, trivial⟩

theorem moves_next : Moves text next := Keeps.of_leads leads_next

theorem moves_accept (c : Char) : Moves text (accept c) := Keeps.of_leads (leads_accept c)

/-! ## Names and counts -/

theorem moves_takeUpTo (ok : Char → Bool) (n : Nat) : Moves text (takeUpTo ok n) := by
  induction n with
  | zero => exact Keeps.pure trivial
  | succ n ih =>
      refine moves_peek.bind fun g? _ => ?_
      split
      · split
        · exact moves_advance.bind fun _ _ => ih.bind fun _ _ => Keeps.pure trivial
        · exact Keeps.pure trivial
      · exact Keeps.pure trivial

theorem moves_takeAll (ok : Char → Bool) : Moves text (takeAll ok) :=
  Keeps.get.bind fun _ _ => moves_takeUpTo ok _

theorem moves_nameUpTo (stop : Char) (what : String) (n : Nat) (seen : List Char) :
    Moves text (nameUpTo stop what n seen) := by
  induction n generalizing seen with
  | zero => exact Keeps.fail _ _
  | succ n ih =>
      refine moves_next.bind fun g? _ => ?_
      split
      · split
        · exact Keeps.fail _ _
        · exact Keeps.fail _ _
      · split
        · split
          · exact Keeps.fail _ _
          · exact Keeps.pure trivial
        · exact ih _

theorem moves_nameUntil (stop : Char) (what : String) : Moves text (nameUntil stop what) :=
  Keeps.get.bind fun _ _ => moves_nameUpTo stop what _ []

theorem moves_count (digits : List Char) : Moves text (count digits) := by
  unfold count
  split
  · exact Keeps.pure trivial
  · split
    · exact Leads.throw _
    · exact Keeps.pure trivial

/-! ## Groups -/

theorem moves_isClosed (group : Nat) : Moves text (isClosed group) :=
  Keeps.get.bind fun _ _ => Keeps.pure trivial

theorem moves_checkBehind (group : Nat) : Moves text (checkBehind group) := by
  refine Keeps.get.bind fun s _ => ?_
  split
  · exact Keeps.pure trivial
  · refine (moves_isClosed group).bind fun closed _ => ?_
    split
    · exact Keeps.fail _ _
    · split
      · exact Keeps.fail _ _
      · exact Keeps.pure trivial

theorem moves_openGroup (name : Option (List Char)) : Moves text (openGroup name) := by
  refine Keeps.get.bind fun s hs => ?_
  split
  · exact Keeps.bind (Keeps.set ⟨hs.suffix, hs.ignoreCase⟩) fun _ _ => Keeps.pure trivial
  · split
    · exact Keeps.fail _ _
    · exact Keeps.bind (Keeps.set ⟨hs.suffix, hs.ignoreCase⟩) fun _ _ => Keeps.pure trivial

theorem moves_closeGroup (index : Nat) (ps : List Part) : Moves text (closeGroup index ps) :=
  Keeps.modify fun _ hs => ⟨hs.suffix, hs.ignoreCase⟩

theorem moves_checkName (name : List Char) : Moves text (checkName name) := by
  unfold checkName
  split
  · exact Keeps.fail _ _
  · exact Keeps.pure trivial

theorem moves_groupNamed (name : List Char) : Moves text (groupNamed name) := by
  refine Keeps.get.bind fun s _ => ?_
  split
  · exact Keeps.pure trivial
  · exact Keeps.fail _ _

theorem moves_conditionGroup : Moves text conditionGroup := by
  refine (moves_nameUntil _ _).bind fun name _ => ?_
  split
  · exact moves_groupNamed name
  · split
    · exact Keeps.fail _ _
    · exact Keeps.fail _ _
    · split
      · exact Keeps.fail _ _
      · refine moves_position.bind fun _ _ => ?_
        refine (Keeps.modify fun s hs => ?_).bind fun _ _ => Keeps.pure trivial
        split
        · exact hs
        · exact ⟨hs.suffix, hs.ignoreCase⟩

theorem moves_closing (start : Nat) : Moves text (closing start) := by
  refine (moves_accept _).bind fun closed _ => ?_
  split
  · exact Keeps.failAt _ _
  · exact Keeps.pure trivial

/-! ## Comments -/

theorem moves_skipLine (n : Nat) : Moves text (skipLine n) := by
  induction n with
  | zero => exact Keeps.pure trivial
  | succ n ih =>
      refine moves_next.bind fun g? _ => ?_
      split
      · exact Keeps.pure trivial
      · split
        · exact Keeps.pure trivial
        · exact ih

theorem moves_skipComment (start n : Nat) : Moves text (skipComment start n) := by
  induction n with
  | zero => exact Keeps.failAt _ _
  | succ n ih =>
      refine moves_next.bind fun g? _ => ?_
      split
      · exact Keeps.failAt _ _
      · split
        · exact Keeps.pure trivial
        · exact ih

end Lexlight.Reading
