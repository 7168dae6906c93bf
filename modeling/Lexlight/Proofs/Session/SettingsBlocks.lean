import Lexlight.Proofs.Session.Program

/-!
# Settings for the length of a block

A block restores the settings that were in force when it was entered, whatever its body did and
whether the body ended or failed. So settings are handled like brackets: in the record of a run, every
block is closed under the settings it was opened under (`Restoring`), and that also holds of the
blocks that a failure goes through.

The rest follows from two facts about all programs. A run does not change the means of rendering
(`Program.run_sameMeans`), and it cannot tell apart sessions of one view (`Program.run_congr`). So
what comes after a block goes on as if the block had not been there, and blocks can be deleted from a
program, wherever they stand, without a change to what is left of it (`Program.Deletes`).
-/

namespace Lexlight

open Session

namespace Program

/-- **A run does not change the means of rendering**, but for making the registry, which is what
asking for it comes to anyway. -/
theorem run_sameMeans [CharacterNames] (p : Program) (s : Session) :
    SameMeans (p.run s).session s := by
  induction p generalizing s with
  | skip => exact .refl s
  | use settings => exact sameMeans_under s settings
  | reset => exact sameMeans_under s {}
  | fail f => exact .refl s
  | render r => exact (run_render_session s r).toSameMeans
  | within settings p ih =>
      rw [run_within]
      exact (sameMeans_under _ _).trans ((ih _).trans (sameMeans_under _ _))
  | rescue p q ihp ihq =>
      rw [run_rescue]
      split
      · exact ihp s
      · exact (ihq _).trans (ihp s)
  | seq p q ihp ihq =>
      rw [run_seq]
      split
      · exact (ihq _).trans (ihp s)
      · exact ihp s

/-- **After a block** nothing tells the session from what it was before. -/
theorem sameView_within [CharacterNames] (settings : Settings) (p : Program) (s : Session) :
    SameView ((within settings p).run s).session s :=
  ⟨run_sameMeans _ s, by rw [run_within, settings_under]⟩

/-! ## Blocks are brackets -/

end Program

/-- Whether every block on record is closed under the settings it was opened under, and so are those
within it. -/
inductive Restoring : List Event → Prop where
  | nil : Restoring []
  | rendered (markup : List String) {es : List Event} :
      Restoring es → Restoring (.rendered markup :: es)
  | block (settings : Settings) {inner es : List Event} :
      Restoring inner → Restoring es →
      Restoring (.opened settings :: inner ++ .closed settings :: es)

theorem Restoring.append {es es' : List Event} (h : Restoring es) (h' : Restoring es') :
    Restoring (es ++ es') := by
  induction h with
  | nil => exact h'
  | rendered markup _ ih => exact .rendered markup ih
  | block settings hinner _ _ ih =>
      rw [List.append_assoc, List.cons_append]
      exact .block settings hinner ih

namespace Program

theorem run_restoring [CharacterNames] (p : Program) (s : Session) :
    Restoring (p.run s).events := by
  induction p generalizing s with
  | skip => exact .nil
  | use settings => exact .nil
  | reset => exact .nil
  | fail f => exact .nil
  | render r =>
      rw [run_render]
      rcases r.act.runIn s with ⟨result, s'⟩
      cases result with
      | ok markup => exact .rendered markup .nil
      | error f => exact .nil
  | within settings p ih =>
      rw [run_within]
      exact .block s.settings (ih _) .nil
  | rescue p q ihp ihq =>
      rw [run_rescue]
      split
      · exact ihp s
      · exact (ihp s).append (ihq _)
  | seq p q ihp ihq =>
      rw [run_seq]
      split
      · exact (ihp s).append (ihq _)
      · exact ihp s

/-! ## Programs that leave settings to blocks -/

/-- Whether settings are changed within blocks only. -/
def Confined : Program → Prop
  | .use _ | .reset => False
  | .rescue p q | .seq p q => p.Confined ∧ q.Confined
  | .skip | .render _ | .fail _ | .within .. => True

theorem run_settings_of_confined [CharacterNames] {p : Program} (h : p.Confined) (s : Session) :
    (p.run s).session.settings = s.settings := by
  induction p generalizing s with
  | skip => rfl
  | use settings => exact h.elim
  | reset => exact h.elim
  | fail f => rfl
  | render r => exact (run_render_session s r).settings
  | within settings p _ => exact (sameView_within settings p s).settings
  | rescue p q ihp ihq =>
      rw [run_rescue]
      split
      · exact ihp h.1 s
      · exact (ihq h.2 _).trans (ihp h.1 s)
  | seq p q ihp ihq =>
      rw [run_seq]
      split
      · exact (ihq h.2 _).trans (ihp h.1 s)
      · exact ihp h.1 s

end Program

/-! ## Without a block -/

/-- Whether outcomes have the same result and sessions that nothing tells apart, and their events are
related in some way. -/
structure Outcome.Alike [CharacterNames] {α : Type} (R : List Event → List Event → Prop)
    (o o' : Outcome α) : Prop where
  result : o.result = o'.result
  events : R o.events o'.events
  session : SameView o.session o'.session

/-- Whether a relation of records goes along with putting them together. -/
structure Compatible (R : List Event → List Event → Prop) : Prop where
  refl : ∀ es, R es es
  append : ∀ {es es' fs fs'}, R es es' → R fs fs' → R (es ++ fs) (es' ++ fs')

theorem compatible_eq : Compatible Eq where
  refl _ := rfl
  append := by
    rintro es _ fs _ rfl rfl
    rfl

/-- Whether some of the blocks on record are left out in another record. -/
inductive LeavesOut : List Event → List Event → Prop where
  | nil : LeavesOut [] []
  | keep (e : Event) {es es' : List Event} : LeavesOut es es' → LeavesOut (e :: es) (e :: es')
  | block (settings : Settings) {inner es es' : List Event} : Restoring inner → LeavesOut es es' →
      LeavesOut (.opened settings :: inner ++ .closed settings :: es) es'

theorem compatible_leavesOut : Compatible LeavesOut where
  refl es := by
    induction es with
    | nil => exact .nil
    | cons e es ih => exact .keep e ih
  append := by
    intro es es' fs fs' h h'
    induction h with
    | nil => exact h'
    | keep e _ ih => exact .keep e ih
    | block settings hinner _ ih =>
        rw [List.append_assoc, List.cons_append]
        exact .block settings hinner ih

namespace Program

section Alike

variable {R : List Event → List Event → Prop} (hR : Compatible R) {p p' q q' : Program}
  {s t : Session}
include hR

/-- Blocks with bodies that run alike run alike. -/
theorem alike_within [CharacterNames] {settings : Settings} (h : SameView s t)
    (hp : (p.run (s.under settings)).Alike R (p'.run (t.under settings))) :
    ((within settings p).run s).Alike R ((within settings p').run t) := by
  rw [run_within, run_within, h.settings]
  refine ⟨hp.result, ?_, hp.session.toSameMeans.under _⟩
  have hopened : R [Event.opened t.settings] [Event.opened t.settings] := hR.refl _
  exact hR.append (hR.append hopened hp.events) (hR.refl _)

theorem alike_rescue [CharacterNames] (hp : (p.run s).Alike R (p'.run t))
    (hq : (q.run (p.run s).session).Alike R (q'.run (p'.run t).session)) :
    ((rescue p q).run s).Alike R ((rescue p' q').run t) := by
  rw [run_rescue, run_rescue, ← hp.result]
  cases (p.run s).result with
  | ok x => exact hp
  | error f => exact ⟨hq.result, hR.append hp.events hq.events, hq.session⟩

theorem alike_seq [CharacterNames] (hp : (p.run s).Alike R (p'.run t))
    (hq : (q.run (p.run s).session).Alike R (q'.run (p'.run t).session)) :
    ((p.seq q).run s).Alike R ((p'.seq q').run t) := by
  rw [run_seq, run_seq, ← hp.result]
  cases (p.run s).result with
  | ok x => exact ⟨hq.result, hR.append hp.events hq.events, hq.session⟩
  | error f => exact hp

/-- **A run does not tell apart** sessions of one view. -/
theorem run_congr [CharacterNames] (p : Program) (h : SameView s t) :
    (p.run s).Alike R (p.run t) := by
  induction p generalizing s t with
  | skip => exact ⟨rfl, hR.refl _, h⟩
  | use settings => exact ⟨rfl, hR.refl _, h.toSameMeans.under settings⟩
  | reset => exact ⟨rfl, hR.refl _, h.toSameMeans.under {}⟩
  | fail f => exact ⟨rfl, hR.refl _, h⟩
  | render r =>
      have hsame := r.looks.same h
      have hs := r.looks.keeps s
      have ht := r.looks.keeps t
      rw [run_render, run_render]
      generalize r.act.runIn s = x at hsame hs ⊢
      generalize r.act.runIn t = y at hsame ht ⊢
      obtain ⟨result, s'⟩ := x
      obtain ⟨_, t'⟩ := y
      obtain rfl := hsame
      have hview : SameView s' t' := hs.trans (h.trans ht.symm)
      cases result with
      | ok markup => exact ⟨rfl, hR.refl _, hview⟩
      | error f => exact ⟨rfl, hR.refl _, hview⟩
  | within settings p ih => exact alike_within hR h (ih (h.toSameMeans.under settings))
  | rescue p q ihp ihq => exact alike_rescue hR (ihp h) (ihq (ihp h).session)
  | seq p q ihp ihq => exact alike_seq hR (ihp h) (ihq (ihp h).session)

end Alike

/-- Whether a program is another without some of its blocks, when it is run in a given session: blocks
that end there without a failure, and blocks whose failure is passed over. -/
inductive Deletes [CharacterNames] : Session → Program → Program → Prop where
  | none (s : Session) (p : Program) : Deletes s p p
  | block {s : Session} {settings : Settings} {p : Program} :
      ((within settings p).run s).result = .ok () → Deletes s (.within settings p) .skip
  | rescued (s : Session) (settings : Settings) (p : Program) :
      Deletes s (.rescue (.within settings p) .skip) .skip
  | within {s : Session} {settings : Settings} {p p' : Program} :
      Deletes (s.under settings) p p' → Deletes s (.within settings p) (.within settings p')
  | rescue {s : Session} {p p' q q' : Program} : Deletes s p p' →
      Deletes (p.run s).session q q' → Deletes s (.rescue p q) (.rescue p' q')
  | seq {s : Session} {p p' q q' : Program} : Deletes s p p' →
      Deletes (p.run s).session q q' → Deletes s (.seq p q) (.seq p' q')

/-- A block by itself has no other events than its own. -/
theorem leavesOut_within [CharacterNames] (settings : Settings) (p : Program) (s : Session) :
    LeavesOut ((within settings p).run s).events [] := by
  rw [run_within]
  exact .block s.settings (run_restoring p _) .nil

/-- **Blocks can be deleted.** What is left runs as before. -/
theorem Deletes.alike [CharacterNames] {s t : Session} {p q : Program} (hdel : Deletes s p q)
    (h : SameView s t) : (p.run s).Alike LeavesOut (q.run t) := by
  induction hdel generalizing t with
  | none s p => exact run_congr compatible_leavesOut p h
  | @block s settings p hok =>
      exact ⟨hok, leavesOut_within settings p s, (sameView_within settings p s).trans h⟩
  | rescued s settings p =>
      have hview := (sameView_within settings p s).trans h
      rw [run_rescue]
      cases hresult : ((Program.within settings p).run s).result with
      | ok x => exact ⟨hresult, leavesOut_within settings p s, hview⟩
      | error f =>
          refine ⟨rfl, ?_, hview⟩
          exact compatible_leavesOut.append (leavesOut_within settings p s) .nil
  | within _ ih => exact alike_within compatible_leavesOut h (ih (h.toSameMeans.under _))
  | rescue _ _ ihp ihq => exact alike_rescue compatible_leavesOut (ihp h) (ihq (ihp h).session)
  | seq _ _ ihp ihq => exact alike_seq compatible_leavesOut (ihp h) (ihq (ihp h).session)

/-- How temporary settings are undone in the run of a program and by blocks around it. -/
structure SettingsUndone [CharacterNames] (p : Program) (s : Session) : Prop where
  /-- Every block of the run, however deep and whether it ends or fails, is left under the settings it
  was entered under. -/
  nested : Restoring (p.run s).events
  /-- A block ends as its body does, with the same failure if that fails, and under the settings it
  was entered under. -/
  block : ∀ settings, ((within settings p).run s).result = (p.run (s.under settings)).result ∧
    ((within settings p).run s).session.settings = s.settings
  /-- A program that changes settings within blocks only leaves them as it found them. -/
  confined : p.Confined → (p.run s).session.settings = s.settings
  /-- Whatever comes after a block, a rendering above all, has the result and the markup that it would
  have in the place of the block. -/
  after : ∀ settings (rest : Program),
    (rest.run ((within settings p).run s).session).Alike Eq (rest.run s)
  /-- Without some blocks, the run has the same result and the same markup outside them, and ends
  under the same settings. -/
  deleted : ∀ q, Deletes s p q → (p.run s).Alike LeavesOut (q.run s)

/--
**Temporary settings are always undone**, in every program of changes of settings, renderings,
failures and blocks, nested to any depth, in every session.
-/
theorem settings_undone [CharacterNames] (p : Program) (s : Session) : SettingsUndone p s where
  nested := p.run_restoring s
  block settings := by
    rw [run_within]
    exact ⟨rfl, rfl⟩
  confined h := run_settings_of_confined h s
  after settings rest := run_congr compatible_eq rest (sameView_within settings p s)
  deleted _ hdel := hdel.alike (.refl s)

/-- A block in which another one fails after it has gone back to the default settings, and in which
other settings are put in force after that. -/
def nestedBlocks : Program :=
  .within { classStart := "a-" } <|
    .seq (.rescue (.within { classStart := "b-" } <| .seq .reset <|
        .seq (.render (.pieces none [⟨.keyword, "x"⟩])) (.fail (.raised "boom"))) .skip) <|
      .seq (.render (.pieces none [⟨.keyword, "y"⟩])) (.use { classStart := "c-" })

theorem settings_undone_nestedBlocks :
    SettingsUndone nestedBlocks {} ∧ nestedBlocks.Confined ∧
      (nestedBlocks.run {}).session.settings = {} ∧
      (nestedBlocks.run {}).events = [
        .opened {},
        .opened { classStart := "a-" },
        .rendered ["<span class=\"hljs-keyword\">x</span>"],
        .closed { classStart := "a-" },
        .rendered ["<span class=\"a-keyword\">y</span>"],
        .closed {}] := by
  have hundone := settings_undone nestedBlocks {}
  exact ⟨hundone, trivial, hundone.confined trivial, by decide +kernel⟩

end Program
end Lexlight
