import Lexlight.Proofs.Session.View

/-!
# Programs in a session

What callers do with settings is a program: it puts settings in force, goes back to the default ones,
renders, fails, and does such things one after the other, in blocks under settings of their own, and
with a handler for the case of failure. Blocks nest to any depth.

A run is put on record. The record has the markup that is rendered, and around what is done in a
block the settings that were in force right before and right after it. What a run comes to is said
by one equation for each kind of program (`Program.run_within` for blocks). It takes that a run does
not depend on what is on record already (`Program.runFrom_eq`).
-/

namespace Lexlight

open Session

/-! ## Records -/

/-- What is noted of a run: the settings in force right before and right after a block, and the
markup that is rendered. -/
inductive Event where
  | opened (settings : Settings)
  | closed (settings : Settings)
  | rendered (markup : List String)
  deriving Repr, DecidableEq

/-- Something done in a session, with a record of events. -/
abbrev Recorded := ExceptT Failure (StateT (List Event) (StateM Session))

/-- What a run comes to. -/
structure Outcome (α : Type) where
  result : Except Failure α
  events : List Event
  session : Session

namespace Outcome

variable {α : Type}

/-- An outcome with events before its own. -/
def after (es : List Event) (o : Outcome α) : Outcome α := { o with events := es ++ o.events }

theorem after_silent (es : List Event) (result : Except Failure α) (s : Session) :
    after es ⟨result, [], s⟩ = ⟨result, es, s⟩ := by
  rw [after, List.append_nil]

theorem after_after (es es' : List Event) (o : Outcome α) :
    after es (after es' o) = after (es ++ es') o := by
  simp only [after, List.append_assoc]

end Outcome

namespace Recorded

variable {α β : Type}

/-- Adds to the record. -/
def note (e : Event) : Recorded Unit := modifyThe (List Event) (· ++ [e])

/-- Does something that is not recorded. -/
def perform (a : Action α) : Recorded α := ExceptT.mk (StateT.lift a)

/-- The settings in force. -/
def inForce : Recorded Settings := return (← getThe Session).settings

/-- A run, with what is on record already. -/
def runFrom (a : Recorded α) (es : List Event) (s : Session) : Outcome α :=
  let run := (StateT.run (ExceptT.run a) es).run s
  ⟨run.1.1, run.1.2, run.2⟩

variable (a : Recorded α) (es : List Event) (s : Session)

theorem runFrom_perform (x : Action α) : (perform x).runFrom es s = match x.runIn s with
    | (result, s') => ⟨result, es, s'⟩ := rfl

theorem runFrom_bind (k : α → Recorded β) : runFrom (a >>= k) es s = match a.runFrom es s with
    | ⟨.ok x, es', s'⟩ => (k x).runFrom es' s'
    | ⟨.error f, es', s'⟩ => ⟨.error f, es', s'⟩ := by
  unfold runFrom
  rw [ExceptT.run_bind, StateT.run_bind, StateT.run_bind]
  rcases StateT.run (StateT.run (ExceptT.run a) es) s with ⟨⟨result, es'⟩, s'⟩
  cases result <;> rfl

theorem runFrom_tryCatch (handle : Failure → Recorded α) :
    runFrom (tryCatch a handle) es s = match a.runFrom es s with
      | ⟨.ok x, es', s'⟩ => ⟨.ok x, es', s'⟩
      | ⟨.error f, es', s'⟩ => (handle f).runFrom es' s' := by
  unfold runFrom
  rw [ExceptT.run_tryCatch, StateT.run_bind, StateT.run_bind]
  rcases StateT.run (StateT.run (ExceptT.run a) es) s with ⟨⟨result, es'⟩, s'⟩
  cases result <;> rfl

/-- Something that comes to a given outcome. -/
def settled (o : Outcome α) : Recorded α := ExceptT.mk fun _ _ => ((o.result, o.events), o.session)

/-- What is done finally is done after a failure too, and the failure goes on after it. -/
theorem runFrom_tryFinally (last : Recorded Unit) :
    runFrom (tryFinally a last) es s = match a.runFrom es s with
      | ⟨result, es', s'⟩ => match last.runFrom es' s' with
        | ⟨.ok _, es'', s''⟩ => ⟨result, es'', s''⟩
        | ⟨.error f, es'', s''⟩ => ⟨.error f, es'', s''⟩ := by
  -- only what the two come to matters, each in its turn
  have hfirst : runFrom (tryFinally a last) es s =
      runFrom (tryFinally (settled (a.runFrom es s)) last) es s := rfl
  rw [hfirst]
  rcases a.runFrom es s with ⟨result, es', s'⟩
  have hlast : runFrom (tryFinally (settled ⟨result, es', s'⟩) last) es s =
      runFrom (tryFinally (settled ⟨result, es', s'⟩) (settled (last.runFrom es' s'))) es s := by
    cases result <;> rfl
  rw [hlast]
  dsimp only
  rcases last.runFrom es' s' with ⟨result', es'', s''⟩
  cases result <;> cases result' <;> rfl

/-- **Under other settings** something runs as it does in a session that has them, and the settings
before are put back into the session it leaves, whatever its result. -/
theorem runFrom_withSettings (settings : Settings) :
    runFrom (withSettings settings a) es s = match a.runFrom es (s.under settings) with
      | ⟨result, es', s'⟩ => ⟨result, es', s'.under s.settings⟩ := by
  have hrun : runFrom (withSettings settings a) es s =
      runFrom (tryFinally a (modifyThe Session (·.under s.settings))) es (s.under settings) := rfl
  rw [hrun, runFrom_tryFinally]
  rfl

end Recorded

/-! ## Programs -/

/-- A call that renders. -/
inductive Rendering where
  | pieces (classStart? : Option String) (ps : List Piece)
  | lines (classStart? : Option String) (ps : List Piece)
  /-- By the highlighter in use. -/
  | code (req : HighlightRequest)
  /-- By the rules of a registry, or of that of the session. -/
  | byRules (over? : Option Registry) (req : HighlightRequest)

/-- The markup of a call, by lines if that is what it is for. -/
def Rendering.act [CharacterNames] : Rendering → Action (List String)
  | .pieces classStart? ps => return [← renderPieces classStart? ps]
  | .lines classStart? ps => renderPieceLines classStart? ps
  | .code req => return [← highlightCode req]
  | .byRules over? req => return [← highlightByRules over? req]

theorem Rendering.looks [CharacterNames] (r : Rendering) : r.act.Looks := by
  cases r with
  | pieces classStart? ps =>
      exact (Action.looks_renderPieces classStart? ps).bind fun _ => Action.looks_pure _
  | lines classStart? ps => exact Action.looks_renderPieceLines classStart? ps
  | code req => exact (Action.looks_highlightCode req).bind fun _ => Action.looks_pure _
  | byRules over? req =>
      exact (Action.looks_highlightByRules over? req).bind fun _ => Action.looks_pure _

/-- What callers do with settings. -/
inductive Program where
  | skip
  | use (settings : Settings)
  | reset
  | render (r : Rendering)
  | fail (f : Failure)
  /-- A block under settings of its own. -/
  | within (settings : Settings) (body : Program)
  /-- Goes on with the handler where the body fails. -/
  | rescue (body handler : Program)
  | seq (first second : Program)

namespace Program

open Recorded

/-- What a program does. -/
def act [CharacterNames] : Program → Recorded Unit
  | .skip => return
  | .use settings => perform (useSettings settings)
  | .reset => perform resetSettings
  | .render r => do note (.rendered (← perform r.act))
  | .fail f => throw f
  | .within settings body => do
    note (.opened (← inForce))
    try withSettings settings body.act
    finally note (.closed (← inForce))
  | .rescue body handler => try body.act catch _ => handler.act
  | .seq first second => do
    first.act
    second.act

/-- The run of a program. -/
def run [CharacterNames] (p : Program) (s : Session) : Outcome Unit := p.act.runFrom [] s

section Runs

variable (p q : Program) (settings : Settings) (es : List Event) (s : Session)

theorem runFrom_render [CharacterNames] (r : Rendering) :
    (render r).act.runFrom es s = match r.act.runIn s with
    | (.ok markup, s') => ⟨.ok (), es ++ [.rendered markup], s'⟩
    | (.error f, s') => ⟨.error f, es, s'⟩ := by
  rw [act, runFrom_bind, runFrom_perform]
  rcases r.act.runIn s with ⟨result, s'⟩
  cases result <;> rfl

/-- A block notes the settings before it, runs its body under its own, and ends as the body does,
under the settings before it. -/
theorem runFrom_within [CharacterNames] : (within settings p).act.runFrom es s =
    match p.act.runFrom (es ++ [.opened s.settings]) (s.under settings) with
      | ⟨result, es', s'⟩ => ⟨result, es' ++ [.closed s.settings], s'.under s.settings⟩ := by
  have hrun : (within settings p).act.runFrom es s =
      runFrom (tryFinally (withSettings settings p.act) (do note (.closed (← inForce))))
        (es ++ [.opened s.settings]) s := rfl
  rw [hrun, runFrom_tryFinally, runFrom_withSettings]
  rfl

end Runs

/-- **What is on record already does not matter** to a run. -/
theorem runFrom_eq [CharacterNames] (p : Program) (es : List Event) (s : Session) :
    p.act.runFrom es s = (p.run s).after es := by
  induction p generalizing es s with
  | skip => exact (Outcome.after_silent es _ _).symm
  | use settings => exact (Outcome.after_silent es _ _).symm
  | reset => exact (Outcome.after_silent es _ _).symm
  | fail f => exact (Outcome.after_silent es _ _).symm
  | render r =>
      rw [run, runFrom_render, runFrom_render]
      rcases r.act.runIn s with ⟨result, s'⟩
      cases result with
      | ok markup => rfl
      | error f => exact (Outcome.after_silent es _ _).symm
  | within settings p ih =>
      rw [run, runFrom_within, runFrom_within, ih (es ++ _), ih ([] ++ _)]
      simp only [Outcome.after, List.nil_append, List.append_assoc]
  | rescue p q ihp ihq =>
      rw [run, act, runFrom_tryCatch, runFrom_tryCatch, ihp es, ← run]
      rcases p.run s with ⟨result, es', s'⟩
      cases result with
      | ok x => rfl
      | error f =>
          have hq : q.act.runFrom (es ++ es') s' = .after es (q.act.runFrom es' s') := by
            rw [ihq (es ++ es') s', ihq es' s', Outcome.after_after]
          exact hq
  | seq p q ihp ihq =>
      rw [run, act, runFrom_bind, runFrom_bind, ihp es, ← run]
      rcases p.run s with ⟨result, es', s'⟩
      cases result with
      | ok x =>
          have hq : q.act.runFrom (es ++ es') s' = .after es (q.act.runFrom es' s') := by
            rw [ihq (es ++ es') s', ihq es' s', Outcome.after_after]
          exact hq
      | error f => rfl

/-! ## What runs come to -/

variable (p q : Program) (settings : Settings) (s : Session)

theorem run_render [CharacterNames] (r : Rendering) : (render r).run s = match r.act.runIn s with
    | (.ok markup, s') => ⟨.ok (), [.rendered markup], s'⟩
    | (.error f, s') => ⟨.error f, [], s'⟩ :=
  runFrom_render [] s r

theorem run_within [CharacterNames] : (within settings p).run s =
    ⟨(p.run (s.under settings)).result,
      .opened s.settings :: (p.run (s.under settings)).events ++ [.closed s.settings],
      (p.run (s.under settings)).session.under s.settings⟩ := by
  rw [run, runFrom_within, runFrom_eq]
  rfl

theorem run_rescue [CharacterNames] : (rescue p q).run s = match (p.run s).result with
    | .ok _ => p.run s
    | .error _ => (q.run (p.run s).session).after (p.run s).events := by
  rw [run, act, runFrom_tryCatch, ← run]
  rcases p.run s with ⟨result, es, s'⟩
  cases result with
  | ok x => rfl
  | error f => exact runFrom_eq q es s'

theorem run_seq [CharacterNames] : (p.seq q).run s = match (p.run s).result with
    | .ok _ => (q.run (p.run s).session).after (p.run s).events
    | .error _ => p.run s := by
  rw [run, act, runFrom_bind, ← run]
  rcases p.run s with ⟨result, es, s'⟩
  cases result with
  | ok x => exact runFrom_eq q es s'
  | error f => rfl

/-- A rendering changes nothing that can be told of a session. -/
theorem run_render_session [CharacterNames] (r : Rendering) :
    SameView ((render r).run s).session s := by
  have hkeeps := r.looks.keeps s
  rw [run_render]
  generalize r.act.runIn s = x at hkeeps ⊢
  obtain ⟨result, s'⟩ := x
  cases result with
  | ok markup => exact hkeeps
  | error f => exact hkeeps

end Program
end Lexlight
