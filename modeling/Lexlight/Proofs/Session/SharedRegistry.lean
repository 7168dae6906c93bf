import Lexlight.Proofs.Registry.Languages
import Lexlight.Proofs.Session.Requests

/-!
# One registry for all requests

Languages are recorded and requests are made in any order. The first request that asks for the
registry when one can be made of the languages has it made, and that is the registry of every
request from then on: what is recorded later is not in it. Until then a request that asks for it
fails as the making fails, and leaves nothing behind but the languages, so that the next one tries
with the languages recorded by then.

One equation (`Operation.run_eq`) says what an operation does to a session: the languages grow by
what is recorded, and a registry is made where there is none, one is asked for and one can be made.
Everything here is that equation, followed through a run.
-/

namespace Lexlight

/-! ## Operations -/

/-- What is done in a session: a language is recorded, something is requested, or it is asked in
general whether a language is supported. -/
inductive Operation where
  | record (name : Value) (offer : Offer)
  | request (q : Request)
  | support (name : Value)

namespace Operation

/-- The session after an operation. -/
def run [CharacterNames] : Operation → Session → Session
  | .record name offer, s => (Action.runIn (recordLanguage name offer) s).2
  | .request q, s => (q.act.runIn s).2
  | .support name, s => (Action.runIn (supportsLanguage name) s).2

/-- What is recorded by an operation. -/
def recording? : Operation → Option (Value × Offer)
  | .record name offer => some (name, offer)
  | .request _ => none
  | .support _ => none

/-- Whether an operation asks for the registry. -/
def asks : Operation → Bool
  | .record .. => false
  | .request q => q.asks
  | .support name => name.nonEmpty?.isSome

/-- The general question does to a session what the request does. -/
theorem run_support [CharacterNames] (name : Value) {s : Session}
    (hs : s.highlighter = .rules none) :
    (support name).run s = (request (.support name)).run s := by
  change (Action.runIn (supportsLanguage name) s).2 = ((Request.support name).act.runIn s).2
  rw [supportsLanguage_runIn name hs, Request.act, Action.runIn_bind]
  cases Action.runIn (supportsByRules none name) s with
  | mk result s' => cases result <;> rfl

theorem run_request [CharacterNames] (q : Request) {s : Session}
    (hs : s.highlighter = .rules none) :
    (request q).run s = { s with
      made? := s.made?.or (if q.asks then s.languages.build.toOption else none) } := by
  change (q.act.runIn s).2 = _
  cases hq : q.asks with
  | false => simp [Request.act_of_unasked hq hs {}]
  | true =>
      rw [Request.act_of_asking hq hs]
      obtain ⟨languages, made?, settings, highlighter⟩ := s
      cases made? with
      | some r => rfl
      | none => cases languages.build <;> simp [Except.toOption]

/-- **What an operation does to a session.** -/
theorem run_eq [CharacterNames] (op : Operation) {s : Session} (hs : s.highlighter = .rules none) :
    op.run s = { s with
      languages := s.languages.recordAll op.recording?.toList
      made? := s.made?.or (if op.asks then s.languages.build.toOption else none) } := by
  cases op with
  | record name offer =>
      change { s with languages := s.languages.record name offer } = _
      simp [asks, recording?, Languages.recordAll]
  | request q => exact run_request q hs
  | support name => exact (run_support name hs).trans (run_request (.support name) hs)

end Operation

namespace Session

/-- The session after some operations. -/
def after [CharacterNames] (s : Session) : List Operation → Session
  | [] => s
  | op :: ops => (op.run s).after ops

theorem after_append [CharacterNames] : ∀ (s : Session) (before later : List Operation),
    s.after (before ++ later) = (s.after before).after later
  | _, [], _ => rfl
  | s, op :: before, later => after_append (op.run s) before later

/-- Whether no registry can be made at any of the requests that ask for one. -/
def Fruitless [CharacterNames] (s : Session) : List Operation → Prop
  | [] => True
  | op :: ops => (op.asks = true → ∃ f, s.languages.build = .error f) ∧ (op.run s).Fruitless ops

/-! ## Runs -/

section Runs

variable {s : Session} (hs : s.highlighter = .rules none)
include hs

/-- No operation changes the settings or the highlighter, and the languages are those recorded. -/
theorem after_frame [CharacterNames] : ∀ ops : List Operation,
    (s.after ops).highlighter = .rules none ∧ (s.after ops).settings = s.settings ∧
      (s.after ops).languages = s.languages.recordAll (ops.filterMap Operation.recording?) := by
  intro ops
  induction ops generalizing s with
  | nil => exact ⟨hs, rfl, rfl⟩
  | cons op ops ih =>
      have hrun := op.run_eq hs
      obtain ⟨hh, hset, hlang⟩ := ih (s := op.run s) (by rw [hrun]; exact hs)
      refine ⟨hh, hset.trans (by rw [hrun]), hlang.trans ?_⟩
      rw [hrun, List.filterMap_cons]
      cases op <;> rfl

/-- A registry that was made stays. -/
theorem made_after [CharacterNames] {r : Registry} (hmade : s.made? = some r) : ∀ ops :
    List Operation, (s.after ops).made? = some r := by
  intro ops
  induction ops generalizing s with
  | nil => exact hmade
  | cons op ops ih =>
      have hrun := op.run_eq hs
      exact ih (s := op.run s) (by rw [hrun]; exact hs) (by rw [hrun, hmade]; rfl)

/-- Without fruit, there is no registry in the end. -/
theorem made_after_of_fruitless [CharacterNames] (hmade : s.made? = none) :
    ∀ {ops : List Operation}, s.Fruitless ops → (s.after ops).made? = none := by
  intro ops
  induction ops generalizing s with
  | nil => exact fun _ => hmade
  | cons op ops ih =>
      rintro ⟨hfail, hrest⟩
      have hrun := op.run_eq hs
      refine ih (s := op.run s) (by rw [hrun]; exact hs) ?_ hrest
      rw [hrun, hmade, Option.none_or]
      dsimp only
      split
      · rename_i hasks
        obtain ⟨f, hf⟩ := hfail hasks
        rw [hf]; rfl
      · rfl

/-- Some operation is the first to have a registry made, unless none is. -/
theorem fruitless_or_made [CharacterNames] : ∀ ops : List Operation, s.Fruitless ops ∨
    ∃ before op later r, ops = before ++ op :: later ∧ op.asks = true ∧
      s.Fruitless before ∧ (s.after before).languages.build = .ok r := by
  intro ops
  induction ops generalizing s with
  | nil => exact Or.inl trivial
  | cons op ops ih =>
      have hrun := op.run_eq hs
      by_cases hfirst : op.asks = true ∧ ∃ r, s.languages.build = .ok r
      · obtain ⟨hasks, r, hr⟩ := hfirst
        exact Or.inr ⟨[], op, ops, r, rfl, hasks, trivial, hr⟩
      · have hfail : op.asks = true → ∃ f, s.languages.build = .error f := by
          intro hasks
          cases hbuild : s.languages.build with
          | error f => exact ⟨f, rfl⟩
          | ok r => exact absurd ⟨hasks, r, hbuild⟩ hfirst
        rcases ih (s := op.run s) (by rw [hrun]; exact hs) with h | h
        · exact Or.inl ⟨hfail, h⟩
        · obtain ⟨before, first, later, r, rfl, hfirst, hbefore, hr⟩ := h
          exact Or.inr ⟨op :: before, first, later, r, rfl, hfirst, ⟨hfail, hbefore⟩, hr⟩

end Runs

/-! ## Sharing -/

open Memory (fresh)

/-- Whether nothing happened in a session so far but that languages were recorded. -/
structure Fresh (s : Session) : Prop where
  unmade : s.made? = none
  highlighter : s.highlighter = .rules none
  names : s.languages.names.Nodup

/-- How the requests among some operations in a session share one registry. -/
structure SharesRegistry [CharacterNames] (s : Session) (ops : List Operation) : Prop where
  /-- At any time, the languages have the places in which their names were first recorded, -/
  names : ∀ before later, ops = before ++ later →
    (s.after before).languages.names =
      (s.languages.names ++ (before.filterMap Operation.recording?).map Prod.fst).eraseDups
  /-- and are what was recorded last. -/
  offers : ∀ before later, ops = before ++ later → ∀ name,
    (s.after before).languages.offer? name =
      ((before.filterMap Operation.recording?).reverse.lookup name).or (s.languages.offer? name)
  /-- The registry that is made of them is that of a fresh builder which accepts them all, -/
  registered : ∀ before later, ops = before ++ later → ∀ r,
    (s.after before).languages.build = .ok r ↔
      fresh.Accepts (s.after before).languages.calls ∧
        (fresh.after (s.after before).languages.calls).registry = r
  /-- and if none is made, the failure is that of the first one refused. -/
  refused : ∀ before later, ops = before ++ later → ∀ f,
    (s.after before).languages.build = .error f ↔
      ∃ accepted entry rest, (s.after before).languages.entries = accepted ++ entry :: rest ∧
        fresh.Accepts (Languages.callsOf accepted) ∧
        ((Languages.callOf entry).run (fresh.after (Languages.callsOf accepted))).1 = .error f
  /-- As long as none can be made, every request fails as the making does, and the session stays as
  it is, without a registry. -/
  failing : ∀ before q later, ops = before ++ .request q :: later → q.asks = true →
    s.Fruitless before → ∀ f, (s.after before).languages.build = .error f →
      q.act.runIn (s.after before) = (.error f, s.after before) ∧ (s.after before).made? = none
  /-- The first that can be made is the registry of that request and of all that come later,
  whatever is recorded between them. -/
  shared : ∀ before first later, ops = before ++ first :: later → first.asks = true →
    s.Fruitless before → ∀ r, (s.after before).languages.build = .ok r →
      ∀ between q rest, first :: later = between ++ .request q :: rest → q.asks = true →
        q.act.runIn (s.after (before ++ between)) =
          (q.replyFrom s.settings r, { s.after (before ++ between) with made? := some r })
  /-- It is made at one of the operations, unless it can be made at none of them. -/
  decided : s.Fruitless ops ∨
    ∃ before first later r, ops = before ++ first :: later ∧ first.asks = true ∧
      s.Fruitless before ∧ (s.after before).languages.build = .ok r
  /-- A request that does not ask for the registry leaves everything as it is. -/
  unasked : ∀ before q later, ops = before ++ .request q :: later → q.asks = false → ∀ r,
    q.act.runIn (s.after before) = (q.replyFrom s.settings r, s.after before)
  /-- The general question whether a language is supported is answered as the request is, and in the
  negative where that fails. -/
  support : ∀ before name later, ops = before ++ .support name :: later →
    Action.runIn (supportsLanguage name) (s.after before) =
      match Action.runIn (supportsByRules none name) (s.after before) with
      | (.ok known, t) => (.ok known, t)
      | (.error _, t) => (.ok false, t)

/-- While no registry was made, a request that asks for one fails if none can be made. -/
theorem act_after_fruitless [CharacterNames] {s : Session} (hs : s.Fresh) {before : List Operation}
    (hbefore : s.Fruitless before) {q : Request} (hq : q.asks = true) :
    q.act.runIn (s.after before) = match (s.after before).languages.build with
      | .ok r => (q.replyFrom s.settings r, { s.after before with made? := some r })
      | .error f => (.error f, s.after before) := by
  obtain ⟨hh, hset, -⟩ := after_frame hs.highlighter before
  have hmade := made_after_of_fruitless hs.highlighter hs.unmade hbefore
  refine (Request.act_of_asking hq hh).trans ?_
  rewrite [hmade, ← hset]
  cases (s.after before).languages.build <;> rfl

/-- After the operation that had the registry made, it is that of every request. -/
theorem act_after_made [CharacterNames] {s : Session} (hs : s.Fresh) {before : List Operation}
    (hbefore : s.Fruitless before) {first : Operation} (hfirst : first.asks = true) {r : Registry}
    (hr : (s.after before).languages.build = .ok r) (between : List Operation) {q : Request}
    (hq : q.asks = true) :
    q.act.runIn (s.after (before ++ first :: between)) =
      (q.replyFrom s.settings r, s.after (before ++ first :: between)) ∧
    (s.after (before ++ first :: between)).made? = some r := by
  obtain ⟨hh, -, -⟩ := after_frame hs.highlighter before
  have hrun := first.run_eq hh
  have hmade : (first.run (s.after before)).made? = some r := by
    rw [hrun, made_after_of_fruitless hs.highlighter hs.unmade hbefore, if_pos hfirst, hr]
    rfl
  have hkept : (s.after (before ++ first :: between)).made? = some r := by
    rw [after_append]
    exact made_after (s := first.run (s.after before)) (by rw [hrun]; exact hh) hmade between
  obtain ⟨hh', hset, -⟩ := after_frame hs.highlighter (before ++ first :: between)
  refine ⟨?_, hkept⟩
  rw [Request.act_of_asking hq hh', hkept, hset]

/-- **One registry for all requests**, in every order of recordings and requests. -/
theorem requests_share_registry [CharacterNames] {s : Session} (hs : s.Fresh)
    (ops : List Operation) : SharesRegistry s ops where
  names := by
    intro before later _
    rw [(after_frame hs.highlighter before).2.2]
    exact Languages.names_recordAll _ hs.names
  offers := by
    intro before later _ name
    rw [(after_frame hs.highlighter before).2.2]
    exact Languages.offer?_recordAll name _ _
  registered := fun before _ _ r => Languages.build_eq_ok _ r
  refused := fun before _ _ f => Languages.build_eq_error _ f
  failing := by
    intro before q later _ hq hbefore f hf
    refine ⟨?_, made_after_of_fruitless hs.highlighter hs.unmade hbefore⟩
    rw [act_after_fruitless hs hbefore hq, hf]
  shared := by
    intro before first later _ hfirst hbefore r hr between q rest hsplit hq
    cases between with
    | nil =>
        rw [List.append_nil, act_after_fruitless hs hbefore hq, hr]
    | cons op between =>
        obtain ⟨rfl, -⟩ := List.cons.inj hsplit
        obtain ⟨hact, hmade⟩ := act_after_made hs hbefore hfirst hr between hq
        rw [hact, ← hmade]
  decided := fruitless_or_made hs.highlighter ops
  unasked := by
    intro before q later _ hq r
    obtain ⟨hh, hset, -⟩ := after_frame hs.highlighter before
    rw [Request.act_of_unasked hq hh r, hset]
  support := fun before name _ _ =>
    supportsLanguage_runIn name (after_frame hs.highlighter before).1

/-- A session as it is at first. -/
theorem fresh_default : Fresh {} where
  unmade := rfl
  highlighter := rfl
  names := List.nodup_singleton _

/-- A session with two languages that claim the same name. -/
def rivals : Session where
  languages := ⟨[(.string "c", Registry.named ["z"]), (.string "b", Registry.named ["z"])]⟩

/-- The registry is asked for in vain, one of the two languages is recorded again without the name,
the registry is asked for again, one more language is recorded, and that one is asked for. -/
def disputed : List Operation :=
  [.request .registry,
   .record (.string "c") (Registry.named []),
   .request .registry,
   .record (.string "d") (Registry.named []),
   .request (.grammar (.string "d"))]

/-- The languages of the registry that a session has made, if it has. -/
def madeOf (s : Session) : Option (List String) := s.made?.map (·.languages)

theorem requests_share_registry_disputed :
    rivals.Fresh ∧ SharesRegistry rivals disputed ∧
      madeOf (rivals.after (disputed.take 2)) = none ∧
      madeOf (rivals.after (disputed.take 3)) = some ["c", "b"] ∧
      madeOf (rivals.after disputed) = some ["c", "b"] := by
  have hfresh : rivals.Fresh := ⟨rfl, rfl, by decide⟩
  exact ⟨hfresh, requests_share_registry hfresh disputed, by decide +kernel, by decide +kernel,
    by decide +kernel⟩

end Session
end Lexlight
