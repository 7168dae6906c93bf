import Lexlight.Session
import Lexlight.Proofs.Registry.Run

/-!
# The registry of a session

A session makes its registry when it is first asked for, of the languages recorded by then. What may
ask for it are the requests (`Request`), and each of them comes to the same: the registry is made or
found, and the reply is read off it (`Request.act_of_asking`). So between two requests there is
nothing to know of a session but its languages and the registry that it has made, if it has.

-/

namespace Lexlight

/-! ## Actions -/

namespace Action

variable {α β : Type}

/-- What an action comes to in a session, and the session after it. -/
def runIn (a : Action α) (s : Session) : Except Failure α × Session := (ExceptT.run a).run s

theorem runIn_bind (a : Action α) (k : α → Action β) (s : Session) :
    Action.runIn (a >>= k) s = match a.runIn s with
      | (.ok x, s') => (k x).runIn s'
      | (.error f, s') => (.error f, s') := by
  change (ExceptT.bindCont k (a.runIn s).1).run (a.runIn s).2 = _
  cases a.runIn s with
  | mk result s' => cases result <;> rfl

theorem runIn_get (s : Session) : Action.runIn get s = (.ok s, s) := rfl

theorem runIn_ofExcept (e : Except Failure α) (s : Session) :
    Action.runIn (MonadExcept.ofExcept e) s = (e, s) := by
  cases e <;> rfl

theorem runIn_tryCatch (a : Action α) (handle : Failure → Action α) (s : Session) :
    Action.runIn (tryCatch a handle) s = match a.runIn s with
      | (.ok x, s') => (.ok x, s')
      | (.error f, s') => (handle f).runIn s' := by
  unfold Action.runIn
  rw [ExceptT.run_tryCatch, StateT.run_bind]
  cases StateT.run (ExceptT.run a) s with
  | mk result s' => cases result <;> rfl

end Action

/-- The registry of a session is the one that was made. If none was, it is made of the languages,
and if that fails the session is left as it is. -/
theorem sharedRegistry_runIn [CharacterNames] (s : Session) :
    Action.runIn sharedRegistry s = match s.made? with
      | some r => (.ok r, s)
      | none => match s.languages.build with
        | .ok r => (.ok r, { s with made? := some r })
        | .error f => (.error f, s) := by
  unfold sharedRegistry
  rw [Action.runIn_bind, Action.runIn_get]
  dsimp only
  cases s.made? with
  | some r => rfl
  | none =>
      dsimp only
      rw [Action.runIn_bind, Action.runIn_ofExcept]
      cases s.languages.build <;> rfl

/-! ## Requests -/

/-- What may ask for the registry of a session. -/
inductive Request where
  | registry
  | grammar (name : Value)
  | tokens (name : Value) (text : String)
  | markup (req : HighlightRequest)
  | support (name : Value)
  | detection (text : String)

/-- The reply to a request. -/
inductive Reply where
  | registry (r : Registry)
  | grammar (g : Grammar)
  | tokens (ts : List Token)
  | markup (html : String)
  | support (known : Bool)
  | detection (language? : Option String)

namespace Request

/-- What a session does on a request. -/
def act [CharacterNames] : Request → Action Reply
  | .registry => return .registry (← sharedRegistry)
  | .grammar name => return .grammar (← sharedGrammar name)
  | .tokens name text => return .tokens ((← sharedGrammar name).tokenize text)
  | .markup req => return .markup (← highlightCode req)
  | .support name => return .support (← supportsByRules none name)
  | .detection text => return .detection (← detectLanguage none text)

/-- Whether a request asks for the registry. What is without a language has no need of it. -/
def asks : Request → Bool
  | .markup req => req.language.nonEmpty?.isSome
  | .support name => name.nonEmpty?.isSome
  | _ => true

/-- The reply that a registry has to a request. -/
def replyFrom (settings : Settings) (r : Registry) : Request → Except Failure Reply
  | .registry => return .registry r
  | .grammar name => return .grammar (← r.grammarNamed name)
  | .tokens name text => return .tokens ((← r.grammarNamed name).tokenize text)
  | .markup req => return .markup (← r.highlight settings req)
  | .support name => return .support (r.supports name)
  | .detection text => return .detection (r.detect? text)

end Request

/-- An action that makes or finds the registry of a session, and does nothing else but read
something off it. -/
def Action.Reads [CharacterNames] {α : Type} (a : Action α) (s : Session)
    (read : Registry → Except Failure α) : Prop :=
  a.runIn s = match Action.runIn sharedRegistry s with
    | (.ok r, s') => (read r, s')
    | (.error f, s') => (.error f, s')

namespace Action

variable {α β : Type} {s : Session}

theorem reads_sharedRegistry [CharacterNames] (s : Session) : Reads sharedRegistry s .ok := by
  unfold Reads
  cases Action.runIn sharedRegistry s with
  | mk result s' => cases result <;> rfl

theorem Reads.bind [CharacterNames] {a : Action α} {read : Registry → Except Failure α}
    (h : a.Reads s read) {k : α → Action β} {next : α → Except Failure β}
    (hk : ∀ x s', (k x).runIn s' = (next x, s')) :
    Reads (a >>= k) s fun r => read r >>= next := by
  unfold Reads at h ⊢
  rw [runIn_bind, h]
  cases Action.runIn sharedRegistry s with
  | mk result s' =>
    cases result with
    | error f => rfl
    | ok r =>
        dsimp only
        cases read r with
        | error f => rfl
        | ok x => exact hk x s'

/-- With the highlighter of a fresh session, code in some language is highlighted by the registry of
the session. -/
theorem reads_highlightCode [CharacterNames] {req : HighlightRequest}
    (hreq : req.language.nonEmpty?.isSome = true) (hs : s.highlighter = .rules none) :
    Reads (highlightCode req) s fun r => r.highlight s.settings req := by
  have hrules : (highlightCode req).runIn s = (highlightByRules none req).runIn s := by
    unfold highlightCode
    rw [runIn_bind, runIn_get]
    dsimp only
    rw [hs]
  have hshared : (highlightByRules none req).runIn s =
      Action.runIn (sharedRegistry >>= fun r =>
        MonadExcept.ofExcept (r.highlight s.settings req)) s := by
    obtain ⟨name, hname⟩ := Option.isSome_iff_exists.mp hreq
    unfold highlightByRules
    rw [runIn_bind, runIn_get]
    simp only [hname]
    rfl
  unfold Reads
  rw [hrules, hshared]
  exact (reads_sharedRegistry s).bind fun _ _ => runIn_ofExcept _ _

theorem reads_supportsByRules [CharacterNames] {name : Value} (hname : name.nonEmpty?.isSome = true)
    (s : Session) : Reads (supportsByRules none name) s fun r => .ok (r.supports name) := by
  obtain ⟨text, htext⟩ := Option.isSome_iff_exists.mp hname
  unfold supportsByRules
  rw [htext]
  exact (reads_sharedRegistry s).bind fun _ _ => rfl

theorem reads_sharedGrammar [CharacterNames] (name : Value) (s : Session) :
    Reads (sharedGrammar name) s fun r => r.grammarNamed name :=
  (reads_sharedRegistry s).bind fun _ _ => runIn_ofExcept _ _

end Action

namespace Request

/-- A request that asks for the registry is answered from it, whatever else it is. -/
theorem reads_act [CharacterNames] {q : Request} (hq : q.asks = true) {s : Session}
    (hs : s.highlighter = .rules none) : q.act.Reads s fun r => q.replyFrom s.settings r := by
  cases q with
  | registry => exact (Action.reads_sharedRegistry s).bind fun _ _ => rfl
  | grammar name => exact (Action.reads_sharedGrammar name s).bind fun _ _ => rfl
  | tokens name text => exact (Action.reads_sharedGrammar name s).bind fun _ _ => rfl
  | markup req => exact (Action.reads_highlightCode hq hs).bind fun _ _ => rfl
  | support name => exact (Action.reads_supportsByRules hq s).bind fun _ _ => rfl
  | detection text =>
      exact ((Action.reads_sharedRegistry s).bind (k := fun r => pure (r.detect? text))
        fun _ _ => rfl).bind fun _ _ => rfl

/-- A request without a language is answered as any registry would, and none is asked for. -/
theorem act_of_unasked [CharacterNames] {q : Request} (hq : q.asks = false) {s : Session}
    (hs : s.highlighter = .rules none) (r : Registry) :
    q.act.runIn s = (q.replyFrom s.settings r, s) := by
  cases q with
  | markup req =>
      have hnone : req.language.nonEmpty? = none := by simpa [asks] using hq
      simp only [act, highlightCode, highlightByRules, replyFrom, Registry.highlight,
        Action.runIn_bind, Action.runIn_get, hs, hnone, Action.runIn_ofExcept, Option.bind_none]
      cases Markup.unhighlighted s.settings req <;> rfl
  | support name =>
      have hnone : name.nonEmpty? = none := by simpa [asks] using hq
      simp only [act, supportsByRules, replyFrom, Registry.supports, hnone, Option.bind_none]
      rfl
  | registry => exact absurd hq (by simp [asks])
  | grammar name => exact absurd hq (by simp [asks])
  | tokens name text => exact absurd hq (by simp [asks])
  | detection text => exact absurd hq (by simp [asks])

/-- **What a request comes to.** It is answered from the registry that was made. Where none was, it
is answered from the one that is made of the languages, and where none can be made, it fails as the
making does and leaves the session as it is. -/
theorem act_of_asking [CharacterNames] {q : Request} (hq : q.asks = true) {s : Session}
    (hs : s.highlighter = .rules none) :
    q.act.runIn s = match s.made? with
      | some r => (q.replyFrom s.settings r, s)
      | none => match s.languages.build with
        | .ok r => (q.replyFrom s.settings r, { s with made? := some r })
        | .error f => (.error f, s) := by
  have hreads := reads_act hq hs
  unfold Action.Reads at hreads
  rw [hreads, sharedRegistry_runIn]
  cases s.made? with
  | some r => rfl
  | none => cases s.languages.build <;> rfl

end Request

/-- Asked in general, a session that has no registry and cannot make one supports nothing. Otherwise
the question is answered by the registry. -/
theorem supportsLanguage_runIn [CharacterNames] (name : Value) {s : Session}
    (hs : s.highlighter = .rules none) :
    Action.runIn (supportsLanguage name) s = match Action.runIn (supportsByRules none name) s with
      | (.ok known, s') => (.ok known, s')
      | (.error _, s') => (.ok false, s') := by
  unfold supportsLanguage
  rw [Action.runIn_bind, Action.runIn_get]
  dsimp only
  rw [hs]
  dsimp only
  rw [Action.runIn_bind, Action.runIn_tryCatch, Action.runIn_bind]
  cases (supportsByRules none name).runIn s with
  | mk result s' => cases result <;> rfl

end Lexlight
