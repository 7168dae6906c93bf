import Lexlight.Proofs.Session.Requests

/-!
# What is seen of a session

Rendering may leave a trace in a session, because the registry is made when it is first asked for.
But it is made of the languages, which rendering does not change, so nobody can tell whether it was
made before or is made when asked for. What can be told of a session is its view: the settings in
force, the highlighter in use, and what asking for the registry comes to. Whatever renders only
looks (`Action.Looks`): it comes to the same in all sessions of one view, and keeps the view.
-/

namespace Lexlight

namespace Session

/-- What asking for the registry comes to. -/
def registry [CharacterNames] (s : Session) : Except Failure Registry :=
  match s.made? with
  | some r => .ok r
  | none => s.languages.build

/-- Whether two sessions render by the same means, under settings that may differ. -/
structure SameMeans [CharacterNames] (s t : Session) : Prop where
  highlighter : s.highlighter = t.highlighter
  registry : s.registry = t.registry

/-- Whether nothing tells two sessions apart. -/
structure SameView [CharacterNames] (s t : Session) : Prop extends SameMeans s t where
  settings : s.settings = t.settings

variable {s t u : Session}

theorem SameMeans.refl [CharacterNames] (s : Session) : SameMeans s s := ⟨rfl, rfl⟩

theorem SameMeans.symm [CharacterNames] (h : SameMeans s t) : SameMeans t s :=
  ⟨h.highlighter.symm, h.registry.symm⟩

theorem SameMeans.trans [CharacterNames] (h : SameMeans s t) (h' : SameMeans t u) : SameMeans s u :=
  ⟨h.highlighter.trans h'.highlighter, h.registry.trans h'.registry⟩

theorem SameView.refl [CharacterNames] (s : Session) : SameView s s := ⟨.refl s, rfl⟩

theorem SameView.symm [CharacterNames] (h : SameView s t) :
    SameView t s := ⟨h.toSameMeans.symm, h.settings.symm⟩

theorem SameView.trans [CharacterNames] (h : SameView s t) (h' : SameView t u) : SameView s u :=
  ⟨h.toSameMeans.trans h'.toSameMeans, h.settings.trans h'.settings⟩

/-- A session under given settings. -/
def under (s : Session) (settings : Settings) : Session := { s with settings := settings }

@[simp] theorem settings_under (s : Session) (settings : Settings) :
    (s.under settings).settings = settings := rfl

/-- The means of rendering are not settings. -/
theorem sameMeans_under [CharacterNames] (s : Session) (settings : Settings) :
    SameMeans (s.under settings) s :=
  ⟨rfl, rfl⟩

/-- Under the same settings, sessions with the same means are not told apart. -/
theorem SameMeans.under [CharacterNames] (h : SameMeans s t) (settings : Settings) :
    SameView (s.under settings) (t.under settings) :=
  ⟨⟨h.highlighter, h.registry⟩, rfl⟩

end Session

open Session

/-! ## Looking -/

namespace Action

variable {α β : Type}

/-- Whether an action comes to the same in all sessions of one view, and keeps the view. -/
structure Looks [CharacterNames] (a : Action α) : Prop where
  same : ∀ {s t : Session}, SameView s t → (a.runIn s).1 = (a.runIn t).1
  keeps : ∀ s : Session, SameView (a.runIn s).2 s

theorem looks_pure [CharacterNames] (x : α) : Looks (pure x) := ⟨fun _ => rfl, .refl⟩

theorem looks_ofExcept [CharacterNames] (e : Except Failure α) :
    Looks (MonadExcept.ofExcept e) where
  same _ := by rw [runIn_ofExcept, runIn_ofExcept]
  keeps s := by
    rw [runIn_ofExcept]
    exact .refl s

theorem Looks.bind [CharacterNames] {a : Action α} {k : α → Action β} (ha : a.Looks)
    (hk : ∀ x, (k x).Looks) : Looks (a >>= k) where
  same := by
    intro s t h
    have hsame := ha.same h
    have hs := ha.keeps s
    have ht := ha.keeps t
    rw [runIn_bind, runIn_bind]
    generalize a.runIn s = x at hsame hs ⊢
    generalize a.runIn t = y at hsame ht ⊢
    obtain ⟨result, s'⟩ := x
    obtain ⟨_, t'⟩ := y
    obtain rfl := hsame
    cases result with
    | error f => rfl
    | ok x => exact (hk x).same (hs.trans (h.trans ht.symm))
  keeps := by
    intro s
    have hs := ha.keeps s
    rw [runIn_bind]
    generalize a.runIn s = x at hs ⊢
    obtain ⟨result, s'⟩ := x
    cases result with
    | error f => exact hs
    | ok x => exact ((hk x).keeps s').trans hs

/-- What is read of a session first has to be a part of its view. -/
theorem Looks.get_bind [CharacterNames] {k : Session → Action β}
    (hview : ∀ {s t}, SameView s t → k s = k t) (hk : ∀ s, (k s).Looks) : Looks (get >>= k) where
  same := by
    intro s t h
    rw [runIn_bind, runIn_bind, runIn_get, runIn_get]
    dsimp only
    rw [hview h]
    exact (hk t).same h
  keeps := by
    intro s
    rw [runIn_bind, runIn_get]
    exact (hk s).keeps s

/-- Asking for the registry comes to what the view says, and keeps it. -/
theorem looks_sharedRegistry [CharacterNames] : Looks sharedRegistry := by
  have hrun : ∀ s : Session, (Action.runIn sharedRegistry s).1 = s.registry ∧
      SameView (Action.runIn sharedRegistry s).2 s := by
    intro s
    rw [sharedRegistry_runIn]
    unfold Session.registry
    cases hmade : s.made? with
    | some r => exact ⟨rfl, .refl s⟩
    | none =>
        cases hbuild : s.languages.build with
        | error f => exact ⟨rfl, .refl s⟩
        | ok r =>
            refine ⟨rfl, ⟨rfl, ?_⟩, rfl⟩
            unfold Session.registry
            rw [hmade, hbuild]
  exact ⟨fun {s t} h => (hrun s).1.trans (h.registry.trans (hrun t).1.symm), fun s => (hrun s).2⟩

/-! ## Rendering -/

theorem looks_registryOf [CharacterNames] (over? : Option Registry) : Looks (registryOf over?) := by
  cases over? with
  | some r => exact looks_pure r
  | none => exact looks_sharedRegistry

theorem looks_highlightByRules [CharacterNames] (over? : Option Registry) (req : HighlightRequest) :
    Looks (highlightByRules over? req) := by
  unfold highlightByRules
  refine Looks.get_bind (fun h => by rw [h.settings]) fun s => ?_
  cases req.language.nonEmpty? with
  | none => exact looks_ofExcept _
  | some name => exact (looks_registryOf over?).bind fun r => looks_ofExcept _

theorem looks_highlightCode [CharacterNames] (req : HighlightRequest) :
    Looks (highlightCode req) := by
  unfold highlightCode
  refine Looks.get_bind (fun h => by rw [h.highlighter]) fun s => ?_
  cases s.highlighter with
  | rules over? => exact looks_highlightByRules over? req
  | object highlight supports? => exact looks_pure _
  | function highlight => exact looks_pure _

theorem looks_classStart [CharacterNames] (given? : Option String) : Looks (classStart given?) := by
  unfold classStart
  cases given? with
  | some start => exact looks_pure start
  | none => exact Looks.get_bind (fun h => by rw [h.settings]) fun s => looks_pure _

theorem looks_renderPieces [CharacterNames] (classStart? : Option String) (ps : List Piece) :
    Looks (renderPieces classStart? ps) :=
  (looks_classStart classStart?).bind fun _ => looks_pure _

theorem looks_renderPieceLines [CharacterNames] (classStart? : Option String) (ps : List Piece) :
    Looks (renderPieceLines classStart? ps) :=
  (looks_classStart classStart?).bind fun _ => looks_pure _

end Action
end Lexlight
