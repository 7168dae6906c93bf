import Lexlight.Highlight
import Lexlight.LinkerScript

/-!
# Sessions

A session is what callers share: the recorded languages, the registry made from them, the settings
in force and the highlighter in use. The registry is made when it is first asked for, from the
languages recorded by then, and kept from then on; when it cannot be made, the failure goes to
whoever asked, and the next one to ask tries again.

Settings can be changed for the length of an action (`withSettings`): whatever the action does, and
whether it ends or fails, the settings before it are in force again after it.
-/

namespace Lexlight

/-- What turns code into markup. -/
inductive Highlighter where
  /-- By the rules of the languages in a registry, or in that of the session if none is given. -/
  | rules (over? : Option Registry)
  /-- By an object that may also say which languages it supports, and may fail to. -/
  | object (highlight : HighlightRequest → String) (supports? : Option (Value → Option Bool))
  /-- By a function of code and language alone. -/
  | function (highlight : String → Value → String)

/-- Whether a highlighter goes by rules. -/
def Highlighter.isRules : Highlighter → Bool
  | .rules _ => true
  | _ => false

/-- The languages that come with the library. -/
def builtinLanguages : Languages :=
  ⟨[(.string "ldscript", .description LinkerScript.description)]⟩

/-- What callers share. -/
structure Session where
  languages : Languages := builtinLanguages
  /-- The registry, once it is made. -/
  made? : Option Registry := none
  settings : Settings := {}
  highlighter : Highlighter := .rules none

/-- Something done in a session, which may fail; what it did before stays. -/
abbrev Action := ExceptT Failure (StateM Session)

variable [CharacterNames]

/-- The registry of the session. -/
def sharedRegistry : Action Registry := do
  let s ← get
  match s.made? with
  | some r => return r
  | none =>
    let r ← MonadExcept.ofExcept s.languages.build
    set { s with made? := some r }
    return r

/-- The grammar of a known language. -/
def sharedGrammar (name : Value) : Action Grammar := do
  MonadExcept.ofExcept ((← sharedRegistry).grammarNamed name)

/-- Records what is offered under a name. A registry that was made before does not change. -/
def recordLanguage (name : Value) (offer : Offer) : Action Unit :=
  modify fun s => { s with languages := s.languages.record name offer }

/-- Puts settings in force. -/
def useSettings (settings : Settings) : Action Unit :=
  modify fun s => { s with settings := settings }

/-- Puts the settings in force that hold by default. -/
def resetSettings : Action Unit := useSettings {}

/-- Runs an action under other settings. -/
def withSettings {m : Type → Type} {α : Type} [Monad m] [MonadStateOf Session m] [MonadFinally m]
    (settings : Settings) (body : m α) : m α := do
  let before := (← get).settings
  modify fun s => { s with settings := settings }
  try body
  finally modify fun s => { s with settings := before }

/-- How the classes of spans begin: as given, or else as the settings in force say. -/
def classStart (given? : Option String) : Action String := do
  match given? with
  | some start => return start
  | none => return (← get).settings.classStart

/-- Pieces as markup. -/
def renderPieces (classStart? : Option String) (ps : List Piece) : Action String :=
  return Markup.render (← classStart classStart?) ps

/-- Pieces as markup, line by line. -/
def renderPieceLines (classStart? : Option String) (ps : List Piece) : Action (List String) :=
  return Markup.renderLines (← classStart classStart?) ps

/-- The registry that a highlighter goes by. -/
def registryOf : Option Registry → Action Registry
  | some r => return r
  | none => sharedRegistry

/-- A text highlighted by rules. Without a language no registry is asked for. -/
def highlightByRules (over? : Option Registry) (req : HighlightRequest) : Action String := do
  let settings := (← get).settings
  match req.language.nonEmpty? with
  | none => MonadExcept.ofExcept (Markup.unhighlighted settings req)
  | some _ => MonadExcept.ofExcept ((← registryOf over?).highlight settings req)

/-- Whether a language is supported by rules. -/
def supportsByRules (over? : Option Registry) (language : Value) : Action Bool := do
  match language.nonEmpty? with
  | none => return false
  | some _ => return (← registryOf over?).supports language

/-- Code highlighted by the highlighter in use. -/
def highlightCode (req : HighlightRequest) : Action String := do
  match (← get).highlighter with
  | .rules over? => highlightByRules over? req
  | .object highlight _ => return highlight req
  | .function highlight => return highlight req.code req.language

/-- Whether the highlighter in use supports a language. One that cannot say does not. -/
def supportsLanguage (language : Value) : Action Bool := do
  match (← get).highlighter with
  | .rules over? => try supportsByRules over? language catch _ => return false
  | .object _ (some supports) => return (supports language).getD false
  | .object _ none => return false
  | .function _ => return false

/-- The language of a text, of those in a registry or in that of the session. -/
def detectLanguage (over? : Option Registry) (text : String) : Action (Option String) :=
  return (← registryOf over?).detect? text

end Lexlight
