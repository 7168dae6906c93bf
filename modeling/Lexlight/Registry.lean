import Lexlight.Grammar.Compile

/-!
# Registries

A registry holds grammars in the order of their registration, and a table of them by name: each
stands in it under its own name and under its aliases. No name is ever that of two grammars: a
grammar one of whose names is taken is refused, and the refusal names the first such name and the
language that has it. All names are looked at before any is put into the table, so a refused grammar
leaves the registry as it was.

`Languages` is what registries of known languages are made from: offered descriptions by name, in
the order in which the names were first recorded.
-/

namespace Lexlight

/-- Entries with the value of one key replaced in its place, or added at the end. -/
def putEntry {κ ν : Type} [BEq κ] (key : κ) (value : ν) : List (κ × ν) → List (κ × ν)
  | [] => [(key, value)]
  | (k, v) :: rest => if k == key then (k, value) :: rest else (k, v) :: putEntry key value rest

/-- Grammars by name, in the order in which the names were first put there. -/
abbrev NameTable := List (String × Grammar)

/-- Grammars, and where to find them by name. -/
structure Registry where
  grammars : List Grammar := []
  byName : NameTable := []
  deriving Repr, Inhabited

namespace Registry

/-- The grammar found under a name. -/
def get? (r : Registry) (name : String) : Option Grammar := r.byName.lookup name

/-- Whether a grammar is found under a name. -/
def has (r : Registry) (name : String) : Bool := (r.get? name).isSome

/-- The place, in the order of registration, of the grammar found under a name. -/
def index? (r : Registry) (name : String) : Option Nat :=
  (r.get? name).bind fun g => r.grammars.findIdx? (·.language = g.language)

/-- The number of names and aliases. -/
def size (r : Registry) : Nat := r.byName.length

/-- All names and aliases in increasing order. -/
def names (r : Registry) : List String := sortedSet (r.byName.map Prod.fst)

/-- The own names of the languages, in the order of registration. -/
def languages (r : Registry) : List String := r.grammars.map (·.language)

/-- The first name of a grammar that is taken, and the language that has it. -/
def taken? (r : Registry) (g : Grammar) : Option (String × String) :=
  g.keys.findSome? fun key => (r.get? key).map fun owner => (key, owner.language)

/-- A registry with one more grammar, put under each of its names. -/
def insert (r : Registry) (g : Grammar) : Registry where
  grammars := r.grammars ++ [g]
  byName := g.keys.foldl (fun table key => putEntry key g table) r.byName

/-- Adds a grammar, unless one of its names is taken. -/
def register (r : Registry) (g : Grammar) : Except Failure Registry :=
  match r.taken? g with
  | some (key, owner) => throw (.taken g.language key owner)
  | none => return r.insert g

/-- Compiles what is offered under a name, and adds it. -/
def registerLanguage [CharacterNames] (r : Registry) (name : Value) (offer : Offer) :
    Except Failure Registry := do
  r.register (← offer.compile name)

/-- The grammar found under a name, which has to be known. -/
def grammarNamed (r : Registry) (name : Value) : Except Failure Grammar :=
  match name.text?.bind r.get? with
  | some g => return g
  | none => throw (.unknownLanguage name r.names)

end Registry

/-- Offered descriptions by name. -/
structure Languages where
  entries : List (Value × Offer) := []
  deriving Repr, Inhabited

namespace Languages

/-- Records what is offered under a name. -/
def record (l : Languages) (name : Value) (offer : Offer) : Languages :=
  ⟨putEntry name offer l.entries⟩

/-- The registry of all languages recorded. -/
def build [CharacterNames] (l : Languages) : Except Failure Registry :=
  l.entries.foldlM (fun r (name, offer) => r.registerLanguage name offer) {}

end Languages
end Lexlight
