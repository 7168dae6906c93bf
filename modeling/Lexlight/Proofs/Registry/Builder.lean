import Lexlight.Proofs.Registry.Names

/-!
# Building registries in memory

Registries are made by a builder, which keeps its table in memory and changes it in place, one name
after the other. A registry that is built keeps its table in memory as well. Two things that cannot
fail for values have to be shown of such a builder: a grammar that is refused has left nothing
behind, although what an action did before it failed stays done, and a registry that was built does
not change with the builder.

`Building.add_run` says that adding in memory is `Registry.register` on what the memory stands for.
From it comes all that a call to a builder can do (`Call.run_cases`).
-/

namespace Lexlight

/-- Grammars, and the place of their table in memory. -/
structure Holder where
  grammars : List Grammar := []
  place : Nat := 0

/-- Tables in memory, those who hold them being the builder and the registries built so far. -/
structure Memory where
  tables : List NameTable := [[]]
  builder : Holder := {}
  built : List Holder := []

namespace Memory

/-- The registry that a holder stands for. -/
def view (m : Memory) (h : Holder) : Registry := ⟨h.grammars, m.tables.getD h.place []⟩

/-- The registry under construction. -/
def registry (m : Memory) : Registry := m.view m.builder

/-- A memory in which the builder holds the given registry. -/
def put (m : Memory) (r : Registry) : Memory where
  tables := m.tables.set m.builder.place r.byName
  builder := ⟨r.grammars, m.builder.place⟩
  built := m.built

/-- A memory with one more registry built, whose table is a copy of that of the builder. -/
def snapshot (m : Memory) : Memory where
  tables := m.tables ++ [m.registry.byName]
  builder := m.builder
  built := m.built ++ [⟨m.builder.grammars, m.tables.length⟩]

end Memory

/-! ## The builder -/

/-- Something done with a memory, which may fail; what it did before stays. -/
abbrev Building := ExceptT Failure (StateM Memory)

namespace Building

/-- Refuses a grammar one of whose names is taken. -/
def checkName (g : Grammar) (key : String) : Building Unit := do
  match (← get).registry.get? key with
  | some owner => throw (.taken g.language key owner.language)
  | none => return ()

/-- Writes a grammar into the table of the builder under one of its names. -/
def writeName (g : Grammar) (key : String) : Building Unit :=
  modify fun m => { m with tables := m.tables.modify m.builder.place (putEntry key g) }

/-- Adds a grammar under all of its names. -/
def add (g : Grammar) : Building Unit := do
  forM g.keys (checkName g)
  forM g.keys (writeName g)
  modify fun m => { m with builder.grammars := m.builder.grammars ++ [g] }

/-- Compiles what is offered under a name, and adds it. -/
def addLanguage [CharacterNames] (name : Value) (offer : Offer) : Building Unit := do
  add (← MonadExcept.ofExcept (offer.compile name))

/-- What an action comes to in a memory, and the memory after it. -/
def runIn {α : Type} (b : Building α) (m : Memory) : Except Failure α × Memory :=
  (ExceptT.run b).run m

theorem runIn_bind {α β : Type} (b : Building α) (k : α → Building β) (m : Memory) :
    (b >>= k).runIn m = match b.runIn m with
      | (.ok a, m') => (k a).runIn m'
      | (.error f, m') => (.error f, m') := by
  change (ExceptT.bindCont k (b.runIn m).1).run (b.runIn m).2 = _
  cases h : b.runIn m with
  | mk result m' => cases result <;> rfl

/-- Looking at names finds the first that is taken, and changes nothing. -/
theorem checkNames_run (g : Grammar) (m : Memory) : ∀ keys : List String,
    (forM keys (checkName g)).runIn m =
      (match keys.findSome? fun key => (m.registry.get? key).map fun owner =>
          (key, owner.language) with
        | some (key, owner) => .error (.taken g.language key owner)
        | none => .ok (), m)
  | [] => rfl
  | key :: keys => by
      have hkey : (checkName g key).runIn m = (match m.registry.get? key with
          | some owner => .error (.taken g.language key owner.language)
          | none => .ok (), m) := by
        unfold checkName
        rw [runIn_bind]
        change Building.runIn (match m.registry.get? key with | some owner => _ | none => _) m = _
        cases m.registry.get? key <;> rfl
      rw [List.forM_cons, runIn_bind, hkey, List.findSome?_cons]
      cases m.registry.get? key with
      | some owner => rfl
      | none => exact checkNames_run g m keys

/-- Writing names one by one is writing the table that has them all. -/
theorem writeNames_run (g : Grammar) : ∀ (keys : List String) (m : Memory),
    (forM keys (writeName g)).runIn m = (.ok (), { m with
      tables := m.tables.modify m.builder.place (keys.foldl (fun t key => putEntry key g t)) })
  | [], m => by
      change (Except.ok (), m) = _
      rw [show m.tables.modify m.builder.place (List.foldl _ · []) = m.tables from
        List.modify_id ..]
  | key :: keys, m => by
      -- the place of the table is that of the builder throughout, so the changes add up
      rw [List.forM_cons, runIn_bind]
      change (forM keys (writeName g)).runIn _ = _
      rw [writeNames_run g keys]
      simp only [List.modify_modify_eq]
      rfl

/-- **Adding in memory is registering** what the memory stands for: the registry of the builder
becomes the registry registered to, and nothing changes at all when registering fails. -/
theorem add_run (g : Grammar) (m : Memory) :
    (add g).runIn m = match m.registry.register g with
      | .ok r => (.ok (), m.put r)
      | .error f => (.error f, m) := by
  have hwritten : m.tables.modify m.builder.place
      (g.keys.foldl (fun t key => putEntry key g t)) =
      m.tables.set m.builder.place (m.registry.insert g).byName := by
    rw [List.modify_eq_set, ← List.getD_eq_getElem?_getD]
    rfl
  unfold add
  rw [runIn_bind, checkNames_run, Registry.register_eq, Registry.taken?]
  cases g.keys.findSome? fun key => (m.registry.get? key).map fun owner =>
      (key, owner.language) with
  | some found => rfl
  | none =>
      -- all names are free, and only now the first is written
      dsimp only
      rw [runIn_bind, writeNames_run, hwritten]
      rfl

/-- Offering a description is compiling it, and adding what comes of it. -/
theorem addLanguage_run [CharacterNames] (name : Value) (offer : Offer) (m : Memory) :
    (addLanguage name offer).runIn m = match offer.compile name with
      | .ok g => (add g).runIn m
      | .error f => (.error f, m) := by
  unfold addLanguage
  rw [runIn_bind]
  cases offer.compile name <;> rfl

end Building

/-! ## Calls -/

/-- What can be asked of a builder. -/
inductive Call where
  | registerLanguage (name : Value) (offer : Offer)
  | register (g : Grammar)
  | build

namespace Call

/-- Whether a registry is built by a call. -/
def isBuild : Call → Bool
  | .build => true
  | _ => false

/-- The grammar that a call would add. -/
def grammar? [CharacterNames] : Call → Option Grammar
  | .registerLanguage name offer => (offer.compile name).toOption
  | .register g => some g
  | .build => none

/-- Whether the grammar that a call would add was compiled. -/
def Compiled [CharacterNames] (c : Call) : Prop := ∀ g ∈ c.grammar?, g.Compiled

/-- What a builder does on a call. -/
def act [CharacterNames] : Call → Building Unit
  | .registerLanguage name offer => Building.addLanguage name offer
  | .register g => Building.add g
  | .build => modify Memory.snapshot

/-- The outcome of a call, and the memory after it. -/
def run [CharacterNames] (c : Call) (m : Memory) : Except Failure Unit × Memory := c.act.runIn m

/-- A description brings the grammar that it compiles to. -/
theorem grammar?_registerLanguage [CharacterNames] {name : Value} {offer : Offer} {g : Grammar} :
    (registerLanguage name offer).grammar? = some g ↔ offer.compile name = .ok g := by
  cases h : offer.compile name with
  | error f => simp [grammar?, h, Except.toOption]
  | ok g' => simp [grammar?, h, Except.toOption]

theorem compiled_registerLanguage [CharacterNames] (name : Value) (offer : Offer) :
    (registerLanguage name offer).Compiled :=
  fun _ hg => ⟨name, offer, grammar?_registerLanguage.mp hg⟩

/-- A call that brings a grammar registers it, and nothing changes when that fails. -/
theorem run_of_grammar [CharacterNames] {c : Call} {g : Grammar} (hg : c.grammar? = some g)
    (m : Memory) :
    c.run m = match m.registry.register g with
      | .ok r => (.ok (), m.put r)
      | .error f => (.error f, m) := by
  rw [← Building.add_run]
  cases c with
  | registerLanguage name offer =>
      have hrun : (registerLanguage name offer).run m = _ := Building.addLanguage_run name offer m
      rw [hrun, grammar?_registerLanguage.mp hg]
  | register g' => rw [← Option.some.inj hg]; rfl
  | build => exact absurd hg (by simp [grammar?])

/-- A call that brings no grammar builds a registry, or brings what does not compile. -/
theorem run_of_no_grammar [CharacterNames] {c : Call} (hg : c.grammar? = none) (m : Memory) :
    (c = .build ∧ c.run m = (.ok (), m.snapshot)) ∨
    (∃ name offer f, c = .registerLanguage name offer ∧ offer.compile name = .error f ∧
      c.run m = (.error f, m)) := by
  cases c with
  | registerLanguage name offer =>
      have hrun : (registerLanguage name offer).run m = _ := Building.addLanguage_run name offer m
      cases hc : offer.compile name with
      | error f => exact Or.inr ⟨name, offer, f, rfl, hc, by rw [hrun, hc]⟩
      | ok g => rw [grammar?_registerLanguage.mpr hc] at hg; exact absurd hg (by simp)
  | register g => exact absurd hg (by simp [grammar?])
  | build => exact Or.inl ⟨rfl, rfl⟩

theorem isBuild_eq_false [CharacterNames] {c : Call} {g : Grammar} (hg : c.grammar? = some g) :
    c.isBuild = false := by
  cases c with
  | registerLanguage name offer => rfl
  | register g' => rfl
  | build => exact absurd hg (by simp [grammar?])

/-- **What a call can do.** It fails and nothing changes, or the grammar it brings is registered, or
a registry is built. -/
theorem run_cases [CharacterNames] (c : Call) (m : Memory) :
    (∃ f, c.isBuild = false ∧ c.run m = (.error f, m)) ∨
    (∃ g r, c.grammar? = some g ∧ m.registry.register g = .ok r ∧ c.run m = (.ok (), m.put r)) ∨
    (c = .build ∧ c.run m = (.ok (), m.snapshot)) := by
  cases hg : c.grammar? with
  | some g =>
      have hrun := run_of_grammar hg m
      cases hr : m.registry.register g with
      | error f => exact Or.inl ⟨f, isBuild_eq_false hg, by rw [hrun, hr]⟩
      | ok r => exact Or.inr (Or.inl ⟨g, r, rfl, hr, by rw [hrun, hr]⟩)
  | none =>
      rcases run_of_no_grammar hg m with hbuild | ⟨name, offer, f, rfl, -, hrun⟩
      · exact Or.inr (Or.inr hbuild)
      · exact Or.inl ⟨f, rfl, hrun⟩

end Call
end Lexlight
