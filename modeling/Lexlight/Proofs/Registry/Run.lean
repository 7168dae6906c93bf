import Lexlight.Proofs.Registry.Builder

/-!
# Runs of a builder

Any number of calls to a fresh builder, some that succeed and some that fail, with registries built
at any points (`Memory.after`). The grammars of the calls that succeed, in their order
(`Memory.added`), say all there is to say about the registry under construction: which names find
something and what, which call is refused next and why. A call that fails might as well not have
been made, and a registry that was built stays as it was (`Registry.run_integrity`).
-/

namespace Lexlight

namespace Memory

/-- Nothing but a builder, with nothing in its table. -/
def fresh : Memory := {}

/-- The memory after some calls. -/
def after [CharacterNames] (m : Memory) : List Call → Memory
  | [] => m
  | c :: calls => (c.run m).2.after calls

/-- The calls of a run that succeed. -/
def succeeding [CharacterNames] (m : Memory) : List Call → List Call
  | [] => []
  | c :: calls =>
    match (c.run m).1 with
    | .ok () => c :: (c.run m).2.succeeding calls
    | .error _ => (c.run m).2.succeeding calls

/-- The grammars that the calls of a run add, in the order of the calls. -/
def added [CharacterNames] (m : Memory) (calls : List Call) : List Grammar :=
  (m.succeeding calls).filterMap Call.grammar?

theorem after_append [CharacterNames] : ∀ (m : Memory) (before later : List Call),
    m.after (before ++ later) = (m.after before).after later
  | _, [], _ => rfl
  | m, c :: before, later => after_append (c.run m).2 before later

end Memory

/-! ## Who holds what -/

namespace Memory

/-- Every table is in memory, and the builder shares its own with no registry that was built. -/
structure Isolated (m : Memory) : Prop where
  builder : m.builder.place < m.tables.length
  built : ∀ h ∈ m.built, h.place < m.tables.length ∧ h.place ≠ m.builder.place

theorem registry_put {m : Memory} (hm : m.Isolated) (r : Registry) : (m.put r).registry = r := by
  simp [registry, view, put, hm.builder]

theorem view_put {m : Memory} {h : Holder} (hne : h.place ≠ m.builder.place) (r : Registry) :
    (m.put r).view h = m.view h := by
  simp [view, put, List.getElem?_set_ne (Ne.symm hne)]

theorem view_snapshot {m : Memory} {h : Holder} (hlt : h.place < m.tables.length) :
    m.snapshot.view h = m.view h := by
  simp [view, snapshot, List.getElem?_append_left hlt]

/-- A registry that was just built is what the builder stands for. -/
theorem view_snapshot_new (m : Memory) :
    m.snapshot.view ⟨m.builder.grammars, m.tables.length⟩ = m.registry := by
  simp [registry, view, snapshot]

theorem isolated_put {m : Memory} (hm : m.Isolated) (r : Registry) : (m.put r).Isolated where
  builder := by simpa [put] using hm.builder
  built := by simpa [put] using hm.built

theorem isolated_snapshot {m : Memory} (hm : m.Isolated) : m.snapshot.Isolated where
  builder := by have := hm.builder; simp only [snapshot, List.length_append]; omega
  built := by
    intro h hh
    have hb := hm.builder
    rcases List.mem_append.mp hh with hh | hh
    · have := hm.built h hh
      simp only [snapshot, List.length_append]
      omega
    · obtain rfl := List.mem_singleton.mp hh
      simp only [snapshot, List.length_append, List.length_singleton]
      omega

/-- Whether the registries built in one memory stand in another, and are the same there. -/
def Keeps (m m' : Memory) : Prop :=
  ∀ (i : Nat) (h : Holder), m.built[i]? = some h → m'.built[i]? = some h ∧ m'.view h = m.view h

theorem Keeps.refl (m : Memory) : m.Keeps m := fun _ _ h => ⟨h, rfl⟩

theorem Keeps.trans {m m' m'' : Memory} (h : m.Keeps m') (h' : m'.Keeps m'') : m.Keeps m'' := by
  intro i holder hi
  obtain ⟨hi', hview⟩ := h i holder hi
  obtain ⟨hi'', hview'⟩ := h' i holder hi'
  exact ⟨hi'', hview'.trans hview⟩

theorem isolated_fresh : fresh.Isolated where
  builder := by decide
  built := by simp [fresh]

end Memory

/-! ## Steps -/

/-- **A call touches no registry that was built**, and builds one only when asked to. -/
theorem Call.run_isolated [CharacterNames] (c : Call) {m : Memory} (hm : m.Isolated) :
    (c.run m).2.Isolated ∧ m.Keeps (c.run m).2 ∧
      (c.run m).2.built.length = m.built.length + if c.isBuild then 1 else 0 := by
  rcases c.run_cases m with ⟨f, hb, hrun⟩ | ⟨g, r, hg, -, hrun⟩ | ⟨rfl, hrun⟩
  · rw [hrun, hb]; exact ⟨hm, .refl m, rfl⟩
  · rw [hrun, Call.isBuild_eq_false hg]
    -- the table that changes is that of the builder, and nothing built before holds it
    refine ⟨Memory.isolated_put hm r, fun i h hi => ⟨hi, ?_⟩, rfl⟩
    exact Memory.view_put (hm.built h (List.mem_of_getElem? hi)).2 r
  · rw [hrun]
    refine ⟨Memory.isolated_snapshot hm, fun i h hi => ⟨?_, ?_⟩, by simp [Memory.snapshot, isBuild]⟩
    · have hlt := (List.getElem?_eq_some_iff.mp hi).1
      exact (List.getElem?_append_left hlt).trans hi
    · exact Memory.view_snapshot (hm.built h (List.mem_of_getElem? hi)).1

/-- A call that fails changes nothing. -/
theorem Call.run_error [CharacterNames] {c : Call} {m : Memory} {f : Failure}
    (h : (c.run m).1 = .error f) : (c.run m).2 = m := by
  rcases c.run_cases m with ⟨_, _, hrun⟩ | ⟨_, _, _, _, hrun⟩ | ⟨_, hrun⟩
  · rw [hrun]
  · rw [hrun] at h; exact absurd h (by simp)
  · rw [hrun] at h; exact absurd h (by simp)

/-- **A call that succeeds adds the grammar it brings**, if it brings one. -/
theorem Call.run_ok [CharacterNames] {c : Call} (hc : c.Compiled) {m : Memory} (hm : m.Isolated)
    (hs : m.registry.Sound) (h : (c.run m).1 = .ok ()) :
    (c.run m).2.registry.Sound ∧
      (c.run m).2.registry.grammars = m.registry.grammars ++ c.grammar?.toList := by
  rcases c.run_cases m with ⟨_, _, hrun⟩ | ⟨g, r, hg, hr, hrun⟩ | ⟨rfl, hrun⟩
  · rw [hrun] at h; exact absurd h (by simp)
  · rw [hrun, Memory.registry_put hm]
    refine ⟨hs.register (hc g hg) hr, ?_⟩
    rw [Registry.register_eq] at hr
    split at hr
    · exact absurd hr (by simp)
    · rw [← Except.ok.inj hr, hg]; rfl
  · have hview : m.snapshot.registry = m.registry := Memory.view_snapshot hm.builder
    rw [hrun]
    exact ⟨hview ▸ hs, by rw [hview]; exact (List.append_nil _).symm⟩

/-- **What a call that brings a grammar comes to**: it succeeds if all names are free, and if not it
fails on the first that is taken. -/
theorem Call.outcome_of_grammar [CharacterNames] {c : Call} (hc : c.Compiled) {m : Memory}
    (hs : m.registry.Sound) {g : Grammar} (hg : c.grammar? = some g) :
    ((c.run m).1 = .ok () ↔ ∀ key ∈ g.keys, ¬ Registry.Taken m.registry.grammars key) ∧
      ∀ f, (c.run m).1 = .error f ↔
        ∃ key, Registry.FirstTaken m.registry.grammars g key ∧
          ∃ owner ∈ m.registry.grammars, key ∈ owner.keys ∧
            f = .taken g.language key owner.language := by
  rw [← hs.taken?_eq_none]
  cases ht : m.registry.taken? g with
  | none =>
      have hout : (c.run m).1 = .ok () := by
        rw [Call.run_of_grammar hg, Registry.register_eq, ht]
      rw [hout]
      refine ⟨by simp, fun f => ⟨fun h => absurd h (by simp), ?_⟩⟩
      rintro ⟨key, ⟨hkey, htaken, -⟩, -⟩
      exact absurd htaken (hs.taken?_eq_none.mp ht key hkey)
  | some found =>
      obtain ⟨key, owner⟩ := found
      have hout : (c.run m).1 = .error (.taken g.language key owner) := by
        rw [Call.run_of_grammar hg, Registry.register_eq, ht]
      rw [hout]
      refine ⟨by simp, fun f => ⟨fun h => ?_, ?_⟩⟩
      · obtain ⟨hfirst, g', hg', hkey, rfl⟩ := (hs.taken?_eq_some (hc g hg).names).mp ht
        exact ⟨key, hfirst, g', hg', hkey, (Except.error.inj h).symm⟩
      · rintro ⟨key', hfirst, g', hg', hkey, rfl⟩
        have := (hs.taken?_eq_some (hc g hg).names).mpr ⟨hfirst, g', hg', hkey, rfl⟩
        obtain ⟨rfl, rfl⟩ := Prod.mk.inj (Option.some.inj (ht.symm.trans this))
        rfl

/-- A call fails on a name that is taken only if it brings a grammar with such a name. -/
theorem Call.taken_iff [CharacterNames] {c : Call} (hc : c.Compiled) {m : Memory}
    (hs : m.registry.Sound) :
    (∃ language key owner, (c.run m).1 = .error (.taken language key owner)) ↔
      ∃ g, c.grammar? = some g ∧ ∃ key ∈ g.keys, Registry.Taken m.registry.grammars key := by
  constructor
  · rintro ⟨language, key, owner, herr⟩
    cases hg : c.grammar? with
    | some g =>
        obtain ⟨key, ⟨hkey, htaken, -⟩, -⟩ := ((Call.outcome_of_grammar hc hs hg).2 _).mp herr
        exact ⟨g, rfl, key, hkey, htaken⟩
    | none =>
        rcases Call.run_of_no_grammar hg m with ⟨-, hrun⟩ | ⟨name, offer, f, -, hcomp, hrun⟩
        · rw [hrun] at herr; exact absurd herr (by simp)
        · -- what does not compile is refused for its flaw, and that is never a taken name
          rw [hrun] at herr
          obtain rfl := Except.error.inj herr
          exact absurd hcomp (Offer.compile_untaken name offer language key owner)
  · rintro ⟨g, hg, key, hkey, htaken⟩
    obtain ⟨hok, herr⟩ := Call.outcome_of_grammar hc hs hg
    cases hrun : (c.run m).1 with
    | ok u => exact absurd htaken (hok.mp hrun key hkey)
    | error f =>
        obtain ⟨key, -, owner, -, -, rfl⟩ := (herr f).mp hrun
        exact ⟨_, _, _, rfl⟩

/-! ## Runs -/

namespace Memory

theorem after_isolated [CharacterNames] : ∀ (calls : List Call) {m : Memory}, m.Isolated →
    (m.after calls).Isolated ∧ m.Keeps (m.after calls) ∧
      (m.after calls).built.length = m.built.length + calls.countP (·.isBuild)
  | [], m, hm => ⟨hm, .refl m, rfl⟩
  | c :: calls, m, hm => by
      obtain ⟨hm₁, hkeeps₁, hlen₁⟩ := c.run_isolated hm
      obtain ⟨hm₂, hkeeps₂, hlen₂⟩ := after_isolated calls hm₁
      refine ⟨hm₂, hkeeps₁.trans hkeeps₂, ?_⟩
      rw [List.countP_cons]
      exact hlen₂.trans (by omega)

/-- **The registry under construction** holds what it held, and the grammars of the calls that
succeeded. -/
theorem after_sound [CharacterNames] : ∀ {calls : List Call}, (∀ c ∈ calls, c.Compiled) →
    ∀ {m : Memory}, m.Isolated → m.registry.Sound →
    (m.after calls).registry.Sound ∧
      (m.after calls).registry.grammars = m.registry.grammars ++ m.added calls
  | [], _, m, _, hs => ⟨hs, (List.append_nil _).symm⟩
  | c :: calls, hc, m, hm, hs => by
      obtain ⟨hc, hcalls⟩ := List.forall_mem_cons.mp hc
      obtain ⟨hm', -, -⟩ := c.run_isolated hm
      unfold added succeeding
      split
      · rename_i hok
        obtain ⟨hs', hgs⟩ := Call.run_ok hc hm hs hok
        obtain ⟨hs'', hgs'⟩ := after_sound hcalls hm' hs'
        refine ⟨hs'', hgs'.trans ?_⟩
        rw [hgs, List.append_assoc, List.filterMap_cons]
        cases c.grammar? <;> rfl
      · -- the memory is as it was, so the rest of the run begins from here
        rename_i f herr
        unfold after
        rw [Call.run_error herr]
        exact after_sound hcalls hm hs

/-- **A call that failed left no trace**: without those calls everything ends the same. -/
theorem after_succeeding [CharacterNames] : ∀ (m : Memory) (calls : List Call),
    m.after (m.succeeding calls) = m.after calls
  | _, [] => rfl
  | m, c :: calls => by
      unfold succeeding
      split
      · exact after_succeeding (c.run m).2 calls
      · rename_i f herr
        rw [after, Call.run_error herr]
        exact after_succeeding m calls

/-- **A registry stays as it was built**, whatever is asked of the builder later. -/
theorem view_after [CharacterNames] {m : Memory} (hm : m.Isolated) (before later : List Call) :
    ∃ h, (m.after (before ++ .build :: later)).built[m.built.length +
        before.countP (·.isBuild)]? = some h ∧
      (m.after (before ++ .build :: later)).view h = (m.after before).registry := by
  obtain ⟨hm₁, -, hlen⟩ := after_isolated before hm
  obtain ⟨-, hkeeps, -⟩ := after_isolated later (isolated_snapshot hm₁)
  -- when it is built it is what the builder stands for, and the calls that follow keep it
  have hnew : (m.after before).snapshot.built[(m.after before).built.length]? =
      some ⟨(m.after before).builder.grammars, (m.after before).tables.length⟩ := by
    simp [snapshot]
  obtain ⟨hbuilt, hview⟩ := hkeeps _ _ hnew
  rw [after_append, ← hlen]
  exact ⟨_, hbuilt, hview.trans (view_snapshot_new _)⟩

end Memory

/-! ## Integrity -/

namespace Registry

open Memory (fresh)

/-- What holds after some calls to a fresh builder. -/
structure RunIntegrity [CharacterNames] (calls : List Call) : Prop where
  /-- No two of the grammars added share a name, -/
  disjoint : (fresh.added calls).Pairwise fun g g' => ∀ key ∈ g.keys, key ∉ g'.keys
  /-- and none of them has a name twice. -/
  nodup : ∀ g ∈ fresh.added calls, g.keys.Nodup
  /-- A name finds the grammar that has it, -/
  found : ∀ (key : String) (g : Grammar), (fresh.after calls).registry.get? key = some g ↔
    g ∈ fresh.added calls ∧ key ∈ g.keys
  /-- and nothing if none has. -/
  notFound : ∀ key : String, (fresh.after calls).registry.get? key = none ↔
    ∀ g ∈ fresh.added calls, key ∉ g.keys
  /-- There are as many names as the grammars have together. -/
  size : (fresh.after calls).registry.size = ((fresh.added calls).map (·.keys.length)).sum
  /-- The languages are those of the calls that succeeded, in the order of the calls. -/
  languages : (fresh.after calls).registry.languages = (fresh.added calls).map (·.language)
  /-- A grammar that comes next is accepted if its names are free. If not, it is refused, with the
  first of them that is taken and the language that has it. -/
  outcome : ∀ (c : Call) (g : Grammar), c.Compiled → c.grammar? = some g →
    ((c.run (fresh.after calls)).1 = .ok () ↔
      ∀ key ∈ g.keys, ¬ Taken (fresh.added calls) key) ∧
    ∀ f, (c.run (fresh.after calls)).1 = .error f ↔
      ∃ key, FirstTaken (fresh.added calls) g key ∧
        ∃ owner ∈ fresh.added calls, key ∈ owner.keys ∧ f = .taken g.language key owner.language
  /-- No call is refused for a name that is taken but one with such a name. -/
  taken : ∀ c : Call, c.Compiled →
    ((∃ language key owner,
        (c.run (fresh.after calls)).1 = .error (.taken language key owner)) ↔
      ∃ g, c.grammar? = some g ∧ ∃ key ∈ g.keys, Taken (fresh.added calls) key)
  /-- The calls that succeed would have done alone. -/
  traceless : fresh.after (fresh.succeeding calls) = fresh.after calls
  /-- A registry that was built is what was under construction then. -/
  snapshots : ∀ before later : List Call, calls = before ++ .build :: later →
    ∃ h, (fresh.after calls).built[before.countP (·.isBuild)]? = some h ∧
      (fresh.after calls).view h = (fresh.after before).registry
  /-- There are no others. -/
  built : (fresh.after calls).built.length = calls.countP (·.isBuild)

/-- **Integrity of registries over whole runs**, of calls that succeed and calls that fail. -/
theorem run_integrity [CharacterNames] {calls : List Call} (hcalls : ∀ c ∈ calls, c.Compiled) :
    RunIntegrity calls := by
  obtain ⟨hs, hgs⟩ := Memory.after_sound hcalls Memory.isolated_fresh Sound.empty
  have hgs : (fresh.after calls).registry.grammars = fresh.added calls := hgs
  exact {
    disjoint := hgs ▸ hs.disjoint
    nodup := fun g hg => (hs.compiled g (hgs ▸ hg)).names.nodup_keys
    found := fun key g => hgs ▸ hs.get?_eq_some
    notFound := fun key => hgs ▸ hs.get?_eq_none
    size := hgs ▸ hs.size_eq
    languages := by rw [← hgs]; rfl
    outcome := fun c g hc hg => hgs ▸ Call.outcome_of_grammar hc hs hg
    taken := fun c hc => hgs ▸ Call.taken_iff hc hs
    traceless := Memory.after_succeeding fresh calls
    snapshots := by
      rintro before later rfl
      simpa [fresh] using Memory.view_after Memory.isolated_fresh before later
    built := by
      simpa [fresh] using (Memory.after_isolated calls Memory.isolated_fresh).2.2 }

/-- Whether a registry is what some calls to a fresh builder make. -/
def Built [CharacterNames] (r : Registry) : Prop :=
  ∃ calls : List Call, (∀ c ∈ calls, c.Compiled) ∧ r = (fresh.after calls).registry

theorem Built.sound [CharacterNames] {r : Registry} (h : r.Built) : r.Sound := by
  obtain ⟨calls, hcalls, rfl⟩ := h
  exact (Memory.after_sound hcalls Memory.isolated_fresh Sound.empty).1

/-- A language of nothing but names. -/
def named (aliases : List String) : Offer :=
  .description { title := .string "Names", aliases := aliases.map .string }

/-- A grammar of nothing but its name. -/
def bare (language : String) : Grammar where
  language := language
  title := .string "Names"
  aliases := []
  caseSensitive := true
  rules := []
  keywords := []
  builtins := []

theorem compiled_bare [CharacterNames] {language : String} (h : language ≠ "") :
    (bare language).Compiled := by
  refine ⟨.string language, named [], (Offer.compile_description h _).trans ?_⟩
  rw [@LanguageDescription.compile_eq _ language _ [] [] none rfl rfl rfl rfl]
  simp [bare, sortedSet]

/-- A language that has its own name and another one twice among its aliases, a registry built when
it is there, two that claim one of its names, one without a name, and one whose names are free. -/
def rivals : List Call :=
  [.registerLanguage (.string "b") (named ["z", "b", "z"]),
   .build,
   .register (bare "z"),
   .registerLanguage (.string "c") (named ["z"]),
   .registerLanguage (.string "") (named []),
   .registerLanguage (.string "c") (named ["y"])]

theorem run_integrity_rivals :
    (∀ c ∈ rivals, c.Compiled) ∧ RunIntegrity rivals ∧
      (fresh.after rivals).registry.languages = ["b", "c"] ∧
      (fresh.after rivals).registry.size = 4 := by
  have hcompiled : ∀ c ∈ rivals, c.Compiled := by
    intro c hc
    simp only [rivals, List.mem_cons, List.not_mem_nil, or_false] at hc
    rcases hc with rfl | rfl | rfl | rfl | rfl | rfl
    · exact Call.compiled_registerLanguage _ _
    · exact fun g hg => absurd hg (by simp [Call.grammar?])
    · exact fun g hg => Option.some.inj hg ▸ compiled_bare (by decide)
    · exact Call.compiled_registerLanguage _ _
    · exact Call.compiled_registerLanguage _ _
    · exact Call.compiled_registerLanguage _ _
  exact ⟨hcompiled, run_integrity hcompiled, by decide +kernel, by decide +kernel⟩

end Registry
end Lexlight
