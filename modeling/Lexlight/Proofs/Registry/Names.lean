import Mathlib.Algebra.GroupWithZero.Nat
import Lexlight.Registry
import Lexlight.Proofs.Grammar.Compiled

/-!
# The names in a registry

A registry keeps its grammars twice, in a list and in a table by name. The table says nothing that
the list does not: it is the list, with each grammar written out once for each of its names
(`nameTable`), and no name stands in it twice. That is the invariant of a registry
(`Registry.Sound`). An empty registry has it and registering a compiled grammar keeps it, so every
question to the table is answered by the list.
-/

namespace Lexlight

/-! ## The names of a grammar -/

/-- Whether a grammar is what some description compiles to. -/
def Grammar.Compiled [CharacterNames] (g : Grammar) : Prop :=
  ∃ (language : Value) (offer : Offer), offer.compile language = .ok g

/-- The own name of a compiled grammar is none of its aliases, and those are in order. -/
structure Grammar.NamesOrdered (g : Grammar) : Prop where
  own : g.language ∉ g.aliases
  nodup : g.aliases.Nodup
  sorted : g.aliases.Pairwise (· ≤ ·)
  nonempty : ∀ key ∈ g.keys, key ≠ ""

theorem Grammar.Compiled.names [CharacterNames] {g : Grammar} (h : g.Compiled) :
    g.NamesOrdered := by
  obtain ⟨language, offer, h⟩ := h
  obtain ⟨name, d, hname, -, hd⟩ := Offer.compile_ok h
  obtain ⟨aliases, rules, lexicon?, -, ha, -, -, rfl⟩ := LanguageDescription.compile_ok hd
  refine ⟨by simp, nodup_sortedSet _, sorted_sortedSet _, fun key hkey => ?_⟩
  rcases List.mem_cons.mp hkey with rfl | hkey
  · exact Value.ne_empty_of_nonEmpty? hname
  · have hkey : key ∈ aliases ∧ key ≠ name := by simpa using hkey
    exact ne_empty_of_textsOf ha hkey.1

/-- No name of a compiled grammar is listed twice. -/
theorem Grammar.NamesOrdered.nodup_keys {g : Grammar} (h : g.NamesOrdered) : g.keys.Nodup :=
  List.nodup_cons.mpr ⟨h.own, h.nodup⟩

/-! ## Tables -/

section Tables

variable {κ ν : Type} [DecidableEq κ]

/-- What stands under a new key is added at the end. -/
theorem putEntry_of_notMem {key : κ} (value : ν) :
    ∀ {table : List (κ × ν)}, key ∉ table.map Prod.fst →
      putEntry key value table = table ++ [(key, value)]
  | [], _ => rfl
  | (k, v) :: rest, h => by
      obtain ⟨hk, hrest⟩ : key ≠ k ∧ key ∉ rest.map Prod.fst := by
        rwa [List.map_cons, List.mem_cons, not_or] at h
      have hne : (k == key) = false := by simpa using Ne.symm hk
      rw [putEntry, hne, if_neg (by simp), putEntry_of_notMem value hrest, List.cons_append]

/-- New keys, all distinct, are added at the end in their order. -/
theorem foldl_putEntry_of_disjoint (value : ν) :
    ∀ {keys : List κ} {table : List (κ × ν)}, keys.Nodup →
      (∀ key ∈ keys, key ∉ table.map Prod.fst) →
      keys.foldl (fun t key => putEntry key value t) table = table ++ keys.map (·, value)
  | [], table, _, _ => by simp
  | key :: keys, table, hnd, hnew => by
      obtain ⟨hkey, hnd⟩ := List.nodup_cons.mp hnd
      -- the keys that are left are new to the longer table too, since none is listed twice
      have hnew' : ∀ k ∈ keys, k ∉ (table ++ [(key, value)]).map Prod.fst := by
        intro k hk
        have hne : k ≠ key := fun h => hkey (h ▸ hk)
        have := hnew k (List.mem_cons_of_mem _ hk)
        simp only [List.map_append, List.map_cons, List.map_nil, List.mem_append,
          List.mem_singleton, not_or]
        exact ⟨this, hne⟩
      rw [List.foldl_cons, putEntry_of_notMem value (hnew key (List.mem_cons_self ..)),
        foldl_putEntry_of_disjoint value hnd hnew', List.append_assoc]
      rfl

/-- Where no key stands twice, what stands under a key is what is found there. -/
theorem lookup_eq_some_iff_mem {key : κ} {value : ν} :
    ∀ {table : List (κ × ν)}, (table.map Prod.fst).Nodup →
      (table.lookup key = some value ↔ (key, value) ∈ table)
  | [], _ => by simp
  | (k, v) :: rest, hnd => by
      obtain ⟨hk, hnd⟩ := List.nodup_cons.mp hnd
      have ih : rest.lookup key = some value ↔ (key, value) ∈ rest :=
        lookup_eq_some_iff_mem hnd
      by_cases hkey : key = k
      · -- one more entry with this key, further on, would be a second one
        subst hkey
        have hrest : (key, value) ∉ rest := fun h => hk (List.mem_map.mpr ⟨_, h, rfl⟩)
        simp [hrest, eq_comm]
      · have hne : (key == k) = false := by simpa using hkey
        rw [List.lookup_cons, hne]
        simp [ih, hkey]

end Tables

/-- The table of the names of some grammars. -/
def nameTable (gs : List Grammar) : NameTable := gs.flatMap fun g => g.keys.map (·, g)

@[simp]
theorem mem_nameTable {gs : List Grammar} {key : String} {g : Grammar} :
    (key, g) ∈ nameTable gs ↔ g ∈ gs ∧ key ∈ g.keys := by
  simp only [nameTable, List.mem_flatMap, List.mem_map, Prod.mk.injEq]
  constructor
  · rintro ⟨_, hg, _, hkey, rfl, rfl⟩
    exact ⟨hg, hkey⟩
  · rintro ⟨hg, hkey⟩
    exact ⟨g, hg, key, hkey, rfl, rfl⟩

@[simp]
theorem map_fst_nameTable (gs : List Grammar) :
    (nameTable gs).map Prod.fst = gs.flatMap Grammar.keys := by
  simp [nameTable, List.map_flatMap, Function.comp_def]

theorem length_nameTable (gs : List Grammar) :
    (nameTable gs).length = (gs.map (·.keys.length)).sum := by
  simp [nameTable, List.length_flatMap]

theorem nameTable_append_singleton (gs : List Grammar) (g : Grammar) :
    nameTable (gs ++ [g]) = nameTable gs ++ g.keys.map (·, g) := by
  simp [nameTable]

/-! ## The invariant -/

/-- The table of a registry is the table of its grammars, with every name once. -/
structure Registry.Sound [CharacterNames] (r : Registry) : Prop where
  compiled : ∀ g ∈ r.grammars, g.Compiled
  table : r.byName = nameTable r.grammars
  distinct : (r.grammars.flatMap Grammar.keys).Nodup

namespace Registry

theorem Sound.empty [CharacterNames] : Sound {} where
  compiled := by simp
  table := rfl
  distinct := List.nodup_nil

/-- **A name finds the grammar that has it.** -/
theorem Sound.get?_eq_some [CharacterNames] {r : Registry} (h : r.Sound) {key : String}
    {g : Grammar} : r.get? key = some g ↔ g ∈ r.grammars ∧ key ∈ g.keys := by
  have hnd : (r.byName.map Prod.fst).Nodup := by
    rw [h.table, map_fst_nameTable]; exact h.distinct
  rw [get?, lookup_eq_some_iff_mem hnd, h.table, mem_nameTable]

/-- **A name that no grammar has finds nothing.** -/
theorem Sound.get?_eq_none [CharacterNames] {r : Registry} (h : r.Sound) {key : String} :
    r.get? key = none ↔ ∀ g ∈ r.grammars, key ∉ g.keys := by
  rw [Option.eq_none_iff_forall_ne_some]
  exact forall_congr' fun g => by rw [Ne, h.get?_eq_some, not_and]

/-- A registry has as many names as its grammars have together. -/
theorem Sound.size_eq [CharacterNames] {r : Registry} (h : r.Sound) :
    r.size = (r.grammars.map (·.keys.length)).sum := by
  rw [size, h.table, length_nameTable]

/-- No two grammars of a registry share a name. -/
theorem Sound.disjoint [CharacterNames] {r : Registry} (h : r.Sound) :
    r.grammars.Pairwise fun g g' => ∀ key ∈ g.keys, key ∉ g'.keys :=
  (List.nodup_flatMap.mp h.distinct).2.imp fun hd _ hk hk' => hd hk hk'

/-! ## Names that are taken -/

/-- Whether a name is that of one of some grammars. -/
def Taken (gs : List Grammar) (key : String) : Prop := ∃ owner ∈ gs, key ∈ owner.keys

/-- Whether a name is the first of a grammar's names that is taken: its own name, or, where that is
free, the least of the aliases that are taken. -/
def FirstTaken (gs : List Grammar) (g : Grammar) (key : String) : Prop :=
  key ∈ g.keys ∧ Taken gs key ∧
    (key = g.language ∨
      ¬ Taken gs g.language ∧ ∀ other ∈ g.aliases, Taken gs other → key ≤ other)

theorem Sound.exists_get? [CharacterNames] {r : Registry} (h : r.Sound) {key : String} :
    (∃ g, r.get? key = some g) ↔ Taken r.grammars key := by
  simp only [h.get?_eq_some, Taken]

/-- Nothing is refused whose names are all free. -/
theorem Sound.taken?_eq_none [CharacterNames] {r : Registry} (h : r.Sound) {g : Grammar} :
    r.taken? g = none ↔ ∀ key ∈ g.keys, ¬ Taken r.grammars key := by
  simp only [taken?, List.findSome?_eq_none_iff, Option.map_eq_none_iff, h.get?_eq_none, Taken,
    not_exists, not_and]

/-- In a list in order, what is found first is found in the least place where anything is. -/
theorem findSome?_eq_some_of_sorted {β : Type} {f : String → Option β} {b : β} :
    ∀ {xs : List String}, xs.Pairwise (· ≤ ·) →
      (xs.findSome? f = some b ↔ ∃ x ∈ xs, f x = some b ∧ ∀ y ∈ xs, (f y).isSome → x ≤ y)
  | [], _ => by simp
  | x :: xs, hs => by
      obtain ⟨hx, hs⟩ := List.pairwise_cons.mp hs
      rw [List.findSome?_cons]
      cases hfx : f x with
      | none =>
          rw [findSome?_eq_some_of_sorted hs]
          simp [hfx]
      | some c =>
          constructor
          · intro hc
            refine ⟨x, List.mem_cons_self .., hfx.trans hc, fun y hy _ => ?_⟩
            rcases List.mem_cons.mp hy with rfl | hy
            · exact String.le_refl _
            · exact hx y hy
          · rintro ⟨y, hy, hfy, hle⟩
            have hyx : y = x := by
              rcases List.mem_cons.mp hy with rfl | hy
              · rfl
              · exact String.le_antisymm (hle x (List.mem_cons_self ..) (by simp [hfx])) (hx y hy)
            rw [← hfy, hyx, hfx]

/-- **The first name that is taken**, and the language that has it. -/
theorem Sound.taken?_eq_some [CharacterNames] {r : Registry} (h : r.Sound) {g : Grammar}
    (hg : g.NamesOrdered) {key owner : String} :
    r.taken? g = some (key, owner) ↔
      FirstTaken r.grammars g key ∧ ∃ g' ∈ r.grammars, key ∈ g'.keys ∧ owner = g'.language := by
  have howner : ∀ other, (r.get? other).map (fun g' => (other, g'.language)) = some (key, owner) ↔
      other = key ∧ ∃ g' ∈ r.grammars, key ∈ g'.keys ∧ owner = g'.language := by
    intro other
    simp only [Option.map_eq_some_iff, h.get?_eq_some, Prod.mk.injEq]
    constructor
    · rintro ⟨g', ⟨hg', hkey⟩, rfl, rfl⟩
      exact ⟨rfl, g', hg', hkey, rfl⟩
    · rintro ⟨rfl, g', hg', hkey, rfl⟩
      exact ⟨g', ⟨hg', hkey⟩, rfl, rfl⟩
  have htaken : ∀ other, ((r.get? other).map fun g' => (other, g'.language)).isSome ↔
      Taken r.grammars other := by
    intro other
    rw [Option.isSome_map, Option.isSome_iff_exists, h.exists_get?]
  rw [taken?, Grammar.keys, List.findSome?_cons]
  cases hown : (r.get? g.language).map fun g' => (g.language, g'.language) with
  | some found =>
      -- the own name is looked at first, so where it is taken the aliases do not count
      have hlang := (htaken g.language).mp (by rw [hown]; rfl)
      constructor
      · intro hfound
        obtain ⟨rfl, howns⟩ := (howner g.language).mp (hown.trans hfound)
        exact ⟨⟨List.mem_cons_self .., hlang, Or.inl rfl⟩, howns⟩
      · rintro ⟨⟨-, -, hkey | ⟨hfree, -⟩⟩, howns⟩
        · exact hown.symm.trans ((howner _).mpr ⟨hkey.symm, howns⟩)
        · exact absurd hlang hfree
  | none =>
      -- the aliases are in order, so the first that is taken is the least
      have hlang : ¬ Taken r.grammars g.language := by
        rw [← htaken, hown]; simp
      simp only [findSome?_eq_some_of_sorted hg.sorted, howner, htaken]
      constructor
      · rintro ⟨other, hother, ⟨rfl, howns⟩, hleast⟩
        have htak : Taken r.grammars other := howns.imp fun _ h => ⟨h.1, h.2.1⟩
        exact ⟨⟨List.mem_cons_of_mem _ hother, htak, Or.inr ⟨hlang, hleast⟩⟩, howns⟩
      · rintro ⟨⟨hmem, htak, hkey | ⟨-, hleast⟩⟩, howns⟩
        · exact absurd (hkey ▸ htak) hlang
        · have hne : key ≠ g.language := fun h => hlang (h ▸ htak)
          exact ⟨key, (List.mem_cons.mp hmem).resolve_left hne, ⟨rfl, howns⟩, hleast⟩

/-! ## Registering -/

/-- **A grammar whose names are free keeps the invariant.** -/
theorem Sound.insert [CharacterNames] {r : Registry} (h : r.Sound) {g : Grammar} (hg : g.Compiled)
    (hfree : r.taken? g = none) : (r.insert g).Sound := by
  have hnew := h.taken?_eq_none.mp hfree
  have hnew' : ∀ key ∈ g.keys, key ∉ r.grammars.flatMap Grammar.keys := by
    intro key hkey hmem
    exact hnew key hkey (List.mem_flatMap.mp hmem)
  constructor
  · intro g' hg'
    rcases List.mem_append.mp hg' with hg' | hg'
    · exact h.compiled g' hg'
    · exact List.mem_singleton.mp hg' ▸ hg
  · change g.keys.foldl (fun table key => putEntry key g table) r.byName = _
    rw [foldl_putEntry_of_disjoint g hg.names.nodup_keys (by
      simpa only [h.table, map_fst_nameTable] using hnew'), h.table]
    exact (nameTable_append_singleton r.grammars g).symm
  · change ((r.grammars ++ [g]).flatMap Grammar.keys).Nodup
    rw [List.flatMap_append, List.flatMap_singleton, List.nodup_append']
    exact ⟨h.distinct, hg.names.nodup_keys, fun key hmem hkey => hnew' key hkey hmem⟩

/-- Registering fails on the first name that is taken, and adds the grammar when none is. -/
theorem register_eq (r : Registry) (g : Grammar) :
    r.register g = match r.taken? g with
      | some (key, owner) => .error (.taken g.language key owner)
      | none => .ok (r.insert g) := rfl

theorem Sound.register [CharacterNames] {r r' : Registry} (h : r.Sound) {g : Grammar}
    (hg : g.Compiled) (hr : r.register g = .ok r') : r'.Sound := by
  rw [register_eq] at hr
  split at hr
  · exact absurd hr (by simp)
  · rename_i hfree
    exact Except.ok.inj hr ▸ h.insert hg hfree

end Registry
end Lexlight
