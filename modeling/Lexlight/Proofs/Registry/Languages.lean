import Lexlight.Proofs.Registry.Run

/-!
# Recorded languages

The table of recorded languages has a place for every name, given when the name is first recorded
and kept from then on (`Languages.names_recordAll`), and in it what was recorded last under the name
(`Languages.offer?_recordAll`).

A registry is made of the table by a fresh builder, to which the languages are offered one after
the other in the order of the table. It is the registry of the builder in the end, if the builder
accepts them all (`Languages.build_eq_ok`); if not, there is none, and the failure is that of the
first language refused (`Languages.build_eq_error`).
-/

namespace Lexlight

/-! ## The table -/

section Tables

variable {κ ν : Type} [DecidableEq κ]

/-- A key keeps its place in a table, and a new one comes last. -/
theorem map_fst_putEntry (key : κ) (value : ν) : ∀ table : List (κ × ν),
    (putEntry key value table).map Prod.fst =
      if key ∈ table.map Prod.fst then table.map Prod.fst else table.map Prod.fst ++ [key]
  | [] => rfl
  | (k, v) :: rest => by
      have ih := map_fst_putEntry key value rest
      by_cases hk : k = key
      · simp [putEntry, hk]
      · by_cases hmem : key ∈ rest.map Prod.fst
        · simp [putEntry, hk, ih, hmem]
        · simp [putEntry, hk, ih, hmem, Ne.symm hk]

/-- What is put under a key is found there, and nothing else changes. -/
theorem lookup_putEntry (key : κ) (value : ν) (other : κ) : ∀ table : List (κ × ν),
    (putEntry key value table).lookup other =
      if other = key then some value else table.lookup other
  | [] => by
      by_cases h : other = key
      · simp [putEntry, h]
      · simp [putEntry, List.lookup_cons, beq_false_of_ne h, h]
  | (k, v) :: rest => by
      have ih := lookup_putEntry key value other rest
      by_cases hk : k = key
      · subst hk
        by_cases h : other = k
        · simp [putEntry, h]
        · simp [putEntry, List.lookup_cons, beq_false_of_ne h, h]
      · by_cases h : other = k
        · simp [putEntry, h, hk]
        · simp [putEntry, List.lookup_cons, beq_false_of_ne h, hk, ih]

/-- Where nothing stands twice, nothing is left out. -/
theorem eraseDups_of_nodup : ∀ {keys : List κ}, keys.Nodup → keys.eraseDups = keys
  | [], _ => rfl
  | key :: keys, h => by
      obtain ⟨hkey, h⟩ := List.nodup_cons.mp h
      have hself : keys.filter (fun k => !k == key) = keys :=
        List.filter_eq_self.mpr fun k hk => by simpa using ne_of_mem_of_not_mem hk hkey
      rw [List.eraseDups_cons, hself, eraseDups_of_nodup h]

end Tables

namespace Languages

/-- The names in the table, in its order. -/
def names (l : Languages) : List Value := l.entries.map Prod.fst

/-- What is recorded under a name. -/
def offer? (l : Languages) (name : Value) : Option Offer := l.entries.lookup name

/-- Records offers under names, one after the other. -/
def recordAll (l : Languages) (recordings : List (Value × Offer)) : Languages :=
  recordings.foldl (fun l recording => l.record recording.1 recording.2) l

theorem names_record (l : Languages) (name : Value) (offer : Offer) :
    (l.record name offer).names = if name ∈ l.names then l.names else l.names ++ [name] :=
  map_fst_putEntry name offer l.entries

theorem offer?_record (l : Languages) (name : Value) (offer : Offer) (other : Value) :
    (l.record name offer).offer? other = if other = name then some offer else l.offer? other :=
  lookup_putEntry name offer other l.entries

theorem nodup_names_record {l : Languages} (h : l.names.Nodup) (name : Value) (offer : Offer) :
    (l.record name offer).names.Nodup := by
  rw [names_record]
  split
  · exact h
  · rename_i hnew
    exact List.nodup_append.mpr ⟨h, List.nodup_singleton name, by
      rintro a ha b hb rfl
      exact hnew (List.mem_singleton.mp hb ▸ ha)⟩

/-- **Names keep their places**: the table has them in the order in which they were first recorded,
however often that was done. -/
theorem names_recordAll : ∀ (recordings : List (Value × Offer)) {l : Languages}, l.names.Nodup →
    (l.recordAll recordings).names = (l.names ++ recordings.map Prod.fst).eraseDups
  | [], l, h => by simp [recordAll, eraseDups_of_nodup h]
  | (name, offer) :: rest, l, h => by
      have ih := names_recordAll rest (nodup_names_record h name offer)
      refine ih.trans ?_
      rw [names_record]
      split
      · -- a name that stands in the table adds nothing when it comes again
        rename_i hname
        simp [List.eraseDups_append, List.removeAll, hname]
      · simp

/-- **What was recorded last under a name** stands there. -/
theorem offer?_recordAll (name : Value) : ∀ (recordings : List (Value × Offer)) (l : Languages),
    (l.recordAll recordings).offer? name = (recordings.reverse.lookup name).or (l.offer? name)
  | [], _ => rfl
  | (other, offer) :: rest, l => by
      refine (offer?_recordAll name rest (l.record other offer)).trans ?_
      rw [offer?_record, List.reverse_cons, List.lookup_append, Option.or_assoc]
      by_cases h : name = other
      · simp [h]
      · simp [List.lookup_cons, beq_false_of_ne h, h]

end Languages

/-! ## Registering all of them -/

/-- Offering a language to a builder is registering it with the registry that it stands for. -/
theorem Call.run_registerLanguage [CharacterNames] (name : Value) (offer : Offer) (m : Memory) :
    (registerLanguage name offer).run m = match m.registry.registerLanguage name offer with
      | .ok r => (.ok (), m.put r)
      | .error f => (.error f, m) := by
  have hrun : (registerLanguage name offer).run m = _ := Building.addLanguage_run name offer m
  rw [hrun, Registry.registerLanguage]
  cases offer.compile name with
  | error f => rfl
  | ok g => exact Building.add_run g m

/-- Whether a builder accepts all of some calls, one after the other. -/
def Memory.Accepts [CharacterNames] (m : Memory) : List Call → Prop
  | [] => True
  | c :: calls => (c.run m).1 = .ok () ∧ (c.run m).2.Accepts calls

namespace Languages

open Memory (fresh)

/-- The call that registers a language. -/
def callOf (entry : Value × Offer) : Call := .registerLanguage entry.1 entry.2

/-- The calls that register some languages. -/
def callsOf (entries : List (Value × Offer)) : List Call := entries.map callOf

/-- The calls that register the languages of the table, in its order. -/
def calls (l : Languages) : List Call := callsOf l.entries

/-- Registers languages with a registry. -/
def registerAll [CharacterNames] (r : Registry) (entries : List (Value × Offer)) :
    Except Failure Registry :=
  entries.foldlM (fun r entry => r.registerLanguage entry.1 entry.2) r

theorem registerAll_cons [CharacterNames] (r : Registry) (entry : Value × Offer)
    (entries : List (Value × Offer)) :
    registerAll r (entry :: entries) = match r.registerLanguage entry.1 entry.2 with
      | .ok r' => registerAll r' entries
      | .error f => .error f := by
  rw [registerAll, List.foldlM_cons]
  cases r.registerLanguage entry.1 entry.2 <;> rfl

theorem registerAll_eq_ok [CharacterNames] :
    ∀ (entries : List (Value × Offer)) {m : Memory}, m.Isolated →
    ∀ r, registerAll m.registry entries = .ok r ↔
      m.Accepts (callsOf entries) ∧ (m.after (callsOf entries)).registry = r
  | [], m, _, r => by
      change Except.ok m.registry = Except.ok r ↔ True ∧ m.registry = r
      simp
  | entry :: entries, m, hm, r => by
      have hrun := Call.run_registerLanguage entry.1 entry.2 m
      simp only [registerAll_cons, callsOf, List.map_cons, Memory.Accepts, Memory.after, callOf]
      rw [hrun]
      cases m.registry.registerLanguage entry.1 entry.2 with
      | error f => simp
      | ok r' =>
          have ih := registerAll_eq_ok entries (Memory.isolated_put hm r') r
          rw [Memory.registry_put hm] at ih
          simpa [callsOf] using ih

/-- An item of a list with what is before it is the first one with nothing before it, or one of the
others. -/
theorem exists_eq_append_cons {α : Type} {P : List α → α → Prop} {x : α} {xs : List α} :
    (∃ before y later, x :: xs = before ++ y :: later ∧ P before y) ↔
      P [] x ∨ ∃ before y later, xs = before ++ y :: later ∧ P (x :: before) y := by
  constructor
  · rintro ⟨before, y, later, heq, hp⟩
    cases before with
    | nil => exact Or.inl ((List.cons.inj heq).1 ▸ hp)
    | cons z before =>
        obtain ⟨rfl, hxs⟩ := List.cons.inj heq
        exact Or.inr ⟨before, y, later, hxs, hp⟩
  · rintro (hp | ⟨before, y, later, rfl, hp⟩)
    · exact ⟨[], x, xs, rfl, hp⟩
    · exact ⟨x :: before, y, later, rfl, hp⟩

theorem registerAll_eq_error [CharacterNames] :
    ∀ (entries : List (Value × Offer)) {m : Memory}, m.Isolated →
    ∀ f, registerAll m.registry entries = .error f ↔
      ∃ before entry later, entries = before ++ entry :: later ∧ m.Accepts (callsOf before) ∧
        ((callOf entry).run (m.after (callsOf before))).1 = .error f
  | [], m, _, f => by
      change Except.ok m.registry = Except.error f ↔ _
      simp
  | entry :: entries, m, hm, f => by
      have hrun := Call.run_registerLanguage entry.1 entry.2 m
      -- the first language is refused, or it is accepted and one of the others is refused
      rw [registerAll_cons, exists_eq_append_cons]
      simp only [callsOf, List.map_cons, List.map_nil, Memory.Accepts, Memory.after, callOf]
      rw [hrun]
      cases m.registry.registerLanguage entry.1 entry.2 with
      | error f' => simp
      | ok r' =>
          have ih := registerAll_eq_error entries (Memory.isolated_put hm r') f
          rw [Memory.registry_put hm] at ih
          simpa [callsOf, callOf] using ih

/-- **A registry is made of the languages** if a fresh builder accepts them all in the order of the
table, and is what the builder stands for then. -/
theorem build_eq_ok [CharacterNames] (l : Languages) (r : Registry) :
    l.build = .ok r ↔ fresh.Accepts l.calls ∧ (fresh.after l.calls).registry = r :=
  registerAll_eq_ok l.entries Memory.isolated_fresh r

/-- **No registry is made of the languages** if a fresh builder refuses one of them, having accepted
those before it in the table, and the failure is what it is refused for. -/
theorem build_eq_error [CharacterNames] (l : Languages) (f : Failure) :
    l.build = .error f ↔
      ∃ before entry later, l.entries = before ++ entry :: later ∧ fresh.Accepts (callsOf before) ∧
        ((callOf entry).run (fresh.after (callsOf before))).1 = .error f :=
  registerAll_eq_error l.entries Memory.isolated_fresh f

end Languages
end Lexlight
