import Lexlight.Scan.Basic
import Lexlight.Proofs.Scan.Hit

/-!
# The loop behind a scan

`Grammar.scanFrom` counts its steps, and a scan grants it as many as the source has characters.
Nothing in the definition says that these are enough: a find that ended where it began would keep
the scan in its place until the count ran out. So the loop is written down once more, without a
count. `Scans` relates a place in the loop to the tokens that are still given from there. Its rules
are asked by `probe`, which may fail to answer, and from a failed answer there is no way on, so a
derivation is a loop that came to its end with every answer in hand.

What carries the loop forward is that every find ends past its start and within the source
(`Grammar.Advances`). Under that the count is always enough and no answer fails
(`scanFrom_scans`), and what every token of a scan has to satisfy can be shown one turn of the loop
at a time (`Scans.forall_tokens`).
-/

namespace Lexlight

namespace Grammar

/-- What the first of the rules that finds something finds, each rule being asked in turn; nothing
at all when a rule that is asked has no answer. -/
def probeRules (src : Source) (asked : Int) : List Rule → Option (Option Hit)
  | [] => some none
  | r :: rest =>
    match r.probe src asked with
    | none => none
    | some (some hit) => some (some hit)
    | some none => probeRules src asked rest

/-- What the rules of a grammar answer at any place asked for. -/
def probe (g : Grammar) (src : Source) (asked : Int) : Option (Option Hit) :=
  probeRules src asked g.rules

theorem probe_eq {src : Source} {pos : Nat} (hp : pos ≤ src.size) (g : Grammar) :
    g.probe src pos = some (g.hit? src pos) := by
  unfold probe hit?
  induction g.rules with
  | nil => rfl
  | cons r rest ih =>
      rw [probeRules, Rule.probe_eq hp, List.findSome?_cons]
      cases r.hit? src pos with
      | none => exact ih
      | some hit => rfl

/-- The loop, from a place where it stands and where the text begins that is in no token yet, comes
to its end and gives these tokens. -/
inductive Scans (g : Grammar) (src : Source) : (pos pending : Nat) → List Token → Prop where
  | done {pos pending : Nat} : src.size ≤ pos →
      Scans g src pos pending (src.plainTokens pending src.size)
  | skip {pos pending : Nat} {ts : List Token} : pos < src.size →
      g.probe src pos = some none → Scans g src (pos + 1) pending ts → Scans g src pos pending ts
  | pass {pos pending stop : Nat} {ts : List Token} : pos < src.size →
      g.probe src pos = some (some ⟨none, stop⟩) → Scans g src stop pending ts →
      Scans g src pos pending ts
  | find {pos pending stop : Nat} {c : Category} {ts : List Token} : pos < src.size →
      g.probe src pos = some (some ⟨some c, stop⟩) → Scans g src stop stop ts →
      Scans g src pos pending (src.plainTokens pending pos ++ src.token c pos stop :: ts)

/-- Every find of the grammar ends past its start and within the source. -/
def Advances (g : Grammar) : Prop :=
  ∀ (src : Source) (pos : Nat) (hit : Hit), pos < src.size → g.hit? src pos = some hit →
    pos < hit.stop ∧ hit.stop ≤ src.size

theorem advances_of_rules {g : Grammar} (h : ∀ r ∈ g.rules, r.Advances) : g.Advances := by
  intro src pos hit hp hf
  obtain ⟨r, hr, hfound⟩ := List.exists_of_findSome?_eq_some hf
  exact h r hr src pos hit hp hfound

variable {g : Grammar} {src : Source}

/-- What the loop has been told is what the rules find. -/
theorem hit?_of_probe {pos : Nat} {found : Option Hit} (hp : pos < src.size)
    (h : g.probe src pos = some found) : g.hit? src pos = found := by
  rw [probe_eq (Nat.le_of_lt hp)] at h
  exact Option.some.inj h

/-- The loop leaves no choice: from one place it gives one list of tokens. -/
theorem Scans.unique {pos pending : Nat} {ts us : List Token} (h : Scans g src pos pending ts)
    (h' : Scans g src pos pending us) : ts = us := by
  induction h generalizing us with
  | done hp =>
      cases h' with
      | done _ => rfl
      | skip hlt _ _ => omega
      | pass hlt _ _ => omega
      | find hlt _ _ => omega
  | skip hlt hf _ ih =>
      cases h' with
      | done hp => omega
      | skip _ _ hrest => exact ih hrest
      | pass _ hf' _ => rw [hf] at hf'; simp at hf'
      | find _ hf' _ => rw [hf] at hf'; simp at hf'
  | pass hlt hf _ ih =>
      cases h' with
      | done hp => omega
      | skip _ hf' _ => rw [hf] at hf'; simp at hf'
      | pass _ hf' hrest =>
          rw [hf] at hf'
          simp only [Option.some.injEq, Hit.mk.injEq, true_and] at hf'
          subst hf'
          exact ih hrest
      | find _ hf' _ => rw [hf] at hf'; simp at hf'
  | find hlt hf _ ih =>
      cases h' with
      | done hp => omega
      | skip _ hf' _ => rw [hf] at hf'; simp at hf'
      | pass _ hf' _ => rw [hf] at hf'; simp at hf'
      | find _ hf' hrest =>
          rw [hf] at hf'
          simp only [Option.some.injEq, Hit.mk.injEq] at hf'
          obtain ⟨rfl, rfl⟩ := hf'
          rw [ih hrest]

/-- **The count is enough.** As many steps as there are characters left bring the loop to its end,
and no rule fails on the way. -/
theorem scanFrom_scans (hg : g.Advances) :
    ∀ (steps pos pending : Nat), pos ≤ src.size → src.size - pos ≤ steps →
      Scans g src pos pending (g.scanFrom src steps pos pending) := by
  intro steps
  induction steps with
  | zero =>
      intro pos pending hp hs
      exact .done (by omega)
  | succ steps ih =>
      intro pos pending hp hs
      rw [scanFrom]
      by_cases hlt : pos < src.size
      · rw [if_pos hlt]
        have hprobe := probe_eq hp g
        cases hf : g.hit? src pos with
        | none =>
            rw [hf] at hprobe
            exact .skip hlt hprobe (ih (pos + 1) pending (by omega) (by omega))
        | some hit =>
            -- a find takes at least one character, so one step less is enough after it
            obtain ⟨hpast, hend⟩ := hg src pos hit hlt hf
            rw [hf] at hprobe
            obtain ⟨category?, stop⟩ := hit
            dsimp only at hpast hend
            cases category? with
            | none => exact .pass hlt hprobe (ih stop pending hend (by omega))
            | some c => exact .find hlt hprobe (ih stop stop hend (by omega))
      · rw [if_neg hlt]
        exact .done (by omega)

/-- A scan is the loop from the start of the source. -/
theorem scan_scans (hg : g.Advances) (src : Source) : Scans g src 0 0 (g.scan src) :=
  scanFrom_scans hg src.size 0 0 (Nat.zero_le _) (Nat.le_refl _)

/-- What plain text between two places is, if it is anything. -/
theorem mem_plainTokens {t : Token} {start stop : Nat} (h : t ∈ src.plainTokens start stop) :
    start < stop ∧ t = src.token .text start stop := by
  unfold Source.plainTokens at h
  split at h
  · rename_i hlt
    exact ⟨hlt, List.mem_singleton.mp h⟩
  · exact absurd h (by simp)

/--
**A law of every token, one turn at a time.**

A token that a rule found has to satisfy it, and so has plain text, of which it may be assumed that
each of its places satisfies `clear`. A place is clear when no rule finds anything there, or when
it lies in a lexeme that is not listed.
-/
theorem Scans.forall_tokens {law : Token → Prop} {clear : Nat → Prop} (hg : g.Advances)
    (hskip : ∀ pos, pos < src.size → g.hit? src pos = none → clear pos)
    (hpass : ∀ pos stop, pos < src.size → g.hit? src pos = some ⟨none, stop⟩ →
      ∀ i, pos ≤ i → i < stop → clear i)
    (hfind : ∀ pos stop c, pos < src.size → g.hit? src pos = some ⟨some c, stop⟩ →
      law (src.token c pos stop))
    (hplain : ∀ start stop, start < stop → stop ≤ src.size →
      (∀ i, start ≤ i → i < stop → clear i) → law (src.token .text start stop))
    {pos pending : Nat} {ts : List Token} (h : Scans g src pos pending ts) (hle : pending ≤ pos)
    (hp : pos ≤ src.size) (hclear : ∀ i, pending ≤ i → i < pos → clear i) : ∀ t ∈ ts, law t := by
  induction h with
  | done hend =>
      intro t ht
      obtain ⟨hlt, rfl⟩ := mem_plainTokens ht
      exact hplain _ _ hlt (Nat.le_refl _) fun i h1 h2 => hclear i h1 (by omega)
  | @skip pos pending ts hlt hf _ ih =>
      refine ih (by omega) (by omega) fun i h1 h2 => ?_
      -- the text that is held back grows by the place that was skipped
      rcases Nat.lt_or_eq_of_le (Nat.le_of_lt_succ h2) with hi | hi
      · exact hclear i h1 hi
      · subst hi; exact hskip i hlt (hit?_of_probe hlt hf)
  | @pass pos pending stop ts hlt hf _ ih =>
      have hit := hit?_of_probe hlt hf
      obtain ⟨hpast, hend⟩ := hg src pos _ hlt hit
      dsimp only at hpast hend
      -- and here by the places of the lexeme
      refine ih (by omega) hend fun i h1 h2 => ?_
      rcases Nat.lt_or_ge i pos with hi | hi
      · exact hclear i h1 hi
      · exact hpass pos stop hlt hit i hi h2
  | @find pos pending stop c ts hlt hf _ ih =>
      have hit := hit?_of_probe hlt hf
      obtain ⟨_, hend⟩ := hg src pos _ hlt hit
      intro t ht
      rcases List.mem_append.mp ht with ht | ht
      · obtain ⟨hlt', rfl⟩ := mem_plainTokens ht
        exact hplain _ _ hlt' (Nat.le_of_lt hlt) hclear
      · rcases List.mem_cons.mp ht with ht | ht
        · subst ht; exact hfind pos stop c hlt hit
        · exact ih (Nat.le_refl _) hend (fun i h1 h2 => absurd h2 (by omega)) t ht

/-- The places where the loop stands, one turn after the other. -/
inductive Reaches (g : Grammar) (src : Source) : Nat → Prop where
  | start : Reaches g src 0
  | skip {pos : Nat} : Reaches g src pos → pos < src.size → g.hit? src pos = none →
      Reaches g src (pos + 1)
  | hit {pos : Nat} {hit : Hit} : Reaches g src pos → pos < src.size →
      g.hit? src pos = some hit → Reaches g src hit.stop

/-- A token that is not plain text was found where the loop stood. -/
theorem Scans.exists_hit {pos pending : Nat} {ts : List Token} (h : Scans g src pos pending ts)
    (hpos : g.Reaches src pos) {t : Token} (ht : t ∈ ts) (hne : t.category ≠ .text) :
    ∃ pos stop c, g.Reaches src pos ∧ pos < src.size ∧ g.hit? src pos = some ⟨some c, stop⟩ ∧
      t = src.token c pos stop := by
  induction h with
  | done _ =>
      obtain ⟨_, rfl⟩ := mem_plainTokens ht
      exact absurd rfl hne
  | skip hlt hf _ ih => exact ih (.skip hpos hlt (hit?_of_probe hlt hf)) ht
  | pass hlt hf _ ih => exact ih (.hit hpos hlt (hit?_of_probe hlt hf)) ht
  | @find pos pending stop c ts hlt hf _ ih =>
      have hit := hit?_of_probe hlt hf
      rcases List.mem_append.mp ht with ht | ht
      · obtain ⟨_, rfl⟩ := mem_plainTokens ht
        exact absurd rfl hne
      · rcases List.mem_cons.mp ht with rfl | ht
        · exact ⟨pos, stop, c, hpos, hlt, hit, rfl⟩
        · exact ih (.hit hpos hlt hit) ht

/-- Where the loop stands, what it still gives is part of what it gives from the start. -/
theorem Scans.from_reached {ts : List Token} (h : Scans g src 0 0 ts) {pos : Nat}
    (hpos : g.Reaches src pos) :
    ∃ pending us, Scans g src pos pending us ∧ ∀ t ∈ us, t ∈ ts := by
  induction hpos with
  | start => exact ⟨0, ts, h, fun _ ht => ht⟩
  | @skip pos _ hlt hnone ih =>
      obtain ⟨pending, us, hus, hsub⟩ := ih
      cases hus with
      | done hend => omega
      | skip _ _ hrest => exact ⟨pending, us, hrest, hsub⟩
      | pass _ hf _ =>
          rw [hit?_of_probe hlt hf] at hnone
          cases hnone
      | find _ hf _ =>
          rw [hit?_of_probe hlt hf] at hnone
          cases hnone
  | @hit pos hit _ hlt hfound ih =>
      obtain ⟨pending, us, hus, hsub⟩ := ih
      cases hus with
      | done hend => omega
      | skip _ hf _ =>
          rw [hit?_of_probe hlt hf] at hfound
          cases hfound
      | pass _ hf hrest =>
          rw [hit?_of_probe hlt hf] at hfound
          cases hfound
          exact ⟨pending, us, hrest, hsub⟩
      | find _ hf hrest =>
          rw [hit?_of_probe hlt hf] at hfound
          cases hfound
          refine ⟨_, _, hrest, fun t ht => hsub t ?_⟩
          exact List.mem_append_right _ (List.mem_cons_of_mem _ ht)

/-- What a rule finds where the loop stands becomes a token, if it has a category. -/
theorem Scans.mem_of_hit {ts : List Token} (h : Scans g src 0 0 ts) {pos stop : Nat} {c : Category}
    (hpos : g.Reaches src pos) (hlt : pos < src.size)
    (hit : g.hit? src pos = some ⟨some c, stop⟩) : src.token c pos stop ∈ ts := by
  obtain ⟨pending, us, hus, hsub⟩ := h.from_reached hpos
  cases hus with
  | done hend => omega
  | skip _ hf _ =>
      rw [hit?_of_probe hlt hf] at hit
      cases hit
  | pass _ hf _ =>
      rw [hit?_of_probe hlt hf] at hit
      cases hit
  | find _ hf _ =>
      rw [hit?_of_probe hlt hf] at hit
      cases hit
      exact hsub _ (List.mem_append_right _ (List.mem_cons_self ..))

/-- A token that is not plain text was found by a rule. -/
theorem exists_hit_of_mem (hg : g.Advances) {t : Token} (ht : t ∈ g.scan src)
    (hne : t.category ≠ .text) :
    ∃ pos stop c, pos < src.size ∧ g.hit? src pos = some ⟨some c, stop⟩ ∧
      t = src.token c pos stop := by
  obtain ⟨pos, stop, c, _, hfound⟩ := (scan_scans hg src).exists_hit .start ht hne
  exact ⟨pos, stop, c, hfound⟩

end Grammar
end Lexlight
