import Lexlight.Proofs.Scan.Cover
import Mathlib.Data.List.Chain

/-!
# Plain text is gathered, and the first rule wins

What a scan does is said here without the loop. A path goes through the source by strides
(`Grammar.Path`): where some rule finds something, to the end of what the first such rule found, and
where none does, to the next character. The path is then divided into stretches (`Gathers`): a
stride with a category is a stretch by itself, and strides without one that follow each other are
one stretch together. Each stretch is one token.

The loop knows neither the path nor its stretches, only where the text begins that is in no token
yet. What it holds back is always one plain stretch, which has not come to its end, or nothing
(`Lead`).
-/

namespace Lexlight

/-- One step of a path. -/
structure Stride where
  start : Nat
  stop : Nat
  /-- The category of what was found, which skipped characters and unlisted lexemes lack. -/
  category? : Option Category
  deriving Repr, DecidableEq

namespace Grammar

/-- `hit` is what the first rule that finds something finds. -/
def FirstHit (g : Grammar) (src : Source) (pos : Nat) (hit : Hit) : Prop :=
  ∃ before r after, g.rules = before ++ r :: after ∧ r.hit? src pos = some hit ∧
    ∀ q ∈ before, q.hit? src pos = none

theorem hit?_eq_some_iff {g : Grammar} {src : Source} {pos : Nat} {hit : Hit} :
    g.hit? src pos = some hit ↔ g.FirstHit src pos hit :=
  List.findSome?_eq_some_iff

theorem hit?_eq_none_iff {g : Grammar} {src : Source} {pos : Nat} :
    g.hit? src pos = none ↔ ∀ r ∈ g.rules, r.hit? src pos = none :=
  List.findSome?_eq_none_iff

/-- The strides from a place to the end of the source. -/
inductive Path (g : Grammar) (src : Source) : Nat → List Stride → Prop where
  | done : Path g src src.size []
  | hit {pos : Nat} {hit : Hit} {rest : List Stride} : pos < src.size →
      g.FirstHit src pos hit → Path g src hit.stop rest →
      Path g src pos (⟨pos, hit.stop, hit.category?⟩ :: rest)
  | skip {pos : Nat} {rest : List Stride} : pos < src.size →
      (∀ r ∈ g.rules, r.hit? src pos = none) → Path g src (pos + 1) rest →
      Path g src pos (⟨pos, pos + 1, none⟩ :: rest)

variable {g : Grammar} {src : Source}

/-- From one place there is one path. -/
theorem Path.unique {pos : Nat} {p q : List Stride} (h : Path g src pos p)
    (h' : Path g src pos q) : p = q := by
  induction h generalizing q with
  | done =>
      cases h' with
      | done => rfl
      | hit hlt _ _ => omega
      | skip hlt _ _ => omega
  | hit hlt hf _ ih =>
      have hf := hit?_eq_some_iff.mpr hf
      cases h' with
      | done => omega
      | hit _ hf' hrest =>
          rw [hit?_eq_some_iff.mpr hf'] at hf
          obtain rfl := Option.some.inj hf
          rw [ih hrest]
      | skip _ hnone _ =>
          rw [hit?_eq_none_iff.mpr hnone] at hf
          exact absurd hf (by simp)
  | skip hlt hnone _ ih =>
      have hnone := hit?_eq_none_iff.mpr hnone
      cases h' with
      | done => omega
      | hit _ hf' _ =>
          rw [hit?_eq_some_iff.mpr hf'] at hnone
          exact absurd hnone (by simp)
      | skip _ _ hrest => rw [ih hrest]

end Grammar

/-! ## Stretches of a path -/

/-- Some strides of a path, one after the other. -/
structure Stretch where
  first : Stride
  more : List Stride

namespace Stretch

/-- The strides of a stretch, in their order. -/
def strides (s : Stretch) : List Stride := s.first :: s.more

/-- Where the last stride ends. -/
def stop (s : Stretch) : Nat := (s.more.getLastD s.first).stop

/-- No stride has a category. -/
def Plain (s : Stretch) : Prop := ∀ stride ∈ s.strides, stride.category? = none

/-- A stretch with one more stride at its end. -/
def snoc (s : Stretch) (t : Stride) : Stretch := ⟨s.first, s.more ++ [t]⟩

theorem strides_snoc (s : Stretch) (t : Stride) : (s.snoc t).strides = s.strides ++ [t] := rfl

theorem stop_snoc (s : Stretch) (t : Stride) : (s.snoc t).stop = t.stop := by
  rw [stop, snoc, List.getLastD_concat]

end Stretch

/-- The token of a stretch: from where it begins to where it ends, and plain text unless its first
stride has a category. -/
def Source.tokenOf (src : Source) (s : Stretch) : Token :=
  src.token (s.first.category?.getD .text) s.first.start s.stop

/-- How the strides of a path are gathered into stretches. -/
structure Gathers (path : List Stride) (stretches : List Stretch) : Prop where
  /-- The stretches are the path, in its order. -/
  whole : stretches.flatMap Stretch.strides = path
  /-- A stride with a category stands alone, and all others are in plain stretches. -/
  kinds : ∀ s ∈ stretches, (s.more = [] ∧ s.first.category?.isSome) ∨ s.Plain
  /-- No plain stretch could be longer. -/
  apart : stretches.IsChain fun a b => ¬(a.Plain ∧ b.Plain)

namespace Gathers

variable {path : List Stride} {stretches : List Stretch}

theorem nil : Gathers [] [] :=
  ⟨rfl, fun s hs => absurd hs (by simp), .nil⟩

theorem cons_plain {s : Stretch} (hs : s.Plain) (h : Gathers path stretches)
    (hnext : ∀ b ∈ stretches.head?, ¬b.Plain) :
    Gathers (s.strides ++ path) (s :: stretches) := by
  refine ⟨by rw [List.flatMap_cons, h.whole], fun t ht => ?_, ?_⟩
  · rcases List.mem_cons.mp ht with ht | ht
    · exact Or.inr (ht ▸ hs)
    · exact h.kinds t ht
  · exact List.isChain_cons.mpr ⟨fun b hb hplain => hnext b hb hplain.2, h.apart⟩

/-- A stride with a category is a stretch by itself, whatever comes after it. -/
theorem cons_found {stride : Stride} (hc : stride.category?.isSome)
    (h : Gathers path stretches) : Gathers (stride :: path) (⟨stride, []⟩ :: stretches) := by
  refine ⟨by rw [List.flatMap_cons, h.whole]; rfl, fun t ht => ?_, ?_⟩
  · rcases List.mem_cons.mp ht with ht | ht
    · exact Or.inl (ht ▸ ⟨rfl, hc⟩)
    · exact h.kinds t ht
  · refine List.isChain_cons.mpr ⟨fun b _ hplain => ?_, h.apart⟩
    rw [hplain.1 stride (List.mem_cons_self ..)] at hc
    exact absurd hc (by simp)

end Gathers

/-- What the loop holds back between two places: nothing, or a plain stretch from one to the
other. -/
inductive Lead : (pending pos : Nat) → List Stride → Prop where
  | nil {pos : Nat} : Lead pos pos []
  | stretch {s : Stretch} : s.Plain → s.first.start < s.stop → Lead s.first.start s.stop s.strides

/-- One more stride without a category makes what is held back longer. -/
theorem Lead.snoc {pending pos stop : Nat} {run : List Stride} (h : Lead pending pos run)
    (hlt : pos < stop) : Lead pending stop (run ++ [⟨pos, stop, none⟩]) := by
  cases h with
  | nil =>
      have hplain : Stretch.Plain ⟨⟨pending, stop, none⟩, []⟩ := fun t ht =>
        List.mem_singleton.mp ht ▸ rfl
      exact .stretch hplain hlt
  | @stretch s hplain hlt' =>
      have hstop := s.stop_snoc ⟨s.stop, stop, none⟩
      have hlonger : (s.snoc ⟨s.stop, stop, none⟩).Plain := by
        intro t ht
        rcases List.mem_append.mp (s.strides_snoc _ ▸ ht) with ht | ht
        · exact hplain t ht
        · obtain rfl := List.mem_singleton.mp ht
          rfl
      have hlead := Lead.stretch hlonger (hstop ▸ Nat.lt_trans hlt' hlt)
      rwa [hstop] at hlead

/-- What was held back becomes one token, or none, in front of what is found. -/
theorem Lead.gathers (src : Source) {pending pos : Nat} {run path : List Stride}
    {stretches : List Stretch} (hl : Lead pending pos run) (h : Gathers path stretches)
    (hnext : ∀ b ∈ stretches.head?, ¬b.Plain) :
    ∃ all, Gathers (run ++ path) all ∧
      all.map src.tokenOf = src.plainTokens pending pos ++ stretches.map src.tokenOf := by
  cases hl with
  | nil =>
      refine ⟨stretches, h, ?_⟩
      rw [Source.plainTokens, if_neg (by omega)]
      rfl
  | @stretch s hplain hlt =>
      refine ⟨s :: stretches, h.cons_plain hplain hnext, ?_⟩
      have hfirst : s.first.category? = none := hplain _ (List.mem_cons_self ..)
      rw [Source.plainTokens, if_pos hlt, List.map_cons, Source.tokenOf, hfirst]
      rfl

namespace Grammar

variable {g : Grammar} {src : Source}

/-- The loop goes along the path, and its tokens are the stretches of what it holds back and of the
path before it. -/
theorem Scans.gathers (hg : g.Advances) {pos pending : Nat} {ts : List Token}
    (h : Scans g src pos pending ts) (hp : pos ≤ src.size) :
    ∃ path, Path g src pos path ∧ ∀ run, Lead pending pos run →
      ∃ stretches, Gathers (run ++ path) stretches ∧ ts = stretches.map src.tokenOf := by
  induction h with
  | @done pos pending hend =>
      -- what is still held back is the last stretch
      obtain rfl : pos = src.size := by omega
      refine ⟨[], .done, fun run hrun => ?_⟩
      obtain ⟨all, hall, htok⟩ := hrun.gathers src Gathers.nil (by simp)
      exact ⟨all, hall, by rw [htok]; simp⟩
  | @skip pos pending ts hlt hf _ ih =>
      obtain ⟨path, hpath, hts⟩ := ih hlt
      refine ⟨_, .skip hlt (hit?_eq_none_iff.mp (hit?_of_probe hlt hf)) hpath, fun run hrun => ?_⟩
      -- the stride joins what is held back, which the rest of the path then begins with
      obtain ⟨stretches, hgather, heq⟩ := hts _ (hrun.snoc (Nat.lt_succ_self pos))
      exact ⟨stretches, by rwa [List.append_assoc] at hgather, heq⟩
  | @pass pos pending stop ts hlt hf _ ih =>
      have hit := hit?_of_probe hlt hf
      obtain ⟨hpast, hend⟩ := hg src pos _ hlt hit
      obtain ⟨path, hpath, hts⟩ := ih hend
      refine ⟨_, .hit hlt (hit?_eq_some_iff.mp hit) hpath, fun run hrun => ?_⟩
      obtain ⟨stretches, hgather, heq⟩ := hts _ (hrun.snoc hpast)
      exact ⟨stretches, by rwa [List.append_assoc] at hgather, heq⟩
  | @find pos pending stop c ts hlt hf _ ih =>
      have hit := hit?_of_probe hlt hf
      obtain ⟨_, hend⟩ := hg src pos _ hlt hit
      obtain ⟨path, hpath, hts⟩ := ih hend
      -- after a find nothing is held back, and before it all of what was is one stretch
      obtain ⟨stretches, hgather, rfl⟩ := hts [] .nil
      refine ⟨_, .hit hlt (hit?_eq_some_iff.mp hit) hpath, fun run hrun => ?_⟩
      have hfound : Gathers (⟨pos, stop, some c⟩ :: path)
          (⟨⟨pos, stop, some c⟩, []⟩ :: stretches) := hgather.cons_found rfl
      obtain ⟨all, hall, htok⟩ := hrun.gathers src hfound fun b hb hplain => by
        obtain rfl := Option.some.inj hb
        exact absurd (hplain _ (List.mem_cons_self ..)) (by simp)
      exact ⟨all, hall, htok.symm⟩

/-- A lexeme is never listed as plain text, so only a rule of that category finds plain text. -/
theorem text_rule_of_hit? {pos stop : Nat} (h : g.hit? src pos = some ⟨some .text, stop⟩) :
    ∃ r ∈ g.rules, r.category? = some .text := by
  obtain ⟨r, hr, hf⟩ := List.exists_of_findSome?_eq_some h
  cases r with
  | token c p relevance =>
      obtain ⟨_, _, hc⟩ := Rule.hit?_token.mp hf
      exact ⟨_, hr, hc.symm⟩
  | lexeme l =>
      obtain ⟨_, hc, _⟩ := Rule.hit?_lexeme.mp hf
      rcases Lexicon.classify_eq_some hc.symm with ⟨hc, _⟩ | ⟨hc, _⟩ <;>
        exact absurd hc (by simp)

/-- A stride of plain text that has a category comes from a rule of that category. -/
theorem Path.text_rule {pos : Nat} {path : List Stride} {s : Stride} (h : Path g src pos path)
    (hs : s ∈ path) (hc : s.category? = some .text) : ∃ r ∈ g.rules, r.category? = some .text := by
  induction h with
  | done => exact absurd hs (by simp)
  | @hit pos hit rest _ hf _ ih =>
      rcases List.mem_cons.mp hs with hs | hs
      · subst hs
        obtain ⟨category?, stop⟩ := hit
        dsimp only at hc
        subst hc
        exact text_rule_of_hit? (hit?_eq_some_iff.mpr hf)
      · exact ih hs
  | skip _ _ _ ih =>
      rcases List.mem_cons.mp hs with hs | hs
      · subst hs; exact absurd hc (by simp)
      · exact ih hs

/-- Without a rule of that category, plain text never stands next to plain text. -/
theorem Gathers.text_apart {path : List Stride} {stretches : List Stretch}
    (h : Gathers path stretches) (htext : ∀ s ∈ path, s.category? ≠ some .text) :
    (stretches.map src.tokenOf).IsChain fun a b => ¬(a.category = .text ∧ b.category = .text) := by
  have hplain : ∀ s ∈ stretches, (src.tokenOf s).category = .text → s.Plain := by
    intro s hs hcat
    -- a stretch of one stride with a category is no plain text, as that stride is on the path
    rcases h.kinds s hs with ⟨_, hsome⟩ | hplain
    · obtain ⟨c, hc⟩ := Option.isSome_iff_exists.mp hsome
      have hmem : s.first ∈ path := by
        rw [← h.whole]
        exact List.mem_flatMap.mpr ⟨s, hs, List.mem_cons_self ..⟩
      have hcat : s.first.category?.getD .text = .text := hcat
      rw [hc, Option.getD_some] at hcat
      exact absurd (hcat ▸ hc) (htext s.first hmem)
    · exact hplain
  rw [List.isChain_map]
  refine List.IsChain.imp_of_mem_imp ?_ h.apart
  intro a b ha hb hapart hcats
  exact hapart ⟨hplain a ha hcats.1, hplain b hb hcats.2⟩

/--
**The first rule wins, and plain text is gathered.**

Under a compiled grammar there is one path through a text, and the tokens of the text are the
stretches of that path, in order: each stride with a category, and each longest row of strides
without one. So no plain text stands next to plain text, unless some rule is one for plain text.
-/
theorem tokenize_gathers_path [CharacterNames] {language : Value} {offer : Offer} {g : Grammar}
    (h : offer.compile language = .ok g) (text : String) :
    ∃ path, (∀ p, Path g (.ofString text) 0 p ↔ p = path) ∧
      (∃ stretches, Gathers path stretches ∧
        g.tokenize text = stretches.map (Source.ofString text).tokenOf) ∧
      ((∀ r ∈ g.rules, r.category? ≠ some .text) →
        (g.tokenize text).IsChain fun a b => ¬(a.category = .text ∧ b.category = .text)) := by
  have hg := Offer.compile_advances h
  obtain ⟨path, hpath, htok⟩ := (scan_scans hg (.ofString text)).gathers hg (Nat.zero_le _)
  obtain ⟨stretches, hgather, heq⟩ := htok [] .nil
  have heq : g.tokenize text = stretches.map (Source.ofString text).tokenOf := heq
  refine ⟨path, fun p => ⟨fun hp => hp.unique hpath, fun hp => hp ▸ hpath⟩,
    ⟨stretches, hgather, heq⟩, fun hnone => ?_⟩
  rw [heq]
  refine Gathers.text_apart hgather fun s hs hc => ?_
  obtain ⟨r, hr, htext⟩ := hpath.text_rule hs hc
  exact hnone r hr htext

theorem tokenize_gathers_path_overlappingWords :
    ∃ g, overlappingWords.compile (.string "steps") = .ok g ∧
      ∃ path, (∀ p, Path g (.ofString "a +END.bb") 0 p ↔ p = path) ∧
        (∃ stretches, Gathers path stretches ∧
          g.tokenize "a +END.bb" = stretches.map (Source.ofString "a +END.bb").tokenOf) ∧
        (g.tokenize "a +END.bb").IsChain fun a b =>
          ¬(a.category = .text ∧ b.category = .text) := by
  obtain ⟨g, hg, hrules⟩ := overlappingWords_compiles
  obtain ⟨path, hpath, hstretches, hapart⟩ := tokenize_gathers_path hg "a +END.bb"
  exact ⟨g, hg, path, hpath, hstretches, hapart hrules⟩

end Grammar
end Lexlight
