import Lexlight.Detection
import Lexlight.Proofs.Scan.Loop

/-!
# Scanning one source after another

A scan of two sources put together comes to the second one in the middle of plain text, if the scan
of the first one ends in plain text. From there it goes on as the scan of the second does from its
start, as far as the rules find the same there (`Grammar.Seamless`). Only the plain text that is
still held back is different: it begins in the first source. So the tokens are those of the one and
of the other, moved, except that plain text at the seam is one token (`joinTokens`).
-/

namespace Lexlight

/-! ## Tokens after one another -/

/-- A find that lies so many places further on. -/
def Hit.shift (offset : Nat) (hit : Hit) : Hit := { hit with stop := offset + hit.stop }

/-- A token that lies so many places further on. -/
def Token.shift (offset : Nat) (t : Token) : Token :=
  { t with start := offset + t.start, stop := offset + t.stop }

/-- A token and the one right after it as one. -/
def Token.join (t u : Token) : Token :=
  { t with text := t.text ++ u.text, stop := u.stop }

/-- Tokens of one source and of another right after it: the last of the one and the first of the
other are one token if both are plain text. -/
def joinTokens : List Token → List Token → List Token
  | [], us => us
  | [t], [] => [t]
  | [t], u :: us =>
    if t.category = .text ∧ u.category = .text then t.join u :: us else t :: u :: us
  | t :: ts, us => t :: joinTokens ts us

theorem joinTokens_cons (t : Token) {ts : List Token} (hne : ts ≠ []) (us : List Token) :
    joinTokens (t :: ts) us = t :: joinTokens ts us := by
  obtain ⟨t', ts, rfl⟩ := List.exists_cons_of_ne_nil hne
  rfl

theorem joinTokens_append (before : List Token) {ts : List Token} (hne : ts ≠ [])
    (us : List Token) : joinTokens (before ++ ts) us = before ++ joinTokens ts us := by
  induction before with
  | nil => rfl
  | cons t before ih =>
      rw [List.cons_append, joinTokens_cons t (by simp [hne]), ih, List.cons_append]

/-- Where the second source begins with no plain text, nothing is joined. -/
theorem joinTokens_of_found {t : Token} {us : List Token}
    (h : ∀ u ∈ us.head?, u.category ≠ .text) : joinTokens [t] us = t :: us := by
  cases us with
  | nil => rfl
  | cons u us => exact if_neg fun hplain => h u rfl hplain.2

namespace Source

variable {a b : Source}

theorem slice_append_left {start stop : Nat} (h : stop ≤ a.size) :
    (a ++ b).slice start stop = a.slice start stop := by
  have hsame := @slice_congr a (a ++ b) 0 start stop fun i hi => by
    rw [Nat.zero_add, Array.getElem?_append_left (by omega)]
  rwa [Nat.zero_add, Nat.zero_add] at hsame

theorem slice_append_right (start stop : Nat) :
    (a ++ b).slice (a.size + start) (a.size + stop) = b.slice start stop :=
  slice_congr fun i _ => by
    rw [Array.getElem?_append_right (Nat.le_add_right _ _), Nat.add_sub_cancel_left]

/-- A text that goes over the seam is put together from both sides. -/
theorem slice_append_over {start stop : Nat} (h : start ≤ a.size) :
    (a ++ b).slice start (a.size + stop) = a.slice start a.size ++ b.slice 0 stop := by
  have hleft := (a ++ b).toList_slice start a.size
  have hright := (a ++ b).toList_slice (a.size + 0) (a.size + stop)
  rw [slice_append_left (Nat.le_refl _)] at hleft
  rw [slice_append_right] at hright
  rw [← String.toList_inj, String.toList_append, toList_slice, hleft, hright, Nat.add_zero]
  exact (span_append h (Nat.le_add_right _ _)).symm

theorem token_append_left (c : Category) {start stop : Nat} (h : stop ≤ a.size) :
    (a ++ b).token c start stop = a.token c start stop := by
  simp only [token, slice_append_left h]

theorem token_append_right (c : Category) (start stop : Nat) :
    (a ++ b).token c (a.size + start) (a.size + stop) = (b.token c start stop).shift a.size := by
  simp only [token, Token.shift, slice_append_right]

theorem plainTokens_append_left {start stop : Nat} (h : stop ≤ a.size) :
    (a ++ b).plainTokens start stop = a.plainTokens start stop := by
  simp only [plainTokens, token_append_left _ h]

theorem plainTokens_append_right (start stop : Nat) :
    (a ++ b).plainTokens (a.size + start) (a.size + stop) =
      (b.plainTokens start stop).map (Token.shift a.size) := by
  simp only [plainTokens, Nat.add_lt_add_iff_left, token_append_right]
  split <;> rfl

/-- Plain text that goes over the seam is what is held back on the one side, joined to what is held
back on the other. -/
theorem plainTokens_append_over {start stop : Nat} (h : start < a.size) (us : List Token)
    (hus : ∀ u ∈ us.head?, u.category ≠ .text) :
    joinTokens [a.token .text start a.size]
        ((b.plainTokens 0 stop ++ us).map (Token.shift a.size)) =
      (a ++ b).plainTokens start (a.size + stop) ++ us.map (Token.shift a.size) := by
  have hwhole : (a ++ b).plainTokens start (a.size + stop) =
      [(a ++ b).token .text start (a.size + stop)] := if_pos (by omega)
  rw [hwhole]
  by_cases hstop : 0 < stop
  · have hjoin : (a.token .text start a.size).join ((b.token .text 0 stop).shift a.size) =
        (a ++ b).token .text start (a.size + stop) := by
      simp only [token, Token.join, Token.shift, slice_append_over (Nat.le_of_lt h)]
    rw [plainTokens, if_pos hstop, List.map_append, List.map_singleton]
    exact (if_pos ⟨rfl, rfl⟩).trans (by rw [hjoin]; rfl)
  · obtain rfl : stop = 0 := by omega
    rw [plainTokens, if_neg hstop, List.nil_append, joinTokens_of_found, Nat.add_zero,
      token_append_left _ (Nat.le_refl _)]
    · rfl
    · intro u hu
      rw [List.head?_map] at hu
      obtain ⟨v, hv, rfl⟩ := Option.map_eq_some_iff.mp hu
      exact hus v hv

end Source

namespace Grammar

variable {g : Grammar} {a b src : Source}

theorem Scans.of_none {pos pending : Nat} {ts : List Token} (hlt : pos < src.size)
    (h : g.hit? src pos = none) (hrest : Scans g src (pos + 1) pending ts) :
    Scans g src pos pending ts :=
  .skip hlt (by rw [probe_eq (Nat.le_of_lt hlt), h]) hrest

theorem Scans.of_unlisted {pos pending stop : Nat} {ts : List Token} (hlt : pos < src.size)
    (h : g.hit? src pos = some ⟨none, stop⟩) (hrest : Scans g src stop pending ts) :
    Scans g src pos pending ts :=
  .pass hlt (by rw [probe_eq (Nat.le_of_lt hlt), h]) hrest

theorem Scans.of_found {pos pending stop : Nat} {c : Category} {ts : List Token}
    (hlt : pos < src.size) (h : g.hit? src pos = some ⟨some c, stop⟩)
    (hrest : Scans g src stop stop ts) :
    Scans g src pos pending (src.plainTokens pending pos ++ src.token c pos stop :: ts) :=
  .find hlt (by rw [probe_eq (Nat.le_of_lt hlt), h]) hrest

/-- Whether the rules of a grammar do not see the seam of two sources. What they find in the second
they find there wherever it stands, and what they find in the first that ends before the seam, or
that has no category, they find there whatever follows. Plain text is never found by a rule. -/
structure Seamless (g : Grammar) (a b : Source) : Prop where
  right : ∀ pos, pos < b.size →
    g.hit? (a ++ b) (a.size + pos) = (g.hit? b pos).map (Hit.shift a.size)
  left : ∀ pos, pos < a.size → (∀ hit, g.hit? a pos = some hit → hit.stop < a.size) →
    g.hit? (a ++ b) pos = g.hit? a pos
  unlisted : ∀ pos stop, g.hit? a pos = some ⟨none, stop⟩ → stop < a.size
  found : ∀ src pos stop c, g.hit? src pos = some ⟨some c, stop⟩ → c ≠ .text

namespace Seamless

section

variable {pos pending : Nat} {ts : List Token}

theorem lt_left (hlt : pos < a.size) : pos < (a ++ b).size := by
  rw [Array.size_append]
  omega

theorem lt_right (hlt : pos < b.size) : a.size + pos < (a ++ b).size := by
  rw [Array.size_append]
  omega

theorem end_right (hend : b.size ≤ pos) : (a ++ b).size ≤ a.size + pos := by
  rw [Array.size_append]
  omega

theorem hit?_right (h : g.Seamless a b) {found : Option Hit} (hlt : pos < b.size)
    (hf : g.probe b pos = some found) :
    g.hit? (a ++ b) (a.size + pos) = found.map (Hit.shift a.size) := by
  rw [h.right pos hlt, hit?_of_probe hlt hf]

theorem hit?_left (h : g.Seamless a b) {found : Option Hit} (hlt : pos < a.size)
    (hf : g.probe a pos = some found) (hstop : ∀ hit ∈ found, hit.stop < a.size) :
    g.hit? (a ++ b) pos = found := by
  have hit := hit?_of_probe hlt hf
  rw [h.left pos hlt fun hit' hhit => hstop hit' (hit.symm.trans hhit), hit]

/-- The second source is scanned as it is by itself, when no text is held back. -/
theorem scans_right (h : g.Seamless a b) (hscan : Scans g b pos pending ts) :
    Scans g (a ++ b) (a.size + pos) (a.size + pending) (ts.map (Token.shift a.size)) := by
  induction hscan with
  | done hend =>
      rw [← Source.plainTokens_append_right, ← Array.size_append]
      exact .done (end_right hend)
  | skip hlt hf _ ih => exact .of_none (lt_right hlt) (h.hit?_right hlt hf) ih
  | pass hlt hf _ ih => exact .of_unlisted (lt_right hlt) (h.hit?_right hlt hf) ih
  | find hlt hf _ ih =>
      rw [List.map_append, List.map_cons, ← Source.plainTokens_append_right,
        ← Source.token_append_right]
      exact .of_found (lt_right hlt) (h.hit?_right hlt hf) ih

/-- Up to the first find in the second source, the text held back goes over the seam. -/
theorem scans_seam (h : g.Seamless a b) {start : Nat} (hstart : start < a.size)
    (hscan : Scans g b pos pending ts) (hpending : pending = 0) :
    Scans g (a ++ b) (a.size + pos) start
      (joinTokens [a.token .text start a.size] (ts.map (Token.shift a.size))) := by
  induction hscan with
  | @done pos pending hend =>
      subst hpending
      have hplain := @Source.plainTokens_append_over a b start b.size hstart [] fun u hu => by
        cases hu
      rw [List.append_nil, List.map_nil, List.append_nil, ← Array.size_append] at hplain
      rw [hplain]
      exact .done (end_right hend)
  | skip hlt hf _ ih => exact .of_none (lt_right hlt) (h.hit?_right hlt hf) (ih hpending)
  | pass hlt hf _ ih => exact .of_unlisted (lt_right hlt) (h.hit?_right hlt hf) (ih hpending)
  | @find pos pending stop c ts hlt hf hrest _ =>
      subst hpending
      have hhead : ∀ u ∈ (b.token c pos stop :: ts).head?, u.category ≠ .text := by
        intro u hu
        obtain rfl := Option.some.inj hu
        exact h.found b pos stop c (hit?_of_probe hlt hf)
      rw [Source.plainTokens_append_over hstart _ hhead, List.map_cons,
        ← Source.token_append_right]
      -- from the find on, no text is held back any more
      exact .of_found (lt_right hlt) (h.hit?_right hlt hf) (h.scans_right hrest)

theorem eq_nil_of_scans_end (h : Scans g a a.size a.size ts) : ts = [] := by
  cases h with
  | done _ => exact if_neg (Nat.lt_irrefl _)
  | skip hlt => exact absurd hlt (Nat.lt_irrefl _)
  | pass hlt => exact absurd hlt (Nat.lt_irrefl _)
  | find hlt => exact absurd hlt (Nat.lt_irrefl _)

/-- The first source is scanned as it is by itself, and after it the second, if it ends in plain
text. -/
theorem scans_append (h : g.Seamless a b) (hg : g.Advances) {us : List Token}
    (hb : Scans g b 0 0 us) (ha : Scans g a pos pending ts) (hpos : pos ≤ a.size)
    (hlast : ∃ t, ts.getLast? = some t ∧ t.category = .text) :
    Scans g (a ++ b) pos pending (joinTokens ts (us.map (Token.shift a.size))) := by
  induction ha with
  | @done pos pending hend =>
      obtain ⟨t, hlast, _⟩ := hlast
      obtain rfl : pos = a.size := Nat.le_antisymm hpos hend
      obtain ⟨hpending, _⟩ := mem_plainTokens (List.mem_of_getLast? hlast)
      rw [Source.plainTokens, if_pos hpending]
      exact h.scans_seam hpending hb rfl
  | skip hlt hf _ ih =>
      refine .of_none (lt_left hlt) (h.hit?_left hlt hf fun hit hhit => ?_) (ih hlt hlast)
      cases hhit
  | @pass pos pending stop ts hlt hf _ ih =>
      have hstop := h.unlisted pos stop (hit?_of_probe hlt hf)
      have hleft := h.hit?_left hlt hf fun hit hhit => Option.some.inj hhit ▸ hstop
      exact .of_unlisted (lt_left hlt) hleft (ih (Nat.le_of_lt hstop) hlast)
  | @find pos pending stop c ts hlt hf hrest ih =>
      have hfound := hit?_of_probe hlt hf
      obtain ⟨_, hend⟩ := hg a pos _ hlt hfound
      have hend : stop ≤ a.size := hend
      obtain ⟨t, hlast, htext⟩ := hlast
      rw [List.getLast?_append, List.getLast?_cons, Option.some_or] at hlast
      obtain rfl := Option.some.inj hlast
      -- the last token is plain text, so it is not the one that was found here
      have hne : ts ≠ [] := by
        intro hnil
        subst hnil
        exact h.found a pos stop c hfound htext
      have hstop : stop < a.size := by
        refine Nat.lt_of_le_of_ne hend ?_
        intro hsize
        subst hsize
        exact hne (eq_nil_of_scans_end hrest)
      rw [List.getLast?_eq_some_getLast hne, Option.getD_some] at htext
      have hleft := h.hit?_left hlt hf fun hit hhit => Option.some.inj hhit ▸ hstop
      have hrest := ih hend ⟨_, List.getLast?_eq_some_getLast hne, htext⟩
      rw [joinTokens_append _ (List.cons_ne_nil _ _), joinTokens_cons _ hne,
        ← Source.plainTokens_append_left (Nat.le_of_lt hlt), ← Source.token_append_left c hend]
      exact .of_found (lt_left hlt) hleft hrest

end

end Seamless

/-- **Two texts in one scan**: the tokens are those of each text, joined at the seam. -/
theorem tokenize_append {s t : String} (h : g.Seamless (.ofString s) (.ofString t))
    (hg : g.Advances) (hlast : ∃ u, (g.tokenize s).getLast? = some u ∧ u.category = .text) :
    g.tokenize (s ++ t) =
      joinTokens (g.tokenize s) ((g.tokenize t).map (Token.shift s.toList.length)) := by
  have hsource : Source.ofString (s ++ t) = .ofString s ++ .ofString t := by
    simp [Source.ofString]
  have hscan := h.scans_append hg (scan_scans hg _) (scan_scans hg _) (Nat.zero_le _) hlast
  rw [Source.size_ofString] at hscan
  refine (scan_scans hg _).unique ?_
  rw [hsource]
  exact hscan

/-! ## Weights -/

/-- The weight of some tokens. -/
def weight (g : Grammar) (ts : List Token) : Int :=
  (ts.map fun t => g.relevanceOf t.category).foldr (· + ·) 0

theorem weight_nil : g.weight [] = 0 := rfl

theorem weight_cons (t : Token) (ts : List Token) :
    g.weight (t :: ts) = g.relevanceOf t.category + g.weight ts := rfl

theorem weight_shift (offset : Nat) (ts : List Token) :
    g.weight (ts.map (Token.shift offset)) = g.weight ts := by
  unfold weight
  rw [List.map_map]
  rfl

/-- To join tokens is to lose one of plain text at most, which weighs nothing. -/
theorem weight_joinTokens (htext : g.relevanceOf .text = 0) (ts us : List Token) :
    g.weight (joinTokens ts us) = g.weight ts + g.weight us := by
  induction ts with
  | nil => exact (Int.zero_add _).symm
  | cons t ts ih =>
      cases ts with
      | nil =>
          cases us with
          | nil => exact (Int.add_zero _).symm
          | cons u us =>
              unfold joinTokens
              split
              · next hplain =>
                  simp only [weight_cons, weight_nil, Token.join, hplain.1, hplain.2, htext]
                  omega
              · simp only [weight_cons, weight_nil]
                omega
      | cons t' ts =>
          rw [joinTokens_cons t (by simp), weight_cons, weight_cons, ih, Int.add_assoc]

theorem relevance_eq_weight (s : String) : g.relevance s = g.weight (g.tokenize s) := rfl

end Grammar
end Lexlight
