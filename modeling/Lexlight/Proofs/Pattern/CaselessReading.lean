import Lexlight.Proofs.Pattern.Caseless
import Lexlight.Proofs.Pattern.Leads

/-!
# Reading without regard to case

A pattern is read under flags, and one of them says that case is not looked at. Only a group that
turns it off, such as `(?-i:a)`, brings an exact comparison in, and such a group is spelled out in
the text of the pattern (`SpellsCaseOff`). So every other text is read as a pattern that compares
nothing exactly (`Pattern.caseless_of_read`).

The proof follows reading: flags that ignore case are handed on to all that is read, and where flags
are turned off the row of letters is still in view, right before what is left of the text.
-/

namespace Lexlight

/-- Whether a text has a group in it, as it would be written, that no longer ignores case. -/
def SpellsCaseOff (text : List Char) : Prop :=
  ∃ on off : List Char, (∀ c ∈ on ++ off, c ∈ Flags.letters) ∧ 'i' ∈ off ∧
    ['(', '?'] ++ on ++ ['-'] ++ off ++ [':'] <:+: text

theorem SpellsCaseOff.colon_mem {text : List Char} (h : SpellsCaseOff text) : ':' ∈ text := by
  obtain ⟨on, off, _, _, hinfix⟩ := h
  exact hinfix.subset (List.mem_append_right _ (List.mem_singleton.mpr rfl))

example : SpellsCaseOff "a(?m-si:b)".toList :=
  ⟨['m'], ['s', 'i'], by simp [Flags.letters], by simp, ['a'], "b)".toList, rfl⟩

/-! ## Flags -/

namespace Flags

variable {f : Flags}

theorem fold_ne_exact (h : f.ignoreCase = true) : f.fold ≠ .exact := by
  unfold fold
  split
  · simp_all
  · split <;> decide

theorem ignoreCase_set (c : Char) (on : Bool) :
    (f.set c on).ignoreCase = if c = 'i' then on else f.ignoreCase := by
  unfold set
  split <;> simp_all

theorem ignoreCase_turnOn (letters : List Char) (h : f.ignoreCase = true) :
    (f.turnOn letters).ignoreCase = true := by
  induction letters generalizing f with
  | nil => exact h
  | cons c letters ih =>
      refine ih ?_
      rw [ignoreCase_set, h, ite_self]

theorem ignoreCase_turnOff {letters : List Char} (hi : 'i' ∉ letters) (h : f.ignoreCase = true) :
    (letters.foldl (·.set · false) f).ignoreCase = true := by
  induction letters generalizing f with
  | nil => exact h
  | cons c letters ih =>
      obtain ⟨hc, hletters⟩ := not_or.mp (mt List.mem_cons.mpr hi)
      refine ih hletters ?_
      rw [ignoreCase_set, if_neg (Ne.symm hc), h]

theorem ignoreCase_forPart (on : List Char) {off : List Char} (hi : 'i' ∉ off)
    (h : f.ignoreCase = true) : (f.forPart on off).ignoreCase = true := by
  refine ignoreCase_turnOff hi (ignoreCase_turnOn on ?_)
  split <;> exact h

end Flags

namespace Reading

open Lexlight.Part

variable {text : List Char} {flags : Flags}

/-! ## Escapes -/

theorem moves_hexEscape (c : Char) (n : Nat) : Moves text (hexEscape c n) := by
  refine (moves_takeUpTo _ _).bind fun digits _ => ?_
  split
  · exact Keeps.pure trivial
  · exact Keeps.fail _ _

theorem moves_codeEscape [CharacterNames] (c : Char) : Moves text (codeEscape c) := by
  unfold codeEscape
  split
  · exact moves_hexEscape _ _
  · exact moves_hexEscape _ _
  · refine (moves_takeUpTo _ _).bind fun digits _ => ?_
    split
    · exact Keeps.fail _ _
    · split
      · exact Keeps.fail _ _
      · exact Keeps.pure trivial
  · refine (moves_accept _).bind fun brace _ => ?_
    split
    · exact Keeps.fail _ _
    · refine (moves_nameUntil _ _).bind fun name _ => ?_
      split
      · exact Keeps.pure trivial
      · exact Keeps.fail _ _
  · split
    · exact Keeps.fail _ _
    · exact Keeps.pure trivial

theorem moves_octalEscape (digits : List Char) : Moves text (octalEscape digits) := by
  unfold octalEscape
  split
  · exact Keeps.fail _ _
  · exact Keeps.pure trivial

theorem moves_setEscape [CharacterNames] (flags : Flags) (c : Char) :
    Moves text (setEscape flags c) := by
  unfold setEscape
  split
  · exact Keeps.pure trivial
  · exact Keeps.pure trivial
  · split
    · exact Keeps.pure trivial
    · split
      · exact (moves_takeUpTo _ _).bind fun _ _ =>
          (moves_octalEscape _).bind fun _ _ => Keeps.pure trivial
      · split
        · exact Keeps.fail _ _
        · exact (moves_codeEscape c).bind fun _ _ => Keeps.pure trivial

/-- Whether a part compares nothing exactly. -/
abbrev CaselessPart (p : Part) : Prop := p.pattern.caseless = true

theorem caselessPart_one (hf : flags.ignoreCase = true) (n : Nat) :
    CaselessPart (ofTest (.one n flags.fold false)) :=
  decide_eq_true (Flags.fold_ne_exact hf)

theorem caselessPart_again (hf : flags.ignoreCase = true) (group : Nat) :
    CaselessPart ⟨.again, .again group flags.fold⟩ :=
  decide_eq_true (Flags.fold_ne_exact hf)

theorem keeps_groupEscape (hf : flags.ignoreCase = true) (group size : Nat) :
    Keeps text (groupEscape flags group size) CaselessPart := by
  refine Keeps.get.bind fun s _ => ?_
  split
  · refine (moves_isClosed group).bind fun closed _ => ?_
    split
    · exact Keeps.fail _ _
    · exact (moves_checkBehind group).bind fun _ _ => Keeps.pure (caselessPart_again hf group)
  · exact Keeps.fail _ _

theorem keeps_digitEscape (hf : flags.ignoreCase = true) (c : Char) :
    Keeps text (digitEscape flags c) CaselessPart := by
  unfold digitEscape
  split
  · exact (moves_takeUpTo _ _).bind fun _ _ => Keeps.pure (caselessPart_one hf _)
  · refine (moves_takeUpTo _ _).bind fun digits _ => ?_
    split
    · split
      · refine (moves_takeUpTo _ _).bind fun more _ => ?_
        split
        · exact (moves_octalEscape _).bind fun _ _ => Keeps.pure (caselessPart_one hf _)
        · exact keeps_groupEscape hf _ _
      · exact keeps_groupEscape hf _ _
    · exact keeps_groupEscape hf _ _

theorem keeps_escape [CharacterNames] (hf : flags.ignoreCase = true) (c : Char) :
    Keeps text (escape flags c) CaselessPart := by
  unfold escape
  split
  · exact Keeps.pure rfl
  · exact Keeps.pure (decide_eq_true (Flags.fold_ne_exact hf))
  · exact Keeps.pure (caselessPart_one hf _)
  · split
    · exact keeps_digitEscape hf c
    · exact (moves_codeEscape c).bind fun _ _ => Keeps.pure (caselessPart_one hf _)

/-! ## Sets -/

theorem moves_setMember [CharacterNames] (flags : Flags) (g : Glyph) :
    Moves text (setMember flags g) := by
  cases g with
  | plain c => exact Keeps.pure trivial
  | escaped c => exact moves_setEscape flags c

theorem moves_setMembers [CharacterNames] (flags : Flags) (start n : Nat) (seen : List SetMember) :
    Moves text (setMembers flags start n seen) := by
  induction n generalizing seen with
  | zero => exact Keeps.failAt _ _
  | succ n ih =>
      refine moves_next.bind fun first? _ => ?_
      split
      · exact Keeps.failAt _ _
      · split
        · exact Keeps.pure trivial
        · refine (moves_setMember flags _).bind fun m _ => ?_
          refine (moves_accept _).bind fun hyphen _ => ?_
          split
          · exact ih _
          · refine moves_next.bind fun last? _ => ?_
            split
            · exact Keeps.failAt _ _
            · split
              · exact Keeps.pure trivial
              · refine (moves_setMember flags _).bind fun m' _ => ?_
                split
                · split
                  · exact Keeps.fail _ _
                  · exact ih _
                · exact Keeps.fail _ _

theorem keeps_bracketed [CharacterNames] (hf : flags.ignoreCase = true) (start : Nat) :
    Keeps text (bracketed flags start) (·.caseless = true) := by
  have hfold := decide_eq_true (Flags.fold_ne_exact hf)
  refine (moves_accept _).bind fun negated _ => Keeps.get.bind fun s _ => ?_
  refine (moves_setMembers flags start _ _).bind fun members _ => ?_
  split
  · exact Keeps.pure hfold
  · exact Keeps.pure hfold

/-! ## Repetitions -/

theorem moves_braces : Moves text braces := by
  refine Keeps.get.bind fun before hbefore => moves_peek.bind fun g? _ => ?_
  split
  · exact Keeps.pure trivial
  · refine (moves_takeAll _).bind fun lo _ => (moves_accept _).bind fun comma _ => ?_
    extract_lets closed
    have hclosed : ∀ hi, Moves text (closed hi) := by
      intro hi
      refine (moves_accept _).bind fun brace _ => ?_
      split
      · refine (moves_count lo).bind fun least _ => (moves_count hi).bind fun most _ => ?_
        split
        · exact Keeps.failAt _ _
        · exact Keeps.pure trivial
      · exact (Keeps.set hbefore).bind fun _ _ => Keeps.pure trivial
    split
    · exact (moves_takeAll _).bind fun hi _ => hclosed hi
    · exact hclosed lo

/-- What has been read of a sequence, all of it comparing nothing exactly. -/
def CaselessEntry (e : Entry) : Prop := AllCaseless e.parts

theorem keeps_repeated (pos : Nat) {before : List Entry} (h : ∀ e ∈ before, CaselessEntry e) :
    Keeps text (repeated pos before)
      fun r => r.1.caseless = true ∧ ∀ e ∈ r.2, CaselessEntry e := by
  cases before with
  | nil => exact Keeps.failAt _ _
  | cons e before =>
      obtain ⟨he, hbefore⟩ := List.forall_mem_cons.mp h
      cases e with
      | bundle ps => exact Keeps.pure ⟨AllCaseless.sequence he, hbefore⟩
      | part p =>
          have hp : CaselessPart p := allCaseless_singleton.mp he
          unfold repeated
          dsimp only
          split
          · exact Keeps.failAt _ _
          · exact Keeps.failAt _ _
          · exact Keeps.pure ⟨hp, hbefore⟩

theorem moves_counts (c : Char) : Moves text (counts c) := by
  unfold counts
  split
  · exact Keeps.pure trivial
  · exact Keeps.pure trivial
  · exact Keeps.pure trivial
  · exact moves_braces

theorem moves_greedMark : Moves text greedMark := by
  refine (moves_accept _).bind fun lazy _ => ?_
  split
  · exact Keeps.pure trivial
  · refine (moves_accept _).bind fun possessive _ => ?_
    split
    · exact Keeps.pure trivial
    · exact Keeps.pure trivial

theorem keeps_quantifier (hf : flags.ignoreCase = true) (c : Char) (pos : Nat)
    {before : List Entry} (h : ∀ e ∈ before, CaselessEntry e) :
    Keeps text (quantifier flags c pos before) fun es => ∀ e ∈ es, CaselessEntry e := by
  refine (moves_counts c).bind fun counts? _ => ?_
  split
  · have hchar : CaselessPart (.ofChar flags.fold c) := caselessPart_one hf c.toNat
    exact Keeps.pure (List.forall_mem_cons.mpr ⟨allCaseless_singleton.mpr hchar, h⟩)
  · next least most =>
      refine (keeps_repeated pos h).bind fun r hr => moves_greedMark.bind fun greed _ => ?_
      have hrep : CaselessPart ⟨.repetition, .rep r.1 least most greed⟩ := hr.1
      exact Keeps.pure (List.forall_mem_cons.mpr ⟨allCaseless_singleton.mpr hrep, hr.2⟩)

theorem keeps_namedAgain (hf : flags.ignoreCase = true) :
    Keeps text (namedAgain flags) CaselessPart := by
  refine (moves_nameUntil _ _).bind fun name _ => (moves_checkName name).bind fun _ _ => ?_
  refine (moves_groupNamed name).bind fun g _ => (moves_isClosed g).bind fun closed _ => ?_
  split
  · exact Keeps.fail _ _
  · exact (moves_checkBehind g).bind fun _ _ => Keeps.pure (caselessPart_again hf g)

/-! ## Rows of flag letters -/

variable {row : List Char}

theorem eq_plain_of_flagLetter? {g : Glyph} {c : Char} (h : flagLetter? g = some c) :
    g = .plain c ∧ c ∈ Flags.letters := by
  cases g with
  | escaped d => cases h
  | plain d =>
      obtain ⟨hd, hdc⟩ := Option.ite_none_right_eq_some.mp h
      obtain rfl := Option.some.inj hdc
      exact ⟨rfl, hd⟩

theorem leads_notAFlag {α : Type} {P : ReadState → Prop} {Q : α → ReadState → Prop}
    (missing : Reason) (g : Glyph) : Leads P (notAFlag missing g : Reading α) Q :=
  Leads.fail _ _

/-- The letters that are turned on stand before what ends them. -/
theorem leads_flagsOn (n : Nat) {seen : List Char} {c : Char}
    (hseen : ∀ d ∈ seen ++ [c], d ∈ Flags.letters) :
    Leads (After text (row ++ (seen ++ [c]))) (flagsOn n seen c)
      fun r s => After text (row ++ r.1 ++ [r.2]) s ∧ ∀ d ∈ r.1, d ∈ Flags.letters := by
  induction n generalizing seen c with
  | zero => exact Leads.fail _ _
  | succ n ih =>
      have hend : ∀ stop : Char, Leads (After text (row ++ (seen ++ [c]) ++ [stop]))
          (pure (seen ++ [c], stop) : Reading (List Char × Char))
          fun r s => After text (row ++ r.1 ++ [r.2]) s ∧ ∀ d ∈ r.1, d ∈ Flags.letters :=
        fun stop => Leads.pure fun s hs => ⟨hs, hseen⟩
      unfold flagsOn
      dsimp only
      split
      · exact Leads.fail _ _
      · split
        · exact Leads.fail _ _
        · refine leads_next.bind fun g? => ?_
          split
          · exact Leads.fail _ _
          · next g =>
              split
              · next hg => subst hg; exact hend ')'
              · split
                · next hg => subst hg; exact hend '-'
                · split
                  · next hg => subst hg; exact hend ':'
                  · split
                    · next d hd =>
                        obtain ⟨rfl, hletter⟩ := eq_plain_of_flagLetter? hd
                        rw [Option.elim_some, List.append_assoc]
                        refine ih fun e he => ?_
                        rcases List.mem_append.mp he with he | he
                        · exact hseen e he
                        · exact List.mem_singleton.mp he ▸ hletter
                    · exact leads_notAFlag _ _

/-- The letters that are turned off stand before the colon. -/
theorem leads_flagsOff (n : Nat) {seen : List Char} {c : Char}
    (hseen : ∀ d ∈ seen ++ [c], d ∈ Flags.letters) :
    Leads (After text (row ++ (seen ++ [c]))) (flagsOff n seen c)
      fun off s => After text (row ++ off ++ [':']) s ∧ ∀ d ∈ off, d ∈ Flags.letters := by
  induction n generalizing seen c with
  | zero => exact Leads.fail _ _
  | succ n ih =>
      unfold flagsOff
      dsimp only
      split
      · exact Leads.fail _ _
      · refine leads_next.bind fun g? => ?_
        split
        · exact Leads.fail _ _
        · next g =>
            split
            · next hg =>
                subst hg
                exact Leads.pure fun s hs => ⟨hs, hseen⟩
            · split
              · next d hd =>
                  obtain ⟨rfl, hletter⟩ := eq_plain_of_flagLetter? hd
                  rw [Option.elim_some, List.append_assoc]
                  refine ih fun e he => ?_
                  rcases List.mem_append.mp he with he | he
                  · exact hseen e he
                  · exact List.mem_singleton.mp he ▸ hletter
              · exact leads_notAFlag _ _

theorem leads_flagsOffStart (n : Nat) :
    Leads (After text row) (flagsOffStart n)
      fun off s => After text (row ++ off ++ [':']) s ∧ ∀ d ∈ off, d ∈ Flags.letters := by
  refine leads_next.bind fun g? => ?_
  split
  · exact Leads.fail _ _
  · next g =>
      split
      · next c hc =>
          obtain ⟨rfl, hletter⟩ := eq_plain_of_flagLetter? hc
          exact @leads_flagsOff text row n [] c (List.forall_mem_singleton.mpr hletter)
      · exact leads_notAFlag _ _

/-- What a row of flag letters may ask for, in a text. -/
def FlagRequest.SpelledIn (text : List Char) : FlagRequest → Prop
  | .whole _ => True
  | .group _ off => 'i' ∈ off → SpellsCaseOff text

theorem leads_flagRequest {first : Char} (hfirst : first ∈ Flags.letters ∨ first = '-') :
    Leads (After text ['(', '?', first]) (flagRequest first)
      fun r s => After text [] s ∧ r.SpelledIn text := by
  refine Leads.get.bind fun t => ?_
  extract_lets n answer
  have hanswer : ∀ r : List Char × Char,
      Leads (fun s => After text (['(', '?'] ++ r.1 ++ [r.2]) s ∧ ∀ d ∈ r.1, d ∈ Flags.letters)
        (answer r) fun r s => After text [] s ∧ r.SpelledIn text := by
    intro r
    obtain ⟨on, stop⟩ := r
    dsimp only [answer]
    split
    · exact Leads.pure fun s hs => ⟨hs.1.forget, trivial⟩
    · split
      · exact Leads.fail _ _
      · have hgroup : ∀ off, ('i' ∈ off → SpellsCaseOff text) → Keeps text
            (if 't' ∈ off then fail .globalFlagOff 1
              else if on.any (· ∈ off) then fail .flagOnAndOff 1
              else pure (FlagRequest.group on off)) (·.SpelledIn text) := by
          intro off hoff
          split
          · exact Keeps.fail _ _
          · split
            · exact Keeps.fail _ _
            · exact Keeps.pure hoff
        split
        · next hyphen =>
            subst hyphen
            -- the row is still there when the letters that are turned off have been taken
            intro s hs
            refine (leads_flagsOffStart n).bind (fun off u hu => ?_) s hs.1
            have hspelled : 'i' ∈ off → SpellsCaseOff text := fun hi =>
              ⟨on, off, List.forall_mem_append.mpr ⟨hs.2, hu.2⟩, hi, ?_⟩
            · exact (hgroup off hspelled).anywhere u hu.1
            · exact (List.prefix_append _ u.rest).isInfix.trans hu.1.suffix.isInfix
        · exact fun s hs => (hgroup [] fun hi => by cases hi).anywhere s hs.1
  split
  · next hyphen =>
      subst hyphen
      exact (hanswer ([], '-')).mono (fun s hs => ⟨hs.2, fun d hd => by cases hd⟩) fun _ _ h => h
  · next hletter =>
      have hfirst : first ∈ Flags.letters := hfirst.resolve_right hletter
      refine Leads.bind ?_ hanswer
      exact (@leads_flagsOn text ['(', '?'] n [] first (List.forall_mem_singleton.mpr hfirst)).mono
        (fun s hs => hs.2) fun _ _ h => h

/-! ## The whole -/

/-- What is opened compares nothing exactly, and flags for what follows keep to ignoring case. -/
def CaselessOpened : Opened → Prop
  | .nothing => True
  | .entry e => CaselessEntry e
  | .flags f => f.ignoreCase = true

/-- Reading with a bound on calls gives nothing that compares exactly. -/
structure ReadsCaseless [CharacterNames] (text : List Char) (n : Nat) : Prop where
  branches : ∀ top isFirst flags, flags.ignoreCase = true →
    Keeps text (branches top n isFirst flags) fun as => ∀ a ∈ as, AllCaseless a
  sequence : ∀ start flags before, flags.ignoreCase = true → (∀ e ∈ before, CaselessEntry e) →
    Keeps text (sequence n start flags before) AllCaseless
  opened : ∀ start flags pos, flags.ignoreCase = true →
    Leads (After text ['(']) (opened n start flags pos)
      fun o s => After text [] s ∧ CaselessOpened o

namespace ReadsCaseless

variable [CharacterNames] {n : Nat}

theorem zero : ReadsCaseless text 0 where
  branches _ _ _ _ := Keeps.fail _ _
  sequence _ _ _ _ _ := Keeps.fail _ _
  opened _ _ _ _ := Leads.fail _ _

theorem branches_succ (h : ReadsCaseless text n) (top isFirst : Bool) {flags : Flags}
    (hf : flags.ignoreCase = true) :
    Keeps text (Reading.branches top (n + 1) isFirst flags) fun as => ∀ a ∈ as, AllCaseless a := by
  unfold Reading.branches
  refine (h.sequence _ flags [] hf fun _ he => by cases he).bind fun ps hps => ?_
  refine (moves_accept _).bind fun bar _ => ?_
  split
  · refine Keeps.get.bind fun s hs => ?_
    have hlater : (if top then s.flags else flags).ignoreCase = true := by
      split
      · exact hs.ignoreCase
      · exact hf
    exact (h.branches top false _ hlater).bind fun as has =>
      Keeps.pure (List.forall_mem_cons.mpr ⟨hps, has⟩)
  · exact Keeps.pure (List.forall_mem_singleton.mpr hps)

theorem sequence_succ (h : ReadsCaseless text n) (start : Bool) {flags : Flags}
    {before : List Entry} (hf : flags.ignoreCase = true) (hbefore : ∀ e ∈ before, CaselessEntry e) :
    Keeps text (Reading.sequence (n + 1) start flags before) AllCaseless := by
  have hdone : AllCaseless (before.reverse.flatMap Entry.parts) := by
    intro p hp
    obtain ⟨e, he, hpe⟩ := List.mem_flatMap.mp hp
    exact hbefore e (List.mem_reverse.mp he) p hpe
  have hmore : ∀ p : Part, CaselessPart p →
      Keeps text (Reading.sequence n start flags (.part p :: before)) AllCaseless := fun p hp =>
    h.sequence start flags _ hf
      (List.forall_mem_cons.mpr ⟨allCaseless_singleton.mpr hp, hbefore⟩)
  unfold Reading.sequence
  refine leads_peek.bind fun g? => ?_
  split
  · exact Leads.pure fun s hs => ⟨hs.1, hdone⟩
  · next c =>
      refine leads_advance.bind fun _ => Keeps.anywhere ?_
      exact (keeps_escape hf c).bind hmore
  · next c =>
      dsimp only
      split
      · exact Leads.pure fun s hs => ⟨hs.1, hdone⟩
      · refine leads_position.bind fun pos => leads_advance.bind fun _ => ?_
        split
        · exact (h.sequence start flags before hf hbefore).anywhere
        · split
          · exact Keeps.anywhere <| Keeps.get.bind fun s _ =>
              (moves_skipLine _).bind fun _ _ => h.sequence start flags before hf hbefore
          · split
            · exact Keeps.anywhere <| (keeps_bracketed hf pos).bind fun t ht => hmore _ ht
            · refine Keeps.anywhere (hmore _ ?_)
              split <;> rfl
            · exact Keeps.anywhere (hmore _ rfl)
            · exact Keeps.anywhere (hmore _ rfl)
            · refine (h.opened _ flags pos hf).bind fun o => Leads.given fun ho => ?_
              split
              · exact h.sequence start flags before hf hbefore
              · exact h.sequence start flags _ hf (List.forall_mem_cons.mpr ⟨ho, hbefore⟩)
              · exact h.sequence start _ before ho hbefore
            · split
              · exact Keeps.anywhere <| (keeps_quantifier hf c pos hbefore).bind fun es hes =>
                  h.sequence start flags es hf hes
              · exact Keeps.anywhere (hmore _ (caselessPart_one hf c.toNat))

/-- A choice by whether a group has matched, after its opening. -/
theorem keeps_conditional (h : ReadsCaseless text n) {flags : Flags} (pos : Nat)
    (hf : flags.ignoreCase = true) :
    Keeps text (do
      let g ← conditionGroup
      checkBehind g
      let yes ← Reading.sequence n false flags []
      let no ←
        if ← accept '|' then
          let no ← Reading.sequence n false flags []
          if (← peek) = some (.plain '|') then fail .thirdBranch 0
          pure no
        else pure []
      closing pos
      return Opened.entry (.part ⟨.closed, .ifGroup g (Part.sequence yes) (Part.sequence no)⟩))
      CaselessOpened := by
  have hbranch := h.sequence false flags [] hf fun _ he => by cases he
  refine moves_conditionGroup.bind fun g _ => (moves_checkBehind g).bind fun _ _ => ?_
  refine hbranch.bind fun yes hyes => (moves_accept _).bind fun bar _ => ?_
  extract_lets closed
  have hclosed : ∀ no, AllCaseless no → Keeps text (closed no) CaselessOpened := by
    intro no hno
    refine (moves_closing pos).bind fun _ _ => Keeps.pure (allCaseless_singleton.mpr ?_)
    exact Bool.and_eq_true_iff.mpr ⟨hyes.sequence, hno.sequence⟩
  split
  · refine hbranch.bind fun no hno => moves_peek.bind fun g? _ => ?_
    split
    · exact Leads.bind (Leads.fail _ _) fun _ => hclosed no hno
    · exact hclosed no hno
  · exact hclosed [] allCaseless_nil

theorem opened_succ (hspells : ¬ SpellsCaseOff text) (h : ReadsCaseless text n) (start : Bool)
    {flags : Flags} (pos : Nat) (hf : flags.ignoreCase = true) :
    Leads (After text ['(']) (Reading.opened (n + 1) start flags pos)
      fun o s => After text [] s ∧ CaselessOpened o := by
  unfold Reading.opened
  extract_lets inner capture
  have hinner : ∀ f : Flags, f.ignoreCase = true → Keeps text (inner f) AllCaseless := by
    intro f hf
    refine (h.branches false true f hf).bind fun as has => (moves_closing pos).bind fun _ _ => ?_
    exact Keeps.pure (allCaseless_alternatives has)
  have hclosed : ∀ p : Pattern, p.caseless = true →
      CaselessOpened (.entry (.part ⟨.closed, p⟩)) := fun p hp => allCaseless_singleton.mpr hp
  have hcapture : ∀ name, Keeps text (capture name) CaselessOpened := by
    intro name
    refine (moves_openGroup name).bind fun index _ => (hinner flags hf).bind fun ps hps => ?_
    exact (moves_closeGroup index ps).bind fun _ _ => Keeps.pure (hclosed _ hps.sequence)
  refine (leads_accept '?').bind fun mark => ?_
  cases mark with
  | false => exact (hcapture none).anywhere
  | true =>
      simp only [Bool.not_true, Bool.false_eq_true, if_false, if_true]
      refine leads_next.bind fun g? => ?_
      split
      · exact Leads.fail _ _
      · exact Leads.fail _ _
      · refine Keeps.anywhere <| (moves_accept _).bind fun angle _ => ?_
        split
        · exact (moves_nameUntil _ _).bind fun name _ => (moves_checkName name).bind fun _ _ =>
            hcapture (some name)
        · refine (moves_accept _).bind fun equals _ => ?_
          split
          · exact (keeps_namedAgain hf).bind fun p hp => Keeps.pure (allCaseless_singleton.mpr hp)
          · refine moves_next.bind fun g? _ => ?_
            split
            · exact Keeps.fail _ _
            · exact Keeps.fail _ _
      · exact Keeps.anywhere <| (hinner flags hf).bind fun ps hps => Keeps.pure hps
      · exact Keeps.anywhere <| Keeps.get.bind fun s _ => (moves_skipComment pos _).bind fun _ _ =>
          Keeps.pure trivial
      · exact Keeps.anywhere <| (hinner flags hf).bind fun ps hps =>
          Keeps.pure (hclosed _ hps.sequence)
      · exact Keeps.anywhere <| (hinner flags hf).bind fun ps hps =>
          Keeps.pure (hclosed _ hps.sequence)
      · refine Keeps.anywhere <| moves_next.bind fun g? _ => ?_
        split
        · exact Keeps.fail _ _
        · split
          · refine Keeps.get.bind fun s _ => ?_
            refine Keeps.bind (Keeps.modify fun _ hs => ⟨hs.suffix, hs.ignoreCase⟩) fun _ _ => ?_
            refine (h.branches false true flags hf).bind fun as has => ?_
            refine Keeps.bind (Keeps.modify fun _ hs => ⟨hs.suffix, hs.ignoreCase⟩) fun _ _ => ?_
            refine (moves_closing pos).bind fun _ _ => Keeps.get.bind fun s' _ => ?_
            exact Keeps.pure (hclosed _ (allCaseless_alternatives has).sequence)
          · exact Keeps.fail _ _
      · exact (h.keeps_conditional pos hf).anywhere
      · exact Keeps.anywhere <| (hinner flags hf).bind fun ps hps =>
          Keeps.pure (hclosed _ hps.sequence)
      · next c _ _ _ _ _ _ _ _ =>
          split
          · next hc =>
              refine (leads_flagRequest (by simpa using hc)).bind fun r => ?_
              cases r with
              | whole on =>
                  refine Leads.bind (Q := fun _ => After text []) (Leads.modify fun s hs =>
                    ⟨hs.1.suffix, Flags.ignoreCase_turnOn on hs.1.ignoreCase⟩) fun _ => ?_
                  split
                  · exact Keeps.get.bind fun s hs => Keeps.pure hs.ignoreCase
                  · exact Keeps.failAt _ _
              | group on off =>
                  refine Leads.given fun hoff => ?_
                  have hpart : (flags.forPart on off).ignoreCase = true :=
                    Flags.ignoreCase_forPart on (fun hi => hspells (hoff hi)) hf
                  exact (hinner _ hpart).bind fun ps hps => Keeps.pure (hclosed _ hps.sequence)
          · exact Leads.fail _ _

theorem of_not_spells (hspells : ¬ SpellsCaseOff text) (n : Nat) : ReadsCaseless text n := by
  induction n with
  | zero => exact zero
  | succ n ih =>
      exact {
        branches := fun top isFirst _ hf => ih.branches_succ top isFirst hf
        sequence := fun start _ _ hf hbefore => ih.sequence_succ start hf hbefore
        opened := fun start _ pos hf => ih.opened_succ hspells start pos hf }

end ReadsCaseless

theorem keeps_whole [CharacterNames] (hspells : ¬ SpellsCaseOff text) :
    Keeps text whole (·.caseless = true) := by
  refine Leads.bind leads_checkDangling fun _ => Keeps.get.bind fun s hs => ?_
  have hread := ReadsCaseless.of_not_spells hspells (3 * s.rest.length + 3)
  refine (hread.branches true true s.flags hs.ignoreCase).bind fun as has => ?_
  refine Keeps.get.bind fun s' _ => ?_
  extract_lets answer checked
  have hanswer : ∀ u, Keeps text (answer u) (·.caseless = true) := by
    intro u
    dsimp only [answer]
    split
    · exact Keeps.failAt _ _
    · exact Keeps.pure (allCaseless_alternatives has).sequence
  have hchecked : ∀ u, Keeps text (checked u) (·.caseless = true) := by
    intro u
    dsimp only [checked]
    split
    · exact Leads.bind (Leads.fail _ _) hanswer
    · exact hanswer ()
  split
  · exact Leads.bind (Leads.throw _) hchecked
  · exact hchecked ()

end Reading

/-- **A pattern read without regard to case compares nothing exactly**, unless its text spells out a
group that looks at case again. -/
theorem Pattern.caseless_of_read [CharacterNames] {text : String}
    (hspells : ¬ SpellsCaseOff text.toList) {p : Pattern} (h : Pattern.read text true = .ok p) :
    p.caseless = true := by
  unfold Pattern.read at h
  cases hrun : Reading.whole.run
      { rest := text.toList, pos := 0, flags := { ignoreCase := true } } with
  | error e =>
      rw [hrun] at h
      cases h
  | ok r =>
      have hcaseless : r.1.caseless = true :=
        (Reading.keeps_whole hspells _ ⟨List.suffix_refl _, rfl⟩ r.1 r.2 hrun).2
      rw [hrun] at h
      dsimp only [bind, Except.bind] at h
      split at h
      · cases h
      · cases h
        exact hcaseless

end Lexlight
