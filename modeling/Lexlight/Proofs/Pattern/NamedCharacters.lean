import Lexlight.Pattern.Reading.Read

/-!
# Reading with more names

Which names characters have is told to reading, and it asks in one place only: where a pattern
writes a character by its name. A name that is not known is a fault, so a pattern that could be read
asked for none but known names, and where more names are known it is read as the same pattern
(`Pattern.read_mono`). A pattern that can be read where no character has a name does not depend on
names at all (`Pattern.read_of_nameless`).

The proof compares two runs of reading step by step: the one with more names gives what the other
gives, unless that one fails (`Reading.Follows`).
-/

namespace Lexlight

namespace CharacterNames

/-- Whether all names of one table are in another, for the same characters. -/
def Within (names names' : CharacterNames) : Prop :=
  ∀ name c, names.named? name = some c → names'.named? name = some c

/-- No character has a name. -/
abbrev nameless : CharacterNames where
  named? _ := none

theorem nameless_within (names : CharacterNames) : nameless.Within names :=
  fun _ _ h => by cases h

end CharacterNames

/-! ## Two runs -/

section Follows

variable {ε α β : Type}

/-- Whether a result is the same as another, unless that one is a failure. -/
def Follows (y x : Except ε α) : Prop := ∀ a, x = .ok a → y = .ok a

namespace Follows

theorem refl (x : Except ε α) : Follows x x := fun _ h => h

theorem of_error {y : Except ε α} (e : ε) : Follows y (.error e) := fun _ h => by cases h

theorem bind {x y : Except ε α} {f g : α → Except ε β} (h : Follows y x)
    (hf : ∀ a, Follows (g a) (f a)) : Follows (y >>= g) (x >>= f) := by
  cases x with
  | error e => exact of_error e
  | ok a =>
      obtain rfl := h a rfl
      exact hf a

theorem mapM {f g : α → Except ε β} (h : ∀ a, Follows (g a) (f a)) :
    ∀ as : List α, Follows (as.mapM g) (as.mapM f)
  | [] => refl _
  | a :: as => by
      rw [List.mapM_cons, List.mapM_cons]
      exact (h a).bind fun b => (mapM h as).bind fun bs => refl _

theorem mapM_option {f g : α → Except ε β} (h : ∀ a, Follows (g a) (f a)) (a? : Option α) :
    Follows (a?.mapM g) (a?.mapM f) := by
  cases a? with
  | none => exact refl _
  | some a =>
      rw [Option.mapM_some, Option.mapM_some]
      exact (h a).bind fun b => refl _

end Follows
end Follows

namespace Reading

variable {α β : Type}

/-- Whether a step of reading gives what another gives, from any state in which that one does not
fail. -/
def Follows (y x : Reading α) : Prop := ∀ s, Lexlight.Follows (y.run s) (x.run s)

namespace Follows

theorem refl (x : Reading α) : x.Follows x := fun _ => .refl _

theorem bind {x y : Reading α} {f g : α → Reading β} (h : y.Follows x)
    (hf : ∀ a, (g a).Follows (f a)) : (y >>= g).Follows (x >>= f) := by
  intro s
  rw [StateT.run_bind, StateT.run_bind]
  exact (h s).bind fun r => hf r.1 r.2

/-- Both runs take the same step first. -/
theorem step {x : Reading α} {f g : α → Reading β} (hf : ∀ a, (g a).Follows (f a)) :
    (x >>= g).Follows (x >>= f) :=
  (refl x).bind hf

end Follows

/-! ## Escapes and sets -/

section Names

variable {names names' : CharacterNames} (h : names.Within names')
include h

/-- The only step that asks for the character of a name. -/
theorem follows_codeEscape (c : Char) : (@codeEscape names' c).Follows (@codeEscape names c) := by
  unfold codeEscape
  split
  · exact .refl _
  · exact .refl _
  · exact .refl _
  · refine .step fun brace => ?_
    split
    · exact .refl _
    · refine .step fun name => ?_
      cases hnamed : names.named? (String.ofList name) with
      -- the run with fewer names has failed, so nothing is asked of the other
      | none => exact fun s => .of_error _
      | some c =>
          rw [h _ c hnamed]
          exact .refl _
  · exact .refl _

theorem follows_setEscape (flags : Flags) (c : Char) :
    (@setEscape names' flags c).Follows (@setEscape names flags c) := by
  unfold setEscape
  split
  · exact .refl _
  · exact .refl _
  · split
    · exact .refl _
    · split
      · exact .refl _
      · split
        · exact .refl _
        · exact (follows_codeEscape h c).bind fun _ => .refl _

theorem follows_escape (flags : Flags) (c : Char) :
    (@escape names' flags c).Follows (@escape names flags c) := by
  unfold escape
  split
  · exact .refl _
  · exact .refl _
  · exact .refl _
  · split
    · exact .refl _
    · exact (follows_codeEscape h c).bind fun _ => .refl _

theorem follows_setMember (flags : Flags) (g : Glyph) :
    (@setMember names' flags g).Follows (@setMember names flags g) := by
  cases g with
  | plain c => exact .refl _
  | escaped c => exact follows_setEscape h flags c

theorem follows_setMembers (flags : Flags) (start n : Nat) (seen : List SetMember) :
    (@setMembers names' flags start n seen).Follows (@setMembers names flags start n seen) := by
  induction n generalizing seen with
  | zero => exact .refl _
  | succ n ih =>
      refine .step fun first? => ?_
      split
      · exact .refl _
      · split
        · exact .refl _
        · refine (follows_setMember h flags _).bind fun m => .step fun hyphen => ?_
          split
          · exact ih _
          · refine .step fun last? => ?_
            split
            · exact .refl _
            · split
              · exact .refl _
              · refine (follows_setMember h flags _).bind fun m' => ?_
                split
                · split
                  · exact .refl _
                  · exact ih _
                · exact .refl _

theorem follows_bracketed (flags : Flags) (start : Nat) :
    (@bracketed names' flags start).Follows (@bracketed names flags start) :=
  .step fun _ => .step fun _ => (follows_setMembers h flags start _ _).bind fun _ => .refl _

end Names

/-! ## The whole -/

/-- With a bound on calls, the three functions that call each other read alike. -/
structure ReadsOn (names names' : CharacterNames) (n : Nat) : Prop where
  branches : ∀ top isFirst flags,
    (@branches names' top n isFirst flags).Follows (@branches names top n isFirst flags)
  sequence : ∀ start flags before,
    (@sequence names' n start flags before).Follows (@sequence names n start flags before)
  opened : ∀ start flags pos,
    (@opened names' n start flags pos).Follows (@opened names n start flags pos)

namespace ReadsOn

variable {names names' : CharacterNames} {n : Nat}

theorem zero : ReadsOn names names' 0 where
  branches _ _ _ := .refl _
  sequence _ _ _ := .refl _
  opened _ _ _ := .refl _

theorem branches_succ (hn : ReadsOn names names' n) (top isFirst : Bool) (flags : Flags) :
    (@Reading.branches names' top (n + 1) isFirst flags).Follows
      (@Reading.branches names top (n + 1) isFirst flags) := by
  unfold Reading.branches
  refine (hn.sequence _ _ _).bind fun ps => .step fun bar => ?_
  split
  · exact .step fun s => (hn.branches _ _ _).bind fun as => .refl _
  · exact .refl _

theorem sequence_succ (h : names.Within names') (hn : ReadsOn names names' n) (start : Bool)
    (flags : Flags) (before : List Entry) :
    (@Reading.sequence names' (n + 1) start flags before).Follows
      (@Reading.sequence names (n + 1) start flags before) := by
  unfold Reading.sequence
  refine .step fun g? => ?_
  split
  · exact .refl _
  · exact .step fun _ => (follows_escape h _ _).bind fun p => hn.sequence _ _ _
  · dsimp only
    split
    · exact .refl _
    · refine .step fun pos => .step fun _ => ?_
      split
      · exact hn.sequence _ _ _
      · split
        · exact .step fun _ => .step fun _ => hn.sequence _ _ _
        · split
          · exact (follows_bracketed h _ _).bind fun t => hn.sequence _ _ _
          · exact hn.sequence _ _ _
          · exact hn.sequence _ _ _
          · exact hn.sequence _ _ _
          · refine (hn.opened _ _ _).bind fun o => ?_
            cases o <;> exact hn.sequence _ _ _
          · split
            · exact .step fun es => hn.sequence _ _ _
            · exact hn.sequence _ _ _

theorem opened_succ (hn : ReadsOn names names' n) (start : Bool) (flags : Flags) (pos : Nat) :
    (@Reading.opened names' (n + 1) start flags pos).Follows
      (@Reading.opened names (n + 1) start flags pos) := by
  unfold Reading.opened
  extract_lets inner' capture' inner capture
  -- most kinds of groups go on with what is inside them, and so do those that capture
  have hinner : ∀ f, (inner' f).Follows (inner f) := fun f =>
    (hn.branches _ _ _).bind fun as => .refl _
  have hcapture : ∀ name, (capture' name).Follows (capture name) := fun name =>
    .step fun index => (hinner flags).bind fun ps => .refl _
  refine .step fun mark => ?_
  split
  · exact hcapture none
  · refine .step fun g? => ?_
    split
    · exact .refl _
    · exact .refl _
    · refine .step fun angle => ?_
      split
      · exact .step fun name => .step fun _ => hcapture (some name)
      · exact .refl _
    · exact (hinner flags).bind fun ps => .refl _
    · exact .refl _
    · exact (hinner flags).bind fun ps => .refl _
    · exact (hinner flags).bind fun ps => .refl _
    · refine .step fun g? => ?_
      split
      · exact .refl _
      · split
        · exact .step fun _ => .step fun _ => (hn.branches _ _ _).bind fun as => .refl _
        · exact .refl _
    · refine .step fun g => .step fun _ => (hn.sequence _ _ _).bind fun yes => .step fun bar => ?_
      split
      · exact (hn.sequence _ _ _).bind fun no => .refl _
      · exact .refl _
    · exact (hinner flags).bind fun ps => .refl _
    · split
      · refine .step fun r => ?_
        cases r with
        | whole on => exact .refl _
        | group on off => exact (hinner _).bind fun ps => .refl _
      · exact .refl _

theorem of_within (h : names.Within names') (n : Nat) : ReadsOn names names' n := by
  induction n with
  | zero => exact zero
  | succ n ih => exact ⟨ih.branches_succ, ih.sequence_succ h, ih.opened_succ⟩

end ReadsOn

theorem follows_whole {names names' : CharacterNames} (h : names.Within names') :
    (@whole names').Follows (@whole names) :=
  .step fun _ => .step fun _ => ((ReadsOn.of_within h _).branches _ _ _).bind fun _ => .refl _

end Reading

namespace Pattern

variable {text : String} {ignoreCase : Bool} {p : Pattern}

/-- **A pattern that can be read is read alike where more names are known.** -/
theorem read_mono {names names' : CharacterNames} (h : names.Within names')
    (hread : @read names text ignoreCase = .ok p) : @read names' text ignoreCase = .ok p :=
  (Reading.follows_whole h _).bind (fun _ => .refl _) p hread

/-- A pattern that can be read without names is read alike whatever names there are. -/
theorem read_of_nameless [CharacterNames]
    (hread : @read .nameless text ignoreCase = .ok p) : read text ignoreCase = .ok p :=
  read_mono (CharacterNames.nameless_within _) hread

end Pattern
end Lexlight
