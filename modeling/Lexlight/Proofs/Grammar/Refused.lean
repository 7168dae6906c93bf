import Lexlight.Proofs.Grammar.Faults
import Lexlight.Proofs.Pattern.WrittenEntries

/-!
# What compiling reports

Compiling stops at the first fault of a description and reports it. Each step of compiling reports
the first of its own faults (`Compiling.Reports`), and it gives something when it has none. Steps one
after the other report the first fault of all, in the order of the steps (`Reports.bind`,
`Reports.mapM`), so with one lemma for each kind of part the whole of a description reports the first
of its faults (`Offer.compile_reports`).

Patterns that are made from markers, quotes and entries are no source of faults: they are written as
texts that can be read, whatever characters they are made from.
-/

namespace Lexlight

namespace Compiling

variable {α β : Type} {x : Compiling α} {f : α → Compiling β} {fs gs : List Failure}

/-- How a step of compiling fails, if it does. -/
def failure? : Compiling α → Option Failure
  | .ok _ => none
  | .error f => some f

/-- Whether a step of compiling fails with the first of some faults, and does not fail if there are
none. -/
def Reports (x : Compiling α) (fs : List Failure) : Prop := x.failure? = fs.head?

theorem failure?_eq_some {f : Failure} : x.failure? = some f ↔ x = .error f := by
  cases x with
  | ok a => simp [failure?]
  | error e => simp [failure?]

theorem failure?_eq_none : x.failure? = none ↔ ∃ a, x = .ok a := by
  cases x with
  | ok a => simp [failure?]
  | error e => simp [failure?]

theorem reports_ok (a : α) : Reports (.ok a) [] := rfl

theorem reports_error (f : Failure) : Reports (.error f : Compiling α) [f] := rfl

theorem reports_reject (language : String) (flaw : Flaw) :
    Reports (reject language flaw : Compiling α) [.flaw language flaw] := rfl

/-- **The first fault of a step comes before those of the steps after it.** -/
theorem Reports.bind (hx : Reports x fs) (hf : ∀ a, Reports (f a) gs) :
    Reports (x >>= f) (fs ++ gs) := by
  cases x with
  | ok a =>
      obtain rfl : fs = [] := List.head?_eq_none_iff.mp hx.symm
      exact hf a
  | error e =>
      have hhead : fs.head? = some e := hx.symm
      rw [Reports, List.head?_append, hhead]
      rfl

/-- What comes after a step does not fail. -/
theorem Reports.bind_ok (hx : Reports x fs) (hf : ∀ a, ∃ b, f a = .ok b) : Reports (x >>= f) fs := by
  have hnone : ∀ a, Reports (f a) [] := fun a => by
    obtain ⟨b, hb⟩ := hf a
    exact hb ▸ reports_ok b
  have hbind := hx.bind hnone
  rwa [List.append_nil] at hbind

/-- **Steps for the items of a list** report the first fault of the first item that has one. -/
theorem Reports.mapM {faults : α → List Failure} (h : ∀ a, Reports (f a) (faults a)) :
    ∀ as : List α, Reports (as.mapM f) (as.flatMap faults)
  | [] => reports_ok []
  | a :: as => by
      rw [List.mapM_cons, List.flatMap_cons]
      exact (h a).bind fun b => (Reports.mapM h as).bind_ok fun bs => ⟨_, rfl⟩

theorem Reports.mapM_option {faults : α → List Failure} (h : ∀ a, Reports (f a) (faults a))
    (a? : Option α) : Reports (a?.mapM f) (a?.toList.flatMap faults) := by
  cases a? with
  | none => exact reports_ok none
  | some a =>
      rw [Option.mapM_some, Option.toList_some, List.flatMap_singleton]
      exact (h a).bind_ok fun b => ⟨_, rfl⟩

variable {language : String} {ignoreCase : Bool}

theorem reports_marker (what : String) (v : Value) :
    Reports (marker language what v) (v.textFaults language (.marker what)) := by
  unfold marker Value.textFaults
  cases v.nonEmpty? with
  | none => exact reports_reject ..
  | some s => exact reports_ok s

theorem reports_category (v : Value) :
    Reports (category language v) (v.categoryFaults language) := by
  unfold category Value.categoryFaults
  cases v.text?.bind Category.ofName? with
  | none => exact reports_reject ..
  | some c => exact reports_ok c

theorem reports_written [CharacterNames] (v : Value) :
    Reports (written language ignoreCase v) (v.patternFaults language ignoreCase) := by
  unfold written Value.patternFaults
  cases v.nonEmpty? with
  | none => exact reports_reject ..
  | some text =>
      dsimp only
      cases Pattern.read text ignoreCase with
      | ok p => exact reports_ok p
      | error fault => cases fault <;> exact reports_error _

end Compiling

open Compiling

variable {language : String} {ignoreCase : Bool}

/-- The items of a list that has to hold texts. -/
theorem textsOf_reports (flaw : Value → Flaw) (vs : List Value) :
    (textsOf flaw language vs).Reports (vs.flatMap fun v => v.textFaults language (flaw v)) := by
  refine Reports.mapM (fun v => ?_) vs
  unfold Value.textFaults
  cases v.nonEmpty? with
  | none => exact reports_reject ..
  | some s => exact reports_ok s

theorem Variant.compile_reports [CharacterNames] (base : Category) (relevance : Int) (v : Variant) :
    (v.compile language ignoreCase base relevance).Reports (v.faults language ignoreCase) := by
  cases v with
  | bare pattern => exact (reports_written _).bind_ok fun p => ⟨_, rfl⟩
  | of pattern own =>
      have hpattern : ∀ c : Category, Compiling.Reports (do
          return Rule.token c (← Compiling.written language ignoreCase pattern) relevance)
          (pattern.patternFaults language ignoreCase) :=
        fun c => (reports_written pattern).bind_ok fun p => ⟨_, rfl⟩
      cases own with
      | null => exact hpattern base
      | _ => exact (reports_category _).bind hpattern
  | unknown v => exact reports_error _

theorem RuleDescription.compile_reports [CharacterNames] (d : RuleDescription) :
    (d.compile language ignoreCase).Reports (d.faults language ignoreCase) := by
  cases d with
  | lineComment marker relevance => exact (reports_marker _ marker).bind_ok fun m => ⟨_, rfl⟩
  | blockComment start stop relevance =>
      exact (reports_marker _ start).bind fun a => (reports_marker _ stop).bind_ok fun b => ⟨_, rfl⟩
  | quotedString quote relevance =>
      change Reports (Compiling.marker language "string quote" quote >>= _)
        (quote.quoteFaults language)
      unfold Compiling.marker Value.quoteFaults
      cases quote.nonEmpty? with
      | none => exact reports_reject ..
      | some text =>
          dsimp only
          rw [pure_bind, ← String.length_toList]
          rcases text.toList with _ | ⟨c, _ | ⟨c', rest⟩⟩
          · exact reports_reject ..
          · exact reports_ok _
          · rw [if_neg (by simp)]
            exact reports_reject ..
  | custom category pattern relevance variants =>
      refine (reports_category category).bind fun base => ?_
      unfold groupFaults
      cases variants with
      | nil =>
          cases pattern with
          | null => exact reports_reject ..
          | _ => exact (reports_written _).bind_ok fun p => ⟨_, rfl⟩
      | cons v variants =>
          cases pattern with
          | null => exact Reports.mapM (Variant.compile_reports base relevance) (v :: variants)
          | _ => exact reports_reject ..
  | unknown v => exact reports_reject ..

theorem WordLists.compile_reports [CharacterNames] (caseSensitive : Bool) (w : WordLists) :
    (w.compile language caseSensitive).Reports (w.faults language (!caseSensitive)) :=
  (textsOf_reports _ w.keyword).bind fun _ => (textsOf_reports _ w.builtin).bind fun _ =>
    (reports_written w.pattern).bind_ok fun _ => ⟨_, rfl⟩

theorem LanguageDescription.compile_reports [CharacterNames] (d : LanguageDescription) :
    (d.compile language).Reports (d.faults language) := by
  unfold LanguageDescription.compile LanguageDescription.faults
  cases d.title.isSet with
  | false => exact reports_reject ..
  | true =>
      exact (textsOf_reports _ d.aliases).bind fun _ =>
        (Reports.mapM RuleDescription.compile_reports d.contains).bind fun _ =>
          (Reports.mapM_option (WordLists.compile_reports d.caseSensitive) d.words?).bind_ok
            fun _ => ⟨_, rfl⟩

/-- **Compiling reports the first fault.** -/
theorem Offer.compile_reports [CharacterNames] (language : Value) (offer : Offer) :
    (offer.compile language).Reports (offer.faults language) := by
  unfold Offer.compile Offer.faults Value.textFaults
  cases hname : language.nonEmpty? with
  | none => rfl
  | some name =>
      obtain ⟨-, rfl⟩ := Value.nonEmpty?_eq_some.mp hname
      cases offer with
      | unknown v => exact reports_reject ..
      | description d => exact d.compile_reports

/-! ## Flaws of the description -/

/-- Whether a failure is a flaw of a description under its name, or one of the two faults of a
written pattern that are not reported as such. -/
def Failure.FlawOrPattern (language : String) (f : Failure) : Prop :=
  (∃ flaw, f = .flaw language flaw) ∨ f = .countTooLarge ∨ f = .asciiAndUnicode

/-- Whether a variant is a text or a variant proper. -/
def Variant.Known : Variant → Prop
  | .unknown _ => False
  | _ => True

/-- Whether all variants of a rule description are known as such. -/
def RuleDescription.Known : RuleDescription → Prop
  | .custom _ _ _ variants => ∀ v ∈ variants, v.Known
  | _ => True

/-- Whether all variants in a description are known as such. -/
def Offer.Known (offer : Offer) : Prop :=
  ∀ d, offer = .description d → ∀ rd ∈ d.contains, rd.Known

section Flaws

variable {f : Failure}

theorem Value.flaw_of_textFaults {flaw : Flaw} {v : Value} (h : f ∈ v.textFaults language flaw) :
    f.FlawOrPattern language := by
  unfold textFaults at h
  split at h
  · cases h
  · exact Or.inl ⟨flaw, List.mem_singleton.mp h⟩

theorem Value.flaw_of_categoryFaults {v : Value} (h : f ∈ v.categoryFaults language) :
    f.FlawOrPattern language := by
  unfold categoryFaults at h
  split at h
  · cases h
  · exact Or.inl ⟨_, List.mem_singleton.mp h⟩

theorem Value.flaw_of_quoteFaults {v : Value} (h : f ∈ v.quoteFaults language) :
    f.FlawOrPattern language := by
  unfold quoteFaults at h
  split at h
  · exact Or.inl ⟨_, List.mem_singleton.mp h⟩
  · split at h
    · cases h
    · exact Or.inl ⟨_, List.mem_singleton.mp h⟩

theorem Value.flaw_of_patternFaults [CharacterNames] {v : Value}
    (h : f ∈ v.patternFaults language ignoreCase) : f.FlawOrPattern language := by
  unfold patternFaults at h
  split at h
  · exact Or.inl ⟨_, List.mem_singleton.mp h⟩
  · split at h
    · cases h
    · rename_i text _ fault _
      obtain rfl := List.mem_singleton.mp h
      cases fault with
      | countTooLarge => exact Or.inr (Or.inl rfl)
      | asciiAndUnicode => exact Or.inr (Or.inr rfl)
      | _ => exact Or.inl ⟨_, rfl⟩

theorem Variant.flaw_of_faults [CharacterNames] {v : Variant} (hv : v.Known)
    (h : f ∈ v.faults language ignoreCase) : f.FlawOrPattern language := by
  cases v with
  | bare pattern => exact Value.flaw_of_patternFaults h
  | of pattern own =>
      rcases List.mem_append.mp h with h | h
      · split at h
        · cases h
        · exact Value.flaw_of_categoryFaults h
      · exact Value.flaw_of_patternFaults h
  | unknown v => exact hv.elim

theorem RuleDescription.flaw_of_faults [CharacterNames] {d : RuleDescription} (hd : d.Known)
    (h : f ∈ d.faults language ignoreCase) : f.FlawOrPattern language := by
  cases d with
  | lineComment marker relevance => exact Value.flaw_of_textFaults h
  | blockComment start stop relevance =>
      rcases List.mem_append.mp h with h | h <;> exact Value.flaw_of_textFaults h
  | quotedString quote relevance => exact Value.flaw_of_quoteFaults h
  | custom category pattern relevance variants =>
      rcases List.mem_append.mp h with h | h
      · exact Value.flaw_of_categoryFaults h
      · unfold groupFaults at h
        split at h
        · split at h
          · exact Or.inl ⟨_, List.mem_singleton.mp h⟩
          · exact Value.flaw_of_patternFaults h
        · split at h
          · obtain ⟨v, hv, h⟩ := List.mem_flatMap.mp h
            exact Variant.flaw_of_faults (hd v hv) h
          · exact Or.inl ⟨_, List.mem_singleton.mp h⟩
  | unknown v => exact Or.inl ⟨_, List.mem_singleton.mp h⟩

theorem Value.flaw_of_flatMap_textFaults {flaw : Value → Flaw} {vs : List Value}
    (h : f ∈ vs.flatMap fun v => v.textFaults language (flaw v)) : f.FlawOrPattern language := by
  obtain ⟨v, -, h⟩ := List.mem_flatMap.mp h
  exact Value.flaw_of_textFaults h

theorem WordLists.flaw_of_faults [CharacterNames] {w : WordLists}
    (h : f ∈ w.faults language ignoreCase) : f.FlawOrPattern language := by
  rcases List.mem_append.mp h with h | h
  · exact Value.flaw_of_flatMap_textFaults h
  · rcases List.mem_append.mp h with h | h
    · exact Value.flaw_of_flatMap_textFaults h
    · exact Value.flaw_of_patternFaults h

theorem LanguageDescription.flaw_of_faults [CharacterNames] {d : LanguageDescription}
    (hd : ∀ rd ∈ d.contains, rd.Known) (h : f ∈ d.faults language) : f.FlawOrPattern language := by
  rcases List.mem_append.mp h with h | h
  · split at h
    · cases h
    · exact Or.inl ⟨_, List.mem_singleton.mp h⟩
  · rcases List.mem_append.mp h with h | h
    · exact Value.flaw_of_flatMap_textFaults h
    · rcases List.mem_append.mp h with h | h
      · obtain ⟨rd, hrd, h⟩ := List.mem_flatMap.mp h
        exact RuleDescription.flaw_of_faults (hd rd hrd) h
      · obtain ⟨w, -, h⟩ := List.mem_flatMap.mp h
        exact WordLists.flaw_of_faults h

/-- **Every fault is a flaw of the description**, but for two that a written pattern can have. -/
theorem Offer.flaw_of_faults [CharacterNames] {language : Value} {offer : Offer}
    (hoffer : offer.Known) (h : f ∈ offer.faults language) : f.FlawOrPattern language.plain := by
  rcases List.mem_append.mp h with h | h
  · exact Value.flaw_of_textFaults h
  · cases offer with
    | unknown v => exact Or.inl ⟨_, List.mem_singleton.mp h⟩
    | description d => exact LanguageDescription.flaw_of_faults (hoffer d rfl) h

end Flaws

/-! ## What is refused -/

namespace Offer

end Offer
end Lexlight
