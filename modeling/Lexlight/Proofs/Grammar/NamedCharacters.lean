import Lexlight.Grammar.Compile
import Lexlight.Proofs.Pattern.NamedCharacters

/-!
# Compiling with more names

The patterns of a description are read with the names that characters have. A description that could
be compiled is compiled to the same grammar where more names are known (`Offer.compile_mono`): each
step of compiling gives with more names what it gave, unless it failed.
-/

namespace Lexlight

section Steps

variable {names names' : CharacterNames} (h : names.Within names') {language : String}
  {ignoreCase caseSensitive : Bool}
include h

theorem follows_written (v : Value) :
    Follows (@Compiling.written names' language ignoreCase v)
      (@Compiling.written names language ignoreCase v) := by
  unfold Compiling.written
  cases v.nonEmpty? with
  | none => exact .refl _
  | some text =>
      dsimp only
      cases hread : @Pattern.read names text ignoreCase with
      | ok p =>
          rw [Pattern.read_mono h hread]
          exact .refl _
      | error fault => cases fault <;> exact .of_error _

theorem Variant.follows_compile (base : Category) (relevance : Int) (v : Variant) :
    Follows (@Variant.compile names' language ignoreCase base relevance v)
      (@Variant.compile names language ignoreCase base relevance v) := by
  cases v with
  | bare pattern => exact (follows_written h _).bind fun p => .refl _
  | of pattern own =>
      cases own with
      | null => exact (follows_written h _).bind fun p => .refl _
      | _ => exact .bind (.refl _) fun c => (follows_written h _).bind fun p => .refl _
  | unknown v => exact .refl _

theorem RuleDescription.follows_compile (d : RuleDescription) :
    Follows (@RuleDescription.compile names' language ignoreCase d)
      (@RuleDescription.compile names language ignoreCase d) := by
  cases d with
  -- only the rules of a group are written as patterns; what is made from markers is never read
  | custom category pattern relevance variants =>
      refine .bind (.refl _) fun base => ?_
      cases variants with
      | nil =>
          cases pattern with
          | null => exact .refl _
          | _ => exact (follows_written h _).bind fun p => .refl _
      | cons v variants =>
          cases pattern with
          | null => exact .mapM (Variant.follows_compile h base relevance) (v :: variants)
          | _ => exact .refl _
  | _ => exact .refl _

theorem WordLists.follows_compile (w : WordLists) :
    Follows (@WordLists.compile names' language caseSensitive w)
      (@WordLists.compile names language caseSensitive w) :=
  .bind (.refl _) fun _ => .bind (.refl _) fun _ =>
    (follows_written h w.pattern).bind fun _ => .refl _

theorem LanguageDescription.follows_compile (d : LanguageDescription) :
    Follows (@LanguageDescription.compile names' language d)
      (@LanguageDescription.compile names language d) := by
  unfold LanguageDescription.compile
  cases d.title.isSet with
  | false => exact .of_error _
  | true =>
      exact .bind (.refl _) fun _ =>
        (Follows.mapM (RuleDescription.follows_compile h) d.contains).bind fun _ =>
          (Follows.mapM_option (WordLists.follows_compile h) d.words?).bind fun _ => .refl _

end Steps

/-- **What could be compiled is compiled alike where more names are known.** -/
theorem Offer.compile_mono {names names' : CharacterNames} (h : names.Within names')
    {language : Value} {offer : Offer} {g : Grammar}
    (hcompile : @Offer.compile names language offer = .ok g) :
    @Offer.compile names' language offer = .ok g := by
  unfold Offer.compile at hcompile ⊢
  cases hname : language.nonEmpty? with
  | none =>
      rw [hname] at hcompile
      cases hcompile
  | some name =>
      rw [hname] at hcompile
      cases offer with
      | unknown v => cases hcompile
      | description d => exact d.follows_compile h g hcompile

end Lexlight
