import Lexlight.Proofs.Pattern.StringEnd
import Lexlight.Proofs.Pattern.Written
import Lexlight.Proofs.Scan.Hit

/-!
# Rules for comments and quoted strings

The three descriptions that are markers and nothing else. Each of them compiles, whatever its
markers are, to one rule, and that rule finds something just where the opening marker stands
(`Rule.Encloses`). Where it ends is said without patterns: at the end of the line, at the nearest
closing marker, or where going through the string from left to right comes to its end.

The rule is the one that the pattern written out would make: the markers with a backslash before
every character that has a meaning, and the rest as one would write it (`Rule.WrittenAs`).
-/

namespace Lexlight

/-! ## The end of a line -/

namespace Source

variable {src : Source}

/-- Whether a line that is entered at `start` ends at a place: at the first carriage return or line
feed from there, or with the source if there is none. -/
structure LineEnds (src : Source) (start stop : Nat) : Prop where
  le : start ≤ stop
  inside : ∀ i, start ≤ i → i < stop → ∃ c, src[i]? = some c ∧ c ≠ '\r' ∧ c ≠ '\n'
  last : src[stop]? = some '\r' ∨ src[stop]? = some '\n' ∨ stop = src.size

theorem inLine_eq_true {c : Char} : inLine c = true ↔ c ≠ '\r' ∧ c ≠ '\n' := by
  simp [inLine]

theorem runEnd_le_size (ok : Char → Bool) {start : Nat} (hstart : start ≤ src.size) :
    src.runEnd ok start ≤ src.size := by
  rcases Nat.lt_or_ge start (src.runEnd ok start) with hlt | hge
  · have hlast : src[src.runEnd ok start - 1]?.any ok = true :=
      any_of_lt_runEnd (show start ≤ _ by omega) (by omega)
    have := lt_size_of_any hlast
    omega
  · omega

theorem lineEnds_runEnd {start : Nat} (hstart : start ≤ src.size) :
    src.LineEnds start (src.runEnd inLine start) where
  le := src.le_runEnd inLine start
  inside := by
    intro i h1 h2
    obtain ⟨c, hc, hin⟩ := (Option.any_eq_true _ _).mp (any_of_lt_runEnd h1 h2)
    exact ⟨c, hc, inLine_eq_true.mp hin⟩
  last := by
    have hnot := src.not_any_runEnd inLine start
    cases hc : src[src.runEnd inLine start]? with
    | none =>
        have hend : src.size ≤ src.runEnd inLine start := by simpa using hc
        exact Or.inr (Or.inr (Nat.le_antisymm (runEnd_le_size _ hstart) hend))
    | some c =>
        rw [hc, Option.any_some, ← Bool.not_eq_true, inLine_eq_true, not_and_or, not_not,
          not_not] at hnot
        rcases hnot with rfl | rfl
        · exact Or.inl rfl
        · exact Or.inr (Or.inl rfl)

end Source

/-! ## Rules -/

/-- Whether a rule finds something just where given characters stand, and where that ends is what a
relation says of the place after them. -/
structure Rule.Encloses (r : Rule) (c : Category) (opening : List Char)
    (ends : Source → (start stop : Nat) → Prop) : Prop where
  found : ∀ (src : Source) (pos : Nat), pos ≤ src.size → src.HasAt pos opening →
    ∃ stop, ends src (pos + opening.length) stop ∧ r.hit? src pos = some ⟨some c, stop⟩
  notFound : ∀ (src : Source) (pos : Nat), pos ≤ src.size → ¬ src.HasAt pos opening →
    r.hit? src pos = none

/-- Whether a rule finds just what one does that is described by a pattern and its category. -/
def Rule.WrittenAs [CharacterNames] (r : Rule) (c : Category) (text : String) : Prop :=
  ∀ (language : String) (relevance : Int), ∃ p,
    (RuleDescription.custom (.string c.name) (.string text) relevance []).compile language false =
      .ok [.token c p relevance] ∧
    ∀ src pos, (Rule.token c p relevance).hit? src pos = r.hit? src pos

theorem Category.ofName?_name (c : Category) : ofName? c.name = some c := by
  cases c <;> decide

theorem Value.nonEmpty?_string {s : String} (h : s ≠ "") : (Value.string s).nonEmpty? = some s := by
  simp [nonEmpty?, h]

theorem Compiling.marker_string (language what : String) {s : String} (h : s ≠ "") :
    Compiling.marker language what (.string s) = .ok s := by
  rw [marker, Value.nonEmpty?_string h]
  rfl

/-- A rule is written as its pattern is. -/
theorem Pattern.WrittenAs.rule [CharacterNames] {p : Pattern} {text : String}
    (h : p.WrittenAs text false) (htext : text ≠ "") (c : Category) (weight : Int) :
    (Rule.token c p weight).WrittenAs c text := by
  intro language relevance
  obtain ⟨q, hread, hrun⟩ := h
  refine ⟨q, ?_, fun src pos => ?_⟩
  · have hcategory : Compiling.category language (.string c.name) = .ok c := by
      simp only [Compiling.category, Value.text?, Option.bind_some, Category.ofName?_name]
      rfl
    have hwritten : Compiling.written language false (.string text) = .ok q := by
      unfold Compiling.written
      rw [Value.nonEmpty?_string htext]
      dsimp only
      rw [hread]
      rfl
    unfold RuleDescription.compile
    dsimp only
    rw [hcategory]
    change Except.bind (Compiling.written language false (.string text)) _ = _
    rw [hwritten]
    rfl
  · simp only [Rule.hit?, Rule.hitFrom, Pattern.matchEnd?, hrun]

/-- Whether a description compiles, where case counts, to one rule that finds something just where
an opening stands, ends as told, and is the rule of a written pattern. -/
def RuleDescription.Encloses [CharacterNames] (d : RuleDescription) (language : String)
    (c : Category) (opening : List Char) (ends : Source → (start stop : Nat) → Prop)
    (text : String) : Prop :=
  ∃ rule, d.compile language false = .ok [rule] ∧ rule.Encloses c opening ends ∧
    rule.WrittenAs c text

theorem Rule.hit?_token_of_matchEnd? {c : Category} {p : Pattern} {weight : Int} {src : Source}
    {pos stop : Nat} (h : p.matchEnd? src pos = some stop) (hne : stop ≠ pos) :
    (Rule.token c p weight).hit? src pos = some ⟨some c, stop⟩ :=
  hit?_token.mpr ⟨h, hne, rfl⟩

theorem Rule.hit?_token_eq_none {c : Category} {p : Pattern} {weight : Int} {src : Source}
    {pos : Nat} (h : p.matchEnd? src pos = none) : (Rule.token c p weight).hit? src pos = none := by
  simp only [hit?, hitFrom, h]

namespace RuleDescription

/-! ## Comments -/

theorem compile_lineComment [CharacterNames] (language : String) {marker : String}
    (hmarker : marker ≠ "") (relevance : Int) :
    (lineComment (.string marker) relevance).compile language false =
      .ok [.token .comment (.lineComment .exact marker) relevance] := by
  unfold compile
  dsimp only
  rw [Compiling.marker_string _ _ hmarker]
  rfl

theorem compile_blockComment [CharacterNames] (language : String) {start stop : String}
    (hstart : start ≠ "") (hstop : stop ≠ "") (relevance : Int) :
    (blockComment (.string start) (.string stop) relevance).compile language false =
      .ok [.token .comment (.blockComment .exact start stop) relevance] := by
  unfold compile
  dsimp only
  rw [Compiling.marker_string _ _ hstart, Compiling.marker_string _ _ hstop]
  rfl

theorem encloses_lineComment {marker : String} (hmarker : marker ≠ "") (relevance : Int) :
    (Rule.token .comment (.lineComment .exact marker) relevance).Encloses .comment marker.toList
      Source.LineEnds where
  found := by
    intro src pos hpos hat
    have hends := Source.lineEnds_runEnd (hat.le_size hpos)
    have hlen : 0 < marker.toList.length := List.length_pos_iff.mpr (by simpa using hmarker)
    have hle := hends.le
    refine ⟨_, hends, Rule.hit?_token_of_matchEnd? ?_ (by omega)⟩
    rw [Pattern.matchEnd?_lineComment, if_pos hat]
  notFound := by
    intro src pos _ hat
    refine Rule.hit?_token_eq_none ?_
    rw [Pattern.matchEnd?_lineComment, if_neg hat]

theorem encloses_blockComment {start stop : String} (hstart : start ≠ "") (hstop : stop ≠ "")
    (relevance : Int) :
    (Rule.token .comment (.blockComment .exact start stop) relevance).Encloses .comment start.toList
      (·.Closes stop.toList) where
  found := by
    intro src pos hpos hat
    obtain ⟨last, hlast⟩ := src.exists_closes stop.toList (pos + start.toList.length)
    have hlen : 0 < start.toList.length := List.length_pos_iff.mpr (by simpa using hstart)
    have hle := hlast.le (hat.le_size hpos)
    exact ⟨last, hlast, Rule.hit?_token_of_matchEnd?
      ((Pattern.matchEnd?_blockComment hstop hpos).mpr ⟨hat, hlast⟩) (by omega)⟩
  notFound := by
    intro src pos hpos hat
    refine Rule.hit?_token_eq_none (Option.eq_none_iff_forall_ne_some.mpr fun last h => ?_)
    exact hat ((Pattern.matchEnd?_blockComment hstop hpos).mp h).1

/-- **Comments are found just where they are**: a line comment where its marker stands, up to the
end of the line, and a block comment where its start marker stands, over the nearest end marker
after it, or to the end of the source. -/
theorem comments_compile [CharacterNames] (language : String) {marker start stop : String}
    (hmarker : marker ≠ "") (hstart : start ≠ "") (hstop : stop ≠ "") (relevance : Int) :
    (lineComment (.string marker) relevance).Encloses language .comment marker.toList
      Source.LineEnds (lineCommentText marker) ∧
    (blockComment (.string start) (.string stop) relevance).Encloses language .comment start.toList
      (·.Closes stop.toList) (blockCommentText start stop) := by
  have hline : lineCommentText marker ≠ "" := by simp [lineCommentText]
  have hblock : blockCommentText start stop ≠ "" := by simp [blockCommentText]
  refine ⟨⟨_, compile_lineComment language hmarker relevance,
    encloses_lineComment hmarker relevance, ?_⟩,
    ⟨_, compile_blockComment language hstart hstop relevance,
      encloses_blockComment hstart hstop relevance, ?_⟩⟩
  · exact (Pattern.lineComment_writtenAs marker false).rule hline .comment relevance
  · exact (Pattern.blockComment_writtenAs start stop false).rule hblock .comment relevance

/-- An end marker does not overlap the start marker, and none is needed at the end of the source. -/
theorem comments_compile_overlap :
    "/" ≠ "" ∧ "/*" ≠ "" ∧ "*/" ≠ "" ∧
    ((lineComment (.string "/") 0).Encloses "a" .comment "/".toList Source.LineEnds
        (lineCommentText "/") ∧
      (blockComment (.string "/*") (.string "*/") 0).Encloses "a" .comment "/*".toList
        (·.Closes "*/".toList) (blockCommentText "/*" "*/")) ∧
    (Pattern.blockComment .exact "/*" "*/").matchEnd? (.ofString "/*/ */ */") 0 = some 6 ∧
    (Pattern.blockComment .exact "/*" "*/").matchEnd? (.ofString "/*/") 0 = some 3 :=
  ⟨by decide, by decide, by decide,
    comments_compile "a" (by decide) (by decide) (by decide) 0,
    by decide +kernel, by decide +kernel⟩

/-! ## Quoted strings -/

theorem compile_quotedString [CharacterNames] (language : String) (quote : Char) (relevance : Int) :
    (quotedString (.string (String.singleton quote)) relevance).compile language false =
      .ok [.token .string (.quotedString .exact quote) relevance] := by
  have hne : String.singleton quote ≠ "" := by simp
  have hlist : (String.singleton quote).toList = [quote] := by simp
  unfold compile
  dsimp only
  rw [Compiling.marker_string _ _ hne]
  change Except.bind (Except.ok _) _ = _
  unfold Except.bind
  dsimp only
  rw [hlist]
  rfl

theorem encloses_quotedString (quote : Char) (relevance : Int) :
    (Rule.token .string (.quotedString .exact quote) relevance).Encloses .string [quote]
      (·.StringEnds quote) where
  found := by
    intro src pos hpos hat
    have hquote : src[pos]? = some quote := hat.1
    have hlt := Source.lt_size hquote
    obtain ⟨inside, hinside⟩ := src.exists_quoted quote (pos + 1)
    have hle : pos + 1 ≤ src.skip (· = quote) inside :=
      Nat.le_trans hinside.le (src.le_skip _ inside)
    refine ⟨_, ⟨hinside.skip_eq_stringEnd, ?_⟩, Rule.hit?_token_of_matchEnd?
      (Pattern.matchEnd?_quotedString.mpr ⟨hquote, inside, hinside, rfl⟩) (by omega)⟩
    refine hinside.closesString ⟨Nat.le_refl _, hlt⟩ ?_ fun i hi hclosing => ?_
    · rw [List.length_singleton, Source.slashesBefore_self]
    · have := hclosing.le
      rw [List.length_singleton] at this
      omega
  notFound := by
    intro src pos _ hat
    refine Rule.hit?_token_eq_none (Option.eq_none_iff_forall_ne_some.mpr fun stop h => ?_)
    exact hat ⟨(Pattern.matchEnd?_quotedString.mp h).1, trivial⟩

/-- **A quoted string is found just where its quote is, and ends where going through it does.** -/
theorem quotedString_compile [CharacterNames] (language : String) (quote : Char) (relevance : Int) :
    (quotedString (.string (String.singleton quote)) relevance).Encloses language .string [quote]
      (·.StringEnds quote) (quotedStringText quote) := by
  have htext : quotedStringText quote ≠ "" := by simp [quotedStringText]
  exact ⟨_, compile_quotedString language quote relevance, encloses_quotedString quote relevance,
    (Pattern.quotedString_writtenAs quote false).rule htext .string relevance⟩

end RuleDescription
end Lexlight
