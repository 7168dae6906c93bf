import Lexlight.Proofs.Pattern.Enclosed
import Lexlight.Proofs.Pattern.Takes

/-!
# Comments and quoted strings as they are written

The patterns of comments and quoted strings are made from markers without a text in between. Here
they are written out as texts, with the markers escaped, and read again: whatever the markers are,
the text is read without a fault, and what is read matches as the pattern that was made
(`Pattern.WrittenAs`).

It is not the same pattern. Reading keeps the characters of a marker and the rest in one row, where
a made pattern has the marker as a part of its own, and any character is written as a blank or no
blank.
-/

namespace Lexlight

open Reading

/-! ## Texts -/

/-- A text with a backslash before every character that has a meaning in patterns. -/
def escapedText (s : String) : String := String.ofList (spelled s.toList)

/-- The text of a pattern for a line comment. -/
def lineCommentText (marker : String) : String := escapedText marker ++ "[^\\r\\n]*"

/-- The text of a pattern for a block comment. -/
def blockCommentText (start stop : String) : String :=
  escapedText start ++ "[\\s\\S]*?(?:" ++ escapedText stop ++ "|\\Z)"

/-- The text of a pattern for a quoted string. -/
def quotedStringText (quote : Char) : String :=
  let q := escapedText (String.singleton quote)
  q ++ "(?:[^" ++ q ++ "\\\\]|\\\\[\\s\\S]?)*" ++ q ++ "?"

namespace Reading

variable {rest u v : List Char} {n : Nat} {start : Bool} {flags : Flags} {before : List Entry}
  {ps : List Part}

/-! ## Sets -/

/-- All characters that do not end a line. -/
theorem takes_bracketed_inLine [CharacterNames] (pos : Nat) (hrest : rest ≠ ['\\']) :
    Takes (bracketed flags pos) ['^', '\\', 'r', '\\', 'n', ']'] rest
      (.oneOf [.one 13, .one 10] flags.fold true) := by
  refine takes_bracketed (v := ['^']) (u := ['\\', 'r', '\\', 'n', ']']) (k := 3)
    (l := [.one 13, .one 10]) (by decide) (takes_accept (by decide) (by simp)) fun n => ?_
  refine takes_setMembers_escaped (by simp) (Takes.pure (SetMember.one 13) _)
    (by simp [headGlyph?]) ?_
  refine takes_setMembers_escaped (by simp) (Takes.pure (SetMember.one 10) _)
    (by simp [headGlyph?]) ?_
  exact takes_setMembers_end hrest (by simp) pos

/-- The set of all blanks and of all that is no blank. -/
def anything (fold : Fold) : CharTest :=
  .oneOf [.kind .blank false false, .kind .blank false true] fold false

theorem takes_bracketed_anything [CharacterNames] (hascii : flags.ascii = false) (pos : Nat)
    (hrest : rest ≠ ['\\']) :
    Takes (bracketed flags pos) ['\\', 's', '\\', 'S', ']'] rest (anything flags.fold) := by
  have hs : Takes (setEscape flags 's') [] ('\\' :: 'S' :: ']' :: rest)
      (.kind .blank flags.ascii false) := Takes.pure _ _
  have hS : Takes (setEscape flags 'S') [] (']' :: rest) (.kind .blank flags.ascii true) :=
    Takes.pure _ _
  rw [hascii] at hs hS
  refine takes_bracketed (v := []) (u := ['\\', 's', '\\', 'S', ']']) (k := 3)
    (l := [.kind .blank false false, .kind .blank false true]) (by decide)
    (takes_accept_not (by simp [headGlyph?])) fun n => ?_
  refine takes_setMembers_escaped (by simp) hs (by simp [headGlyph?]) ?_
  refine takes_setMembers_escaped (by simp) hS (by simp [headGlyph?]) ?_
  exact takes_setMembers_end hrest (by simp) pos

/-- All characters but a quote and the backslash. -/
theorem takes_bracketed_unquoted [CharacterNames] (quote : Char) (pos : Nat)
    (hrest : rest ≠ ['\\']) :
    Takes (bracketed flags pos) ('^' :: ((glyphOf quote).text ++ ['\\', '\\', ']'])) rest
      (Pattern.unquoted flags.fold quote) := by
  have htest : Pattern.unquoted flags.fold quote =
      setTest flags.fold true [.one quote.toNat, .one 92] := by
    by_cases hquote : quote = '\\'
    · subst hquote
      rfl
    · have hne : ¬ 92 = quote.toNat := fun h => hquote (Char.toNat_inj.mp h.symm)
      simp [Pattern.unquoted, setTest, List.eraseDups_cons, hquote, hne]
  have hmark : (glyphOf quote).text ++ ['\\', '\\', ']'] ++ rest ≠ ['\\'] := by
    simpa using append_cons_ne (c := ']') (by decide) ((glyphOf quote).text ++ ['\\', '\\']) rest
  rw [htest]
  refine takes_bracketed (v := ['^']) (k := 3) (by simp) (takes_accept (by decide) hmark)
    fun n => ?_
  refine takes_setMembers_glyph quote (by simp) (by simp [headGlyph?]) ?_
  refine takes_setMembers_escaped (by simp) (Takes.pure (SetMember.one 92) _)
    (by simp [headGlyph?]) ?_
  exact takes_setMembers_end hrest (by simp) pos

/-! ## Sequences -/

theorem takes_lineComment [CharacterNames] (hverbose : flags.verbose = false) {m : List Char}
    (hn : m.length + 3 ≤ n) :
    Takes (sequence n start flags [])
      (spelled m ++ ['[', '^', '\\', 'r', '\\', 'n', ']', '*']) []
      (charParts flags.fold m ++ [⟨.repetition,
        .rep (.char (.oneOf [.one 13, .one 10] flags.fold true)) 0 none .greedy⟩]) := by
  obtain ⟨k, rfl⟩ : ∃ k, n = k + 3 + m.length := ⟨n - 3 - m.length, by omega⟩
  refine takes_sequence_spelled hverbose (by simp) m ?_
  refine takes_sequence_set (v := ['^', '\\', 'r', '\\', 'n', ']']) (u := ['*']) hverbose
    (by simp) (fun pos => takes_bracketed_inLine pos (by simp)) ?_
  refine takes_sequence_greedy (Or.inl rfl) rfl (fun _ => rfl) hverbose (by simp)
    (by simp [headGlyph?]) (by simp [headGlyph?]) ?_
  refine takes_sequence_end ?_ (Or.inl rfl)
  simp [Entry.parts, Part.ofTest]

/-- The end of a block comment. -/
theorem takes_opened_closing [CharacterNames] (hverbose : flags.verbose = false) {m : List Char}
    (hn : m.length + 5 ≤ n) (start : Bool) (pos : Nat) :
    Takes (opened n start flags pos) ('?' :: ':' :: (spelled m ++ ['|', '\\', 'Z', ')'])) []
      (.entry (.bundle (Part.alternatives
        [charParts flags.fold m, [⟨.anchor, .anchor .textEnd⟩]]))) := by
  obtain ⟨k, rfl⟩ : ∃ k, n = k + 5 := ⟨n - 5, by omega⟩
  have hmarker : Takes (sequence (k + 3) false flags []) (spelled m)
      ['|', '\\', 'Z', ')'] (charParts flags.fold m) :=
    takes_sequence_only hverbose (by omega) (Or.inr ⟨'|', rfl, Or.inl rfl⟩)
  have hend : Takes (sequence (k + 2) false flags []) ['\\', 'Z'] [')']
      [⟨.anchor, .anchor .textEnd⟩] :=
    takes_sequence_escape (by simp) (Takes.pure _ _)
      (takes_sequence_end rfl (Or.inr ⟨')', rfl, Or.inr rfl⟩))
  have hbranches : Takes (branches false (k + 4) true flags)
      (spelled m ++ '|' :: ['\\', 'Z']) [')'] _ :=
    takes_branches_more (by simp) hmarker (takes_branches_last (by simp [headGlyph?]) hend)
  have hgroup := takes_opened_bundle (by simp) hbranches start pos
  rwa [List.append_assoc] at hgroup

theorem takes_blockComment [CharacterNames] (hverbose : flags.verbose = false)
    (hascii : flags.ascii = false) {a b : List Char} (hn : a.length + b.length + 9 ≤ n) :
    Takes (sequence n start flags [])
      (spelled a ++ ['[', '\\', 's', '\\', 'S', ']', '*', '?', '(', '?', ':'] ++
        (spelled b ++ ['|', '\\', 'Z', ')'])) []
      (charParts flags.fold a ++
        ⟨.repetition, .rep (.char (anything flags.fold)) 0 none .lazy⟩ ::
        Part.alternatives [charParts flags.fold b, [⟨.anchor, .anchor .textEnd⟩]]) := by
  obtain ⟨k, rfl⟩ : ∃ k, n = k + b.length + 9 + a.length :=
    ⟨n - 9 - b.length - a.length, by omega⟩
  have hgroup := takes_opened_closing hverbose (show b.length + 5 ≤ k + b.length + 6 by omega)
  -- the group is read as a whole, so its text need not be looked into again
  generalize hv : '?' :: ':' :: (spelled b ++ ['|', '\\', 'Z', ')']) = v at hgroup
  have htext : spelled a ++ ['[', '\\', 's', '\\', 'S', ']', '*', '?', '(', '?', ':'] ++
      (spelled b ++ ['|', '\\', 'Z', ')']) =
      spelled a ++ ('[' :: (['\\', 's', '\\', 'S', ']'] ++ '*' :: (['?'] ++ '(' :: v))) := by
    rw [← hv]
    simp
  rw [htext]
  refine takes_sequence_spelled hverbose (by simp) a ?_
  refine takes_sequence_set (v := ['\\', 's', '\\', 'S', ']']) (u := '*' :: (['?'] ++ '(' :: v))
    hverbose (by simp) (fun pos => takes_bracketed_anything hascii pos (by simp)) ?_
  refine takes_sequence_quantifier (v := ['?']) (u := '(' :: v) (Or.inl rfl) hverbose (by simp)
    (takes_quantifier rfl (fun _ => rfl) (takes_greedMark_lazy (by simp))) ?_
  have hlast : v ++ [] ++ [] ≠ ['\\'] := by
    rw [← hv]
    simp
  rw [← List.append_nil v]
  refine takes_sequence_group hverbose hlast (hgroup _) (takes_sequence_end ?_ (Or.inl rfl))
  simp [Entry.parts, Part.ofTest]

/-- The two kinds of rounds inside of a quoted string. -/
def quotedRounds (fold : Fold) (quote : Char) : List (List Part) :=
  [[.ofTest (Pattern.unquoted fold quote)],
   [.ofChar fold '\\', ⟨.repetition, .rep (.char (anything fold)) 0 (some 1) .greedy⟩]]

theorem takes_opened_rounds [CharacterNames] (hverbose : flags.verbose = false)
    (hascii : flags.ascii = false) (quote : Char) (hrest : rest ≠ ['\\']) (pos : Nat) :
    Takes (opened (n + 8) start flags pos)
      ('?' :: ':' :: ('[' :: ('^' :: ((glyphOf quote).text ++ ['\\', '\\', ']'])) ++
        '|' :: ['\\', '\\', '[', '\\', 's', '\\', 'S', ']', '?'] ++ [')'])) rest
      (.entry (.bundle (Part.alternatives (quotedRounds flags.fold quote)))) := by
  have hplain : Takes (sequence (n + 6) false flags [])
      ('[' :: ('^' :: ((glyphOf quote).text ++ ['\\', '\\', ']'])))
      ('|' :: ['\\', '\\', '[', '\\', 's', '\\', 'S', ']', '?'] ++ ')' :: rest)
      [.ofTest (Pattern.unquoted flags.fold quote)] := by
    rw [← List.append_nil ('^' :: _)]
    exact takes_sequence_set hverbose (append_cons_ne (by decide) _ _)
      (fun pos => takes_bracketed_unquoted quote pos (by simp))
      (takes_sequence_end rfl (Or.inr ⟨'|', rfl, Or.inl rfl⟩))
  have hescaped : Takes (sequence (n + 5) false flags [])
      ['\\', '\\', '[', '\\', 's', '\\', 'S', ']', '?'] (')' :: rest)
      [.ofChar flags.fold '\\',
        ⟨.repetition, .rep (.char (anything flags.fold)) 0 (some 1) .greedy⟩] := by
    refine takes_sequence_escape (by simp) (takes_special flags (by decide) _).1 ?_
    refine takes_sequence_set (v := ['\\', 's', '\\', 'S', ']']) (u := ['?']) hverbose (by simp)
      (fun pos => takes_bracketed_anything hascii pos (by simp)) ?_
    refine takes_sequence_greedy (Or.inr rfl) rfl (fun _ => rfl) hverbose (by simp)
      (by simp [headGlyph?]) (by simp [headGlyph?]) ?_
    exact takes_sequence_end rfl (Or.inr ⟨')', rfl, Or.inr rfl⟩)
  exact takes_opened_bundle hrest (takes_branches_more (by simp) hplain
    (takes_branches_last (by simp [headGlyph?]) hescaped)) start pos

theorem takes_quotedString [CharacterNames] (hverbose : flags.verbose = false)
    (hascii : flags.ascii = false) (quote : Char) (hn : 12 ≤ n) :
    Takes (sequence n start flags [])
      ((glyphOf quote).text ++ '(' :: ('?' :: ':' ::
        ('[' :: ('^' :: ((glyphOf quote).text ++ ['\\', '\\', ']'])) ++
        '|' :: ['\\', '\\', '[', '\\', 's', '\\', 'S', ']', '?'] ++ [')']) ++
        '*' :: ((glyphOf quote).text ++ ['?']))) []
      [.ofChar flags.fold quote,
        ⟨.repetition,
          .rep (Part.sequence (Part.alternatives (quotedRounds flags.fold quote))) 0 none .greedy⟩,
        ⟨.repetition, .rep (.char (.ofChar flags.fold quote)) 0 (some 1) .greedy⟩] := by
  obtain ⟨k, rfl⟩ : ∃ k, n = k + 12 := ⟨n - 12, by omega⟩
  refine takes_sequence_glyph quote hverbose (by simp) ?_
  refine takes_sequence_group hverbose (by simp)
    (takes_opened_rounds (n := k + 2) hverbose hascii quote (by simp)) ?_
  -- what comes next is the quote, and a sign that would change the star is escaped as a quote
  have hnext : ∀ c ∈ special,
      headGlyph? ((glyphOf quote).text ++ ['?'] ++ []) ≠ some (.plain c) := by
    intro c hc
    rw [List.append_assoc, headGlyph?_glyphOf]
    exact fun h => glyphOf_ne_plain hc quote (Option.some.inj h)
  refine takes_sequence_greedy (Or.inl rfl) rfl (fun _ => rfl) hverbose
    (by simpa using append_cons_ne (c := '?') (by decide) (glyphOf quote).text [])
    (hnext '?' (by decide)) (hnext '+' (by decide)) ?_
  refine takes_sequence_glyph quote hverbose (by simp) ?_
  refine takes_sequence_greedy (Or.inr rfl) rfl (fun _ => rfl) hverbose (by simp)
    (by simp [headGlyph?]) (by simp [headGlyph?]) ?_
  exact takes_sequence_end rfl (Or.inl rfl)

end Reading

/-! ## Patterns -/

namespace Pattern

/-- Whether a text is read as a pattern that matches as the given one does. -/
def WrittenAs [CharacterNames] (p : Pattern) (text : String) (ignoreCase : Bool) : Prop :=
  ∃ q, Pattern.read text ignoreCase = .ok q ∧ ∀ src, q.run src = p.run src

theorem accepts_anything (fold : Fold) : (anything fold).accepts = CharTest.any.accepts := by
  funext c
  cases h : CharClass.blank.holds false c <;>
    simp [anything, CharTest.accepts, SetMember.accepts, h]

theorem run_anything (fold : Fold) (src : Source) :
    (Pattern.char (anything fold)).run src = (Pattern.char .any).run src := by
  funext s k
  rw [run_char, run_char, accepts_anything]

theorem fold_flags (ignoreCase : Bool) :
    Flags.fold { ignoreCase := ignoreCase } = foldFor ignoreCase := by
  cases ignoreCase <;> rfl

/-- A row of patterns has a flaw only where one of them has. -/
theorem flaw?_ofList (plain : Bool) : ∀ {ps : List Pattern}, (∀ p ∈ ps, flaw? plain p = none) →
    flaw? plain (ofList ps) = none
  | [], _ => rfl
  | [p], h => h p (List.mem_singleton.mpr rfl)
  | p :: q :: rest, h => by
      obtain ⟨hp, hrest⟩ := List.forall_mem_cons.mp h
      rw [ofList, flaw?, hp, flaw?_ofList plain hrest]
      · rfl
      · simp

/-- A pattern is written as a text that is read as one sequence of parts, if these match as the
pattern does. -/
theorem writtenAs_of_takes [CharacterNames] {p : Pattern} {text : String} {u : List Char}
    {ignoreCase : Bool} {ps : List Part} (htext : text.toList = u) (hu : u ≠ ['\\'])
    (h : Takes (sequence (3 * u.length + 2) true { ignoreCase := ignoreCase } []) u [] ps)
    (hflaw : ∀ part ∈ ps, flaw? false part.pattern = none)
    (hrun : ∀ src, (Part.sequence ps).run src = p.run src) : p.WrittenAs text ignoreCase := by
  subst htext
  have halternatives : Takes (branches true (3 * text.toList.length + 3) true
      { ignoreCase := ignoreCase }) text.toList [] [ps] :=
    takes_branches_last (by simp [headGlyph?]) h
  refine ⟨Part.sequence ps, read_of_takes hu halternatives (flaw?_ofList false ?_), hrun⟩
  intro q hq
  obtain ⟨part, hpart, rfl⟩ := List.mem_map.mp hq
  exact hflaw part hpart

theorem flaw?_literal (fold : Fold) (m : String) : flaw? false (literal fold m) = none :=
  flaw?_ofList false fun p hp => by
    obtain ⟨c, -, rfl⟩ := List.mem_map.mp hp
    rfl

theorem flaw?_charParts (fold : Fold) (m : List Char) :
    ∀ part ∈ charParts fold m, flaw? false part.pattern = none := by
  intro part hpart
  obtain ⟨c, -, rfl⟩ := List.mem_map.mp hpart
  rfl

theorem sequence_charParts (fold : Fold) (m : String) :
    Part.sequence (charParts fold m.toList) = literal fold m := by
  rw [Part.sequence, charParts, List.map_map]
  rfl

/-- Characters as parts match as the literal does. -/
theorem run_charParts_append (fold : Fold) (m : String) (ps : List Part) (src : Source)
    (s : MatchState) (k : MatchState → Option MatchState) :
    (Part.sequence (charParts fold m.toList ++ ps)).run src s k =
      (literal fold m).run src s fun s' => (Part.sequence ps).run src s' k := by
  rw [← sequence_charParts, Part.sequence, List.map_append, run_ofList_append]
  rfl

/-- What matches alike can be repeated alike. -/
theorem run_rep_congr {p q : Pattern} {src : Source} (h : p.run src = q.run src) (least : Nat)
    (most : Option Nat) (greed : Greed) :
    (Pattern.rep p least most greed).run src = (Pattern.rep q least most greed).run src := by
  funext s k
  simp only [run, h]

/-- **A line comment is written as its text**, whatever its marker. -/
theorem lineComment_writtenAs [CharacterNames] (marker : String) (ignoreCase : Bool) :
    (lineComment (foldFor ignoreCase) marker).WrittenAs (lineCommentText marker) ignoreCase := by
  have htext : (lineCommentText marker).toList =
      spelled marker.toList ++ ['[', '^', '\\', 'r', '\\', 'n', ']', '*'] := by
    rw [lineCommentText, escapedText, String.toList_append, String.toList_ofList]
    rfl
  have hlen := length_le_length_spelled marker.toList
  refine writtenAs_of_takes htext (append_cons_ne (by decide) _ _)
    (takes_lineComment rfl ?_) ?_ fun src => ?_
  · simp only [List.length_append, List.length_cons]
    omega
  · intro part hpart
    rcases List.mem_append.mp hpart with hpart | hpart
    · exact flaw?_charParts _ _ part hpart
    · rw [List.mem_singleton.mp hpart]
      rfl
  · funext s k
    rw [run_charParts_append, fold_flags, lineComment, run_seq]
    rfl

/-- A choice between a literal and the end of the source. -/
theorem alternatives_closing (fold : Fold) (m : List Char) :
    Part.alternatives [charParts fold m, [⟨.anchor, .anchor .textEnd⟩]] =
      [⟨.closed, .alt (Part.sequence (charParts fold m)) (.anchor .textEnd)⟩] := by
  cases m with
  | nil => rfl
  | cons c m => cases m <;> rfl

/-- **A block comment is written as its text**, whatever its markers. -/
theorem blockComment_writtenAs [CharacterNames] (start stop : String) (ignoreCase : Bool) :
    (blockComment (foldFor ignoreCase) start stop).WrittenAs (blockCommentText start stop)
      ignoreCase := by
  have htext : (blockCommentText start stop).toList =
      spelled start.toList ++ ['[', '\\', 's', '\\', 'S', ']', '*', '?', '(', '?', ':'] ++
        (spelled stop.toList ++ ['|', '\\', 'Z', ')']) := by
    simp only [blockCommentText, escapedText, String.toList_append, String.toList_ofList,
      List.append_assoc]
    rfl
  have hstart := length_le_length_spelled start.toList
  have hstop := length_le_length_spelled stop.toList
  refine writtenAs_of_takes htext ?_ (takes_blockComment rfl rfl ?_) ?_ fun src => ?_
  · rw [List.append_assoc]
    exact append_cons_ne (by decide) _ _
  · simp only [List.length_append, List.length_cons]
    omega
  · rw [alternatives_closing]
    intro part hpart
    rcases List.mem_append.mp hpart with hpart | hpart
    · exact flaw?_charParts _ _ part hpart
    · simp only [List.mem_cons, List.not_mem_nil, or_false] at hpart
      rcases hpart with rfl | rfl
      · rfl
      · rw [sequence_charParts, flaw?, flaw?_literal]
        rfl
  · funext s k
    rw [alternatives_closing, run_charParts_append, sequence_charParts, fold_flags, blockComment,
      run_seq]
    simp only [run_seq, ← run_rep_congr (run_anything (foldFor ignoreCase) src)]
    rfl

theorem alternatives_quotedRounds (fold : Fold) (quote : Char) :
    Part.alternatives (quotedRounds fold quote) =
      [⟨.closed, .alt (.char (unquoted fold quote))
        (.seq (.char (.ofChar fold '\\')) (.rep (.char (anything fold)) 0 (some 1) .greedy))⟩] := by
  unfold quotedRounds unquoted
  split
  · cases fold <;> rfl
  · rfl

theorem run_quotedRounds (fold : Fold) (quote : Char) (src : Source) :
    (Part.sequence (Part.alternatives (quotedRounds fold quote))).run src =
      (Pattern.alt (.char (unquoted fold quote))
        (.seq (.char (.ofChar fold '\\')) (.rep (.char .any) 0 (some 1) .greedy))).run src := by
  rw [alternatives_quotedRounds]
  funext s k
  change (Pattern.alt _ _).run src s k = _
  rw [run_alt, run_alt, run_seq, run_seq, run_rep_congr (run_anything fold src)]

/-- **A quoted string is written as its text**, whatever its quote. -/
theorem quotedString_writtenAs [CharacterNames] (quote : Char) (ignoreCase : Bool) :
    (quotedString (foldFor ignoreCase) quote).WrittenAs (quotedStringText quote) ignoreCase := by
  have hq : (escapedText (String.singleton quote)).toList = (glyphOf quote).text := by
    simp [escapedText, spelled]
  have htext : (quotedStringText quote).toList =
      (glyphOf quote).text ++ '(' :: ('?' :: ':' ::
        ('[' :: ('^' :: ((glyphOf quote).text ++ ['\\', '\\', ']'])) ++
        '|' :: ['\\', '\\', '[', '\\', 's', '\\', 'S', ']', '?'] ++ [')']) ++
        '*' :: ((glyphOf quote).text ++ ['?'])) := by
    simp only [quotedStringText, String.toList_append, hq]
    simp
  refine writtenAs_of_takes htext ?_ (takes_quotedString rfl rfl quote ?_) ?_ fun src => ?_
  · exact append_cons_ne (by decide) _ _
  · simp only [List.length_append, List.length_cons]
    omega
  · rw [alternatives_quotedRounds]
    intro part hpart
    simp only [List.mem_cons, List.not_mem_nil, or_false] at hpart
    rcases hpart with rfl | rfl | rfl <;> rfl
  · funext s k
    rw [fold_flags]
    change (Pattern.seq _ (.seq _ _)).run src s k = (Pattern.seq _ (.seq _ _)).run src s k
    simp only [run_seq, run_rep_congr (run_quotedRounds (foldFor ignoreCase) quote src)]
    rfl

end Pattern
end Lexlight
