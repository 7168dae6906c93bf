import Lexlight.Highlight
import Lexlight.Proofs.Markup.Lines
import Lexlight.Proofs.Registry.Run
import Lexlight.Proofs.Scan.Cover

/-!
# Highlighting keeps the text

Whatever is highlighted can be read back. The tokens of a text, put together, are the text; rendered
whole or by lines they show it, and the spans of lines and of line numbers put nothing in between
but the numbers. So without numbers the body of the markup decodes to the text, and where lines are
emphasized or numbered it has the lines of the text, each finished as it was asked for
(`highlight_faithful`).
-/

namespace Lexlight

/-- Settings whose class names, those that stand in the body of markup, are plain. -/
structure Settings.Plain (s : Settings) : Prop where
  classStart : Markup.PlainClass s.classStart
  lineClass : Markup.PlainClass s.lineClass
  numberClass : Markup.PlainClass s.numberClass

/-- The tokens of a text, put together, are the text. -/
theorem Grammar.Compiled.flatMap_text [CharacterNames] {g : Grammar} (hg : g.Compiled)
    (code : String) :
    ((g.tokenize code).map Token.toPiece).flatMap (·.text.toList) = code.toList := by
  obtain ⟨language, offer, hcompile⟩ := hg
  have hcovers := (Grammar.tokenize_partition hcompile code).2.1
  rw [List.flatMap_map, hcovers.flatMap_text]
  simp [Source.ofString]

namespace Markup

/-! ## Numbers -/

/-- Whether a number stands at the right end of a field of some width, with blanks before it. -/
def RightAligned (width k : Nat) (s : String) : Prop :=
  s.length = width ∧ ∃ blanks, s.toList = List.replicate blanks ' ' ++ (toString k).toList

/-- A number is no shorter than one before it. -/
theorem length_toString_le {k n : Nat} (h : k ≤ n) :
    (toString k).length ≤ (toString n).length := by
  have hpos : 0 < n.repr.length := Nat.length_repr_pos
  have hn := (Nat.length_repr_le_iff hpos).mp (Nat.le_refl n.repr.length)
  exact (Nat.length_repr_le_iff hpos).mpr (by omega)

theorem padLeft_rightAligned {k n : Nat} (h : k ≤ n) :
    RightAligned (toString n).length k (padLeft (toString n).length (toString k)) := by
  have hle := length_toString_le h
  refine ⟨?_, _, String.toList_ofList⟩
  rw [padLeft, String.length_ofList, List.length_append, List.length_replicate,
    String.length_toList]
  omega

theorem break_notMem_padLeft (width k : Nat) : '\n' ∉ (padLeft width (toString k)).toList := by
  rw [padLeft, String.toList_ofList, List.mem_append, not_or]
  constructor
  · exact fun h => absurd (List.eq_of_mem_replicate h) (by decide)
  · intro h
    rw [Nat.toString_eq_repr, Nat.toList_repr] at h
    exact absurd (Nat.isDigit_of_mem_toDigits (by decide) (by decide) h) (by decide)

@[simp]
theorem any_isNumber (k : Nat) (emphasized : List Int) :
    (emphasized.map Value.int).any (·.isNumber k) = decide ((k : Int) ∈ emphasized) := by
  rw [Bool.eq_iff_iff]
  simp [Value.isNumber]

/-! ## Finished lines -/

/-- Whether a line is the `k`th of `n`, as it was asked for: in one span if it is emphasized, after
one with its number if lines are numbered, and with markup for the text of its line. -/
def FinishedLine (settings : Settings) (numbered : Bool) (emphasized : List Int) (n k : Nat)
    (text : List Char) (line : String) : Prop :=
  ∃ number content rest row,
    RightAligned (toString n).length k number ∧
    line = (if (k : Int) ∈ emphasized then span settings.lineClass content else content) ∧
    content = (if numbered then span settings.numberClass number ++ rest else rest) ∧
    read rest = some row ∧ row.map Prod.fst = text ∧ decode rest = String.ofList text ∧
    ∀ m ∈ row, ∃ c : Category, m.2 = classOf? settings.classStart c

/-- Whether a body has the lines of a text, each as it was asked for. -/
def FinishedBody (settings : Settings) (numbered : Bool) (emphasized : List Int)
    (code body : String) : Prop :=
  let n := code.toList.count '\n' + 1
  (body.toList.splitOn '\n').length = n ∧ (code.toList.splitOn '\n').length = n ∧
    ∀ (k : Nat) (line text : List Char), (body.toList.splitOn '\n')[k]? = some line →
      (code.toList.splitOn '\n')[k]? = some text →
      FinishedLine settings numbered emphasized n (k + 1) text (String.ofList line)

theorem break_notMem_span {cls body : String} (hcls : PlainClass cls)
    (hbody : '\n' ∉ body.toList) : '\n' ∉ (span cls body).toList := by
  have hopening := List.count_eq_zero.mp (count_openingTag hcls)
  have hclosing : '\n' ∉ closingTag ++ ['>'] := by decide
  rw [toList_span]
  simp only [List.mem_cons, List.mem_append] at hclosing ⊢
  rintro (h | h | h | h | h | h)
  · exact absurd h (by decide)
  · exact hopening h
  · exact absurd h (by decide)
  · exact hbody h
  · exact absurd h (by decide)
  · exact hclosing h

variable {settings : Settings} {emphasized : List Int}

theorem finishLine_eq (numbered : Bool) (width k : Nat) (line : String) :
    finishLine settings numbered (emphasized.map .int) width k line =
      let content :=
        if numbered then span settings.numberClass (padLeft width (toString k)) ++ line else line
      if (k : Int) ∈ emphasized then span settings.lineClass content else content := by
  simp only [finishLine, any_isNumber, decide_eq_true_eq]

theorem break_notMem_finishLine (hs : settings.Plain) (numbered : Bool) (width k : Nat)
    {line : String} (hline : '\n' ∉ line.toList) :
    '\n' ∉ (finishLine settings numbered (emphasized.map .int) width k line).toList := by
  rw [finishLine_eq]
  have hcontent : '\n' ∉ (if numbered then
      span settings.numberClass (padLeft width (toString k)) ++ line else line).toList := by
    split
    · rw [String.toList_append, List.mem_append, not_or]
      exact ⟨break_notMem_span hs.numberClass (break_notMem_padLeft width k), hline⟩
    · exact hline
  dsimp only
  split
  · exact break_notMem_span hs.lineClass hcontent
  · exact hcontent

/-- A line without a number shows its text, emphasized or not. -/
theorem finishLine_shows (hs : settings.Plain) (width k : Nat) {line : String} {text : List Char}
    (h : Shows line.toList text) :
    Shows (finishLine settings false (emphasized.map .int) width k line).toList text := by
  rw [finishLine_eq]
  dsimp only [Bool.false_eq_true, if_false]
  split
  · exact Shows.span hs.lineClass h
  · exact h

/-! ## Bodies -/

/-- Lines that are something one by one are so when each is made into another by its number. -/
theorem forall₂_map_zipIdx {α β γ : Type} {R : α → β → Prop} {S : γ → β → Prop} {f : α × Nat → γ}
    (hf : ∀ a b k, R a b → S (f (a, k)) b) :
    ∀ {as : List α} {bs : List β}, List.Forall₂ R as bs → ∀ i,
      List.Forall₂ S ((as.zipIdx i).map f) bs
  | [], [], .nil, _ => .nil
  | _ :: _, _ :: _, .cons h hs, i => .cons (hf _ _ i h) (forall₂_map_zipIdx hf hs (i + 1))

/-- Lines of markup, put together, show the lines that they show. -/
theorem Shows.intercalate {lines : List String} {texts : List (List Char)}
    (h : List.Forall₂ (fun line text => Shows line.toList text) lines texts) :
    Shows ("\n".intercalate lines).toList (['\n'].intercalate texts) := by
  induction h with
  | nil => exact Shows.escape []
  | @cons line text lines texts hline hlines ih =>
      cases hlines with
      | nil => simpa using hline
      | cons =>
          rw [String.intercalate_cons_cons, List.intercalate_cons_cons, String.toList_append,
            String.toList_append]
          exact (hline.append (Shows.escape ['\n'])).append ih

/-- The rows of pieces hold the lines of their text. -/
theorem rows_text (classStart : String) (ps : List Piece) :
    ((marks classStart ps).splitOnP isBreak).map (List.map Prod.fst) =
      (ps.flatMap (·.text.toList)).splitOn '\n' := by
  rw [← map_fst_marks classStart, List.splitOn_eq_splitOnP, splitOnP_map]
  rfl

/-- A mark of pieces has the class of some category. -/
theorem mem_marks {classStart : String} {ps : List Piece} {m : Mark}
    (h : m ∈ marks classStart ps) : ∃ c : Category, m.2 = classOf? classStart c := by
  obtain ⟨p, -, hm⟩ := List.mem_flatMap.mp h
  obtain ⟨_, -, rfl⟩ := List.mem_map.mp hm
  exact ⟨p.category, rfl⟩

variable {ps : List Piece} {code : String}

/-- Pieces rendered whole decode to their text. -/
theorem decode_render (hs : settings.Plain) (hcode : ps.flatMap (·.text.toList) = code.toList) :
    decode (render settings.classStart ps) = code := by
  have hshows := (render_renders hs.classStart ps).shows
  rw [map_fst_marks, hcode] at hshows
  rw [hshows.decode_eq, String.ofList_toList]

/-- Pieces rendered by lines, some of them emphasized but none with a number, decode to their
text. -/
theorem decode_finishLines (hs : settings.Plain)
    (hcode : ps.flatMap (·.text.toList) = code.toList) :
    decode (finishLines settings false (emphasized.map .int)
      (renderLines settings.classStart ps)) = code := by
  have hlines : List.Forall₂ (fun line text => Shows line.toList text)
      (renderLines settings.classStart ps) (code.toList.splitOn '\n') := by
    rw [← hcode, ← rows_text settings.classStart, List.forall₂_map_right_iff]
    exact List.Forall₂.imp (fun _ _ h => h.shows) (renderLines_renders hs.classStart ps)
  have hfinished := Shows.intercalate (forall₂_map_zipIdx (f := fun line =>
    finishLine settings false (emphasized.map .int)
      (toString (renderLines settings.classStart ps).length).length line.2 line.1)
    (fun _ _ k h => finishLine_shows hs _ k h) hlines 1)
  rw [List.intercalate_splitOn] at hfinished
  exact hfinished.decode_eq.trans String.ofList_toList

/-- **Pieces rendered by lines and finished** have the lines of their text, each as it was asked
for. -/
theorem finishLines_faithful (hs : settings.Plain) (numbered : Bool)
    (hcode : ps.flatMap (·.text.toList) = code.toList) :
    FinishedBody settings numbered emphasized code
      (finishLines settings numbered (emphasized.map .int)
        (renderLines settings.classStart ps)) := by
  have hlines := renderLines_renders hs.classStart ps
  have hlength := length_renderLines hs.classStart ps
  have hrows := rows_text settings.classStart ps
  rw [hcode] at hlength hrows
  -- no finished line has a line feed in it, so the body is cut where the lines were put together
  have hsplit : (finishLines settings numbered (emphasized.map .int)
      (renderLines settings.classStart ps)).toList.splitOn '\n' =
      ((renderLines settings.classStart ps).zipIdx 1).map fun p =>
        (finishLine settings numbered (emphasized.map .int)
          (toString (code.toList.count '\n' + 1)).length p.2 p.1).toList := by
    rw [finishLines, String.toList_intercalate, show "\n".toList = ['\n'] from rfl,
      List.splitOn_intercalate, List.map_map, hlength]
    · rfl
    · intro _ hfinished
      obtain ⟨_, hmem, rfl⟩ := List.mem_map.mp hfinished
      obtain ⟨⟨line, k⟩, hline, rfl⟩ := List.mem_map.mp hmem
      exact break_notMem_finishLine hs numbered _ k
        (break_notMem_renderLines hs.classStart (List.fst_mem_of_mem_zipIdx hline))
    · simp [← List.length_eq_zero_iff, hlength]
  refine ⟨by rw [hsplit, List.length_map, List.length_zipIdx, hlength], ?_, ?_⟩
  · rw [← hrows, List.length_map, ← hlines.length_eq, hlength]
  · intro k line text hline htext
    rw [hsplit, List.getElem?_map, List.getElem?_zipIdx, Option.map_map,
      Option.map_eq_some_iff] at hline
    rw [← hrows, List.getElem?_map, Option.map_eq_some_iff] at htext
    obtain ⟨rest, hrest, rfl⟩ := hline
    obtain ⟨row, hrow, rfl⟩ := htext
    have hrenders := hlines.of_getElem? hrest hrow
    have hk : 1 + k ≤ code.toList.count '\n' + 1 := by
      have := (List.getElem?_eq_some_iff.mp hrest).1
      omega
    refine ⟨_, _, rest, row, Nat.add_comm 1 k ▸ padLeft_rightAligned hk, ?_, rfl,
      hrenders.read_eq, rfl, hrenders.shows.decode_eq, fun m hm =>
        mem_marks (of_mem_splitOnP (List.mem_of_getElem? hrow) hm).1⟩
    rw [Function.comp_apply, String.ofList_toList, finishLine_eq, Nat.add_comm 1 k]

/-- Only the numbers of lines that there are make a difference, and each of them once. -/
theorem finishLines_congr (settings : Settings) {emphasized' : List Int} (numbered : Bool)
    {lines : List String}
    (h : ∀ k : Nat, 1 ≤ k → k ≤ lines.length → ((k : Int) ∈ emphasized ↔ (k : Int) ∈ emphasized')) :
    finishLines settings numbered (emphasized.map .int) lines =
      finishLines settings numbered (emphasized'.map .int) lines := by
  unfold finishLines
  dsimp only
  congr 1
  refine List.map_congr_left fun (line, k) hk => ?_
  have hlt := List.snd_lt_of_mem_zipIdx hk
  simp only [finishLine_eq, h k (List.le_snd_of_mem_zipIdx hk) (by omega)]

/-- What is asked of a highlighter by a text, the name of a language and the numbers of lines. -/
def request (code language : String) (emphasized? : Option (List Int)) (numbered : Bool) :
    HighlightRequest where
  code := code
  language := .string language
  lines? := emphasized?.map (·.map .int)
  numbered := numbered

/-- Where lines are neither emphasized nor numbered a text is rendered whole. -/
theorem body_eq (g : Grammar) (code language : String) (emphasized? : Option (List Int))
    (numbered : Bool) :
    body settings g (request code language emphasized? numbered) =
      if emphasized?.getD [] = [] ∧ numbered = false then
        render settings.classStart ((g.tokenize code).map Token.toPiece)
      else finishLines settings numbered ((emphasized?.getD []).map .int)
        (renderLines settings.classStart ((g.tokenize code).map Token.toPiece)) := by
  have hlines : (emphasized?.map (List.map Value.int)).getD [] =
      (emphasized?.getD []).map .int := by
    cases emphasized? <;> rfl
  simp only [body, request, hlines, List.isEmpty_iff, List.map_eq_nil_iff, Bool.and_eq_true,
    Bool.not_eq_true']

end Markup

/-! ## Looking up a language -/

namespace Registry

theorem Sound.find?_of_mem [CharacterNames] {r : Registry} (hr : r.Sound) {g : Grammar}
    (hg : g ∈ r.grammars) {key : String} (hkey : key ∈ g.keys) : r.find? key = some g := by
  rw [find?, hr.get?_eq_some.mpr ⟨hg, hkey⟩, Option.some_or]

/-- What is found is a grammar of the registry, and nothing is found without a name. -/
theorem Sound.of_find? [CharacterNames] {r : Registry} (hr : r.Sound) {g : Grammar}
    {language : String} (h : r.find? language = some g) : g.Compiled ∧ language ≠ "" := by
  have hnone : r.get? "" = none := by
    refine hr.get?_eq_none.mpr fun g hg hkey => ?_
    exact (hr.compiled g hg).names.nonempty "" hkey rfl
  have hfound : ∃ key, r.get? key = some g := by
    rcases Option.or_eq_some_iff.mp h with h | ⟨-, h⟩
    · exact ⟨_, h⟩
    · exact ⟨_, h⟩
  obtain ⟨key, hkey⟩ := hfound
  refine ⟨hr.compiled g (hr.get?_eq_some.mp hkey).1, ?_⟩
  rintro rfl
  have hlower : Unicode.lowercase "" = "" := rfl
  rw [find?, hlower, hnone] at h
  exact absurd h (by simp)

end Registry

namespace Markup

theorem highlight_of_find? [CharacterNames] {r : Registry} (hr : r.Sound) (settings : Settings)
    {g : Grammar} {language : String} (h : r.find? language = some g) (code : String)
    (emphasized? : Option (List Int)) (numbered : Bool) :
    r.highlight settings (request code language emphasized? numbered) =
      .ok (block (languageClass settings g.language)
        (body settings g (request code language emphasized? numbered))) := by
  have hname : (Value.string language).nonEmpty? = some language := by
    simp [Value.nonEmpty?, (hr.of_find? h).2]
  have hfind : ((Value.string language).nonEmpty?.bind r.find?) = some g := by
    rw [hname, Option.bind_some, h]
  unfold Registry.highlight
  rw [show (request code language emphasized? numbered).language = .string language from rfl, hfind]
  rfl

theorem highlight_of_not_find? {r : Registry} (settings : Settings) {language : String}
    (h : r.find? language = none) (code : String) (emphasized? : Option (List Int))
    (numbered : Bool) :
    r.highlight settings (request code language emphasized? numbered) =
      .ok (block (if language = "" then "" else
        languageClass settings (escapeAttribute language)) (escape code)) := by
  have hfind : ((Value.string language).nonEmpty?.bind r.find?) = none := by
    unfold Value.nonEmpty?
    dsimp only
    split
    · rfl
    · exact h
  unfold Registry.highlight
  rw [show (request code language emphasized? numbered).language = .string language from rfl, hfind]
  unfold unhighlighted
  by_cases hempty : language = ""
  · subst hempty; rfl
  · simp [request, Value.isSet, hempty]
    rfl

/--
**Highlighting loses nothing and puts nothing in.**

Every grammar of a registry is found by each of its names. A text in a language that is found
decodes to itself when its lines have no numbers; and when lines are emphasized or numbered, its
markup has the lines of the text, each as it was asked for. Of the lines to emphasize only the
numbers of lines that there are make a difference. A text in a language that is not found decodes to
itself as well.
-/
theorem highlight_faithful [CharacterNames] {r : Registry} (hr : r.Built) {settings : Settings}
    (hs : settings.Plain) (code : String) (emphasized? : Option (List Int)) (numbered : Bool) :
    (∀ g ∈ r.grammars, ∀ key ∈ g.keys, r.find? key = some g) ∧
    (∀ language g, r.find? language = some g → ∃ body,
      r.highlight settings (request code language emphasized? numbered) =
        .ok (block (languageClass settings g.language) body) ∧
      (numbered = false → decode body = code) ∧
      (emphasized?.getD [] ≠ [] ∨ numbered = true →
        FinishedBody settings numbered (emphasized?.getD []) code body) ∧
      (∀ emphasized : List Int, emphasized ≠ [] → emphasized?.getD [] ≠ [] →
        (∀ k : Nat, 1 ≤ k → k ≤ code.toList.count '\n' + 1 →
          ((k : Int) ∈ emphasized ↔ (k : Int) ∈ emphasized?.getD [])) →
        r.highlight settings (request code language (some emphasized) numbered) =
          .ok (block (languageClass settings g.language) body))) ∧
    (∀ language, r.find? language = none → ∃ body,
      r.highlight settings (request code language emphasized? numbered) =
        .ok (block (if language = "" then "" else
          languageClass settings (escapeAttribute language)) body) ∧
      decode body = code) := by
  have hsound := hr.sound
  refine ⟨fun g hg key hkey => hsound.find?_of_mem hg hkey, ?_, ?_⟩
  · intro language g hfind
    have hcode := (hsound.of_find? hfind).1.flatMap_text code
    refine ⟨_, highlight_of_find? hsound settings hfind code emphasized? numbered, ?_, ?_, ?_⟩
    · rintro rfl
      rw [body_eq]
      split
      · exact decode_render hs hcode
      · exact decode_finishLines hs hcode
    · intro hlines
      rw [body_eq, if_neg (by rintro ⟨hnone, rfl⟩; simp [hnone] at hlines)]
      exact finishLines_faithful hs numbered hcode
    · intro emphasized hne hne' hsame
      -- both requests are answered by lines, and the lines are numbered up to the same number
      have hlength := length_renderLines hs.classStart ((g.tokenize code).map Token.toPiece)
      rw [hcode] at hlength
      have hbody := finishLines_congr settings numbered fun k hk hle =>
        hsame k hk (hlength ▸ hle)
      rw [highlight_of_find? hsound settings hfind, body_eq, body_eq, if_neg (by simp [hne]),
        if_neg (fun h => hne' h.1), Option.getD_some, hbody]
  · intro language hfind
    refine ⟨_, highlight_of_not_find? settings hfind code emphasized? numbered, ?_⟩
    have hshows := Shows.escape code.toList
    rw [← String.toList_ofList (l := code.toList.flatMap escapeChar)] at hshows
    exact hshows.decode_eq.trans String.ofList_toList

/-- A language with comments that go over lines. -/
def commented : Offer :=
  .description {
    title := .string "Commented"
    aliases := [.string "cmt"]
    contains := [.comment (.string "/*") (.string "*/") 1] }

theorem highlight_faithful_commented :
    ∃ r : Registry, r.Built ∧ Settings.Plain {} ∧ ∃ g body, r.find? "cmt" = some g ∧
      r.highlight {} (request "a<b /* x\n\n*/ &amp;" "cmt" (some [2, 9, 2]) true) =
        .ok (block (languageClass {} g.language) body) ∧
      FinishedBody {} true [2, 9, 2] "a<b /* x\n\n*/ &amp;" body := by
  have hbuilt : Registry.Built
      (Memory.fresh.after [.registerLanguage (.string "commented") commented]).registry :=
    ⟨_, by simpa using Call.compiled_registerLanguage _ _, rfl⟩
  have hplain : Settings.Plain {} := by
    constructor <;> decide +kernel
  obtain ⟨g, hg⟩ : ∃ g, (Memory.fresh.after [.registerLanguage (.string "commented")
      commented]).registry.find? "cmt" = some g :=
    Option.isSome_iff_exists.mp (by decide +kernel)
  obtain ⟨-, hfound, -⟩ := highlight_faithful hbuilt hplain "a<b /* x\n\n*/ &amp;"
    (some [2, 9, 2]) true
  obtain ⟨body, hbody, -, hlines, -⟩ := hfound "cmt" g hg
  exact ⟨_, hbuilt, hplain, g, body, hg, hbody, hlines (Or.inr rfl)⟩

end Markup
end Lexlight
