import Lexlight.Proofs.Markup.Reading
import Mathlib.Data.List.Forall2

/-!
# Markup line by line

Pieces are rendered whole or by lines, and both ways say the same. What they say is the row of marks
of the pieces, each character with the class of its piece. Rendered whole, the pieces are read as
that row (`render_renders`). Rendered by lines they are read as that row cut at its line feeds
(`renderLines_renders`), although the lines are made piece by piece, and the last line of a piece
goes on in the first of the next.

That a row is cut the same way, whether it is cut as a whole or in two halves of which the cuts are
joined (`joinRows`), carries the induction on the pieces.
-/

namespace Lexlight.Markup

/-! ## Cutting rows -/

section Rows

variable {α β : Type} {cut : α → Bool}

/-- The cuts of one row and of another right after it: the last of the one goes on in the first of
the other. -/
def joinRows : List (List α) → List (List α) → List (List α)
  | [], more => more
  | [row], [] => [row]
  | [row], next :: more => (row ++ next) :: more
  | row :: rows, more => row :: joinRows rows more

theorem joinRows_cons {row : List α} {rows : List (List α)} (h : rows ≠ [])
    (more : List (List α)) : joinRows (row :: rows) more = row :: joinRows rows more := by
  cases rows with
  | nil => exact absurd rfl h
  | cons _ _ => rw [joinRows] <;> simp

/-- The last of the cuts goes on in the first of the next ones, so what is put in front of the first
cut stays there. -/
theorem joinRows_modifyHead {x : α} :
    ∀ {rows more : List (List α)}, rows ≠ [] → more ≠ [] →
      joinRows (rows.modifyHead (x :: ·)) more = (joinRows rows more).modifyHead (x :: ·)
  | [], _, h, _ => absurd rfl h
  | [_], [], _, h => absurd rfl h
  | [_], _ :: _, _, _ => rfl
  | _ :: _ :: _, _, _, _ => rfl

theorem splitOnP_append (xs ys : List α) :
    (xs ++ ys).splitOnP cut = joinRows (xs.splitOnP cut) (ys.splitOnP cut) := by
  have hxs := fun zs : List α => List.splitOnP_ne_nil cut zs
  induction xs with
  | nil =>
      obtain ⟨row, rows, hys⟩ := List.exists_cons_of_ne_nil (hxs ys)
      rw [List.nil_append, List.splitOnP_nil, hys]
      rfl
  | cons x xs ih =>
      rw [List.cons_append, List.splitOnP_cons_eq_if_modifyHead,
        List.splitOnP_cons_eq_if_modifyHead, ih]
      split
      · rw [joinRows_cons (hxs xs)]
      · rw [joinRows_modifyHead (hxs xs) (hxs ys)]

theorem splitOnP_map (f : β → α) (xs : List β) :
    (xs.map f).splitOnP cut = (xs.splitOnP fun x => cut (f x)).map (List.map f) := by
  induction xs with
  | nil => rfl
  | cons x xs ih =>
      rw [List.map_cons, List.splitOnP_cons_eq_if_modifyHead,
        List.splitOnP_cons_eq_if_modifyHead, ih]
      obtain ⟨row, rows, hxs⟩ :=
        List.exists_cons_of_ne_nil (List.splitOnP_ne_nil (fun x => cut (f x)) xs)
      rw [hxs]
      split <;> rfl

/-- There is one cut row more than there are places to cut at. -/
theorem length_splitOnP (xs : List α) : (xs.splitOnP cut).length = xs.countP cut + 1 := by
  induction xs with
  | nil => rfl
  | cons x xs ih =>
      rw [List.splitOnP_cons_eq_if_modifyHead]
      split
      · rename_i h
        rw [List.length_cons, ih, List.countP_cons_of_pos h]
      · rename_i h
        rw [List.length_modifyHead, ih, List.countP_cons_of_neg h]

/-- A row holds what was cut, but for what it was cut at. -/
theorem of_mem_splitOnP {xs row : List α} {x : α} (hrow : row ∈ xs.splitOnP cut)
    (hx : x ∈ row) : x ∈ xs ∧ cut x = false := by
  induction xs generalizing row with
  | nil =>
      obtain rfl := List.mem_singleton.mp hrow
      exact absurd hx (by simp)
  | cons y xs ih =>
      rw [List.splitOnP_cons_eq_if_modifyHead] at hrow
      obtain ⟨first, rows, hxs⟩ := List.exists_cons_of_ne_nil (List.splitOnP_ne_nil cut xs)
      rw [hxs] at hrow ih
      have hrest : ∀ {row}, row ∈ first :: rows → x ∈ row → x ∈ y :: xs ∧ cut x = false :=
        fun hrow hx => (ih hrow hx).imp (List.mem_cons_of_mem _) id
      split at hrow
      · rcases List.mem_cons.mp hrow with rfl | hrow
        · exact absurd hx (by simp)
        · exact hrest hrow hx
      · rename_i hy
        rcases List.mem_cons.mp hrow with rfl | hrow
        · rcases List.mem_cons.mp hx with rfl | hx
          · exact ⟨List.mem_cons_self .., by simpa using hy⟩
          · exact hrest (List.mem_cons_self ..) hx
        · exact hrest (List.mem_cons_of_mem _ hrow) hx

/-- Rows put together with one character between them, each character being written out. -/
theorem intercalate_flatMap {f : α → List α} {x : α} (hx : f x = [x]) (rows : List (List α)) :
    [x].intercalate (rows.map (List.flatMap f)) = ([x].intercalate rows).flatMap f := by
  induction rows with
  | nil => rfl
  | cons row rows ih =>
      cases rows with
      | nil => simp
      | cons next rows =>
          simp only [List.map_cons, List.intercalate_cons_cons, List.flatMap_append] at ih ⊢
          rw [ih]
          simp [hx]

end Rows

theorem splitLines_eq (cs : List Char) : splitLines cs = cs.splitOn '\n' := by
  induction cs with
  | nil => rfl
  | cons c cs ih =>
      rw [splitLines, List.splitOn_cons_eq_if_modifyHead, ih]
      obtain ⟨line, lines, hcs⟩ := List.exists_cons_of_ne_nil (List.splitOn_ne_nil '\n' cs)
      rw [hcs]
      by_cases hc : c = '\n'
      · rw [if_pos hc, if_pos (by simpa using hc)]
      · rw [if_neg hc, if_neg (by simpa using hc)]
        rfl

/-! ## The marks of pieces -/

/-- The class that a category has in markup, if it has one. -/
def classOf? (classStart : String) (c : Category) : Option String := c.scope?.map (classStart ++ ·)

/-- The characters of a piece, each with the class of the piece. -/
def pieceMarks (classStart : String) (p : Piece) : List Mark :=
  p.text.toList.map (·, classOf? classStart p.category)

/-- The characters of pieces, one piece after the other. -/
def marks (classStart : String) (ps : List Piece) : List Mark :=
  ps.flatMap (pieceMarks classStart)

/-- Whether a mark is that of a line feed. -/
def isBreak (m : Mark) : Bool := m.1 == '\n'

theorem plainClass_append {a b : String} (ha : PlainClass a) (hb : PlainClass b) :
    PlainClass (a ++ b) := by
  intro c hc
  rw [String.toList_append] at hc
  rcases List.mem_append.mp hc with hc | hc
  · exact ha c hc
  · exact hb c hc

theorem plainClass_scope {c : Category} {scope : String} (h : c.scope? = some scope) :
    PlainClass scope := by
  have hall : ∀ c ∈ Category.all, ∀ scope ∈ c.scope?, PlainClass scope := by decide +kernel
  exact hall c (Category.mem_all c) scope h

theorem map_fst_marks (classStart : String) (ps : List Piece) :
    (marks classStart ps).map Prod.fst = ps.flatMap (·.text.toList) := by
  simp [marks, pieceMarks, List.map_flatMap, Function.comp_def]

variable {classStart : String}

theorem spanned_renders (hplain : PlainClass classStart) (c : Category) (cs : List Char) :
    Renders (spanned classStart c.scope? (String.ofList cs)).toList
      (cs.map (·, classOf? classStart c)) := by
  unfold classOf?
  cases hscope : c.scope? with
  | none => simpa [spanned, Markup.escape] using Renders.escape cs
  | some scope =>
      have hcls := plainClass_append hplain (plainClass_scope hscope)
      simpa [spanned, Markup.escape] using Renders.span hcls cs

/-- **Pieces rendered whole** are read as their characters, one piece after the other. -/
theorem render_renders (hplain : PlainClass classStart) (ps : List Piece) :
    Renders (render classStart ps).toList (marks classStart ps) := by
  induction ps with
  | nil => exact Renders.nil
  | cons p ps ih =>
      have hp := spanned_renders hplain p.category p.text.toList
      rw [String.ofList_toList] at hp
      have hrender : (render classStart (p :: ps)).toList =
          (piece classStart p).toList ++ (render classStart ps).toList := by
        simp [render, String.join_cons]
      rw [hrender]
      exact hp.append ih

/-- Lines of markup that are read as rows of marks, line by line. -/
def RendersLines (lines : List String) (rows : List (List Mark)) : Prop :=
  List.Forall₂ (fun line row => Renders line.toList row) lines rows

/-- The lines of a piece are its characters, cut at the line feeds. -/
theorem pieceLines_renders (hplain : PlainClass classStart) (p : Piece) :
    RendersLines (pieceLines classStart p) ((pieceMarks classStart p).splitOnP isBreak) := by
  rw [pieceMarks, splitOnP_map, pieceLines, splitLines_eq, List.splitOn_eq_splitOnP]
  refine List.forall₂_map_left_iff.mpr (List.forall₂_map_right_iff.mpr ?_)
  refine List.forall₂_same.mpr fun line _ => ?_
  split
  · rename_i hempty
    obtain rfl := List.isEmpty_iff.mp hempty
    exact Renders.nil
  · exact spanned_renders hplain p.category line

theorem joinLines_renders {lines more : List String} {rows moreRows : List (List Mark)}
    (h : RendersLines lines rows) (hmore : RendersLines more moreRows) :
    RendersLines (joinLines lines more) (joinRows rows moreRows) := by
  induction h with
  | nil => exact hmore
  | @cons line row lines rows hline hlines ih =>
      cases hlines with
      | nil =>
          cases hmore with
          | nil => exact .cons hline .nil
          | cons hnext hrest =>
              refine .cons ?_ hrest
              rw [String.toList_append]
              exact hline.append hnext
      | cons _ _ =>
          rw [joinLines, joinRows_cons (List.cons_ne_nil _ _)]
          · exact .cons hline ih
          · simp
          · simp

/-- **Pieces rendered by lines** are read as their characters, cut at the line feeds. -/
theorem renderLines_renders (hplain : PlainClass classStart) (ps : List Piece) :
    RendersLines (renderLines classStart ps) ((marks classStart ps).splitOnP isBreak) := by
  induction ps with
  | nil => exact .cons Renders.nil .nil
  | cons p ps ih =>
      rw [marks, List.flatMap_cons, splitOnP_append]
      exact joinLines_renders (pieceLines_renders hplain p) ih

theorem Renders.read_eq {line : String} {row : List Mark} (h : Renders line.toList row) :
    read line = some row := by
  have hread := h.reads []
  rw [List.append_nil, readFrom, Option.map_some, List.append_nil] at hread
  exact hread

theorem RendersLines.ne_nil {lines : List String} {rows : List (List Mark)}
    (h : RendersLines lines rows) (hrows : rows ≠ []) : lines ≠ [] := by
  rintro rfl
  exact hrows (List.forall₂_nil_left_iff.mp h)

theorem RendersLines.exists_row {lines : List String} {rows : List (List Mark)} {line : String}
    (h : RendersLines lines rows) (hline : line ∈ lines) :
    ∃ row ∈ rows, Renders line.toList row := by
  induction h with
  | nil => exact absurd hline (by simp)
  | cons hfirst _ ih =>
      rcases List.mem_cons.mp hline with rfl | hline
      · exact ⟨_, List.mem_cons_self .., hfirst⟩
      · obtain ⟨row, hrow, hrenders⟩ := ih hline
        exact ⟨row, List.mem_cons_of_mem _ hrow, hrenders⟩

theorem RendersLines.map_read {lines : List String} {rows : List (List Mark)}
    (h : RendersLines lines rows) : lines.map read = rows.map some := by
  rw [← List.forall₂_eq_eq_eq, List.forall₂_map_left_iff, List.forall₂_map_right_iff]
  exact List.Forall₂.imp (fun _ _ => Renders.read_eq) h

/-- No line of markup has a line feed where no character of its row is one. -/
theorem Renders.break_notMem {line : List Char} {row : List Mark} (h : Renders line row)
    (hrow : ∀ m ∈ row, isBreak m = false) : '\n' ∉ line := by
  rw [← List.count_eq_zero, h.breaks, List.count_eq_zero]
  intro hmem
  obtain ⟨m, hm, hbreak⟩ := List.mem_map.mp hmem
  have := hrow m hm
  simp [isBreak, hbreak] at this

theorem RendersLines.of_getElem? {lines : List String} {rows : List (List Mark)} {k : Nat}
    {line : String} {row : List Mark} (h : RendersLines lines rows) (hline : lines[k]? = some line)
    (hrow : rows[k]? = some row) : Renders line.toList row := by
  obtain ⟨hk, rfl⟩ := List.getElem?_eq_some_iff.mp hline
  obtain ⟨hk', rfl⟩ := List.getElem?_eq_some_iff.mp hrow
  exact List.Forall₂.get h hk hk'

/-- There is one line more than there are line feeds. -/
theorem length_renderLines (hplain : PlainClass classStart) (ps : List Piece) :
    (renderLines classStart ps).length = (ps.flatMap (·.text.toList)).count '\n' + 1 := by
  rw [(renderLines_renders hplain ps).length_eq, length_splitOnP, ← map_fst_marks classStart,
    List.count, List.countP_map]
  rfl

theorem break_notMem_renderLines (hplain : PlainClass classStart) {ps : List Piece} {line : String}
    (hline : line ∈ renderLines classStart ps) : '\n' ∉ line.toList := by
  obtain ⟨row, hrow, hrenders⟩ := (renderLines_renders hplain ps).exists_row hline
  exact hrenders.break_notMem fun m hm => (of_mem_splitOnP hrow hm).2

/-! ## Lines put together again -/

theorem intercalate_joinLines {lines more : List String} (h : lines ≠ []) (hmore : more ≠ []) :
    "\n".intercalate (joinLines lines more) =
      "\n".intercalate lines ++ "\n".intercalate more := by
  obtain ⟨next, rest, rfl⟩ := List.exists_cons_of_ne_nil hmore
  induction lines with
  | nil => exact absurd rfl h
  | cons line lines ih =>
      cases lines with
      | nil => rw [joinLines, String.intercalate_cons_append, String.intercalate_singleton]
      | cons line' lines =>
          have hjoin : joinLines (line' :: lines) (next :: rest) ≠ [] := by
            cases lines <;> simp [joinLines]
          rw [joinLines, String.intercalate_cons_of_ne_nil hjoin, ih (by simp),
            String.intercalate_cons_cons, String.append_assoc, String.append_assoc,
            String.append_assoc]
          · simp
          · simp

/-- A piece of plain text is its lines put together, and so is one without a line feed, unless it is
empty: then it has a span when it is rendered whole, and none by lines. -/
theorem intercalate_pieceLines {p : Piece} (hne : p.text ≠ "")
    (hline : p.category.scope? ≠ none → '\n' ∉ p.text.toList) :
    "\n".intercalate (pieceLines classStart p) = piece classStart p := by
  have hchars : p.text.toList ≠ [] := by simpa using hne
  rw [pieceLines, splitLines_eq, piece]
  cases hscope : p.category.scope? with
  | some scope =>
      have hnone : '\n' ∉ p.text.toList := hline (by simp [hscope])
      rw [List.splitOn_eq_singleton hnone, List.map_singleton, String.intercalate_singleton,
        if_neg (by simpa using hchars), String.ofList_toList]
  | none =>
      -- an escaped line feed is a line feed, so the lines are escaped one by one
      rw [← String.toList_inj, String.toList_intercalate, List.map_map]
      have hlines : (p.text.toList.splitOn '\n').map (String.toList ∘ fun line =>
          if line.isEmpty then "" else spanned classStart none (String.ofList line)) =
          (p.text.toList.splitOn '\n').map (List.flatMap escapeChar) := by
        refine List.map_congr_left fun line _ => ?_
        cases line with
        | nil => rfl
        | cons c line => simp [spanned, escape]
      rw [hlines, show "\n".toList = ['\n'] from rfl, intercalate_flatMap (by rfl),
        List.intercalate_splitOn]
      simp [spanned, escape]

/-- Pieces are their lines put together, where each of them is. -/
theorem intercalate_renderLines (hplain : PlainClass classStart) {ps : List Piece}
    (h : ∀ p ∈ ps, p.text ≠ "" ∧ (p.category.scope? ≠ none → '\n' ∉ p.text.toList)) :
    "\n".intercalate (renderLines classStart ps) = render classStart ps := by
  induction ps with
  | nil => rfl
  | cons p ps ih =>
      obtain ⟨⟨hne, hline⟩, hps⟩ := List.forall_mem_cons.mp h
      have hfirst := (pieceLines_renders hplain p).ne_nil (List.splitOnP_ne_nil _ _)
      have hrest := (renderLines_renders hplain ps).ne_nil (List.splitOnP_ne_nil _ _)
      calc "\n".intercalate (renderLines classStart (p :: ps))
          = "\n".intercalate (pieceLines classStart p) ++
              "\n".intercalate (renderLines classStart ps) := intercalate_joinLines hfirst hrest
        _ = piece classStart p ++ render classStart ps := by
              rw [intercalate_pieceLines hne hline, ih hps]
        _ = render classStart (p :: ps) := by rw [render, render, List.map_cons, String.join_cons]

/-! ## The two ways to render -/

/--
**Whole or by lines, pieces are read as the same characters in the same spans.**

Rendered whole, they are read as their marks, and rendered by lines as their marks cut at the line
feeds. So there is one line more than there are line feeds, none has a line feed in it, and the
spans of each are balanced and lie side by side. If no piece is empty and only plain text goes over
lines, the lines put together are the whole.
-/
theorem renderers_agree (hplain : PlainClass classStart) (ps : List Piece) :
    read (render classStart ps) = some (marks classStart ps) ∧
    (renderLines classStart ps).map read = ((marks classStart ps).splitOnP isBreak).map some ∧
    (renderLines classStart ps).length = (ps.flatMap (·.text.toList)).count '\n' + 1 ∧
    (∀ line ∈ renderLines classStart ps, '\n' ∉ line.toList) ∧
    ((∀ p ∈ ps, p.text ≠ "" ∧ (p.category.scope? ≠ none → '\n' ∉ p.text.toList)) →
      "\n".intercalate (renderLines classStart ps) = render classStart ps) := by
  exact ⟨(render_renders hplain ps).read_eq, (renderLines_renders hplain ps).map_read,
    length_renderLines hplain ps, fun _ => break_notMem_renderLines hplain,
    intercalate_renderLines hplain⟩

/-- Text that looks like markup, a comment over three lines, and nothing of a word. -/
def commentOverLines : List Piece :=
  [⟨.text, "a<b>&lt;\n"⟩, ⟨.keyword, "KEEP"⟩, ⟨.comment, "/* \"\n\n*/"⟩, ⟨.builtin, ""⟩]

/-- Text over lines, and a string on one. -/
def stringOnLine : List Piece := [⟨.text, "\n<\n\n"⟩, ⟨.string, "\"&amp;\""⟩, ⟨.text, " \n"⟩]

theorem renderers_agree_hljs :
    PlainClass "hljs-" ∧
    (renderLines "hljs-" commentOverLines).map read =
      ((marks "hljs-" commentOverLines).splitOnP isBreak).map some ∧
    (renderLines "hljs-" commentOverLines).length = 4 ∧
    "\n".intercalate (renderLines "hljs-" stringOnLine) = render "hljs-" stringOnLine := by
  have hplain : PlainClass "hljs-" := by decide +kernel
  obtain ⟨_, hread, hlength, _⟩ := renderers_agree hplain commentOverLines
  obtain ⟨_, _, _, _, hjoin⟩ := renderers_agree hplain stringOnLine
  exact ⟨hplain, hread, hlength.trans (by decide +kernel), hjoin (by decide +kernel)⟩

end Lexlight.Markup
