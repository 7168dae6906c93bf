import Lexlight.Markup.Render
import Mathlib.Data.List.Basic

/-!
# Reading markup back

Two readers of markup, against which the rendering is held. `decode` knows nothing of spans: it
deletes every tag and reads the named characters of what is left. `read` knows them: it gives each
character with the class of the span it stands in, and gives nothing at all when a span is left
open, is closed without being open, or stands inside another one.

What both make of a rendered text is said by one relation between markup and marks (`Renders`). It
holds of escaped text and of a span, and of one markup after another, which is all that rendering
does.
-/

namespace Lexlight.Markup

/-- A class name that does not end its attribute or its tag, and stays on one line. -/
def PlainClass (cls : String) : Prop :=
  ∀ c ∈ cls.toList, c ≠ '<' ∧ c ≠ '>' ∧ c ≠ '"' ∧ c ≠ '\n'

-- over the characters that the class has, where `∀ d : Char` would go through all there are
instance (cls : String) : Decidable (PlainClass cls) := List.decidableBAll _ _

/-! ## Deleting tags -/

/-- Markup without what stands from each `<` to the next `>`, from a place inside or outside of
a tag. -/
def untagged : (inTag : Bool) → List Char → List Char
  | _, [] => []
  | true, c :: rest => if c = '>' then untagged false rest else untagged true rest
  | false, c :: rest => if c = '<' then untagged true rest else c :: untagged false rest

/-- The named characters of a text, read once from left to right. -/
def unescape : List Char → List Char
  | [] => []
  | '&' :: 'l' :: 't' :: ';' :: rest => '<' :: unescape rest
  | '&' :: 'g' :: 't' :: ';' :: rest => '>' :: unescape rest
  | '&' :: 'a' :: 'm' :: 'p' :: ';' :: rest => '&' :: unescape rest
  | c :: rest => c :: unescape rest

/-- The text of markup: without its tags, and with its named characters read. -/
def decode (markup : String) : String :=
  String.ofList (unescape (untagged false markup.toList))

/-! ## Reading spans -/

/-- A character with the class of the span it stands in, if it stands in one. -/
abbrev Mark := Char × Option String

/-- Where a reader stands: in the text of a span, or of none, or there in a tag or in the name of
a character, of which it has seen some characters. -/
inductive Place where
  | text (cls? : Option String)
  | tag (cls? : Option String) (seen : List Char)
  | name (cls? : Option String) (seen : List Char)

/-- The character that a name stands for. -/
def named? (name : List Char) : Option Char :=
  if name = ['l', 't'] then some '<'
  else if name = ['g', 't'] then some '>'
  else if name = ['a', 'm', 'p'] then some '&'
  else none

/-- What stands between the brackets of a tag that opens a span, before its class. -/
def openingStart : List Char := ['s', 'p', 'a', 'n', ' ', 'c', 'l', 'a', 's', 's', '=', '"']

/-- What stands between the brackets of a tag that closes a span. -/
def closingTag : List Char := ['/', 's', 'p', 'a', 'n']

/-- The class of the span that a tag opens. -/
def openedClass? (tag : List Char) : Option String :=
  (openingStart.isPrefixOf? tag).bind fun rest => (['"'].isSuffixOf? rest).map String.ofList

/-- The span that a tag leads to, or out of which it leads, from the span that it stands in, if it
stands in one. Where a span is open only its end may follow. -/
def afterTag? : (cls? : Option String) → (tag : List Char) → Option (Option String)
  | none, tag => (openedClass? tag).map some
  | some _, tag => if tag = closingTag then some none else none

/-- The marks of markup from a place on. -/
def readFrom : Place → List Char → Option (List Mark)
  | .text none, [] => some []
  | .text (some _), [] => none
  | .tag .., [] => none
  | .name .., [] => none
  | .text cls?, c :: rest =>
    if c = '<' then readFrom (.tag cls? []) rest
    else if c = '&' then readFrom (.name cls? []) rest
    else if c = '>' then none
    else (readFrom (.text cls?) rest).map ((c, cls?) :: ·)
  | .tag cls? seen, c :: rest =>
    if c = '>' then (afterTag? cls? seen).bind fun next? => readFrom (.text next?) rest
    else readFrom (.tag cls? (seen ++ [c])) rest
  | .name cls? seen, c :: rest =>
    if c = ';' then
      (named? seen).bind fun d => (readFrom (.text cls?) rest).map ((d, cls?) :: ·)
    else readFrom (.name cls? (seen ++ [c])) rest

/-- The marks of markup whose spans are balanced and lie side by side. -/
def read (markup : String) : Option (List Mark) := readFrom (.text none) markup.toList

example : read "a<span class=\"k\">&lt;b</span>" =
    some [('a', none), ('<', some "k"), ('b', some "k")] := by decide +kernel

example : read "<span class=\"k\">a<span class=\"l\">b</span></span>" = none := by decide +kernel

/-! ## Escaped text -/

/-- A character that stands for itself in text. -/
theorem escapeChar_of_plain {c : Char} (hamp : c ≠ '&') (hlt : c ≠ '<') (hgt : c ≠ '>') :
    escapeChar c = [c] := by
  unfold escapeChar
  split
  · contradiction
  · contradiction
  · contradiction
  · rfl

theorem unescape_escapeChar (c : Char) (rest : List Char) :
    unescape (escapeChar c ++ rest) = c :: unescape rest := by
  by_cases hamp : c = '&'
  · subst hamp; rfl
  by_cases hlt : c = '<'
  · subst hlt; rfl
  by_cases hgt : c = '>'
  · subst hgt; rfl
  rw [escapeChar_of_plain hamp hlt hgt, List.singleton_append, unescape] <;> grind

theorem unescape_escape (cs : List Char) : unescape (cs.flatMap escapeChar) = cs := by
  induction cs with
  | nil => rfl
  | cons c cs ih => rw [List.flatMap_cons, unescape_escapeChar, ih]

theorem count_escapeChar (c : Char) : (escapeChar c).count '\n' = [c].count '\n' := by
  by_cases hamp : c = '&'
  · subst hamp; rfl
  by_cases hlt : c = '<'
  · subst hlt; rfl
  by_cases hgt : c = '>'
  · subst hgt; rfl
  rw [escapeChar_of_plain hamp hlt hgt]

/-- Escaping leaves the lines of a text as they are. -/
theorem count_escape (cs : List Char) : (cs.flatMap escapeChar).count '\n' = cs.count '\n' := by
  induction cs with
  | nil => rfl
  | cons c cs ih =>
      rw [List.flatMap_cons, List.count_append, ih, count_escapeChar, ← List.count_append]
      rfl

theorem untagged_escapeChar (c : Char) (rest : List Char) :
    untagged false (escapeChar c ++ rest) = escapeChar c ++ untagged false rest := by
  by_cases hamp : c = '&'
  · subst hamp; simp [escapeChar, untagged]
  by_cases hlt : c = '<'
  · subst hlt; simp [escapeChar, untagged]
  by_cases hgt : c = '>'
  · subst hgt; simp [escapeChar, untagged]
  simp [escapeChar_of_plain hamp hlt hgt, untagged, hlt]

theorem readFrom_escapeChar (cls? : Option String) (c : Char) (rest : List Char) :
    readFrom (.text cls?) (escapeChar c ++ rest) =
      (readFrom (.text cls?) rest).map ((c, cls?) :: ·) := by
  by_cases hamp : c = '&'
  · subst hamp; simp [escapeChar, readFrom, named?]
  by_cases hlt : c = '<'
  · subst hlt; simp [escapeChar, readFrom, named?]
  by_cases hgt : c = '>'
  · subst hgt; simp [escapeChar, readFrom, named?]
  rw [escapeChar_of_plain hamp hlt hgt, List.singleton_append, readFrom, if_neg hlt, if_neg hamp,
    if_neg hgt]

theorem readFrom_escape (cls? : Option String) (cs rest : List Char) :
    readFrom (.text cls?) (cs.flatMap escapeChar ++ rest) =
      (readFrom (.text cls?) rest).map (cs.map (·, cls?) ++ ·) := by
  induction cs with
  | nil => simp
  | cons c cs ih =>
      rw [List.flatMap_cons, List.append_assoc, readFrom_escapeChar, ih, Option.map_map]
      rfl

/-! ## Tags -/

/-- What stands between the brackets of the tag that opens a span of a class. -/
def openingTag (cls : String) : List Char := openingStart ++ (cls.toList ++ ['"'])

theorem toList_span (cls body : String) :
    (span cls body).toList =
      '<' :: (openingTag cls ++ '>' :: (body.toList ++ '<' :: (closingTag ++ ['>']))) := by
  have hopen : "<span class=\"".toList = '<' :: openingStart := rfl
  have hmid : "\">".toList = ['"', '>'] := rfl
  have hclose : "</span>".toList = '<' :: (closingTag ++ ['>']) := rfl
  change ("<span class=\"" ++ cls ++ "\">" ++ body ++ "</span>").toList = _
  simp only [openingTag, String.toList_append, hopen, hmid, hclose, List.append_assoc,
    List.cons_append, List.nil_append]

theorem openedClass?_openingTag (cls : String) : openedClass? (openingTag cls) = some cls := by
  have hstart : openingStart.isPrefixOf? (openingTag cls) = some (cls.toList ++ ['"']) :=
    List.isPrefixOf?_eq_some_iff_append_eq.mpr rfl
  have hstop : (['"'].isSuffixOf? (cls.toList ++ ['"'])) = some cls.toList :=
    List.isSuffixOf?_eq_some_iff_append_eq.mpr rfl
  rw [openedClass?, hstart, Option.bind_some, hstop, Option.map_some, String.ofList_toList]

theorem gt_notMem_openingTag {cls : String} (h : PlainClass cls) : '>' ∉ openingTag cls := by
  intro hmem
  rcases List.mem_append.mp hmem with hmem | hmem
  · exact absurd hmem (by decide)
  · rcases List.mem_append.mp hmem with hmem | hmem
    · exact (h _ hmem).2.1 rfl
    · exact absurd hmem (by decide)

theorem count_openingTag {cls : String} (h : PlainClass cls) :
    (openingTag cls).count '\n' = 0 := by
  rw [List.count_eq_zero, openingTag, List.mem_append, List.mem_append]
  rintro (hmem | hmem | hmem)
  · exact absurd hmem (by decide)
  · exact (h _ hmem).2.2.2 rfl
  · exact absurd hmem (by decide)

theorem untagged_tag {tag : List Char} (h : '>' ∉ tag) (rest : List Char) :
    untagged true (tag ++ '>' :: rest) = untagged false rest := by
  induction tag with
  | nil => rfl
  | cons c tag ih =>
      obtain ⟨hc, htag⟩ := not_or.mp (mt List.mem_cons.mpr h)
      rw [List.cons_append, untagged, if_neg (Ne.symm hc), ih htag]

/-- A reader sees a whole tag before it goes on. -/
theorem readFrom_tag {tag : List Char} (h : '>' ∉ tag) (cls? : Option String) (rest : List Char) :
    ∀ seen, readFrom (.tag cls? seen) (tag ++ '>' :: rest) =
      (afterTag? cls? (seen ++ tag)).bind fun next? => readFrom (.text next?) rest := by
  induction tag with
  | nil => exact fun seen => by rw [List.append_nil, List.nil_append, readFrom, if_pos rfl]
  | cons c tag ih =>
      intro seen
      obtain ⟨hc, htag⟩ := not_or.mp (mt List.mem_cons.mpr h)
      rw [List.cons_append, readFrom, if_neg (Ne.symm hc), ih htag, List.append_assoc]
      rfl

theorem readFrom_openingTag {cls : String} (h : PlainClass cls) (rest : List Char) :
    readFrom (.text none) ('<' :: (openingTag cls ++ '>' :: rest)) =
      readFrom (.text (some cls)) rest := by
  rw [readFrom, if_pos rfl, readFrom_tag (gt_notMem_openingTag h), List.nil_append, afterTag?,
    openedClass?_openingTag]
  rfl

theorem readFrom_closingTag (cls : String) (rest : List Char) :
    readFrom (.text (some cls)) ('<' :: (closingTag ++ '>' :: rest)) =
      readFrom (.text none) rest := by
  rw [readFrom, if_pos rfl, readFrom_tag (by decide), List.nil_append, afterTag?, if_pos rfl]
  rfl

/-! ## What rendered text shows -/

/-- Markup that is a text, escaped, once its tags are deleted. -/
def Shows (markup text : List Char) : Prop :=
  ∀ rest, untagged false (markup ++ rest) = text.flatMap escapeChar ++ untagged false rest

namespace Shows

theorem escape (cs : List Char) : Shows (cs.flatMap escapeChar) cs := by
  intro rest
  induction cs with
  | nil => rfl
  | cons c cs ih => rw [List.flatMap_cons, List.append_assoc, untagged_escapeChar, ih,
      List.append_assoc]

theorem append {m m' t t' : List Char} (h : Shows m t) (h' : Shows m' t') :
    Shows (m ++ m') (t ++ t') := by
  intro rest
  rw [List.append_assoc, h, h', List.flatMap_append, List.append_assoc]

/-- A span shows what stands in it. -/
theorem span {cls body : String} {text : List Char} (hcls : PlainClass cls)
    (h : Shows body.toList text) : Shows (Markup.span cls body).toList text := by
  intro rest
  have hclosing : '>' ∉ closingTag := by decide
  rw [toList_span, List.cons_append, List.append_assoc, List.cons_append, List.append_assoc,
    List.cons_append, List.append_assoc, List.singleton_append, untagged, if_pos rfl,
    untagged_tag (gt_notMem_openingTag hcls), h, untagged, if_pos rfl, untagged_tag hclosing]

theorem decode_eq {markup : String} {text : List Char} (h : Shows markup.toList text) :
    decode markup = String.ofList text := by
  have hall := h []
  rw [List.append_nil, untagged, List.append_nil] at hall
  rw [decode, hall, unescape_escape]

end Shows

/-- Markup whose spans are balanced and lie side by side, with the marks it is read as. -/
structure Renders (markup : List Char) (marks : List Mark) : Prop where
  reads : ∀ rest, readFrom (.text none) (markup ++ rest) =
    (readFrom (.text none) rest).map (marks ++ ·)
  shows : Shows markup (marks.map Prod.fst)
  /-- Its lines are those of the text: no tag has a line feed in it. -/
  breaks : markup.count '\n' = (marks.map Prod.fst).count '\n'

namespace Renders

theorem nil : Renders [] [] where
  reads rest := by simp
  shows := Shows.escape []
  breaks := rfl

theorem append {m m' : List Char} {marks marks' : List Mark} (h : Renders m marks)
    (h' : Renders m' marks') : Renders (m ++ m') (marks ++ marks') where
  reads rest := by
    rw [List.append_assoc, h.reads, h'.reads, Option.map_map]
    simp [Function.comp_def]
  shows := by rw [List.map_append]; exact h.shows.append h'.shows
  breaks := by rw [List.count_append, h.breaks, h'.breaks, List.map_append, List.count_append]

/-- Escaped text stands in no span. -/
theorem escape (cs : List Char) :
    Renders (cs.flatMap escapeChar) (cs.map (·, none)) where
  reads := readFrom_escape none cs
  shows := by rw [List.map_map]; simpa [Function.comp_def] using Shows.escape cs
  breaks := by rw [count_escape, List.map_map]; simp [Function.comp_def]

/-- Escaped text in a span has the class of the span. -/
theorem span {cls : String} (hcls : PlainClass cls) (cs : List Char) :
    Renders (Markup.span cls (String.ofList (cs.flatMap escapeChar))).toList
      (cs.map (·, some cls)) where
  reads rest := by
    rw [toList_span, String.toList_ofList]
    simp only [List.cons_append, List.append_assoc, List.nil_append]
    rw [readFrom_openingTag hcls, readFrom_escape, readFrom_closingTag]
  shows := by
    rw [List.map_map]
    exact Shows.span hcls (by simpa [Function.comp_def] using Shows.escape cs)
  breaks := by
    have hclosing : (closingTag ++ ['>']).count '\n' = 0 := by decide
    have hlt : '<' ≠ '\n' := by decide
    have hgt : '>' ≠ '\n' := by decide
    rw [toList_span, String.toList_ofList, List.count_cons_of_ne hlt, List.count_append,
      count_openingTag hcls, Nat.zero_add, List.count_cons_of_ne hgt, List.count_append,
      count_escape, List.count_cons_of_ne hlt, hclosing, Nat.add_zero, List.map_map]
    simp [Function.comp_def]

end Renders

end Lexlight.Markup
