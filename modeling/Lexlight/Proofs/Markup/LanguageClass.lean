import Lexlight.Proofs.Markup.Highlighted

/-!
# The class that names the language

The markup of a text names its language in an attribute. Whoever reads that attribute takes the text
up to the next quote for its value, and reads the characters in it that are written by name. The
language is named as it should be when this gives the prefix of the class and the name, and when the
quote ends the tag (`NamesLanguage`).

A language that is not known is written escaped, and an escaped name always reads back as itself. A
known language is written as it is. Its name reads back only when there is no quote in it, which
would end the value, and when nothing in it is read as a character written by name. Registries
accept other names too, so a name can break out of its attribute (`quoted_name_breaks_out`).
-/

namespace Lexlight.Markup

/-- Names that every reader of markup knows, with the characters they stand for. -/
def commonNames : List (List Char × Char) :=
  [("&amp;".toList, '&'), ("&lt;".toList, '<'), ("&gt;".toList, '>'), ("&quot;".toList, '"'),
    ("&#x27;".toList, '\'')]

/-- A way to read the characters that markup writes by name. Readers differ in the names they know,
which may be many more than the common ones. What begins with no `&` each of them leaves alone. -/
structure NameReader where
  read : List Char → List Char
  read_nil : read [] = []
  read_plain : ∀ c rest, c ≠ '&' → read (c :: rest) = c :: read rest
  read_named : ∀ n ∈ commonNames, ∀ rest, read (n.1 ++ rest) = n.2 :: read rest

/-- The value of an attribute with its common names read, once from left to right. -/
def unescapeAttribute : List Char → List Char
  | [] => []
  | '&' :: 'q' :: 'u' :: 'o' :: 't' :: ';' :: rest => '"' :: unescapeAttribute rest
  | '&' :: '#' :: 'x' :: '2' :: '7' :: ';' :: rest => '\'' :: unescapeAttribute rest
  | '&' :: 'l' :: 't' :: ';' :: rest => '<' :: unescapeAttribute rest
  | '&' :: 'g' :: 't' :: ';' :: rest => '>' :: unescapeAttribute rest
  | '&' :: 'a' :: 'm' :: 'p' :: ';' :: rest => '&' :: unescapeAttribute rest
  | c :: rest => c :: unescapeAttribute rest

/-- Whether markup has the frame of a highlighted text, with the name of a language for its class:
the value of the attribute goes up to the next quote, reads as the name after its prefix, and is
followed by the end of the tag and the body. -/
def NamesLanguage (reader : NameReader) (markup name body : String) : Prop :=
  ∃ value : String, '"' ∉ value.toList ∧
    reader.read value.toList = "language-".toList ++ name.toList ∧
    markup = "<pre><code class=\"" ++ value ++ "\">" ++ body ++ "</code></pre>"

/-! ## Escaped names -/

/-- The characters that are written by name in the value of an attribute. -/
def special : List Char := ['&', '<', '>', '"', '\'']

theorem escapeAttributeChar_of_plain {c : Char} (h : c ∉ special) :
    escapeAttributeChar c = [c] := by
  simp only [special, List.mem_cons, List.not_mem_nil, or_false, not_or] at h
  obtain ⟨hamp, hlt, hgt, hquote, hapos⟩ := h
  unfold escapeAttributeChar
  split
  · contradiction
  · contradiction
  · exact escapeChar_of_plain hamp hlt hgt

/-- A special character is written by a common name, and no quote is left in it. -/
theorem escapeAttributeChar_of_special {c : Char} (h : c ∈ special) :
    (escapeAttributeChar c, c) ∈ commonNames ∧ '"' ∉ escapeAttributeChar c := by
  simp only [special, List.mem_cons, List.not_mem_nil, or_false] at h
  rcases h with rfl | rfl | rfl | rfl | rfl <;> decide

theorem quote_notMem_escapeAttributeChar (c : Char) : '"' ∉ escapeAttributeChar c := by
  by_cases h : c ∈ special
  · exact (escapeAttributeChar_of_special h).2
  · rw [escapeAttributeChar_of_plain h, List.mem_singleton]
    rintro rfl
    exact h (by decide)

theorem toList_escapeAttribute (s : String) :
    (escapeAttribute s).toList = s.toList.flatMap escapeAttributeChar :=
  String.toList_ofList

/-- No quote is left in an escaped name. -/
theorem quote_notMem_escapeAttribute (s : String) : '"' ∉ (escapeAttribute s).toList := by
  rw [toList_escapeAttribute]
  intro hmem
  obtain ⟨c, _, hc⟩ := List.mem_flatMap.mp hmem
  exact quote_notMem_escapeAttributeChar c hc

namespace NameReader

variable (reader : NameReader)

theorem read_escapeAttributeChar (c : Char) (rest : List Char) :
    reader.read (escapeAttributeChar c ++ rest) = c :: reader.read rest := by
  by_cases h : c ∈ special
  · exact reader.read_named _ (escapeAttributeChar_of_special h).1 rest
  · have hamp : c ≠ '&' := by
      rintro rfl
      exact h (by decide)
    rw [escapeAttributeChar_of_plain h, List.singleton_append, reader.read_plain c rest hamp]

/-- **An escaped name reads back as itself.** -/
theorem read_escapeAttribute (s : String) : reader.read (escapeAttribute s).toList = s.toList := by
  rw [toList_escapeAttribute]
  induction s.toList with
  | nil => exact reader.read_nil
  | cons c cs ih => rw [List.flatMap_cons, reader.read_escapeAttributeChar, ih]

/-- Text without names before it is read as it is. -/
theorem read_append {plain : List Char} (h : '&' ∉ plain) (rest : List Char) :
    reader.read (plain ++ rest) = plain ++ reader.read rest := by
  induction plain with
  | nil => rfl
  | cons c plain ih =>
      obtain ⟨hc, hplain⟩ := not_or.mp (mt List.mem_cons.mpr h)
      rw [List.cons_append, reader.read_plain c _ (Ne.symm hc), ih hplain, List.cons_append]

/-- The reader that knows no other names than the common ones. -/
def basic : NameReader where
  read := unescapeAttribute
  read_nil := rfl
  read_plain c rest h := by rw [unescapeAttribute] <;> grind
  read_named n hn rest := by
    simp only [commonNames, List.mem_cons, List.not_mem_nil, or_false] at hn
    rcases hn with rfl | rfl | rfl | rfl | rfl <;> rfl

end NameReader

/-! ## The attribute -/

/-- The value of the attribute is what stands between its first quote and the end of the tag. -/
theorem block_eq_iff {written value body : String} :
    block (languageClass {} written) body =
        "<pre><code class=\"" ++ value ++ "\">" ++ body ++ "</code></pre>" ↔
      "language-" ++ written = value := by
  have hopen : "<pre><code class=\"".toList = "<pre><code".toList ++ " class=\"".toList := rfl
  have hclose : "\">".toList = "\"".toList ++ ">".toList := rfl
  rw [← String.toList_inj, ← String.toList_inj]
  simp only [block, languageClass, String.toList_append, hopen, hclose, List.append_assoc,
    List.append_cancel_left_eq]
  simp only [← List.append_assoc, List.append_cancel_right_eq]

/-- A name that is written in the attribute is read from it when no quote in it ends the value early
and it reads as the name. -/
theorem namesLanguage_iff {reader : NameReader} {written name body : String} :
    NamesLanguage reader (block (languageClass {} written) body) name body ↔
      '"' ∉ written.toList ∧ reader.read written.toList = name.toList := by
  have hprefix : '"' ∉ "language-".toList ∧ '&' ∉ "language-".toList := by decide
  have hread : reader.read ("language-" ++ written).toList =
      "language-".toList ++ reader.read written.toList := by
    rw [String.toList_append, reader.read_append hprefix.2]
  have hquote : '"' ∉ ("language-" ++ written).toList ↔ '"' ∉ written.toList := by
    rw [String.toList_append, List.mem_append, not_or, and_iff_right hprefix.1]
  unfold NamesLanguage
  constructor
  · rintro ⟨value, hnone, hvalue, hmarkup⟩
    obtain rfl := block_eq_iff.mp hmarkup
    rw [hread, List.append_cancel_left_eq] at hvalue
    exact ⟨hquote.mp hnone, hvalue⟩
  · rintro ⟨hnone, hvalue⟩
    exact ⟨_, hquote.mpr hnone, by rw [hread, hvalue], block_eq_iff.mpr rfl⟩

/--
**When the class names the language.**

Under the default settings, the markup of a text in a language that is not known names it, whatever
characters it is written with. The markup of a text in a known language names it just when its own
name has no quote and reads as itself.
-/
theorem highlight_namesLanguage [CharacterNames] {r : Registry} (hr : r.Built) (reader : NameReader)
    (code : String) (emphasized? : Option (List Int)) (numbered : Bool) :
    (∀ language, language ≠ "" → r.find? language = none → ∃ markup,
      r.highlight {} (request code language emphasized? numbered) = .ok markup ∧
      NamesLanguage reader markup language (escape code)) ∧
    (∀ language g, r.find? language = some g → ∃ markup,
      r.highlight {} (request code language emphasized? numbered) = .ok markup ∧
      (NamesLanguage reader markup g.language
          (body {} g (request code language emphasized? numbered)) ↔
        '"' ∉ g.language.toList ∧ reader.read g.language.toList = g.language.toList)) := by
  constructor
  · intro language hne hfind
    refine ⟨_, highlight_of_not_find? {} hfind code emphasized? numbered, ?_⟩
    rw [if_neg hne, namesLanguage_iff]
    exact ⟨quote_notMem_escapeAttribute language, reader.read_escapeAttribute language⟩
  · intro language g hfind
    exact ⟨_, highlight_of_find? hr.sound {} hfind code emphasized? numbered, namesLanguage_iff⟩

/-- A registry of one language of nothing but its names. -/
def registryOf [CharacterNames] (name : String) (aliases : List String) : Registry :=
  (Memory.fresh.after [.registerLanguage (.string name) (Registry.named aliases)]).registry

theorem registryOf_built [CharacterNames] (name : String) (aliases : List String) :
    (registryOf name aliases).Built :=
  ⟨_, by simpa using Call.compiled_registerLanguage _ _, rfl⟩

theorem highlight_namesLanguage_shapes :
    (registryOf "a<b&c" ["abc"]).Built ∧
      (∃ markup, (registryOf "a<b&c" ["abc"]).highlight {} (request "x" "no\"tes" none false) =
          .ok markup ∧ NamesLanguage .basic markup "no\"tes" (escape "x")) ∧
      ∃ markup body, (registryOf "a<b&c" ["abc"]).highlight {} (request "x" "ABC" none false) =
          .ok markup ∧ NamesLanguage .basic markup "a<b&c" body := by
  have hbuilt := registryOf_built "a<b&c" ["abc"]
  obtain ⟨hunknown, hknown⟩ := highlight_namesLanguage hbuilt .basic "x" none false
  obtain ⟨g, hfind, hname⟩ : ∃ g, (registryOf "a<b&c" ["abc"]).find? "ABC" = some g ∧
      g.language = "a<b&c" := Option.map_eq_some_iff.mp (by decide +kernel)
  obtain ⟨markup, hmarkup, hnames⟩ := hknown "ABC" g hfind
  rw [hname] at hnames
  exact ⟨hbuilt, hunknown "no\"tes" (by decide) (by decide +kernel),
    markup, _, hmarkup, hnames.mpr (by decide +kernel)⟩

/-- **A known name with a quote breaks out.** The quote ends the attribute in the middle of the
name, and the rest of it stands in the tag. Where the same name is not known it is written
escaped. -/
theorem quoted_name_breaks_out :
    (registryOf "a\"b" []).Built ∧
      (registryOf "a\"b" []).highlight {} (request "x" "a\"b" none false) =
        .ok "<pre><code class=\"language-a\"b\">x</code></pre>" ∧
      (∀ reader : NameReader, ¬ NamesLanguage reader
        "<pre><code class=\"language-a\"b\">x</code></pre>" "a\"b" "x") ∧
      (registryOf "other" []).highlight {} (request "x" "a\"b" none false) =
        .ok "<pre><code class=\"language-a&quot;b\">x</code></pre>" := by
  have hblock : "<pre><code class=\"language-a\"b\">x</code></pre>" =
      block (languageClass {} "a\"b") "x" := by decide +kernel
  refine ⟨registryOf_built _ _, ?_, ?_, ?_⟩
  · obtain ⟨g, hfind, hshown⟩ : ∃ g, (registryOf "a\"b" []).find? "a\"b" = some g ∧
        highlighted {} g (request "x" "a\"b" none false) =
          "<pre><code class=\"language-a\"b\">x</code></pre>" :=
      Option.map_eq_some_iff.mp (by decide +kernel)
    rw [highlight_of_find? (registryOf_built _ _).sound {} hfind "x" none false, ← hshown,
      highlighted]
  · intro reader hnames
    rw [hblock, namesLanguage_iff] at hnames
    exact hnames.1 (by decide)
  · have hfind : (registryOf "other" []).find? "a\"b" = none := by decide +kernel
    rw [highlight_of_not_find? {} hfind "x" none false]
    exact congrArg Except.ok (by decide +kernel)

end Lexlight.Markup
