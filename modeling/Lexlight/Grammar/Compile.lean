import Lexlight.Failure
import Lexlight.Grammar.Basic
import Lexlight.Grammar.Description
import Lexlight.Pattern.Reading.Read

/-!
# Compiling a description

`Offer.compile` checks a description and makes a grammar of it, or gives the first flaw. The name of
the language is checked first, then the title and the aliases, then the rule descriptions from left
to right, and the word lists last.

Comments, quoted strings and the matcher for entries that are no lexemes are built from the given
texts as they are: no character of a marker has a meaning of its own, and such a pattern cannot fail
to be made.
-/

namespace Lexlight

/-- A step of compiling. -/
abbrev Compiling := Except Failure

namespace Compiling

/-- The first flaw of the description of a language. -/
def reject {α : Type} (language : String) (f : Flaw) : Compiling α := throw (.flaw language f)

/-- The text of a marker. -/
def marker (language what : String) (v : Value) : Compiling String :=
  match v.nonEmpty? with
  | some s => return s
  | none => reject language (.marker what)

/-- A written pattern, read. -/
def written [CharacterNames] (language : String) (ignoreCase : Bool) (v : Value) :
    Compiling Pattern :=
  match v.nonEmpty? with
  | none => reject language .emptyPattern
  | some text =>
    match Pattern.read text ignoreCase with
    | .ok p => return p
    | .error .countTooLarge => throw .countTooLarge
    | .error .asciiAndUnicode => throw .asciiAndUnicode
    | .error fault => reject language (.badPattern text fault)

/-- A category by its name. -/
def category (language : String) (v : Value) : Compiling Category :=
  match v.text?.bind Category.ofName? with
  | some c => return c
  | none => reject language (.unknownCategory v)

end Compiling

/-- How case is looked at in patterns made from texts. -/
def foldFor (ignoreCase : Bool) : Fold := if ignoreCase then .full else .exact

namespace Pattern

/-- From a marker to the end of its line, a line ending at a carriage return or a line feed. -/
def lineComment (fold : Fold) (marker : String) : Pattern :=
  .seq (.literal fold marker)
    (.rep (.char (.oneOf [.one 13, .one 10] fold true)) 0 none .greedy)

/-- From a start marker to the nearest end marker after it, or to the end of the source. -/
def blockComment (fold : Fold) (start stop : String) : Pattern :=
  .seq (.literal fold start)
    (.seq (.rep (.char .any) 0 none .lazy) (.alt (.literal fold stop) (.anchor .textEnd)))

/-- Any character inside a quoted string but the quote and the backslash. -/
def unquoted (fold : Fold) (quote : Char) : CharTest :=
  if quote = '\\' then .one 92 fold true
  else .oneOf [.one quote.toNat, .one 92] fold true

/-- From a quote to the next one, or to the end of the source. A backslash takes the character after
it along. -/
def quotedString (fold : Fold) (quote : Char) : Pattern :=
  let mark := Pattern.char (.ofChar fold quote)
  let escaped := Pattern.seq (.char (.ofChar fold '\\')) (.rep (.char .any) 0 (some 1) .greedy)
  .seq mark
    (.seq (.rep (.alt (.char (unquoted fold quote)) escaped) 0 none .greedy)
      (.rep mark 0 (some 1) .greedy))

/-- The given entries, each only where no word character stands before or after it. The entries
are tried in the order given. -/
def boundedEntries (fold : Fold) (entries : List String) : Pattern :=
  let word := Pattern.char (.ofClass fold .word)
  Part.sequence <|
    ⟨.closed, .behind false ⟨1, 1⟩ word⟩ ::
      Part.alternatives (entries.map fun e => e.toList.map (Part.ofChar fold)) ++
      [⟨.closed, .ahead false word⟩]

end Pattern

variable [CharacterNames]

/-- The rule of a variant in a group of the given category. -/
def Variant.compile (language : String) (ignoreCase : Bool) (base : Category) (relevance : Int) :
    Variant → Compiling Rule
  | .bare pattern => do
    return .token base (← Compiling.written language ignoreCase (.string pattern)) relevance
  | .of pattern own => do
    let c ← match own with
      | .null => pure base
      | v => Compiling.category language v
    return .token c (← Compiling.written language ignoreCase pattern) relevance
  | .unknown v => throw (.missingPart v.kind "category")

/-- The rules of a description, in the order in which they are tried. -/
def RuleDescription.compile (language : String) (ignoreCase : Bool) :
    RuleDescription → Compiling (List Rule)
  | .lineComment marker relevance => do
    let m ← Compiling.marker language "comment marker" marker
    return [.token .comment (.lineComment (foldFor ignoreCase) m) relevance]
  | .blockComment start stop relevance => do
    let a ← Compiling.marker language "comment start marker" start
    let b ← Compiling.marker language "comment end marker" stop
    return [.token .comment (.blockComment (foldFor ignoreCase) a b) relevance]
  | .quotedString quote relevance => do
    let q ← Compiling.marker language "string quote" quote
    match q.toList with
    | [c] => return [.token .string (.quotedString (foldFor ignoreCase) c) relevance]
    | _ => Compiling.reject language (.quoteLength q)
  | .custom category pattern relevance variants => do
    let base ← Compiling.category language category
    match pattern, variants with
    | .null, [] => Compiling.reject language .noPattern
    | .null, vs => vs.mapM (·.compile language ignoreCase base relevance)
    | p, [] => return [.token base (← Compiling.written language ignoreCase p) relevance]
    | _, _ => Compiling.reject language .patternAndVariants
  | .unknown v => Compiling.reject language (.unknownDescriptor v.kind)

/-- The texts of a list in which every item has to be one. -/
def textsOf (flaw : Value → Flaw) (language : String) (vs : List Value) :
    Compiling (List String) :=
  vs.mapM fun v =>
    match v.nonEmpty? with
    | some s => return s
    | none => Compiling.reject language (flaw v)

/-- Longer entries first, entries of one length in order. -/
def entryBefore (a b : String) : Bool :=
  a.length > b.length || (a.length = b.length && a ≤ b)

/-- The lexicon of word lists. Entries that a lexeme cannot be have a pattern of their own. -/
def WordLists.compile (language : String) (caseSensitive : Bool) (w : WordLists) :
    Compiling Lexicon := do
  let keywords ← textsOf .badEntry language w.keyword
  let builtins ← textsOf .badEntry language w.builtin
  let pattern ← Compiling.written language (!caseSensitive) w.pattern
  let listed := fun (xs : List String) =>
    sortedSet (if caseSensitive then xs else xs.map Unicode.foldCase)
  let others := (keywords ++ builtins).eraseDups.filter (!pattern.describes ·)
  return {
    pattern, caseSensitive, relevance := w.relevance
    keywords := listed keywords
    builtins := listed builtins
    literals? :=
      if others.isEmpty then none
      else some (.boundedEntries (foldFor !caseSensitive) (others.mergeSort entryBefore)) }

/-- The grammar of a description under a checked name. -/
def LanguageDescription.compile (language : String) (d : LanguageDescription) :
    Compiling Grammar := do
  if !d.title.isSet then Compiling.reject language .title
  let aliases ← textsOf .badAlias language d.aliases
  let rules ← d.contains.mapM (·.compile language (!d.caseSensitive))
  let lexicon? ← d.words?.mapM (·.compile language d.caseSensitive)
  return {
    language
    title := d.title
    aliases := sortedSet (aliases.filter (· ≠ language))
    caseSensitive := d.caseSensitive
    rules := rules.flatten ++ (lexicon?.map Rule.lexeme).toList
    keywords := (lexicon?.map Lexicon.keywords).getD []
    builtins := (lexicon?.map Lexicon.builtins).getD [] }

/-- The grammar of what is offered as the description of a language. -/
def Offer.compile (language : Value) (offer : Offer) : Compiling Grammar :=
  match language.nonEmpty? with
  | none => Compiling.reject language.plain .languageName
  | some name =>
    match offer with
    | .unknown v => Compiling.reject name (.notADescription v.kind)
    | .description d => d.compile name

end Lexlight
