import Lexlight.Unicode.Word
import Lexlight.Unicode.Blank
import Lexlight.Unicode.CaseMap

/-!
# Tests of one character

The leaves of a pattern ask something of the one character at hand: to be a given character, to be
any character, to belong to a set. A set is a list of members, each a code point, a range of them
or a class such as the word characters. Members are code points and not characters, because a
pattern may name code points that no text contains.

A test may look through case. `Fold` says how far: not at all, for ASCII letters only, or by the
case maps of Unicode, in which case characters whose lower-case forms share an upper-case form are
not told apart either. A character is then compared by its key, its lower-case form. Two members
behave in ways of their own past the basic plane (`SetMember.accepts`): a range that reaches beyond
it also takes a character by its upper-case form, and a single code point beyond it is compared
with the key as it is written, so one that is no lower-case form takes nothing.
-/

namespace Lexlight

/-- How case is looked at when characters are compared. -/
inductive Fold where
  | exact
  | ascii
  | full
  deriving Repr, DecidableEq, Inhabited

namespace Fold

/-- The form of a code point that comparisons see. -/
def key : Fold → Nat → Nat
  | .exact, n => n
  | .ascii, n => if 0x41 ≤ n ∧ n ≤ 0x5A then n + 32 else n
  | .full, n => Unicode.lower n

/-- The keys that a key is not told apart from. -/
def alike : Fold → Nat → List Nat
  | .full, k => Unicode.twins k
  | _, k => [k]

/-- The code points with a given key. -/
def sources : Fold → Nat → List Nat
  | .exact, k => [k]
  | .ascii, k =>
    if 0x61 ≤ k ∧ k ≤ 0x7A then [k, k - 32] else if 0x41 ≤ k ∧ k ≤ 0x5A then [] else [k]
  | .full, k => Unicode.lowerSources k

/-- Whether two code points are the same letter. -/
def same (fold : Fold) (a b : Nat) : Bool := (fold.alike (fold.key a)).contains (fold.key b)

/-- The code points that are the same letter as `n`. -/
def variants (fold : Fold) (n : Nat) : List Nat := (fold.alike (fold.key n)).flatMap fold.sources

end Fold

/-- The classes of characters that have a name in patterns. -/
inductive CharClass where
  | digit
  | blank
  | word
  deriving Repr, DecidableEq, Inhabited

/-- Whether a character is of a class, of which `ascii` leaves the ASCII characters only. -/
def CharClass.holds (ascii : Bool) : CharClass → Char → Bool
  | .digit, c => if ascii then c.isDigit else Unicode.isDigit c
  | .blank, c =>
    if ascii then c = ' ' || (c.toNat ≥ 9 && c.toNat ≤ 13) else Unicode.isBlank c
  | .word, c => if ascii then c = '_' || c.isAlphanum else Unicode.isWord c

/-- A member of a set of characters. -/
inductive SetMember where
  | one (n : Nat)
  | range (first last : Nat)
  | kind (c : CharClass) (ascii negated : Bool)
  deriving Repr, DecidableEq, Inhabited

/-- The end of the basic plane. -/
def basicPlaneEnd : Nat := 0xFFFF

/-- Whether a member of a set takes a character. -/
def SetMember.accepts (fold : Fold) (c : Char) : SetMember → Bool
  | .one n =>
    if fold = .exact then c.toNat = n
    else if n > basicPlaneEnd then fold.key c.toNat = n
    else fold.same n c.toNat
  | .range first last =>
    if fold = .exact then first ≤ c.toNat && c.toNat ≤ last
    else
      let within := fun n => first ≤ n && n ≤ last
      (fold.variants c.toNat).any within ||
        (last > basicPlaneEnd &&
          (within (fold.key c.toNat) || within (Unicode.upper (fold.key c.toNat))))
  | .kind cls ascii negated => cls.holds ascii c != negated

/-- What a leaf of a pattern asks of one character. -/
inductive CharTest where
  | any
  /-- Any character but a line feed. -/
  | inLine
  | one (n : Nat) (fold : Fold) (negated : Bool)
  | oneOf (members : List SetMember) (fold : Fold) (negated : Bool)
  deriving Repr, DecidableEq, Inhabited

namespace CharTest

/-- Whether a character passes. -/
def accepts : CharTest → Char → Bool
  | .any, _ => true
  | .inLine, c => c != '\n'
  | .one n fold negated, c => fold.same n c.toNat != negated
  | .oneOf members fold negated, c => members.any (·.accepts fold c) != negated

/-- The test for one given character. -/
def ofChar (fold : Fold) (c : Char) : CharTest := .one c.toNat fold false

/-- The test for a class of characters, over all of Unicode. -/
def ofClass (fold : Fold) (cls : CharClass) : CharTest := .oneOf [.kind cls false false] fold false

@[simp] theorem accepts_ofChar_exact (c d : Char) :
    (ofChar .exact c).accepts d = true ↔ d = c := by
  simp only [ofChar, accepts, Fold.same, Fold.alike, Fold.key, List.contains_cons,
    List.contains_nil, Bool.or_false, bne_iff_ne, ne_eq, Bool.not_eq_false, beq_iff_eq]
  constructor
  · intro h; exact Char.ext (UInt32.toNat_inj.mp h)
  · rintro rfl; rfl

end CharTest
end Lexlight
