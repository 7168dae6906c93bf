import Lexlight.Pattern.Reading.Basic
import Lexlight.Unicode.CharacterNames

/-!
# Escapes

A backslash gives the character after it another meaning. Before punctuation it takes a meaning
away. Before a letter or a digit it names a character, by a control letter, by its number in base
eight or sixteen or by its name, or it names a class of characters, an anchor or a group; a letter
with no meaning is a fault. A set knows no anchors and no groups, and there `\b` is the backspace.

Which names characters have, reading is told (`CharacterNames`). A name that none has is a fault.
-/

namespace Lexlight.Reading

/-- The control characters that have a letter. -/
def controlOf : Char → Option Nat
  | 'a' => some 7
  | 'f' => some 12
  | 'n' => some 10
  | 'r' => some 13
  | 't' => some 9
  | 'v' => some 11
  | '\\' => some 92
  | _ => none

/-- The classes that have a letter. The capital letter stands for all other characters. -/
def classOf (ascii : Bool) : Char → Option SetMember
  | 'd' => some (.kind .digit ascii false)
  | 'D' => some (.kind .digit ascii true)
  | 's' => some (.kind .blank ascii false)
  | 'S' => some (.kind .blank ascii true)
  | 'w' => some (.kind .word ascii false)
  | 'W' => some (.kind .word ascii true)
  | _ => none

/-- The anchors that have a letter. -/
def anchorOf (ascii : Bool) : Char → Option Anchor
  | 'A' => some .textStart
  | 'Z' => some .textEnd
  | 'b' => some (.wordEdge ascii false)
  | 'B' => some (.wordEdge ascii true)
  | _ => none

/-- An escape as it is written. -/
def escapeText (c : Char) (digits : List Char) : String := String.ofList ('\\' :: c :: digits)

/-- The escape `c` with just `n` digits of base sixteen after it. -/
def hexEscape (c : Char) (n : Nat) : Reading Nat := do
  let digits ← takeUpTo isHex n
  if digits.length = n then return number 16 digits
  else fail (.incompleteEscape (escapeText c digits)) (2 + digits.length)

variable [CharacterNames]

/-- An escape that names a code point by number or name, and the punctuation that stands for
itself. -/
def codeEscape (c : Char) : Reading Nat := do
  match c with
  | 'x' => hexEscape c 2
  | 'u' => hexEscape c 4
  | 'U' =>
    let digits ← takeUpTo isHex 8
    if digits.length ≠ 8 then
      fail (.incompleteEscape (escapeText c digits)) (2 + digits.length)
    else if number 16 digits > 0x10FFFF then fail (.badEscape (escapeText c digits)) 10
    else return number 16 digits
  | 'N' =>
    if !(← accept '{') then fail .missingBrace 0
    else
      let name ← nameUntil '}' "character name"
      match CharacterNames.named? (String.ofList name) with
      | some named => return named.toNat
      | none => fail (.unknownCharacterName (String.ofList name)) (name.length + 4)
  | _ =>
    if c.isAlpha then fail (.badEscape (escapeText c [])) 2
    else return c.toNat

/-- The number of an octal escape that is refused past the last one-byte code point. -/
def octalEscape (digits : List Char) : Reading Nat := do
  if number 8 digits > 0o377 then
    fail (.octalTooLarge (String.ofList ('\\' :: digits))) (digits.length + 1)
  else return number 8 digits

/-- An escape inside a set, after its backslash and `c`. -/
def setEscape (flags : Flags) (c : Char) : Reading SetMember := do
  match controlOf c, classOf flags.ascii c with
  | some n, _ => return .one n
  | none, some m => return m
  | none, none =>
    if c = 'b' then return .one 8
    else if isOctal c then return .one (← octalEscape (c :: (← takeUpTo isOctal 2)))
    else if isDecimal c then fail (.badEscape (escapeText c [])) 2
    else return .one (← codeEscape c)

/-- A reference to a group by number, written with `size` digits. -/
def groupEscape (flags : Flags) (group size : Nat) : Reading Part := do
  if group < (← get).nextGroup then
    if !(← isClosed group) then fail .openGroup (size + 1)
    else
      checkBehind group
      return ⟨.again, .again group flags.fold⟩
  else fail (.invalidGroupReference group) size

/-- A digit that an escape of two more octal digits may begin with, or the number of a group. -/
def digitEscape (flags : Flags) (c : Char) : Reading Part := do
  let literal := fun n => Part.ofTest (.one n flags.fold false)
  if c = '0' then return literal (number 8 (c :: (← takeUpTo isOctal 2)))
  else
    match ← takeUpTo isDecimal 1 with
    | [d] =>
      if isOctal c && isOctal d then
        match ← takeUpTo isOctal 1 with
        | [e] => return literal (← octalEscape [c, d, e])
        | _ => groupEscape flags (number 10 [c, d]) 2
      else groupEscape flags (number 10 [c, d]) 2
    | _ => groupEscape flags (number 10 [c]) 1

/-- An escape outside of sets, after its backslash and `c`. -/
def escape (flags : Flags) (c : Char) : Reading Part := do
  match anchorOf flags.ascii c, classOf flags.ascii c, controlOf c with
  | some a, _, _ => return ⟨.anchor, .anchor a⟩
  | none, some m, _ => return .ofTest (.oneOf [m] flags.fold false)
  | none, none, some n => return .ofTest (.one n flags.fold false)
  | none, none, none =>
    if isDecimal c then digitEscape flags c
    else return .ofTest (.one (← codeEscape c) flags.fold false)

end Lexlight.Reading
