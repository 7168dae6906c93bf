import Lexlight.Quoted

/-!
# Unchecked values

A grammar description arrives unchecked: where a text is called for there may be a number, a list
or nothing at all. `Value` is what such a place can hold. The checks need four things of it: whether
it counts as present (`isSet`), what its kind is called (`kind`), and its two spellings, `shown`
inside a message, where a text is quoted, and `plain`, where a text stands for itself.
-/

namespace Lexlight

/-- What may stand in a place of a description before it is checked. -/
inductive Value where
  | null
  | bool (b : Bool)
  | int (n : Int)
  /-- The number `mantissa` divided by ten to the power `places`. -/
  | decimal (mantissa : Int) (places : Nat)
  | string (s : String)
  | list (items : List Value)
  | object (members : List (String × Value))
  deriving Repr, Inhabited

namespace Value

mutual

/-- Whether two values are the same. -/
def same : Value → Value → Bool
  | .null, .null => true
  | .bool a, .bool b => a = b
  | .int m, .int n => m = n
  | .decimal m p, .decimal n q => m = n && p = q
  | .string s, .string t => s = t
  | .list vs, .list ws => sameItems vs ws
  | .object ms, .object ns => sameMembers ms ns
  | _, _ => false

/-- Whether two lists hold the same items. -/
def sameItems : List Value → List Value → Bool
  | [], [] => true
  | v :: vs, w :: ws => same v w && sameItems vs ws
  | _, _ => false

/-- Whether two objects have the same members, in the same order. -/
def sameMembers : List (String × Value) → List (String × Value) → Bool
  | [], [] => true
  | (k, v) :: ms, (l, w) :: ns => k = l && same v w && sameMembers ms ns
  | _, _ => false

end

mutual

theorem same_iff : ∀ v w : Value, same v w = true ↔ v = w
  | .null, w => by cases w <;> simp [same]
  | .bool _, w => by cases w <;> simp [same]
  | .int _, w => by cases w <;> simp [same]
  | .decimal .., w => by cases w <;> simp [same]
  | .string _, w => by cases w <;> simp [same]
  | .list vs, w => by cases w <;> simp [same, sameItems_iff vs]
  | .object ms, w => by cases w <;> simp [same, sameMembers_iff ms]

theorem sameItems_iff : ∀ vs ws : List Value, sameItems vs ws = true ↔ vs = ws
  | [], ws => by cases ws <;> simp [sameItems]
  | v :: vs, ws => by cases ws <;> simp [sameItems, same_iff v, sameItems_iff vs]

theorem sameMembers_iff : ∀ ms ns : List (String × Value), sameMembers ms ns = true ↔ ms = ns
  | [], ns => by cases ns <;> simp [sameMembers]
  | (k, v) :: ms, ns => by
      rcases ns with _ | ⟨⟨l, w⟩, ns⟩
      · simp [sameMembers]
      · simp [sameMembers, same_iff v, sameMembers_iff ms, Prod.ext_iff]

end

instance : DecidableEq Value := fun v w => decidable_of_iff _ (same_iff v w)

/-- What the kind of a value is called in messages. -/
def kind : Value → String
  | .null => "NoneType"
  | .bool _ => "bool"
  | .int _ => "int"
  | .decimal .. => "float"
  | .string _ => "str"
  | .list _ => "list"
  | .object _ => "dict"

/-- Whether a value counts as present: it is neither nothing, false, zero nor empty. -/
def isSet : Value → Bool
  | .null => false
  | .bool b => b
  | .int n => n != 0
  | .decimal m _ => m != 0
  | .string s => !s.isEmpty
  | .list items => !items.isEmpty
  | .object members => !members.isEmpty

/-- The text a value holds, if it is one. -/
def text? : Value → Option String
  | .string s => some s
  | _ => none

/-- The text a value holds, if it is one and is not empty. -/
def nonEmpty? : Value → Option String
  | .string s => if s.isEmpty then none else some s
  | _ => none

/-- Digits without the zeros at their end, and how many those were. -/
def dropZeros (digits : List Char) : List Char × Nat :=
  let zeros := digits.reverse.takeWhile (· = '0')
  (digits.take (digits.length - zeros.length), zeros.length)

/-- A decimal number: with a point, and at least one digit on each side of it, when the first digit
that counts stands within sixteen places before the point or four after it, and as digits times a
power of ten, of at least two digits, when it does not. -/
def decimalText (mantissa : Int) (places : Nat) : String :=
  let sign := if mantissa < 0 then "-" else ""
  let (digits, zeros) := dropZeros (toString mantissa.natAbs).toList
  if mantissa = 0 then "0.0"
  else
    let point : Int := digits.length + zeros - places
    let body :=
      if point > 16 ∨ point < -3 then
        let power := point - 1
        let powerDigits := (toString power.natAbs).toList
        digits.take 1 ++ (if digits.length > 1 then '.' :: digits.drop 1 else []) ++
          'e' :: (if power < 0 then '-' else '+') ::
          (if powerDigits.length < 2 then '0' :: powerDigits else powerDigits)
      else if point ≤ 0 then
        '0' :: '.' :: List.replicate point.natAbs '0' ++ digits
      else if point.toNat ≥ digits.length then
        digits ++ List.replicate (point.toNat - digits.length) '0' ++ ['.', '0']
      else digits.take point.toNat ++ '.' :: digits.drop point.toNat
    sign ++ String.ofList body

mutual

/-- The spelling of a value inside a message. -/
def shown : Value → String
  | .null => "None"
  | .bool true => "True"
  | .bool false => "False"
  | .int n => toString n
  | .decimal m p => decimalText m p
  | .string s => quoted s
  | .list items => "[" ++ ", ".intercalate (shownItems items) ++ "]"
  | .object members => "\x7b" ++ ", ".intercalate (shownMembers members) ++ "\x7d"

/-- The spellings of the items of a list. -/
def shownItems : List Value → List String
  | [] => []
  | v :: rest => shown v :: shownItems rest

/-- The spellings of the members of an object. -/
def shownMembers : List (String × Value) → List String
  | [] => []
  | (k, v) :: rest => (quoted k ++ ": " ++ shown v) :: shownMembers rest

end

/-- The spelling of a value where a text stands for itself. -/
def plain : Value → String
  | .string s => s
  | v => v.shown

end Value
end Lexlight
