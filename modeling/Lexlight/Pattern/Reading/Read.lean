import Lexlight.Pattern.Reading.Set
import Lexlight.Pattern.Reading.Flag
import Lexlight.Unicode.Identifier
import Lexlight.Unicode.Blank

/-!
# Reading a written pattern

`Pattern.read` reads a pattern, or says what is wrong with it. Reading goes from left to right and
stops at the first fault; what can only be seen of the pattern as a whole is checked after that: a
condition on a group that is nowhere, and then, from the outside in and from left to right, a look
behind that has no fixed width.

The three functions at the centre call each other: choices hold sequences, sequences hold groups,
and groups hold choices. Each takes a glyph before it goes on to the next one, so three calls for
every character of the text are always enough.
-/

namespace Lexlight.Reading

/-- What has been read of a sequence: a part, or the parts of a group that only held them together.
Such a group can be repeated as one; otherwise its parts join those around it. -/
inductive Entry where
  | part (p : Part)
  | bundle (ps : List Part)
  deriving Repr, Inhabited

/-- The parts of an entry. -/
def Entry.parts : Entry → List Part
  | .part p => [p]
  | .bundle ps => ps

/-- What stands between a pair of parentheses, or instead of one. -/
inductive Opened where
  | nothing
  | entry (e : Entry)
  | flags (f : Flags)
  deriving Repr, Inhabited

/-- Repetition counts are below this bound. -/
def countBound : Nat := Nat.pow 2 32 - 1

/-- Group numbers in conditions are below this bound. -/
def groupBound : Nat := Nat.pow 2 31 - 1

/-- What verbose patterns leave out. -/
def isFiller (c : Char) : Bool := c = ' ' || (c.toNat ≥ 9 && c.toNat ≤ 13)

/-- Steps over a comment that ends with its line. -/
def skipLine : Nat → Reading Unit
  | 0 => return
  | n + 1 => do
    match ← next with
    | none => return
    | some g => if g = .plain '\n' then return else skipLine n

/-- Steps over a comment that ends with a parenthesis; it began at `start`. -/
def skipComment (start : Nat) : Nat → Reading Unit
  | 0 => failAt .unterminatedComment start
  | n + 1 => do
    match ← next with
    | none => failAt .unterminatedComment start
    | some g => if g = .plain ')' then return else skipComment start n

/-- A repetition count, if digits write one. -/
def count (digits : List Char) : Reading (Option Nat) := do
  if digits = [] then return none
  else if number 10 digits ≥ countBound then throw .countTooLarge
  else return some (number 10 digits)

/-- The counts in braces, after the opening one. Without a closing brace where it should be, the
opening one stands for itself, and nothing is taken. -/
def braces : Reading (Option (Nat × Option Nat)) := do
  let before ← get
  if (← peek) = some (.plain '}') then return none
  else
    let lo ← takeAll isDecimal
    let hi ← if ← accept ',' then takeAll isDecimal else pure lo
    if ← accept '}' then
      let least := (← count lo).getD 0
      let most ← count hi
      if most.any (· < least) then failAt .minAboveMax before.pos
      else return some (least, most)
    else
      set before
      return none

/-- The counts that a quantifier asks for, after its first character; nothing for a brace that
stands for itself. -/
def counts (c : Char) : Reading (Option (Nat × Option Nat)) := do
  match c with
  | '?' => return some (0, some 1)
  | '*' => return some (0, none)
  | '+' => return some (1, none)
  | _ => braces

/-- The pattern that a quantifier at `pos` repeats, given what was read before it, last first. -/
def repeated (pos : Nat) : List Entry → Reading (Pattern × List Entry)
  | [] => failAt .nothingToRepeat pos
  | .bundle ps :: before => return (Part.sequence ps, before)
  | .part p :: before =>
    match p.kind with
    | .anchor => failAt .nothingToRepeat pos
    | .repetition => failAt .multipleRepeat pos
    | _ => return (p.pattern, before)

/-- How the counts are tried, by the character after a quantifier, if it is one that says so. -/
def greedMark : Reading Greed := do
  if ← accept '?' then return .lazy
  else if ← accept '+' then return .possessive
  else return .greedy

/-- A quantifier, after its first character, which stands at `pos`. -/
def quantifier (flags : Flags) (c : Char) (pos : Nat) (before : List Entry) :
    Reading (List Entry) := do
  match ← counts c with
  | none => return .part (.ofChar flags.fold c) :: before
  | some (least, most) =>
    let (body, before) ← repeated pos before
    let greed ← greedMark
    return .part ⟨.repetition, .rep body least most greed⟩ :: before

/-- Opens a group, under a name if it has one, and gives its number. -/
def openGroup (name : Option (List Char)) : Reading Nat := do
  let s ← get
  let index := s.nextGroup
  match name with
  | none =>
    set { s with nextGroup := index + 1 }
    return index
  | some n =>
    match s.names.lookup n with
    | some earlier =>
      fail (.redefinedGroup (String.ofList n) index earlier) (n.length + 1)
    | none =>
      set { s with nextGroup := index + 1, names := s.names ++ [(n, index)] }
      return index

/-- Closes a group. -/
def closeGroup (index : Nat) (ps : List Part) : Reading Unit :=
  modify fun s => { s with widths := (index, (Part.sequence ps).width s.widths) :: s.widths }

/-- Refuses what is no name for a group. -/
def checkName (name : List Char) : Reading Unit := do
  if !Unicode.isIdentifier name then
    fail (.badGroupName (String.ofList name)) (name.length + 1)

/-- The number of a named group. -/
def groupNamed (name : List Char) : Reading Nat := do
  match (← get).names.lookup name with
  | some g => return g
  | none => fail (.unknownGroupName (String.ofList name)) (name.length + 1)

/-- A reference to a group by name. -/
def namedAgain (flags : Flags) : Reading Part := do
  let name ← nameUntil ')' "group name"
  checkName name
  let g ← groupNamed name
  if !(← isClosed g) then fail .openGroup (name.length + 1)
  else
    checkBehind g
    return ⟨.again, .again g flags.fold⟩

/-- The number that digits of any script write, single underscores between them left out. -/
def scriptNumber : List Char → Option Nat → Option Nat
  | [], n => n
  | '_' :: c :: rest, some n => do scriptNumber rest (some (n * 10 + (← Unicode.digitValue? c)))
  | c :: rest, n => do scriptNumber rest (some (n.getD 0 * 10 + (← Unicode.digitValue? c)))

/-- A whole number that is not negative, with a sign and blanks around it allowed. -/
def wholeNumber? (cs : List Char) : Option Nat :=
  let trimmed := ((cs.dropWhile Unicode.isBlank).reverse.dropWhile Unicode.isBlank).reverse
  match trimmed with
  | '+' :: rest => scriptNumber rest none
  | '-' :: rest => (scriptNumber rest none).filter (· = 0)
  | rest => scriptNumber rest none

/-- The group a condition asks for. A number may be that of a group still to come. -/
def conditionGroup : Reading Nat := do
  let name ← nameUntil ')' "group name"
  if Unicode.isIdentifier name then groupNamed name
  else
    match wholeNumber? name with
    | none => fail (.badGroupName (String.ofList name)) (name.length + 1)
    | some 0 => fail .badGroupNumber (name.length + 1)
    | some g =>
      if g ≥ groupBound then fail (.invalidGroupReference g) (name.length + 1)
      else
        let at_ := (← position) - name.length - 1
        modify fun s =>
          if (s.conditions.lookup g).isSome then s
          else { s with conditions := (g, at_) :: s.conditions }
        return g

/-- Refuses a group that is not closed here; it was opened at `start`. -/
def closing (start : Nat) : Reading Unit := do
  if !(← accept ')') then failAt .unterminatedGroup start

variable [CharacterNames]

mutual

/-- The alternatives from here to the end of the group, or of the pattern at the `top`. -/
def branches (top : Bool) : Nat → Bool → Flags → Reading (List (List Part))
  | 0, _, _ => fail .unexpectedEnd 0
  | n + 1, isFirst, flags => do
    let ps ← sequence n (top && isFirst) flags []
    if ← accept '|' then
      let s ← get
      let later := if top then s.flags else flags
      return ps :: (← branches top n false later)
    else return [ps]

/-- The parts from here to the end of the alternative, those read before being given last first.
Flags for the whole pattern are taken at its `start` only. -/
def sequence : Nat → (start : Bool) → Flags → List Entry → Reading (List Part)
  | 0, _, _, _ => fail .unexpectedEnd 0
  | n + 1, start, flags, before => do
    let done := before.reverse.flatMap Entry.parts
    match ← peek with
    | none => return done
    | some (.escaped c) =>
      advance
      let p ← escape flags c
      sequence n start flags (.part p :: before)
    | some (.plain c) =>
      if c = '|' || c = ')' then return done
      else
        let pos ← position
        advance
        if flags.verbose && isFiller c then sequence n start flags before
        else if flags.verbose && c = '#' then
          skipLine ((← get).rest.length + 1)
          sequence n start flags before
        else
          match c with
          | '[' =>
            let t ← bracketed flags pos
            sequence n start flags (.part (.ofTest t) :: before)
          | '.' =>
            let t := if flags.dotAll then CharTest.any else .inLine
            sequence n start flags (.part (.ofTest t) :: before)
          | '^' =>
            let a := if flags.multiline then Anchor.lineStart else .textStart
            sequence n start flags (.part ⟨.anchor, .anchor a⟩ :: before)
          | '$' =>
            let a := if flags.multiline then Anchor.lineEnd else .lastLineEnd
            sequence n start flags (.part ⟨.anchor, .anchor a⟩ :: before)
          | '(' =>
            match ← opened n (start && before.isEmpty) flags pos with
            | .nothing => sequence n start flags before
            | .entry e => sequence n start flags (e :: before)
            | .flags f => sequence n start f before
          | _ =>
            if c = '*' || c = '+' || c = '?' || c = '\x7b' then
              sequence n start flags (← quantifier flags c pos before)
            else sequence n start flags (.part (.ofChar flags.fold c) :: before)

/-- What a parenthesis opens, after it; it stands at `pos`. -/
def opened : Nat → (start : Bool) → Flags → (pos : Nat) → Reading Opened
  | 0, _, _, _ => fail .unexpectedEnd 0
  | n + 1, start, flags, pos => do
    let inner := fun (f : Flags) => do
      let ps := Part.alternatives (← branches false n true f)
      closing pos
      return ps
    let capture := fun (name : Option (List Char)) => do
      let index ← openGroup name
      let ps ← inner flags
      closeGroup index ps
      return Opened.entry (.part ⟨.closed, .group index (Part.sequence ps)⟩)
    if !(← accept '?') then capture none
    else
      match ← next with
      | none => fail .unexpectedEnd 0
      | some (.escaped c) => fail (.unknownExtension (escapeText c [])) 3
      | some (.plain 'P') =>
        if ← accept '<' then
          let name ← nameUntil '>' "group name"
          checkName name
          capture (some name)
        else if ← accept '=' then return .entry (.part (← namedAgain flags))
        else
          match ← next with
          | none => fail .unexpectedEnd 0
          | some g => fail (.unknownExtension (String.ofList ('P' :: g.text))) (g.size + 2)
      | some (.plain ':') => return .entry (.bundle (← inner flags))
      | some (.plain '#') =>
        skipComment pos ((← get).rest.length + 1)
        return .nothing
      | some (.plain '=') =>
        let ps ← inner flags
        return .entry (.part ⟨.closed, .ahead true (Part.sequence ps)⟩)
      | some (.plain '!') =>
        let ps ← inner flags
        return .entry (.part ⟨.closed, .ahead false (Part.sequence ps)⟩)
      | some (.plain '<') =>
        match ← next with
        | none => fail .unexpectedEnd 0
        | some g =>
          if g = .plain '=' || g = .plain '!' then
            let outer := (← get).behindFrom
            modify fun s => { s with behindFrom := some (outer.getD s.nextGroup) }
            let ps := Part.alternatives (← branches false n true flags)
            modify fun s => { s with behindFrom := outer }
            closing pos
            let body := Part.sequence ps
            let width := body.width (← get).widths
            return .entry (.part ⟨.closed, .behind (g = .plain '=') width body⟩)
          else fail (.unknownExtension (String.ofList ('<' :: g.text))) (g.size + 2)
      | some (.plain '(') =>
        let g ← conditionGroup
        checkBehind g
        let yes ← sequence n false flags []
        let no ←
          if ← accept '|' then
            let no ← sequence n false flags []
            if (← peek) = some (.plain '|') then fail .thirdBranch 0
            pure no
          else pure []
        closing pos
        return .entry (.part ⟨.closed, .ifGroup g (Part.sequence yes) (Part.sequence no)⟩)
      | some (.plain '>') =>
        let ps ← inner flags
        return .entry (.part ⟨.closed, .atomic (Part.sequence ps)⟩)
      | some (.plain c) =>
        if c ∈ Flags.letters || c = '-' then
          match ← flagRequest c with
          | .whole on =>
            modify fun s => { s with flags := s.flags.turnOn on }
            if start then return .flags (← get).flags
            else failAt .globalFlagsNotFirst pos
          | .group on off =>
            let ps ← inner (flags.forPart on off)
            return .entry (.part ⟨.closed, Part.sequence ps⟩)
        else fail (.unknownExtension (String.ofList [c])) 2

end

/-- A pattern as a whole: its parts, and the groups that conditions in it ask for must be there. -/
def whole : Reading Pattern := do
  checkDangling
  let s ← get
  let ps := Part.alternatives (← branches true (3 * s.rest.length + 3) true s.flags)
  let s ← get
  if s.flags.ascii && s.flags.unicode then throw .asciiAndUnicode
  if s.rest ≠ [] then fail .unbalancedParenthesis 0
  match s.conditions.reverse.find? (fun (g, _) => g ≥ s.nextGroup) with
  | some (g, pos) => failAt (.invalidGroupReference g) pos
  | none => return Part.sequence ps

/-- The furthest that a look behind can step back. -/
def stepBound : Nat := Nat.pow 2 32 - 1

/-- The name of the kind of a repetition. -/
def greedName : Greed → String
  | .greedy => "MAX_REPEAT"
  | .lazy => "MIN_REPEAT"
  | .possessive => "POSSESSIVE_REPEAT"

/-- What is wrong with a pattern that was read, if anything; a `plain` one has no repetition. -/
def flaw? (plain : Bool) : Pattern → Option Reason
  | .empty | .char _ | .anchor _ | .again .. => none
  | .seq a b | .alt a b | .ifGroup _ a b => flaw? plain a <|> flaw? plain b
  | .rep body _ _ greed =>
    if plain then some (.repetitionBarred (greedName greed)) else flaw? plain body
  | .group _ body | .ahead _ body | .atomic body => flaw? plain body
  | .behind _ width body =>
    if width.least > stepBound then some .lookBehindTooFar
    else if width.least ≠ width.most then some .lookBehindNotFixed
    else flaw? plain body

end Reading

namespace Pattern

/-- Reads a written pattern; `ignoreCase` is in force unless the pattern itself says otherwise. -/
def read [CharacterNames] (text : String) (ignoreCase : Bool) : Except Fault Pattern := do
  let (p, s) ← Reading.whole.run
    { rest := text.toList, pos := 0, flags := { ignoreCase := ignoreCase } }
  match Reading.flaw? s.flags.plain p with
  | some reason => throw (.whole reason)
  | none => return p

end Pattern
end Lexlight
