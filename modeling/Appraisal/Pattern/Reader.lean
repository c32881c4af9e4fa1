import Appraisal.Pattern.Automaton
import Appraisal.Pattern.Bracket
import Appraisal.Text.Numeral

/-!
# The text of a pattern

A pattern is a choice between branches, a branch a row of parts, and a part is a character, a set,
a demand on a place or a group, repeated or not (`Pattern.ofText?`). Flags hold until the end of
the group that they are set in. Looking around and referring back are not part of the language.
-/

namespace Appraisal.Pattern

/-- The parts of a branch, the latest first. A change of flags is a part without a pattern. -/
abbrev Parts := List (Option (Nested Pattern))

namespace Reader

/-- The height of a row of parts or of a choice. -/
def rowHeight : List Nat → Nat
  | [] => 0
  | [h] => h
  | hs => 1 + hs.foldl max 0

/-- The parts of a branch one after the other. -/
def row (parts : Parts) : Nested Pattern where
  content := Pattern.row (parts.reverse.filterMap fun part => part.map Nested.content)
  height := rowHeight (parts.map fun part => part.elim 0 Nested.height)

/-- A choice between branches. -/
def choice (branches : List (Nested Pattern)) : Nested Pattern where
  content := Pattern.choice (branches.map Nested.content)
  height := rowHeight (branches.map Nested.height)

/-! ### Parts without parts -/

/-- The pattern of an atom. -/
def ofAtom (flags : Flags) : Atom → Pattern
  | .literal c => ofSet (flags.fold (.single c))
  | .set s => ofSet s
  | .assertion a => .assertion a (if a.aboutWords then flags.words else .empty)

/-- What the dot matches. -/
def dot (flags : Flags) : CharSet :=
  if flags.dotMatchesEnding then .all
  else if flags.anyEnding then (CharSet.ofList ['\n', '\r']).complement
  else (CharSet.single '\n').complement

/-- What the start of a line asks for. -/
def lineStart (flags : Flags) : Assertion :=
  if !flags.multiLine then .textStart
  else if flags.anyEnding then .lineStartAnyEnding
  else .lineStart

/-- What the end of a line asks for. -/
def lineEnd (flags : Flags) : Assertion :=
  if !flags.multiLine then .textEnd
  else if flags.anyEnding then .lineEndAnyEnding
  else .lineEnd

/-- A character, an escape, a dot or the start or end of a line. -/
def atom : Reader Pattern := do
  let flags := (← get).flags
  match ← take with
  | '\\' => return ofAtom flags (← escape)
  | '.' =>
    -- without Unicode the dot would match single bytes of a character
    guard flags.unicode
    return ofSet (dot flags)
  | '^' => return ofAtom flags (.assertion (lineStart flags))
  | '$' => return ofAtom flags (.assertion (lineEnd flags))
  | c => return ofAtom flags (.literal c)

/-! ### Repetition -/

/-- The latest part repeated; there has to be one. A question mark after a repetition prefers the
shorter match. -/
def repeated (low : Nat) (high : Option Nat) : Parts → Reader Parts
  | some part :: parts => do
    let reluctant ← accept "?"
    let greedy := reluctant == (← get).flags.swapGreed
    return some {
      content := Pattern.repeated low high greedy part.content
      height := 1 + part.height } :: parts
  | _ => failure

/-- A number of at most 32 bits, if there are digits. -/
def count? : Reader (Option Nat) := do
  modify fun s => { s with rest := s.rest.dropWhile Text.isBlank }
  let digits ← takeMany Char.isDigit
  let _ ← takeMany Text.isBlank
  if digits.isEmpty then return none
  let n := digits.foldl (fun n c => 10 * n + (c.toNat - '0'.toNat)) 0
  guard (n < 4294967296)
  return some n

/-- The bounds of a counted repetition, in braces. -/
def bounds : Reader (Nat × Option Nat) := do
  expect '\x7b'
  let low ← count?
  let range ← if (← peek) == some ',' then do
      let _ ← takeSpaced
      let low ← low.elim failure pure
      if (← peek) == some '\x7d' then pure (low, none)
      else
        let high ← (← count?).elim failure pure
        guard (low ≤ high)
        pure (low, some high)
    else do
      let low ← low.elim failure pure
      pure (low, some low)
  expect '\x7d'
  return range

/-! ### Groups -/

/-- The letters of flags up to the end of their list, with those after a hyphen turned off. -/
def flagLetters : (fuel : Nat) → (seen : List Char) → Flags → Reader Flags
  | 0, _, _ => failure
  | fuel + 1, seen, flags => do
    match ← peek with
    | some ':' | some ')' =>
      guard (seen.head? != some '-')
      return flags
    | _ =>
      let c ← take
      guard (!seen.contains c)
      if c == '-' then flagLetters fuel (c :: seen) flags
      else
        let flags ← (flags.set? c (!seen.contains '-')).elim failure pure
        flagLetters fuel (c :: seen) flags

/-- Whether a character may stand in the name of a group. -/
def isNameChar (first : Bool) (c : Char) : Bool :=
  if first then c == '_' || Text.isAlphabetic c
  else c == '_' || c == '.' || c == '[' || c == ']' || Text.isAlphanumeric c

/-- The name of a group and the bracket after it. No two groups have one name. -/
def groupName : Reader Unit := do
  let s ← get
  let name := s.rest.takeWhile (· != '>')
  guard ((name.take 1).any (isNameChar true) && name.all (isNameChar false))
  guard (!s.names.contains name)
  set { s with rest := s.rest.drop name.length, names := name :: s.names }
  guard ((← take) == '>')

/-- Whether a name follows, after the characters that announce one. -/
def acceptNaming : Reader Bool := do
  if ← accept "?P<" then return true
  accept "?<"

/-- What an opening bracket starts. -/
inductive Opening
  | flagsAlone
  | group
  | numbered (number : Nat)

/-- The start of a group with a number. -/
def numberedGroup : Reader Opening := do
  let number := (← get).groups + 1
  modify ({ · with groups := number })
  return .numbered number

/-- The start of a group, or a change of flags. -/
def opening : Reader Opening := do
  guard ((← take) == '(')
  skipSpace
  let flags := (← get).flags
  for around in ["?=", "?!", "?<=", "?<!"] do
    guard !(← accept around)
  if ← acceptNaming then
    groupName
    numberedGroup
  else if ← accept "?" then
    -- an empty list of flags is only good for a group
    let length := (← get).rest.length
    let changed ← flagLetters (length + 1) [] flags
    let written := (← get).rest.length < length
    modify ({ · with flags := changed })
    if (← take) == ')' then
      guard written
      return .flagsAlone
    else return .group
  else numberedGroup

/-! ### The whole -/

mutual

/-- The branches up to the end of a group or of the text. -/
def branches : (fuel : Nat) → List (Nested Pattern) → Reader (Nested Pattern)
  | 0, _ => failure
  | fuel + 1, earlier => do
    let here ← branch fuel []
    if ← accept "|" then branches fuel (here :: earlier)
    else return choice (here :: earlier).reverse
termination_by structural fuel => fuel

/-- The parts of a branch. -/
def branch : (fuel : Nat) → Parts → Reader (Nested Pattern)
  | 0, _ => failure
  | fuel + 1, parts => do
    skipSpace
    match ← peek with
    | none | some '|' | some ')' => return row parts
    | some '(' => branch fuel ((← group fuel) :: parts)
    | some '[' =>
      let s ← bracket fuel
      branch fuel (some { content := ofSet s.content, height := s.height } :: parts)
    | some '?' =>
      let _ ← take
      branch fuel (← repeated 0 (some 1) parts)
    | some '*' =>
      let _ ← take
      branch fuel (← repeated 0 none parts)
    | some '+' =>
      let _ ← take
      branch fuel (← repeated 1 none parts)
    | some '\x7b' =>
      let (low, high) ← bounds
      branch fuel (← repeated low high parts)
    | _ => branch fuel (some { content := ← atom, height := 0 } :: parts)
termination_by structural fuel => fuel

/-- A group, or nothing where flags are changed. -/
def group : (fuel : Nat) → Reader (Option (Nested Pattern))
  | 0 => failure
  | fuel + 1 => do
    let outer := (← get).flags
    let opened ← opening
    if let .flagsAlone := opened then return none
    let inner ← branches fuel []
    guard ((← take) == ')')
    modify ({ · with flags := outer })
    let content := match opened with
      | .numbered number => .group number inner.content
      | _ => inner.content
    return some { content, height := 1 + inner.height }
termination_by structural fuel => fuel

end

/-- The pattern of a whole text. -/
def whole (length : Nat) : Reader (Nested Pattern) := do
  let p ← branches (3 * (length + 1)) []
  guard (← get).rest.isEmpty
  return p

end Reader

/-- How deeply a pattern may be nested. -/
def maxHeight : Nat := 250

/-- The pattern that a text stands for. -/
def ofText? (s : String) : Option Pattern :=
  let chars := s.toList
  match (Reader.whole chars.length).run { rest := chars } with
  | some (p, _) => if p.height ≤ maxHeight then some p.content else none
  | none => none

/-- Why a text is no pattern that can be used. -/
inductive Defect
  | malformed
  /-- An automaton for the pattern would be too large. -/
  | tooLarge
  deriving DecidableEq, Inhabited

/-- What is wrong with a text, in messages. Where a malformed one goes wrong is not told. -/
def Defect.text : Defect → String
  | malformed => "regex parse error"
  | tooLarge => "Compiled regex exceeds size limit of " ++ toString maxBytes ++ " bytes."

/-- The pattern that a text stands for, if it is not too large. -/
def compile (s : String) : Except Defect Pattern :=
  match ofText? s with
  | none => .error .malformed
  | some p => if p.fitsAutomata then .ok p else .error .tooLarge

end Appraisal.Pattern
