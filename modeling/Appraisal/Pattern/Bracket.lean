import Appraisal.Pattern.Escape

/-!
# Sets in brackets

A bracket lists characters, ranges and sets, and may hold further brackets; `&&`, `--` and `~~`
combine what stands on their two sides, from left to right. Case is ignored on both sides of such
an operator and in the whole, before a caret takes the complement.
-/

namespace Appraisal.Pattern

/-- How deeply a part of a pattern is nested, beside what it is. -/
structure Nested (α : Type) where
  content : α
  height : Nat

/-- The operators between sets. -/
inductive SetOp
  | inter
  | diff
  | symmDiff

/-- The set that an operator makes of two. -/
def SetOp.apply : SetOp → CharSet → CharSet → CharSet
  | inter => CharSet.inter
  | diff => CharSet.diff
  | symmDiff => CharSet.symmDiff

/-- A bracket that is still open: the operand of its last operator, and the items after that, the
latest first. -/
structure OpenBracket where
  left : Option (SetOp × Nested CharSet) := none
  items : List (Nested CharSet) := []

namespace OpenBracket

/-- Add an item. -/
def push (b : OpenBracket) (item : Nested CharSet) : OpenBracket :=
  { b with items := item :: b.items }

/-- Add a character, a range or a named set. -/
def pushSet (b : OpenBracket) (s : CharSet) : OpenBracket := b.push ⟨s, 0⟩

/-- The items after the last operator as one set. -/
def union (b : OpenBracket) : Nested CharSet :=
  match b.items with
  | [item] => item
  | items => {
      content := .unions (items.map Nested.content)
      height := if items.isEmpty then 0 else 1 + (items.map Nested.height).foldl max 0 }

/-- All that has been read as one set. -/
def total (flags : Flags) (b : OpenBracket) : Nested CharSet :=
  let right := b.union
  match b.left with
  | none => right
  | some (op, left) => {
      content := op.apply (flags.fold left.content) (flags.fold right.content)
      height := 1 + max left.height right.height }

/-- Start the right side of an operator. -/
def operate (flags : Flags) (op : SetOp) (b : OpenBracket) : OpenBracket :=
  { left := some (op, b.total flags) }

end OpenBracket

namespace Reader

/-- The named set in square brackets and colons at the front of a text, and what follows it. -/
def namedSet? (cs : List Char) : Option (Bool × CharSet × List Char) := do
  let cs ← Text.dropPrefix? ['[', ':'] cs
  let negated := cs.head? == some '^'
  let cs := if negated then cs.drop 1 else cs
  let s ← CharSet.named? (String.ofList (cs.takeWhile (· != ':')))
  let rest ← Text.dropPrefix? [':', ']'] (cs.dropWhile (· != ':'))
  return (negated, s, rest)

/-- An item of a bracket: an escape, or a character that stands for itself. -/
def bracketAtom : Reader Atom := do
  match ← take with
  | '\\' => escape
  | c => return .literal c

/-- A character that can stand in a set. Without Unicode it has to be one of ASCII. -/
def setLiteral (c : Char) : Reader Char := do
  guard ((← get).flags.unicode || c.toNat < 0x80)
  return c

/-- The character that comes after the next one, where blanks may not count. -/
def peekSecond : Reader (Option Char) := do
  let s ← get
  let rest := s.rest.drop 1
  if !s.flags.spaced then return rest.head?
  match rest.dropWhile Text.isBlank with
  | '#' :: rest => return (rest.dropWhile Text.isBlank).head?
  | rest => return rest.head?

/-- A range, a character or a set. -/
def bracketItem : Reader CharSet := do
  let first ← bracketAtom
  skipSpace
  let second ← peekSecond
  if (← peek) != some '-' || second == some ']' || second == some '-' then
    match first with
    | .literal c => return .single (← setLiteral c)
    | .set s => return s
    | .assertion _ => failure
  else
    let _ ← takeSpaced
    match first, ← bracketAtom with
    | .literal low, .literal high =>
      guard (low ≤ high)
      return .range (← setLiteral low) (← setLiteral high)
    | _, _ => failure

/-- The hyphens at the front of a bracket, which stand for themselves. -/
def leadingHyphens (b : OpenBracket) : Reader OpenBracket := do
  let hyphens ← takeMany (· == '-')
  return hyphens.foldl (fun b c => b.pushSet (.single c)) b

/-- A closing bracket that stands first stands for itself. -/
def leadingBracket (b : OpenBracket) : Reader OpenBracket := do
  if b.items.isEmpty && (← peek) == some ']' then
    let _ ← takeSpaced
    return b.pushSet (.single ']')
  else return b

mutual

/-- A set in brackets, from its opening bracket on. -/
def bracket : (fuel : Nat) → Reader (Nested CharSet)
  | 0 => failure
  | fuel + 1 => do
    expect '['
    let negated := (← peek) == some '^'
    if negated then let _ ← takeSpaced
    let inner ← bracketBody fuel (← leadingBracket (← leadingHyphens {}))
    let flags := (← get).flags
    guard (flags.unicode || !negated)
    return { content := .negateIf negated (flags.fold inner.content), height := 1 + inner.height }
termination_by structural fuel => fuel

/-- The rest of a set in brackets, up to its closing bracket. -/
def bracketBody : (fuel : Nat) → OpenBracket → Reader (Nested CharSet)
  | 0, _ => failure
  | fuel + 1, b => do
    skipSpace
    let s ← get
    match s.rest with
    | '[' :: _ =>
      match namedSet? s.rest with
      | some (negated, named, rest) =>
        guard (s.flags.unicode || !negated)
        set { s with rest }
        bracketBody fuel (b.pushSet (.negateIf negated (s.flags.fold named)))
      | none => bracketBody fuel (b.push (← bracket fuel))
    | ']' :: rest =>
      set { s with rest }
      return b.total s.flags
    | '&' :: '&' :: rest =>
      set { s with rest }
      bracketBody fuel (b.operate s.flags .inter)
    | '-' :: '-' :: rest =>
      set { s with rest }
      bracketBody fuel (b.operate s.flags .diff)
    | '~' :: '~' :: rest =>
      set { s with rest }
      bracketBody fuel (b.operate s.flags .symmDiff)
    | _ => bracketBody fuel (b.pushSet (← bracketItem))
termination_by structural fuel => fuel

end

end Reader

end Appraisal.Pattern
