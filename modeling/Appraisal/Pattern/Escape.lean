import Appraisal.Pattern.Basic
import Appraisal.Pattern.Scan
import Appraisal.Property.Query
import Appraisal.Text.Character

/-!
# Escapes

What a backslash and the characters after it stand for: a character, given by itself, by a letter
or by its number, a set of characters, or a demand on a place.
-/

namespace Appraisal.Pattern

/-- A part of a pattern that stands by itself. -/
inductive Atom
  | literal (c : Char)
  | set (s : CharSet)
  | assertion (a : Assertion)
  deriving Inhabited

namespace Reader

/-- The character with a given number. -/
def charOf (n : Nat) : Reader Char :=
  if n.isValidChar then return Char.ofNat n else failure

/-- The number written by hexadecimal digits. -/
def hexValue (cs : List Char) : Reader Nat :=
  (cs.mapM Text.hexDigit?).elim failure fun digits =>
    return digits.foldl (fun n d => 16 * n + d) 0

/-- Take a number of hexadecimal digits. -/
def takeDigits : Nat → Reader (List Char)
  | 0 => return []
  | n + 1 => return (← takeSpaced) :: (← takeDigits n)

/-- A character given by its number in braces, or by `count` digits. A character beyond ASCII
given by two digits stands for a byte, which only sets of Unicode characters can take for one. -/
def hexChar (count : Nat) : Reader Char := do
  if (← peek) == some '\x7b' then
    let _ ← takeSpaced
    let digits ← takeMany (· != '\x7d')
    expect '\x7d'
    guard (!digits.isEmpty)
    charOf (← hexValue digits)
  else
    let c ← charOf (← hexValue (← takeDigits count))
    guard ((← get).flags.unicode || count != 2 || c.toNat < 0x80)
    return c

/-- A character of the name of a word boundary. -/
def isBoundaryNameChar (c : Char) : Bool := c.isAlpha || c == '-'

/-- The side of a word boundary, named in braces. Without such a name both sides count, and the
brace belongs to a repetition. -/
def wordBoundary : Reader Assertion := do
  if (← peek) != some '\x7b' then return .wordBoundary
  let before ← get
  let _ ← takeSpaced
  if !isBoundaryNameChar ((← peek).getD '-') then
    set before
    return .wordBoundary
  let name ← takeMany isBoundaryNameChar
  guard ((← take) == '\x7d')
  match String.ofList name with
  | "start" => return .wordStart
  | "end" => return .wordEnd
  | "start-half" => return .wordStartHalf
  | "end-half" => return .wordEndHalf
  | _ => failure

/-- A set of characters or what it leaves out. Without Unicode the latter would hold bytes that
are no characters. -/
def classSet (negated : Bool) (s : CharSet) : Reader Atom := do
  guard ((← get).flags.unicode || !negated)
  return .set (.negateIf negated s)

/-- The set of a property, given by one letter or by a name in braces. Case is ignored before the
complement is taken. -/
def propertySet (negated : Bool) : Reader Atom := do
  let flags := (← get).flags
  skipSpace
  let name ← if (← peek) == some '\x7b' then do
      let _ ← takeSpaced
      let name ← takeMany (· != '\x7d')
      guard ((← take) == '\x7d')
      pure name
    else pure [← take]
  guard flags.unicode
  let query ← (Property.Query.ofText? name).elim failure pure
  return .set (.negateIf (negated != query.negated) (flags.fold query.set))

/-- What the characters after a backslash stand for. -/
def escape : Reader Atom := do
  let c ← take
  let flags := (← get).flags
  match c with
  | 'x' => skipSpace; return .literal (← hexChar 2)
  | 'u' => skipSpace; return .literal (← hexChar 4)
  | 'U' => skipSpace; return .literal (← hexChar 8)
  | 'd' => classSet false flags.digits
  | 'D' => classSet true flags.digits
  | 's' => classSet false flags.blanks
  | 'S' => classSet true flags.blanks
  | 'w' => classSet false flags.words
  | 'W' => classSet true flags.words
  | 'p' => propertySet false
  | 'P' => propertySet true
  | 'a' => return .literal '\x07'
  | 'f' => return .literal '\x0c'
  | 't' => return .literal '\t'
  | 'n' => return .literal '\n'
  | 'r' => return .literal '\r'
  | 'v' => return .literal '\x0b'
  | 'A' => return .assertion .textStart
  | 'z' => return .assertion .textEnd
  | 'b' => return .assertion (← wordBoundary)
  | 'B' => return .assertion .notWordBoundary
  | '<' => return .assertion .wordStart
  | '>' => return .assertion .wordEnd
  | c => if c.toNat < 0x80 && !c.isAlphanum then return .literal c else failure

end Reader

end Appraisal.Pattern
