import Appraisal.CharSet.Folding
import Appraisal.CharSet.Listing
import Appraisal.Property.Derived
import Appraisal.Text.Character

/-!
# Reading a pattern

What the reader of a pattern carries along: the characters still to come, the flags in force, and
the groups seen with their names. A reader fails at the first character that no pattern may have
there.
-/

namespace Appraisal.Pattern

/-- How the characters of a pattern are meant. -/
structure Flags where
  ignoreCase : Bool := true
  /-- The start and the end of a line are those of any line, not of the text alone. -/
  multiLine : Bool := false
  /-- The dot matches a line ending too. -/
  dotMatchesEnding : Bool := false
  /-- A carriage return ends a line too. -/
  anyEnding : Bool := false
  /-- Blanks and comments stand between the parts of a pattern and match nothing. -/
  spaced : Bool := false
  /-- Named sets hold characters beyond ASCII. -/
  unicode : Bool := true
  /-- Repetitions are as rare as possible unless a question mark asks for the contrary. -/
  swapGreed : Bool := false
  deriving DecidableEq, Inhabited

namespace Flags

/-- A set in the view of the flags: if case is ignored, with both cases of its letters. -/
def fold (flags : Flags) (set : CharSet) : CharSet :=
  if flags.ignoreCase then
    if flags.unicode then set.folded else set.asciiFolded
  else set

/-- The characters of words. -/
def words (flags : Flags) : CharSet := if flags.unicode then Property.words else .asciiWords

/-- The blanks. -/
def blanks (flags : Flags) : CharSet :=
  if flags.unicode then Property.whiteSpace else .asciiBlanks

/-- The decimal digits. -/
def digits (flags : Flags) : CharSet :=
  if flags.unicode then Property.digits else .asciiDigits

/-- Turn a flag on or off by its letter. -/
def set? (flags : Flags) (letter : Char) (on : Bool) : Option Flags :=
  match letter with
  | 'i' => some { flags with ignoreCase := on }
  | 'm' => some { flags with multiLine := on }
  | 's' => some { flags with dotMatchesEnding := on }
  | 'R' => some { flags with anyEnding := on }
  | 'x' => some { flags with spaced := on }
  | 'u' => some { flags with unicode := on }
  | 'U' => some { flags with swapGreed := on }
  | _ => none

end Flags

/-- The state of a reader. -/
structure Scan where
  rest : List Char
  flags : Flags := {}
  groups : Nat := 0
  names : List (List Char) := []

/-- A reader of a part of a pattern. -/
abbrev Reader := StateT Scan Option

namespace Reader

/-- The text after the blanks and comments at its front. -/
def afterSpace : (comment : Bool) → List Char → List Char
  | _, [] => []
  | true, c :: rest => afterSpace (c != '\n') rest
  | false, c :: rest =>
    if Text.isBlank c then afterSpace false rest
    else if c == '#' then afterSpace true rest
    else c :: rest

/-- The next character. -/
def peek : Reader (Option Char) := return (← get).rest.head?

/-- Take the next character. -/
def take : Reader Char := do
  match (← get).rest with
  | [] => failure
  | c :: rest =>
    modify ({ · with rest })
    return c

/-- Pass over blanks and comments, if they have no meaning of their own. -/
def skipSpace : Reader Unit :=
  modify fun s => if s.flags.spaced then { s with rest := afterSpace false s.rest } else s

/-- Take the next character and the blanks after it. -/
def takeSpaced : Reader Char := do
  let c ← take
  skipSpace
  return c

/-- Take the next character, which has to be `c`, and the blanks after it. -/
def expect (c : Char) : Reader Unit := do
  guard ((← takeSpaced) == c)

/-- Take a text if it comes next. -/
def accept (start : String) : Reader Bool := do
  match Text.dropPrefix? start.toList (← get).rest with
  | some rest =>
    modify ({ · with rest })
    return true
  | none => return false

/-- Take characters, with blanks between them, as long as they have a property. -/
def takeMany (ok : Char → Bool) : Reader (List Char) := do
  go (← get).rest.length
where
  /-- At most `fuel` characters. -/
  go : Nat → Reader (List Char)
    | 0 => return []
    | fuel + 1 => do
      match ← peek with
      | some c => if ok c then return (← takeSpaced) :: (← go fuel) else return []
      | none => return []

end Reader

end Appraisal.Pattern
