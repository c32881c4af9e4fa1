import Appraisal.CharSet.Basic
import Appraisal.Text.Character
import Appraisal.Text.Split

/-!
# Sets that are written out

The sets of ASCII characters that a pattern can name in brackets, and those that its escapes stand
for when they are not meant to reach beyond ASCII (`named?`). Larger sets are given by a table
(`ofTable`). Its rows list the code points of the set in hexadecimal and in ascending order: one by
itself (`b5`), all from one to another (`41-5a`), or every second one of them (`100+136`).
-/

namespace Appraisal.CharSet

/-! ### ASCII -/

/-- All of ASCII. -/
def ascii : CharSet := range '\x00' '\x7f'

/-- The digits of ASCII. -/
def asciiDigits : CharSet := range '0' '9'

/-- The letters of ASCII. -/
def asciiLetters : CharSet := ranges [('A', 'Z'), ('a', 'z')]

/-- The blanks of ASCII. -/
def asciiBlanks : CharSet := ranges [('\t', '\r'), (' ', ' ')]

/-- The letters, the digits and the low line of ASCII. -/
def asciiWords : CharSet := unions [asciiDigits, asciiLetters, single '_']

/-- The sets with a name of their own. -/
def named? : String → Option CharSet
  | "alnum" => some (asciiDigits.union asciiLetters)
  | "alpha" => some asciiLetters
  | "ascii" => some ascii
  | "blank" => some (ofList ['\t', ' '])
  | "cntrl" => some (ranges [('\x00', '\x1f'), ('\x7f', '\x7f')])
  | "digit" => some asciiDigits
  | "graph" => some (range '!' '~')
  | "lower" => some (range 'a' 'z')
  | "print" => some (range ' ' '~')
  | "punct" => some (ranges [('!', '/'), (':', '@'), ('[', Char.ofNat 0x60), ('\x7b', '~')])
  | "space" => some asciiBlanks
  | "upper" => some (range 'A' 'Z')
  | "word" => some asciiWords
  | "xdigit" => some (ranges [('0', '9'), ('A', 'F'), ('a', 'f')])
  | _ => none

/-! ### Tables -/

/-- The number that hexadecimal digits stand for. -/
def codePoint (digits : List Char) : Nat :=
  digits.foldl (fun n c => 16 * n + (Text.hexDigit? c).getD 0) 0

/-- Every second code point from `first` to `last`, as runs. -/
def everySecond (first last : Nat) : List (Nat × Nat) :=
  (List.range ((last - first) / 2 + 1)).map fun i => (first + 2 * i, first + 2 * i)

/-- The runs that an entry of a table stands for. -/
def entryRuns (entry : List Char) : List (Nat × Nat) :=
  match entry.span fun c => (Text.hexDigit? c).isSome with
  | (first, '-' :: last) => [(codePoint first, codePoint last)]
  | (first, '+' :: last) => everySecond (codePoint first) (codePoint last)
  | (only, _) => [(codePoint only, codePoint only)]

/-- The set that a table lists. -/
def ofTable (rows : List String) : CharSet :=
  ofAscending <| rows.flatMap fun row => (Text.splitOn ' ' row.toList).flatMap entryRuns

end Appraisal.CharSet
