import Appraisal.Json.Basic
import Appraisal.Text.Character

/-!
# Reading JSON

A strict reader of JSON text. Only blanks, tabs and line ends separate tokens, numbers have no
leading zero or plus sign, and a text holds no bare control characters. Escapes of surrogates
have to come in pairs, numbers have to be finite, and containers nest to a bounded depth.

Members that nobody asks for are passed over by a laxer rule (`strict = false`), under which lone
surrogates and huge numbers do not matter.
-/

namespace Appraisal.Json

/-- A character between tokens. -/
def isSpace (c : Char) : Bool := c == ' ' || c == '\t' || c == '\n' || c == '\r'

/-- The text after the blanks at its front. -/
def skipSpace (cs : List Char) : List Char := cs.dropWhile isSpace

/-! ### Texts -/

/-- The value of four hexadecimal digits. -/
def hexUnit? (a b c d : Char) : Option Nat := do
  let high := (← Text.hexDigit? a) * 16 + (← Text.hexDigit? b)
  let low := (← Text.hexDigit? c) * 16 + (← Text.hexDigit? d)
  return high * 256 + low

/-- What a backslash and a character other than a u stand for. -/
def escaped? : Char → Option Char
  | '"' => some '"'
  | '\\' => some '\\'
  | '/' => some '/'
  | 'b' => some '\x08'
  | 'f' => some '\x0c'
  | 'n' => some '\n'
  | 'r' => some '\r'
  | 't' => some '\t'
  | _ => none

/-- Whether a code unit is the first one of a pair. -/
def isHighSurrogate (n : Nat) : Bool := 0xd800 ≤ n && n < 0xdc00

/-- Whether a code unit is the second one of a pair. -/
def isLowSurrogate (n : Nat) : Bool := 0xdc00 ≤ n && n < 0xe000

/-- The characters up to the closing quote, and what follows it. -/
def stringBody (strict : Bool) : List Char → Option (List Char × List Char)
  | [] => none
  | '"' :: rest => some ([], rest)
  | '\\' :: 'u' :: a :: b :: c :: d :: rest =>
    match hexUnit? a b c d with
    | none => none
    | some n =>
      if !strict then
        (stringBody strict rest).map fun (body, rest) => ('\ufffd' :: body, rest)
      else if isHighSurrogate n then
        match rest with
        | '\\' :: 'u' :: e :: f :: g :: h :: rest =>
          match hexUnit? e f g h with
          | none => none
          | some m =>
            if isLowSurrogate m then
              let c := Char.ofNat (0x10000 + (n - 0xd800) * 0x400 + (m - 0xdc00))
              (stringBody strict rest).map fun (body, rest) => (c :: body, rest)
            else none
        | _ => none
      else if isLowSurrogate n then none
      else (stringBody strict rest).map fun (body, rest) => (Char.ofNat n :: body, rest)
  | '\\' :: e :: rest =>
    match escaped? e with
    | none => none
    | some c => (stringBody strict rest).map fun (body, rest) => (c :: body, rest)
  | c :: rest =>
    if c < ' ' then none
    else (stringBody strict rest).map fun (body, rest) => (c :: body, rest)

/-! ### Numbers -/

/-- The parts of a number. -/
structure NumberText where
  negative : Bool
  whole : List Char
  fraction : Option (List Char)
  exponent : Option Int

/-- The digits after a point, if there is one. -/
def fraction? : List Char → Option (Option (List Char) × List Char)
  | '.' :: rest =>
    let digits := rest.takeWhile Char.isDigit
    if digits = [] then none else some (some digits, rest.dropWhile Char.isDigit)
  | rest => some (none, rest)

/-- The exponent, if there is one. -/
def exponent? : List Char → Option (Option Int × List Char)
  | c :: rest =>
    if c = 'e' ∨ c = 'E' then
      let (negative, rest) := Number.splitSign rest
      let digits := rest.takeWhile Char.isDigit
      let n : Int := Number.digitsValue digits
      if digits = [] then none
      else some (some (if negative then -n else n), rest.dropWhile Char.isDigit)
    else some (none, c :: rest)
  | [] => some (none, [])

/-- The number at the front of a text. -/
def numberText? (cs : List Char) : Option (NumberText × List Char) := do
  let (negative, cs) := match cs with
    | '-' :: rest => (true, rest)
    | _ => (false, cs)
  let whole := cs.takeWhile Char.isDigit
  guard (whole ≠ [] ∧ (whole.head? ≠ some '0' ∨ whole.length = 1))
  let (fraction, rest) ← fraction? (cs.dropWhile Char.isDigit)
  let (exponent, rest) ← exponent? rest
  return (⟨negative, whole, fraction, exponent⟩, rest)

/-- The float that a number stands for. -/
def NumberText.float (n : NumberText) : Float :=
  let fraction := n.fraction.getD []
  let v := Number.ofDecimal (Number.digitsValue (n.whole ++ fraction))
    (n.exponent.getD 0 - fraction.length)
  if n.negative then -v else v

/-- The value of a number, if it is finite. -/
def NumberText.value? (n : NumberText) : Option Json :=
  let float := if n.float.isFinite then some (Json.float n.float) else none
  match n.fraction, n.exponent with
  | none, none =>
    let size := Number.digitsValue n.whole
    if n.negative then
      if 0 < size ∧ -size ≥ Int64.minValue.toInt then some (.integer (-size)) else float
    else if size < UInt64.size then some (.integer size) else float
  | _, _ => float

/-! ### Trees -/

/-- The value of a number that is read or passed over. -/
def numberValue? (strict : Bool) (n : NumberText) : Option Json :=
  if strict then n.value? else some .null

mutual

/-- The value at the front of a text; `depth` containers may nest in it. -/
def readValue (strict : Bool) : Nat → Nat → List Char → Option (Json × List Char)
  | 0, _, _ => none
  | fuel + 1, depth, cs =>
    match skipSpace cs with
    | 'n' :: 'u' :: 'l' :: 'l' :: rest => some (.null, rest)
    | 't' :: 'r' :: 'u' :: 'e' :: rest => some (.bool true, rest)
    | 'f' :: 'a' :: 'l' :: 's' :: 'e' :: rest => some (.bool false, rest)
    | '"' :: rest => (stringBody strict rest).map fun (s, rest) => (.string (String.ofList s), rest)
    | '[' :: rest =>
      if depth = 0 then none
      else match skipSpace rest with
        | ']' :: rest => some (.array [], rest)
        | rest => do
          let (items, rest) ← readItems strict fuel (depth - 1) rest
          return (.array items, rest)
    | '\x7b' :: rest =>
      if depth = 0 then none
      else match skipSpace rest with
        | '\x7d' :: rest => some (.object [], rest)
        | rest => do
          let (members, rest) ← readMembers strict fuel (depth - 1) rest
          return (ofMembers members, rest)
    | rest => do
      let (n, rest) ← numberText? rest
      return (← numberValue? strict n, rest)
  termination_by structural fuel => fuel

/-- The items of an array up to its closing bracket. -/
def readItems (strict : Bool) : Nat → Nat → List Char → Option (List Json × List Char)
  | 0, _, _ => none
  | fuel + 1, depth, cs => do
    let (item, rest) ← readValue strict fuel depth cs
    match skipSpace rest with
    | ',' :: rest =>
      let (items, rest) ← readItems strict fuel depth rest
      return (item :: items, rest)
    | ']' :: rest => return ([item], rest)
    | _ => none
  termination_by structural fuel => fuel

/-- The members of an object up to its closing bracket. -/
def readMembers (strict : Bool) : Nat → Nat → List Char → Option (List (String × Json) × List Char)
  | 0, _, _ => none
  | fuel + 1, depth, cs => do
    match skipSpace cs with
    | '"' :: rest =>
      let (key, rest) ← stringBody strict rest
      match skipSpace rest with
      | ':' :: rest =>
        let (value, rest) ← readValue strict fuel depth rest
        let member := (String.ofList key, value)
        match skipSpace rest with
        | ',' :: rest =>
          let (members, rest) ← readMembers strict fuel depth rest
          return (member :: members, rest)
        | '\x7d' :: rest => return ([member], rest)
        | _ => none
      | _ => none
    | _ => none
  termination_by structural fuel => fuel

end

/-- The greatest number of containers within each other. -/
def maxDepth : Nat := 127

/-- The value of a text in which containers nest no deeper than `depth`. -/
def readWithin? (depth : Nat) (text : String) : Option Json :=
  let cs := text.toList
  match readValue true (2 * cs.length + 2) depth cs with
  | some (value, rest) => if skipSpace rest = [] then some value else none
  | none => none

/-- The value of a JSON text. -/
def read? (text : String) : Option Json := readWithin? maxDepth text

end Appraisal.Json
