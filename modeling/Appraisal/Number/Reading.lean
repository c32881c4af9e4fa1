import Appraisal.Number.Scaled

/-!
# Reading numbers

Whole numbers and floats in a text of their own. A float is the correctly rounded value of its
decimal digits (`ofDecimal`); beside digits it may be an infinity or a NaN by name.
-/

namespace Appraisal.Number

/-- The value of a run of ASCII digits. -/
def digitsValue (digits : List Char) : Nat :=
  digits.foldl (fun n c => 10 * n + (c.toNat - '0'.toNat)) 0

/-- The float nearest to `digits * 10 ^ exponent`. -/
def ofDecimal (digits : Nat) (exponent : Int) : Float :=
  if 0 ≤ exponent then Float.ofScientific digits false exponent.toNat
  else Float.ofScientific digits true (-exponent).toNat

/-- A sign at the front of a text, and what follows it. -/
def splitSign : List Char → Bool × List Char
  | '-' :: rest => (true, rest)
  | '+' :: rest => (false, rest)
  | rest => (false, rest)

/-- A run of digits that fills the text. -/
def wholeDigits? (cs : List Char) : Option Nat :=
  if cs ≠ [] ∧ cs.all Char.isDigit then some (digitsValue cs) else none

/-- A whole number: an optional sign and digits, within 64 bits. -/
def readInt? (s : String) : Option Int64 :=
  let (negative, rest) := splitSign s.toList
  (wholeDigits? rest).bind fun n => int64? (if negative then -(n : Int) else n)

/-- What stands after the digits of a decimal: nothing, or an exponent. -/
def readExponent? : List Char → Option Int
  | [] => some 0
  | c :: rest =>
    if c = 'e' ∨ c = 'E' then
      let (negative, digits) := splitSign rest
      (wholeDigits? digits).map fun n => if negative then -(n : Int) else n
    else none

/-- A decimal without a sign: digits with at most one point, at least one digit, and an optional
exponent. -/
def readDecimal? (cs : List Char) : Option Float :=
  let whole := cs.takeWhile Char.isDigit
  let rest := cs.dropWhile Char.isDigit
  let (fraction, rest) := match rest with
    | '.' :: more => (more.takeWhile Char.isDigit, more.dropWhile Char.isDigit)
    | _ => ([], rest)
  if whole = [] ∧ fraction = [] then none
  else (readExponent? rest).map fun e =>
    ofDecimal (digitsValue (whole ++ fraction)) (e - fraction.length)

/-- An infinity or a NaN, by a name in any case. -/
def readNamed? (cs : List Char) : Option Float :=
  match String.ofList (cs.map Char.toLower) with
  | "inf" | "infinity" => some (1.0 / 0.0)
  | "nan" => some (0.0 / 0.0)
  | _ => none

/-- A float that fills the text: an optional sign, then a decimal or a name. -/
def readFloat? (s : String) : Option Float :=
  let (negative, rest) := splitSign s.toList
  ((readDecimal? rest).or (readNamed? rest)).map fun v => if negative then -v else v

end Appraisal.Number
