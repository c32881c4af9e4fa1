import Appraisal.Number.Shortest

/-!
# Writing floats

A float is written with the fewest digits that read back as it. A `Layout` says the rest: how a
tie between two decimals goes, which magnitudes are written out in places and whether a whole
number keeps its `.0`. `plain` is the layout of messages and table keys, `interchange` that of
JSON text. `fixedPoint` writes a whole float digit by digit, with one decimal.
-/

namespace Appraisal.Number

/-- The conventions of a written float. -/
structure Layout where
  /-- The choice between two decimals that are equally near. -/
  tie : Tie
  /-- Whether a number whose first digit stands for this power of ten is written in places. -/
  positional : Int → Bool
  /-- The text after the digits of a whole number. -/
  wholeSuffix : String

/-- Messages and keys: places only, no suffix, and a tie goes to the upper decimal. -/
def plainLayout : Layout := ⟨.upper, fun _ => true, ""⟩

/-- JSON text: places from 10⁻⁵ up to 10¹⁶, a suffix `.0`, and a tie goes to the even digit. -/
def interchangeLayout : Layout := ⟨.even, fun e => -5 ≤ e && e < 16, ".0"⟩

/-- The digits of a number written in places; `shift` is the power of ten of the last digit. -/
def inPlaces (suffix : String) (digits : List Char) (shift : Int) : String :=
  let size := digits.length
  if 0 ≤ shift then
    String.ofList (digits ++ List.replicate shift.toNat '0') ++ suffix
  else
    let fraction := (-shift).toNat
    if fraction < size then
      String.ofList (digits.take (size - fraction) ++ '.' :: digits.drop (size - fraction))
    else
      String.ofList ('0' :: '.' :: (List.replicate (fraction - size) '0' ++ digits))

/-- The digits of a number written with an exponent of ten. -/
def withExponent (digits : List Char) (lead : Int) : String :=
  let mantissa := match digits with
    | first :: second :: rest => first :: '.' :: second :: rest
    | few => few
  let sign := if lead < 0 then "e-" else "e+"
  String.ofList mantissa ++ sign ++ String.ofList (Nat.toDigits 10 lead.natAbs)

/-- The text of a positive number. -/
def Layout.magnitude (layout : Layout) (mantissa : Nat) (exponent : Int) : String :=
  let d := shortest layout.tie mantissa exponent
  let digits := Nat.toDigits 10 d.digits
  let lead := d.exponent + digits.length - 1
  if layout.positional lead then inPlaces layout.wholeSuffix digits d.exponent
  else withExponent digits lead

/-- The text of a finite number. -/
def Layout.text (layout : Layout) (s : Scaled) : String :=
  (if s.negative then "-" else "") ++
    if s.mantissa = 0 then "0" ++ layout.wholeSuffix
    else layout.magnitude s.mantissa s.exponent

/-- The text of a float in messages and keys. -/
def plain (v : Float) : String :=
  match scaled? v with
  | some s => plainLayout.text s
  | none => if v.isNaN then "NaN" else if v < 0.0 then "-inf" else "inf"

/-- The text of a float in JSON, where a number that is not finite is null. -/
def interchange (v : Float) : String :=
  match scaled? v with
  | some s => interchangeLayout.text s
  | none => "null"

/-- The text of a float in a formula: all digits of a whole number and one decimal, else the
plain text. -/
def fixedPoint (v : Float) : String :=
  match scaled? v with
  | some s =>
    if isWhole v then
      (if s.negative then "-" else "") ++
        String.ofList (Nat.toDigits 10 (s.roundMagnitude .towardZero)) ++ ".0"
    else plainLayout.text s
  | none => plain v

end Appraisal.Number
