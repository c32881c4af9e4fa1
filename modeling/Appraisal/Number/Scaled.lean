import Appraisal.Number.Integer

/-!
# Floats as exact numbers

A finite float is a whole number times a power of two (`scaled?`), and such a product is rounded
to the nearest float (`ofScaled`). On that form the operations that no rounding touches are exact:
`roundTo` an integer in a given direction, and the `remainder` of a division.
-/

namespace Appraisal.Number

open Float.Model (UnpackedFloat)

/-- The number `mantissa * 2 ^ exponent`, or its opposite. Zero has two signs. -/
structure Scaled where
  negative : Bool
  mantissa : Nat
  exponent : Int
  deriving DecidableEq

/-- The exact value of a finite float. -/
def scaled? (v : Float) : Option Scaled :=
  match v.toModel.unpack with
  | .notANumber | .infinity _ => none
  | .zero sign => some ⟨sign == .negative, 0, 0⟩
  | .finite sign mantissa exponent _ => some ⟨sign == .negative, mantissa, exponent⟩

/-- The float nearest to an exact number. -/
def ofScaled (s : Scaled) : Float :=
  let sign : UnpackedFloat.Sign := if s.negative then .negative else .positive
  .ofModel <| .pack <|
    if s.mantissa = 0 then .zero sign else .round .binary64 sign s.mantissa s.exponent

/-- The sign of a float, that of a zero included. NaN counts as positive. -/
def isNegative (v : Float) : Bool := v.toBits >>> 63 == 1

/-- The float `x` with the sign of `y`. -/
def withSign (x y : Float) : Float :=
  if isNegative y then -x.abs else x.abs

/-! ### Rounding to an integer -/

/-- Where a number between two integers goes. -/
inductive Direction
  | towardZero
  | down
  | up
  | nearestEven
  deriving DecidableEq

/-- Whether the magnitude `quotient + rest / unit` is rounded away from zero. -/
def Direction.carries (d : Direction) (negative : Bool) (quotient rest unit : Nat) : Bool :=
  match d with
  | .towardZero => false
  | .down => negative && rest != 0
  | .up => !negative && rest != 0
  | .nearestEven => unit < 2 * rest || (unit == 2 * rest && quotient % 2 == 1)

/-- The magnitude of `s`, rounded to an integer. -/
def Scaled.roundMagnitude (s : Scaled) (d : Direction) : Nat :=
  let unit := 1 <<< (-s.exponent).toNat
  let scaled := s.mantissa <<< s.exponent.toNat
  let quotient := scaled / unit
  if d.carries s.negative quotient (scaled % unit) unit then quotient + 1 else quotient

/-- A float rounded to an integer; zero keeps the sign of the number it comes from. -/
def roundTo (d : Direction) (v : Float) : Float :=
  match scaled? v with
  | none => v
  | some s =>
    if 0 ≤ s.exponent then v
    else
      let magnitude := Float.ofNat (s.roundMagnitude d)
      if s.negative then -magnitude else magnitude

/-- Whether a finite float has no fraction. -/
def isWhole (v : Float) : Bool :=
  match scaled? v with
  | none => false
  | some s => 0 ≤ s.exponent || s.mantissa % 1 <<< (-s.exponent).toNat == 0

/-- The integer part of a finite float. -/
def truncated? (v : Float) : Option Int :=
  (scaled? v).map fun s =>
    let magnitude : Int := s.roundMagnitude .towardZero
    if s.negative then -magnitude else magnitude

/-- The integer part of a float, if it fits 64 bits. -/
def toInt64? (v : Float) : Option Int64 := (truncated? v).bind int64?

/-! ### Remainder -/

/-- What is left of `x` when multiples of `y` are taken from it toward zero; it has the sign of
`x`. There is none for an infinite `x` or a zero `y`. -/
def remainder (x y : Float) : Float :=
  match scaled? x, scaled? y with
  | some a, some b =>
    if b.mantissa = 0 then 0.0 / 0.0
    else
      let exponent := min a.exponent b.exponent
      let rest := (a.mantissa <<< (a.exponent - exponent).toNat)
        % (b.mantissa <<< (b.exponent - exponent).toNat)
      ofScaled ⟨a.negative, rest, exponent⟩
  | some _, none => if y.isNaN then y else x
  | none, _ => 0.0 / 0.0

/-! ### Powers with a whole exponent -/

/-- `result * base ^ n` by repeated squaring, the low bits of `n` first. -/
def powerLoop (result base : Float) (n : Nat) : Float :=
  let result := if n % 2 = 1 then result * base else result
  if _h : n / 2 = 0 then result else powerLoop result (base * base) (n / 2)
  termination_by n
  decreasing_by omega

/-- `base ^ n` by repeated squaring; a negative power is the inverse of the positive one. -/
def power (base : Float) (n : Int) : Float :=
  let p := powerLoop 1.0 base n.natAbs
  if n < 0 then 1.0 / p else p

end Appraisal.Number
