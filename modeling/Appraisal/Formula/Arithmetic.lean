import Appraisal.Formula.Fault
import Appraisal.Number.Integer
import Appraisal.Number.Scaled

/-!
# Arithmetic

The operators on values. Whole numbers are computed exactly: a result that does not fit 64 bits
is computed again with floats. Division by `/` always takes floats. Quotient and remainder go
toward the floor, so that a remainder has the sign of the divisor.
-/

namespace Appraisal

/-- A whole number or a float. -/
inductive Numeric
  | int (i : Int64)
  | float (v : Float)

namespace Numeric

/-- The number of a value; a truth value counts as a whole number. -/
def ofValue? : Value → Option Numeric
  | .int i => some (int i)
  | .float v => some (float v)
  | .bool b => some (int (Number.ofBool b))
  | _ => none

/-- A number as a float. -/
def toFloat : Numeric → Float
  | int i => Number.toFloat i
  | float v => v

end Numeric

namespace Arithmetic

/-! ### Floats -/

/-- The quotient and the remainder of floats. The quotient is taken from the remainder, so that
it times `y` plus the remainder is about `x`. -/
def floatDivMod (x y : Float) : Float × Float :=
  let rest := Number.remainder x y
  let quotient := (x - rest) / y
  -- a remainder of the wrong sign is one divisor away from the right one
  let (rest, quotient) :=
    if rest != 0.0 then
      if (rest < 0.0 : Bool) != (y < 0.0 : Bool) then (rest + y, quotient - 1.0)
      else (rest, quotient)
    else (Number.withSign 0.0 y, quotient)
  if quotient == 0.0 then (Number.withSign 0.0 (x / y), rest)
  else
    -- the quotient is whole but for rounding, so the nearer neighbour is meant
    let floor := Number.roundTo .down quotient
    (if quotient - floor > 0.5 then floor + 1.0 else floor, rest)

/-- The power of floats. -/
def floatPower (x y : Float) : Except Fault Float :=
  if x == 0.0 && y < 0.0 then .error .zeroToNegativePower
  else
    let v := x.pow y
    if v.isNaN && !x.isNaN && !y.isNaN then .error .fractionalPowerOfNegative else .ok v

/-- An operator on floats. -/
def float (op : ArithmeticOp) (x y : Float) : Except Fault Float :=
  match op with
  | .add => .ok (x + y)
  | .sub => .ok (x - y)
  | .mul => .ok (x * y)
  | .div => if y == 0.0 then .error .divisionByZero else .ok (x / y)
  | .floorDiv => if y == 0.0 then .error .divisionByZero else .ok (floatDivMod x y).1
  | .mod => if y == 0.0 then .error .moduloByZero else .ok (floatDivMod x y).2
  | .pow => floatPower x y

/-! ### Whole numbers -/

/-- The power of whole numbers, if it fits 64 bits. An exponent from 2³² on is not tried. -/
def intPower? (x y : Int64) : Option Int64 :=
  if y < 0 ∨ 4294967296 ≤ y then none else Number.power? x y.toInt.toNat

/-- The exact result of an operator on whole numbers, if it fits 64 bits. Quotients are left to
`floorDivInt` and `modInt`. -/
def fitting? (op : ArithmeticOp) (x y : Int64) : Option Int64 :=
  match op with
  | .add => Number.sum? x y
  | .sub => Number.difference? x y
  | .mul => Number.product? x y
  | .pow => intPower? x y
  | .div | .floorDiv | .mod => none

/-- An operator on whole numbers, taken as floats. -/
def promoted (op : ArithmeticOp) (x y : Int64) : Except Fault Value :=
  (float op (Number.toFloat x) (Number.toFloat y)).map .float

/-- The quotient of whole numbers: the one toward zero, or the one below it where the division
leaves a rest and the signs differ. -/
def floorDivInt (x y : Int64) : Outcome Fault Value :=
  if y = 0 then .error .divisionByZero
  else match Number.quotient? x y with
    | some q => do
      let rest ← Number.step (Number.remainder? x y)
      if rest ≠ 0 ∧ decide (x < 0) ≠ decide (y < 0) then
        return .int (← Number.step (Number.difference? q 1))
      else return .int q
    | none => .ofExcept (promoted .floorDiv x y)

/-- The remainder of whole numbers, moved to the sign of the divisor. -/
def modInt (x y : Int64) : Outcome Fault Value :=
  if y = 0 then .error .moduloByZero
  else match Number.remainder? x y with
    | some rest => do
      if rest ≠ 0 ∧ decide (rest < 0) ≠ decide (y < 0) then
        return .int (← Number.step (Number.sum? rest y))
      else return .int rest
    | none => .ok (.int 0)

/-- An operator on whole numbers. -/
def int (op : ArithmeticOp) (x y : Int64) : Outcome Fault Value :=
  match op with
  | .floorDiv => floorDivInt x y
  | .mod => modInt x y
  | op =>
    match fitting? op x y with
    | some i => .ok (.int i)
    | none => .ofExcept (promoted op x y)

/-! ### Values -/

/-- Whether a value has items or characters in a row. -/
def isSequence : Value → Bool
  | .string _ | .list _ => true
  | _ => false

/-- An operator on numbers. -/
def numeric (op : ArithmeticOp) : Numeric → Numeric → Outcome Fault Value
  | .int x, .int y => int op x y
  | a, b => .ofExcept ((float op a.toFloat b.toFloat).map .float)

/-- An arithmetic operator. Texts and lists can be joined but not repeated. -/
def binary (op : ArithmeticOp) (left right : Value) : Outcome Fault Value :=
  match op, left, right with
  | .add, .string a, .string b => .ok (.string (a ++ b))
  | .add, .list a, .list b => .ok (.list (a ++ b))
  | op, left, right =>
    if op = .mul ∧ (isSequence left ∨ isSequence right) then .error .sequenceRepetition
    else match Numeric.ofValue? left, Numeric.ofValue? right with
      | some a, some b => numeric op a b
      | _, _ => .error (.unsupportedOperands op left.typeName right.typeName)

/-- The opposite of a number. -/
def negate : Numeric → Value
  | .int i => match Number.int64? (-i.toInt) with
    | some j => .int j
    | none => .float (-(Number.toFloat i))
  | .float v => .float (-v)

/-- A unary operator. -/
def unary (op : UnaryOp) (operand : Value) : Except Fault Value :=
  match op with
  | .not => .ok (.bool !operand.isTruthy)
  | .neg => match Numeric.ofValue? operand with
    | some n => .ok (negate n)
    | none => .error (.unsupportedSign "-" operand.typeName)
  | .pos => match Numeric.ofValue? operand with
    | some (.int i) => .ok (.int i)
    | some (.float v) => .ok (.float v)
    | none => .error (.unsupportedSign "+" operand.typeName)

/-- One link of a comparison chain. -/
def compare (op : Comparison) (left right : Value) : Except Fault Bool :=
  match left.compare? op right with
  | some b => .ok b
  | none => .error (.incomparable op left.typeName right.typeName)

end Arithmetic

end Appraisal
