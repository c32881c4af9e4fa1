import Appraisal.Formula.Error
import Appraisal.Formula.Operator

/-!
# Faults

The reasons why the evaluation of a formula fails, with the message of each.
-/

namespace Appraisal

/-- A reason why an evaluation fails. Types are named as in `Value.typeName`. -/
inductive Fault
  /-- A field that the listing lacks; `available` lists the fields it has. -/
  | undefined (name : String) (available : List String)
  | groupOfFields (path : String)
  | tooDeep (maximum : Nat)
  | notAFieldPath
  | unknownFunction (name : String)
  | wrongCount (name arity : String) (count : Nat)
  | indexType (type : String)
  | indexOutOfRange
  | notSubscriptable (type : String)
  | notANumber (type : String)
  | notFinite
  | unsupportedOperands (op : ArithmeticOp) (left right : String)
  | divisionByZero
  | moduloByZero
  | sequenceRepetition
  | zeroToNegativePower
  | fractionalPowerOfNegative
  | unsupportedSign (symbol type : String)
  | incomparable (op : Comparison) (left right : String)
  | numberRequired (function : Builtin) (type : String)
  | emptySequence (function : Builtin)
  | incomparableItems (function : Builtin) (left right : String)
  | notConvertible (function : Builtin) (number : Float)
  | digitsType (type : String)
  | integerText (text : String)
  | integerType (type : String)
  | floatText (text : String)
  | summandType (type : String)
  | rootOfNegative
  | boundsCrossed (low high : Float)
  | clampOfNaN

namespace Fault

/-- Two types in a message. -/
def pairText (left right : String) : String := "'" ++ left ++ "' and '" ++ right ++ "'"

/-- The message of a fault. -/
def message : Fault → String
  | undefined name available => FormulaError.message (.undefined name available)
  | groupOfFields path =>
    "'" ++ path ++ "' is a group of fields; reference one of them, e.g. " ++ path ++ ".<field>"
  | tooDeep maximum => "formula nesting exceeds the maximum depth of " ++ maximum.repr
  | notAFieldPath => "attribute access is only allowed on field paths"
  | unknownFunction name => "function '" ++ name ++ "' is not allowed"
  | wrongCount name arity count => name ++ "() takes " ++ arity ++ ", got " ++ count.repr
  | indexType type => "indices must be integers, got '" ++ type ++ "'"
  | indexOutOfRange => "index out of range"
  | notSubscriptable type => "'" ++ type ++ "' values are not subscriptable"
  | notANumber type => "formula must evaluate to a number, got '" ++ type ++ "'"
  | notFinite => "formula result is not a finite number"
  | unsupportedOperands op left right =>
    "unsupported operand types for " ++ op.symbol ++ ": " ++ pairText left right
  | divisionByZero => "division by zero"
  | moduloByZero => "modulo by zero"
  | sequenceRepetition => "sequence repetition is not supported"
  | zeroToNegativePower => "zero cannot be raised to a negative power"
  | fractionalPowerOfNegative => "negative number cannot be raised to a fractional power"
  | unsupportedSign symbol type => "bad operand type for unary " ++ symbol ++ ": '" ++ type ++ "'"
  | incomparable op left right =>
    "'" ++ op.symbol ++ "' is not supported between " ++ pairText left right
  | numberRequired function type => function.name ++ "() requires a number, got '" ++ type ++ "'"
  | emptySequence function => function.name ++ "() arg is an empty sequence"
  | incomparableItems function left right =>
    function.name ++ "() cannot compare " ++ pairText left right
  | notConvertible function number =>
    function.name ++ "() cannot convert " ++ Number.plain number ++ " to an integer"
  | digitsType type => "round() ndigits must be an integer, got '" ++ type ++ "'"
  | integerText text => "invalid literal for int(): '" ++ text ++ "'"
  | integerType type => "int() cannot convert '" ++ type ++ "'"
  | floatText text => "could not convert string to float: '" ++ text ++ "'"
  | summandType type => "sum() requires numbers, got '" ++ type ++ "'"
  | rootOfNegative => "sqrt() of a negative number"
  | boundsCrossed low high =>
    "clamp() lower bound " ++ Number.plain low ++ " exceeds upper bound " ++ Number.plain high
  | clampOfNaN => "clamp() received NaN"

end Fault

/-- The report of a fault. -/
def FormulaError.ofFault : Fault → FormulaError
  | .undefined name available => undefined name available
  | fault => evaluation fault.message

end Appraisal
