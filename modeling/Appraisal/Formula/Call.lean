import Appraisal.Formula.Arithmetic

/-!
# Calls

What the functions of the language compute. `min`, `max` and `sum` take their items one by one or
as one list. `round` goes to the even neighbour of a tie. `clamp` keeps a number between bounds;
it is the one function that can break a run off.
-/

namespace Appraisal

namespace Builtin

/-- An argument that has to be a number. -/
def number (f : Builtin) (v : Value) : Except Fault Float :=
  match v.number? with
  | some x => .ok x
  | none => .error (.numberRequired f v.typeName)

/-- A list that is the only argument stands for its items. -/
def spread : List Value → List Value
  | [.list items] => items
  | arguments => arguments

/-- A float without a fraction as a whole number. -/
def integral (f : Builtin) (v : Float) : Except Fault Value :=
  match Number.toInt64? v with
  | some i => .ok (.int i)
  | none => .error (.notConvertible f v)

/-! ### Extremes -/

/-- The best of `best` and the items: each item that compares to the best one so far as `keep`
says takes its place. -/
def extremeFrom (f : Builtin) (keep : Ordering) (best : Value) : List Value → Except Fault Value
  | [] => .ok best
  | item :: rest =>
    match item.order? best with
    | none => .error (.incomparableItems f item.typeName best.typeName)
    | some o => extremeFrom f keep (if o = keep then item else best) rest

/-- The least or the greatest of some items. -/
def extreme (f : Builtin) (keep : Ordering) (arguments : List Value) : Except Fault Value :=
  match spread arguments with
  | [] => .error (.emptySequence f)
  | first :: rest => extremeFrom f keep first rest

/-! ### Rounding -/

/-- The number of digits that `round` keeps, if it is given. -/
def digits? : Option Value → Except Fault (Option Int)
  | none | some .null => .ok none
  | some (.int n) => .ok (some n.toInt)
  | some (.bool b) => .ok (some (Number.ofBool b).toInt)
  | some v => .error (.digitsType v.typeName)

/-- Round a whole number to tens, hundreds and so on. -/
def roundInt (i : Int64) (digits : Int) : Except Fault Value :=
  if 0 ≤ digits then .ok (.int i)
  else
    let factor := Number.power 10.0 (Min.min (-digits) 308)
    integral round (Number.roundTo .nearestEven (Number.toFloat i / factor) * factor)

/-- Round a float to a number of digits after the point. -/
def roundFloat (v : Float) (digits : Int) : Value :=
  let factor := Number.power 10.0 (Max.max (-308) (Min.min digits 308))
  let scaled := v * factor
  if scaled.isFinite then .float (Number.roundTo .nearestEven scaled / factor) else .float v

/-- Round to a whole number, or to a number of digits. -/
def roundValue (v : Value) (digits : Option Int) : Except Fault Value :=
  match v, digits with
  | .int i, none => .ok (.int i)
  | .bool b, none => .ok (.int (Number.ofBool b))
  | .float x, none => integral round (Number.roundTo .nearestEven x)
  | v, none => .error (.numberRequired round v.typeName)
  | .int i, some n => roundInt i n
  | v, some n => (number round v).map (roundFloat · n)

/-! ### The other functions -/

/-- The absolute value. -/
def absolute : Value → Except Fault Value
  | .int i => match Number.int64? i.toInt.natAbs with
    | some j => .ok (.int j)
    | none => .ok (.float (-(Number.toFloat i)))
  | .bool b => .ok (.int (Number.ofBool b))
  | .float v => .ok (.float v.abs)
  | v => .error (.numberRequired abs v.typeName)

/-- The whole part of a number, or the whole number that a text is. -/
def toInteger : Value → Except Fault Value
  | .int i => .ok (.int i)
  | .bool b => .ok (.int (Number.ofBool b))
  | .float v => integral int (Number.roundTo .towardZero v)
  | .string s => match Number.readInt? (Text.trim s) with
    | some i => .ok (.int i)
    | none => .error (.integerText s)
  | v => .error (.integerType v.typeName)

/-- A number as a float, or the float that a text is. -/
def toFloat : Value → Except Fault Value
  | .string s => match Number.readFloat? (Text.trim s) with
    | some v => .ok (.float v)
    | none => .error (.floatText s)
  | v => (number float v).map .float

/-- The sum of items that have to be numbers, from a start on. -/
def sumFrom (total : Value) : List Value → Outcome Fault Value
  | [] => .ok total
  | item :: rest =>
    match item.number? with
    | none => .error (.summandType item.typeName)
    | some _ => do sumFrom (← Arithmetic.binary .add total item) rest

/-- The sum of the arguments, or of one list and a start. -/
def sumOf : List Value → Outcome Fault Value
  | [.list items] => sumFrom (.int 0) items
  | [.list items, start] => sumFrom start items
  | arguments => sumFrom (.int 0) arguments

/-- The square root. -/
def root (v : Value) : Except Fault Value := do
  let x ← number sqrt v
  if x < 0.0 then throw .rootOfNegative
  return .float x.sqrt

/-- A number rounded to an integer in a direction. -/
def roundedTo (f : Builtin) (d : Number.Direction) : Value → Except Fault Value
  | .int i => .ok (.int i)
  | v => do integral f (Number.roundTo d (← number f v))

/-- A whole number kept between bounds. -/
def clampInt (x low high : Int64) : Outcome Fault Value :=
  if high.toInt < low.toInt then .abort (.crossedBounds low high)
  else if x.toInt < low.toInt then .ok (.int low)
  else if high.toInt < x.toInt then .ok (.int high)
  else .ok (.int x)

/-- A float kept between bounds. -/
def clampFloat (x low high : Float) : Value :=
  if x < low then .float low else if x > high then .float high else .float x

/-- A number kept between bounds. The order of the bounds is judged on floats; three whole numbers
are then compared exactly. -/
def clamped (x low high : Value) : Outcome Fault Value :=
  match number clamp x, number clamp low, number clamp high with
  | .ok v, .ok lo, .ok hi =>
    if !(lo ≤ hi) then .error (.boundsCrossed lo hi)
    else if v.isNaN then .error .clampOfNaN
    else match x, low, high with
      | .int x, .int low, .int high => clampInt x low high
      | _, _, _ => .ok (clampFloat v lo hi)
  | .error e, _, _ | _, .error e, _ | _, _, .error e => .error e

/-- Call a function with as many arguments as it takes. -/
def apply (f : Builtin) (arguments : List Value) : Outcome Fault Value :=
  match f with
  | abs => do .ofExcept (absolute (← .itemAt arguments 0))
  | min => .ofExcept (extreme min .lt arguments)
  | max => .ofExcept (extreme max .gt arguments)
  | round => do
    let digits ← .ofExcept (digits? arguments[1]?)
    .ofExcept (roundValue (← .itemAt arguments 0) digits)
  | int => do .ofExcept (toInteger (← .itemAt arguments 0))
  | float => do .ofExcept (toFloat (← .itemAt arguments 0))
  | sum => sumOf arguments
  | sqrt => do .ofExcept (root (← .itemAt arguments 0))
  | pow => do Arithmetic.binary .pow (← .itemAt arguments 0) (← .itemAt arguments 1)
  | floor => do .ofExcept (roundedTo floor .down (← .itemAt arguments 0))
  | ceil => do .ofExcept (roundedTo ceil .up (← .itemAt arguments 0))
  | clamp => do clamped (← .itemAt arguments 0) (← .itemAt arguments 1) (← .itemAt arguments 2)

/-- Call a function. -/
def call (f : Builtin) (arguments : List Value) : Outcome Fault Value :=
  if f.accepts arguments.length then f.apply arguments
  else .error (.wrongCount f.name f.arityText arguments.length)

end Builtin

end Appraisal
