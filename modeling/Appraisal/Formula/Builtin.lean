import Appraisal.Text.Split

/-!
# The functions of the language

The fixed list of functions that a formula may call, each with the number of arguments that it
takes.
-/

namespace Appraisal

/-- A function that a formula may call. -/
inductive Builtin
  | abs
  | min
  | max
  | round
  | int
  | float
  | sum
  | sqrt
  | pow
  | floor
  | ceil
  | clamp
  deriving DecidableEq, Inhabited

namespace Builtin

/-- All functions, in the order in which they are listed to the user. -/
def all : List Builtin :=
  [abs, min, max, round, int, float, sum, sqrt, pow, floor, ceil, clamp]

/-- The name under which a formula calls a function. -/
def name : Builtin → String
  | abs => "abs"
  | min => "min"
  | max => "max"
  | round => "round"
  | int => "int"
  | float => "float"
  | sum => "sum"
  | sqrt => "sqrt"
  | pow => "pow"
  | floor => "floor"
  | ceil => "ceil"
  | clamp => "clamp"

/-- The names of all functions. -/
def names : List String := all.map name

/-- The function of a name. -/
def ofName? (name : String) : Option Builtin := all.find? (·.name == name)

/-- The least number of arguments of a function. -/
def minArity : Builtin → Nat
  | pow => 2
  | clamp => 3
  | _ => 1

/-- The greatest number of arguments of a function, if there is one. -/
def maxArity? : Builtin → Option Nat
  | min | max | sum => none
  | round | pow => some 2
  | clamp => some 3
  | _ => some 1

/-- Whether a function may be called with so many arguments. -/
def accepts (f : Builtin) (count : Nat) : Bool :=
  f.minArity ≤ count && f.maxArity?.all (count ≤ ·)

/-- A number of arguments. -/
def countText (n : Nat) : String := if n = 1 then "argument" else "arguments"

/-- The number of arguments of a function, for messages. -/
def arityText (f : Builtin) : String :=
  match f.maxArity? with
  | none => "at least " ++ f.minArity.repr ++ " " ++ countText f.minArity
  | some most =>
    if most = f.minArity then "exactly " ++ most.repr ++ " " ++ countText most
    else if most = f.minArity + 1 then
      f.minArity.repr ++ " or " ++ most.repr ++ " " ++ countText most
    else f.minArity.repr ++ " to " ++ most.repr ++ " " ++ countText most

/-- What a function computes, for the user. -/
def summary : Builtin → String
  | abs => "absolute value"
  | min => "smallest argument, or smallest item of one list"
  | max => "largest argument, or largest item of one list"
  | round => "round half to even, optionally to n digits"
  | int => "truncate to an integer"
  | float => "convert to a float"
  | sum => "sum of the arguments, or of one list plus an optional start"
  | sqrt => "square root"
  | pow => "x raised to y"
  | floor => "largest integer not above x"
  | ceil => "smallest integer not below x"
  | clamp => "x limited to the range [lo, hi]"

@[simp] theorem ofName?_name (f : Builtin) : ofName? f.name = some f := by
  cases f <;> rfl

theorem name_of_ofName? {s : String} {f : Builtin} (h : ofName? s = some f) : f.name = s := by
  simpa using List.find?_some h

end Builtin

end Appraisal
