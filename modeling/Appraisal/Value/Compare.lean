import Appraisal.Value.Basic

/-!
# Comparing values

Equality is defined between any two values and is false between unrelated types. Order is defined
between two texts, two whole numbers, and otherwise between values that are both numbers; a mixed
pair is compared as floats.
-/

namespace Appraisal

/-- The comparison operators. -/
inductive Comparison
  | eq
  | ne
  | gt
  | ge
  | lt
  | le
  deriving DecidableEq, Inhabited

/-- The symbol of a comparison operator. -/
def Comparison.symbol : Comparison → String
  | eq => "=="
  | ne => "!="
  | gt => ">"
  | ge => ">="
  | lt => "<"
  | le => "<="

/-- The order of two floats; a NaN has no place in it. -/
def Number.order? (x y : Float) : Option Ordering :=
  if x < y then some .lt
  else if x == y then some .eq
  else if y < x then some .gt
  else none

namespace Value

mutual

/-- Whether two values are equal. Numbers of different types are compared as floats. -/
def equals : Value → Value → Bool
  | null, null => true
  | string a, string b => a == b
  | list a, list b => equalsAll a b
  | a, b =>
    match a.number?, b.number? with
    | some x, some y => x == y
    | _, _ => false

/-- Whether two lists have the same length and equal items. -/
def equalsAll : List Value → List Value → Bool
  | [], [] => true
  | a :: as, b :: bs => a.equals b && equalsAll as bs
  | _, _ => false

end

mutual

/-- Whether two values have one type and are equal. -/
def same : Value → Value → Bool
  | null, null => true
  | bool a, bool b => a == b
  | int a, int b => a == b
  | float a, float b => a == b
  | string a, string b => a == b
  | list a, list b => sameAll a b
  | _, _ => false

/-- Whether two lists have the same length and the same items. -/
def sameAll : List Value → List Value → Bool
  | [], [] => true
  | a :: as, b :: bs => a.same b && sameAll as bs
  | _, _ => false

end

/-- The order of two values, if they have one. -/
def order? : Value → Value → Option Ordering
  | int a, int b => some (compare a.toInt b.toInt)
  | string a, string b => some (compare a b)
  | a, b =>
    match a.number?, b.number? with
    | some x, some y => Number.order? x y
    | _, _ => none

/-- The outcome of a comparison, or nothing where the order is asked of unrelated values. -/
def compare? (op : Comparison) (a b : Value) : Option Bool :=
  match op with
  | .eq => some (a.equals b)
  | .ne => some (!a.equals b)
  | .gt => (a.order? b).map (· == .gt)
  | .ge => (a.order? b).map (· != .lt)
  | .lt => (a.order? b).map (· == .lt)
  | .le => (a.order? b).map (· != .gt)

end Value

end Appraisal
