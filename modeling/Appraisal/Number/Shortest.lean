import Appraisal.Number.Scaled

/-!
# Shortest decimals

The decimal with the fewest digits among those that round to a given float, and of several such
the nearest to it. `shortest?` looks for it on coarser decimal grids first: the first grid that
has a point in the interval of numbers that round to the float also has one next to the float.
-/

namespace Appraisal.Number

/-- The number `digits * 10 ^ exponent`. -/
structure Decimal where
  digits : Nat
  exponent : Int
  deriving DecidableEq

/-- Which of two decimals is taken when the float lies halfway between them. -/
inductive Tie
  | upper
  | even
  deriving DecidableEq

/-- Distances in quarters of the last place: half of it above a mantissa, and half or a quarter
of it below, as the float below a power of two is twice as near. -/
def gapBelow (mantissa : Nat) (exponent : Int) : Nat :=
  if mantissa = 1 <<< 52 ∧ -1074 < exponent then 1 else 2

/-- The decimal on the grid of `10 ^ place` next to `mantissa * 2 ^ exponent` among those that
round to it. The comparison is made in whole numbers: the float is `value / (4 * unit)` steps of
the grid, and the interval ends `below` and `above` it. -/
def nearestOnGrid? (tie : Tie) (mantissa : Nat) (exponent place : Int) : Option Nat :=
  -- all lengths are brought to one unit, so that nothing is rounded
  let scale := Nat.pow 10 (-place).toNat <<< exponent.toNat
  let unit := Nat.pow 10 place.toNat <<< (-exponent).toNat
  let value := 4 * mantissa * scale
  let below := value - gapBelow mantissa exponent * scale
  let above := value + 2 * scale
  let step := 4 * unit
  -- the ends of the interval round to the float if its mantissa is even
  let inside (k : Nat) : Bool :=
    if mantissa % 2 = 0 then below ≤ k * step && k * step ≤ above
    else below < k * step && k * step < above
  -- the float lies between the neighbours `k` and `k + 1` on the grid
  let k := value / step
  let down := value - k * step
  let up := (k + 1) * step - value
  let takesUpper :=
    if inside k then
      inside (k + 1) && (up < down || (up == down && (tie == .upper || k % 2 == 1)))
    else true
  if takesUpper then
    if inside (k + 1) then some (k + 1) else none
  else some k

/-- The first place, going down from `place`, whose grid has a decimal that rounds to the
float. -/
def shortestFrom (tie : Tie) (mantissa : Nat) (exponent : Int) : Nat → Int → Option Decimal
  | 0, _ => none
  | steps + 1, place =>
    match nearestOnGrid? tie mantissa exponent place with
    | some k => some ⟨k, place⟩
    | none => shortestFrom tie mantissa exponent steps (place - 1)

/-- A power of ten above `mantissa * 2 ^ exponent`, at most three places too high. -/
def placeAbove (mantissa : Nat) (exponent : Int) : Int :=
  ((mantissa.log2 + 1 : Int) + exponent) * 30103 / 100000 + 2

/-- The shortest decimal that rounds to the positive number `mantissa * 2 ^ exponent`. Seventeen
digits always suffice, so the search ends within twenty-two places. -/
def shortest (tie : Tie) (mantissa : Nat) (exponent : Int) : Decimal :=
  (shortestFrom tie mantissa exponent 22 (placeAbove mantissa exponent)).getD ⟨mantissa, 0⟩

end Appraisal.Number
