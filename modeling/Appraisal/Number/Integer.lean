import Appraisal.Outcome

/-!
# Whole numbers of 64 bits

The whole numbers of the formula language lie between -2⁶³ and 2⁶³ - 1. Arithmetic on them is done
without bounds and brought back by `int64?`, which refuses what does not fit (`toInt_of_int64?`,
`int64?_toInt`): each operation has a result only if that fits (`sum?`, `difference?`, `product?`,
`power?`, `quotient?`, `remainder?`). A program that does not ask whether it fits takes a `step`,
which breaks the run off where there is no result.
-/

namespace Appraisal.Number

/-- The 64-bit integer of value `n`, if `n` is in range. -/
def int64? (n : Int) : Option Int64 :=
  if Int64.minValue.toInt ≤ n ∧ n ≤ Int64.maxValue.toInt then some (Int64.ofInt n) else none

theorem toInt_of_int64? {n : Int} {i : Int64} (h : int64? n = some i) : i.toInt = n := by
  simp only [int64?, Option.ite_none_right_eq_some, Option.some.injEq] at h
  obtain ⟨⟨hlo, hhi⟩, rfl⟩ := h
  exact Int64.toInt_ofInt_of_le hlo (Int.lt_of_le_of_lt hhi (by decide))

@[simp] theorem int64?_toInt (i : Int64) : int64? i.toInt = some i := by
  have h : Int64.minValue.toInt ≤ i.toInt ∧ i.toInt ≤ Int64.maxValue.toInt :=
    ⟨i.le_toInt, Int.le_of_lt_add_one i.toInt_lt⟩
  rw [int64?, if_pos h, Int64.ofInt_toInt]

/-- The nearest float to a 64-bit integer. -/
def toFloat (i : Int64) : Float := Float.ofInt i.toInt

/-- One for true and zero for false. -/
def ofBool (b : Bool) : Int64 := if b then 1 else 0

/-- The decimal text of an integer. -/
def decimal (i : Int64) : String :=
  let digits := String.ofList (Nat.toDigits 10 i.toInt.natAbs)
  if i.toInt < 0 then "-" ++ digits else digits

/-! ### Operations -/

variable {ε : Type}

/-- A result that has to be there. -/
def step : Option Int64 → Outcome ε Int64
  | some i => .ok i
  | none => .abort .overflow

/-- The sum of two numbers. -/
def sum? (x y : Int64) : Option Int64 := int64? (x.toInt + y.toInt)

/-- The difference of two numbers. -/
def difference? (x y : Int64) : Option Int64 := int64? (x.toInt - y.toInt)

/-- The product of two numbers. -/
def product? (x y : Int64) : Option Int64 := int64? (x.toInt * y.toInt)

/-- `result * base ^ n` by repeated squaring, the low bits of `n` first, if every product on the
way fits. -/
def powerFrom? (result base : Int64) (n : Nat) : Option Int64 :=
  let result? := if n % 2 = 1 then product? result base else some result
  -- a square that no bit is left for is not taken: it may not fit where the power does
  if _h : n / 2 = 0 then result?
  else do powerFrom? (← result?) (← product? base base) (n / 2)
  termination_by n
  decreasing_by omega

/-- The power of a number. -/
def power? (x : Int64) (n : Nat) : Option Int64 := powerFrom? 1 x n

/-- The quotient of two numbers, rounded toward zero. -/
def quotient? (x y : Int64) : Option Int64 :=
  if y = 0 then none else int64? (x.toInt.tdiv y.toInt)

/-- What the quotient of two numbers leaves of the first one. Without a quotient there is no
remainder. -/
def remainder? (x y : Int64) : Option Int64 :=
  (quotient? x y).map fun _ => Int64.ofInt (x.toInt.tmod y.toInt)

@[simp] theorem step_some (i : Int64) : (step (some i) : Outcome ε Int64) = .ok i := rfl

end Appraisal.Number
