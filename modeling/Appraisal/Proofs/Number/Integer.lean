import Appraisal.Number.Integer
import Mathlib.Tactic.Linarith

/-!
# Whole numbers that fit

A whole number has a 64-bit form if it lies in range (`Number.int64?_eq_some_iff`,
`Number.int64?_of_fits`). Quotients and remainders toward zero are in range, except for the
quotient of the least number by minus one.
-/

namespace Appraisal.Number

theorem int64?_eq_some_iff {n : Int} {i : Int64} : int64? n = some i ↔ i.toInt = n := by
  constructor
  · exact toInt_of_int64?
  · rintro rfl
    exact int64?_toInt i

theorem int64?_of_fits {n : Int} (hlow : -2 ^ 63 ≤ n) (hhigh : n < 2 ^ 63) :
    int64? n = some (Int64.ofInt n) :=
  int64?_eq_some_iff.2 (Int64.toInt_ofInt_of_le hlow hhigh)

theorem int64?_eq_none_iff {n : Int} : int64? n = none ↔ n < -2 ^ 63 ∨ 2 ^ 63 ≤ n := by
  constructor
  · intro h
    by_contra hfits
    rw [int64?_of_fits (by omega) (by omega)] at h
    cases h
  · intro h
    rw [Option.eq_none_iff_forall_ne_some]
    rintro i hi
    have hn := int64?_eq_some_iff.1 hi
    have hlow := i.le_toInt
    have hhigh := i.toInt_lt
    omega

theorem toInt_ne_zero {y : Int64} (hy : y ≠ 0) : y.toInt ≠ 0 :=
  fun h => hy (Int64.toInt_inj.1 h)

/-! ### Quotients and remainders -/

theorem natAbs_tmod_lt (a : Int) {b : Int} (hb : b ≠ 0) : (a.tmod b).natAbs < b.natAbs := by
  rw [Int.natAbs_tmod]
  exact Nat.mod_lt _ (Int.natAbs_pos.2 hb)

/-- A division that leaves a rest halves its number at least. -/
theorem natAbs_tdiv_le_half {a b : Int} (hr : a.tmod b ≠ 0) :
    (a.tdiv b).natAbs ≤ a.natAbs / 2 := by
  by_cases hb : b = 0
  · simp [hb]
  rw [Int.natAbs_tdiv]
  have htwo : 2 ≤ b.natAbs := by
    by_contra hlt
    have : b = 1 ∨ b = -1 := by omega
    rcases this with rfl | rfl <;> simp at hr
  exact Nat.div_le_div_left htwo (by decide)

variable {x y : Int64}

theorem quotient?_of_ne_zero (hy : y ≠ 0) : quotient? x y = int64? (x.toInt.tdiv y.toInt) := by
  rw [quotient?, if_neg hy]

theorem toInt_tmod (hy : y ≠ 0) :
    (Int64.ofInt (x.toInt.tmod y.toInt)).toInt = x.toInt.tmod y.toInt := by
  have hlt := natAbs_tmod_lt x.toInt (toInt_ne_zero hy)
  have hlow := y.le_toInt
  have hhigh := y.toInt_lt
  exact Int64.toInt_ofInt_of_le (by omega) (by omega)

/-- Only the least number by minus one has no quotient, and so it leaves no rest. -/
theorem tmod_eq_zero_of_quotient? (hy : y ≠ 0) (h : quotient? x y = none) :
    x.toInt.tmod y.toInt = 0 := by
  by_contra hr
  have hhalf := natAbs_tdiv_le_half hr
  have hlow := x.le_toInt
  have hhigh := x.toInt_lt
  rw [quotient?_of_ne_zero hy, int64?_of_fits (by omega) (by omega)] at h
  cases h

end Appraisal.Number
