import Appraisal.Formula.Arithmetic
import Appraisal.Proofs.Number.Integer

/-!
# Division toward the floor

Whole numbers are divided toward zero and the result is moved down where a rest has the wrong
sign. No step of this overflows: the quotient is the one toward the floor wherever that fits
(`Arithmetic.floorDivInt_eq`), and the remainder always is (`Arithmetic.modInt_eq`).
-/

namespace Appraisal.Arithmetic

open Number

variable {x y : Int64}

/-- A rest has the sign of the number that is divided. -/
theorem tmod_neg_iff {a b : Int} (hr : a.tmod b ≠ 0) : a.tmod b < 0 ↔ a < 0 := by
  constructor
  · intro h
    by_contra ha
    have := Int.tmod_nonneg b (Int.not_lt.1 ha)
    omega
  · intro ha
    have := Int.tmod_nonneg b (Int.neg_nonneg.2 (Int.le_of_lt ha))
    rw [Int.neg_tmod] at this
    omega

/-- The quotient toward the floor is one less where a rest is left and the signs differ. -/
theorem fdiv_eq {a b : Int} (hb : b ≠ 0) :
    a.fdiv b = if a.tmod b ≠ 0 ∧ decide (a < 0) ≠ decide (b < 0) then a.tdiv b - 1
      else a.tdiv b := by
  rw [Int.fdiv_eq_tdiv]
  by_cases hr : a.tmod b = 0
  · simp [hr, Int.dvd_of_tmod_eq_zero hr]
  have hdvd : ¬ b ∣ a := fun h => hr (Int.tmod_eq_zero_of_dvd h)
  rcases Int.lt_or_gt_of_ne hb with hneg | hpos
  · rw [Int.sign_eq_neg_one_of_neg hneg, if_neg hdvd]
    grind
  · rw [Int.sign_eq_one_of_pos hpos, if_neg hdvd]
    grind

/-- The remainder of the floor is moved by the divisor where its sign differs. -/
theorem fmod_eq {a b : Int} (hb : b ≠ 0) :
    a.fmod b = if a.tmod b ≠ 0 ∧ decide (a.tmod b < 0) ≠ decide (b < 0) then a.tmod b + b
      else a.tmod b := by
  have hfloor := Int.mul_fdiv_add_fmod a b
  have htoward := Int.mul_tdiv_add_tmod a b
  rw [fdiv_eq hb] at hfloor
  by_cases hr : a.tmod b = 0
  · simp only [hr, ne_eq, not_true_eq_false, false_and, if_false] at hfloor htoward ⊢
    omega
  simp only [tmod_neg_iff hr]
  split at hfloor
  · next h =>
    rw [if_pos h]
    rw [Int.mul_sub] at hfloor
    omega
  · next h =>
    rw [if_neg h]
    omega

/-! ### Words -/

/-- The rest of a division, as a word. -/
def restOf (x y : Int64) : Int64 := Int64.ofInt (x.toInt.tmod y.toInt)

theorem toInt_restOf (hy : y ≠ 0) : (restOf x y).toInt = x.toInt.tmod y.toInt := toInt_tmod hy

theorem restOf_ne_zero_iff (hy : y ≠ 0) : restOf x y ≠ 0 ↔ x.toInt.tmod y.toInt ≠ 0 := by
  rw [← toInt_restOf hy, ne_eq, ← Int64.toInt_inj]
  rfl

/-- The quotient of whole numbers is the one toward the floor; where that does not fit, floats
are divided. -/
theorem floorDivInt_eq (hy : y ≠ 0) :
    floorDivInt x y = match int64? (x.toInt.fdiv y.toInt) with
      | some q => .ok (.int q)
      | none => .ofExcept (promoted .floorDiv x y) := by
  have hb := toInt_ne_zero hy
  rw [floorDivInt, if_neg hy]
  cases hq : quotient? x y with
  | none =>
    have hr := tmod_eq_zero_of_quotient? hy hq
    rw [quotient?_of_ne_zero hy] at hq
    simp only [fdiv_eq hb, hr, ne_eq, not_true_eq_false, false_and, if_false, hq]
  | some q =>
    have hquotient := toInt_of_int64? (quotient?_of_ne_zero hy ▸ hq)
    have hrest : remainder? x y = some (restOf x y) := by rw [remainder?, hq]; rfl
    simp only [hrest, step_some, Outcome.ok_bind, fdiv_eq hb, restOf_ne_zero_iff hy,
      Int64.lt_iff_toInt_lt, Int64.toInt_zero]
    split
    · next h =>
      have hlow := x.le_toInt
      have hhigh := x.toInt_lt
      have hhalf := natAbs_tdiv_le_half h.1
      have hfits := int64?_of_fits (n := x.toInt.tdiv y.toInt - 1) (by omega) (by omega)
      have hone : (1 : Int64).toInt = 1 := rfl
      rw [difference?, hquotient, hone, hfits]
      rfl
    · rw [← hquotient, int64?_toInt]
      rfl

/-- The remainder of whole numbers is the one of the floor. -/
theorem modInt_eq (hy : y ≠ 0) :
    modInt x y = .ok (.int (Int64.ofInt (x.toInt.fmod y.toInt))) := by
  have hb := toInt_ne_zero hy
  rw [modInt, if_neg hy, fmod_eq hb]
  cases hq : quotient? x y with
  | none =>
    have hr := tmod_eq_zero_of_quotient? hy hq
    have hrest : remainder? x y = none := by rw [remainder?, hq]; rfl
    simp only [hrest, hr, ne_eq, not_true_eq_false, false_and, if_false]
    rfl
  | some q =>
    have hrest : remainder? x y = some (restOf x y) := by rw [remainder?, hq]; rfl
    simp only [hrest, restOf_ne_zero_iff hy, Int64.lt_iff_toInt_lt, Int64.toInt_zero,
      toInt_restOf hy]
    split
    · next h =>
      have hlt := natAbs_tmod_lt x.toInt hb
      have hlow := y.le_toInt
      have hhigh := y.toInt_lt
      have hsigns : decide (x.toInt.tmod y.toInt < 0) ≠ decide (y.toInt < 0) := h.2
      have hfits := int64?_of_fits (n := x.toInt.tmod y.toInt + y.toInt)
        (by grind) (by grind)
      rw [sum?, toInt_restOf hy, hfits]
      rfl
    · rfl

end Appraisal.Arithmetic
