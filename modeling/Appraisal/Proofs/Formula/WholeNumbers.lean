import Appraisal.Proofs.Formula.Abort
import Appraisal.Proofs.Number.Power
import Mathlib.Data.Rat.Floor
import Mathlib.Tactic.FieldSimp

/-!
# Whole numbers, exactly

What the operators make of two whole numbers is the exact result where 64 bits hold it. Sum,
difference, product and power are otherwise computed again with floats (`ExactOrPromoted`).
Quotient and remainder are those of the floor (`DividesToFloor`); of all quotients only that of
the least number by -1 does not fit. `Arithmetic.whole_numbers_exact` puts this together, and that
no step on the way overflows.
-/

namespace Appraisal.Arithmetic

open Number

variable {x y : Int64} {op : ArithmeticOp}

/-! ### Quotients of integers -/

/-- A remainder of the floor stands between zero and the divisor. -/
theorem fmod_between (a : Int) {b : Int} (hb : b ≠ 0) :
    (0 < b ∧ 0 ≤ a.fmod b ∧ a.fmod b < b) ∨ (b < 0 ∧ b < a.fmod b ∧ a.fmod b ≤ 0) := by
  have hnonneg := Int.emod_nonneg a hb
  have hlt := Int.emod_lt a hb
  rw [Int.fmod_eq_emod]
  rcases Int.lt_or_gt_of_ne hb with hneg | hpos
  · right
    by_cases hdvd : b ∣ a
    · rw [if_pos (Or.inr hdvd), Int.emod_eq_zero_of_dvd hdvd]
      omega
    · have hrest : a % b ≠ 0 := fun h => hdvd (Int.dvd_of_emod_eq_zero h)
      rw [if_neg (by omega)]
      omega
  · left
    rw [if_pos (Or.inl hpos.le)]
    omega

theorem floor_div_eq_fdiv (a : Int) {b : Int} (hb : b ≠ 0) : ⌊(a / b : ℚ)⌋ = a.fdiv b := by
  have hsplit : (a / b : ℚ) = (a.fdiv b : ℤ) + (a.fmod b / b : ℚ) := by
    have hcast : (b : ℚ) ≠ 0 := Int.cast_ne_zero.2 hb
    have hfloor : (b * a.fdiv b + a.fmod b : ℚ) = a := by
      exact_mod_cast Int.mul_fdiv_add_fmod a b
    rw [← hfloor]
    field_simp
  rw [hsplit, Int.floor_intCast_add, Int.floor_eq_zero_iff.2, add_zero]
  rcases fmod_between a hb with ⟨hpos, hlow, hhigh⟩ | ⟨hneg, hlow, hhigh⟩
  · have hpos : (0 : ℚ) < b := by exact_mod_cast hpos
    exact ⟨div_nonneg (by exact_mod_cast hlow) hpos.le, (div_lt_one hpos).2 (by exact_mod_cast hhigh)⟩
  · have hneg : (b : ℚ) < 0 := by exact_mod_cast hneg
    exact ⟨div_nonneg_of_nonpos (by exact_mod_cast hhigh) hneg.le,
      (div_lt_one_of_neg hneg).2 (by exact_mod_cast hlow)⟩

/-! ### Words -/

/-- The only quotient that does not fit is that of the least number by -1. -/
theorem fdiv_fits_iff (hy : y ≠ 0) :
    (-2 ^ 63 ≤ x.toInt.fdiv y.toInt ∧ x.toInt.fdiv y.toInt < 2 ^ 63) ↔
      ¬ (x = Int64.minValue ∧ y = -1) := by
  constructor
  · rintro hfits ⟨rfl, rfl⟩
    exact absurd hfits (by decide)
  intro hleast
  have hlow := x.le_toInt
  have hhigh := x.toInt_lt
  have hleast : y.toInt = -1 → x.toInt ≠ -2 ^ 63 := fun hy hx =>
    hleast ⟨Int64.toInt_inj.1 hx, Int64.toInt_inj.1 hy⟩
  have hfloor := Int.mul_fdiv_add_fmod x.toInt y.toInt
  generalize x.toInt.fdiv y.toInt = q at *
  -- a quotient that does not fit takes the dividend out of its range, whatever the rest is
  rcases fmod_between x.toInt (toInt_ne_zero hy) with ⟨hpos, hr⟩ | ⟨hneg, hr⟩
  · constructor
    · by_contra hq
      nlinarith
    · by_contra hq
      nlinarith
  · constructor
    · by_contra hq
      nlinarith
    · by_contra hq
      have hy : y.toInt ≤ -2 ∨ y.toInt = -1 := by omega
      rcases hy with hy | hy
      · nlinarith
      · rw [hy] at hfloor hr
        exact hleast hy (by omega)

theorem toInt_fmod (hy : y ≠ 0) :
    (Int64.ofInt (x.toInt.fmod y.toInt)).toInt = x.toInt.fmod y.toInt := by
  have hlow := y.le_toInt
  have hhigh := y.toInt_lt
  have hbetween := fmod_between x.toInt (toInt_ne_zero hy)
  exact Int64.toInt_ofInt_of_le (by omega) (by omega)

theorem intPower?_eq (hlow : 0 ≤ y.toInt) (hhigh : y.toInt < 2 ^ 32) :
    intPower? x y = int64? (x.toInt ^ y.toInt.toNat) := by
  have htried : ¬ (y < 0 ∨ 4294967296 ≤ y) := by
    rw [Int64.lt_iff_toInt_lt, Int64.le_iff_toInt_le]
    rintro (h | h)
    · exact absurd hlow (Int.not_le.2 h)
    · exact absurd hhigh (Int.not_lt.2 h)
  rw [intPower?, if_neg htried, power?_eq]

/-! ### Operators -/

/-- An operator on two whole numbers that were made floats. -/
def asFloats (op : ArithmeticOp) (x y : Int64) : Outcome Fault Value :=
  binary op (.float (Number.toFloat x)) (.float (Number.toFloat y))

theorem asFloats_eq (op : ArithmeticOp) (x y : Int64) :
    asFloats op x y = .ofExcept (promoted op x y) := by
  cases op <;> rfl

theorem binary_int (op : ArithmeticOp) (x y : Int64) :
    binary op (.int x) (.int y) = int op x y := by
  cases op <;> rfl

/-- An operator whose exact result on two whole numbers is `n`: it gives `n` where 64 bits hold
it, and is otherwise taken on floats. -/
structure ExactOrPromoted (op : ArithmeticOp) (x y : Int64) (n : Int) : Prop where
  exact : -2 ^ 63 ≤ n → n < 2 ^ 63 →
    ∃ i : Int64, i.toInt = n ∧ binary op (.int x) (.int y) = .ok (.int i)
  promoted : n < -2 ^ 63 ∨ 2 ^ 63 ≤ n → binary op (.int x) (.int y) = asFloats op x y

theorem ExactOrPromoted.of_int64? {n : Int}
    (h : int op x y = match int64? n with
      | some i => .ok (.int i)
      | none => .ofExcept (Arithmetic.promoted op x y)) : ExactOrPromoted op x y n where
  exact hlow hhigh := by
    have hi := int64?_of_fits hlow hhigh
    rw [binary_int, h, hi]
    exact ⟨_, int64?_eq_some_iff.1 hi, rfl⟩
  promoted hn := by
    rw [binary_int, h, int64?_eq_none_iff.2 hn, asFloats_eq]

/-- Quotient and remainder of two whole numbers are those of the floor. -/
structure DividesToFloor (x y : Int64) : Prop where
  remainder : ∃ r : Int64, binary .mod (.int x) (.int y) = .ok (.int r) ∧
    |r.toInt| < |y.toInt| ∧ (r.toInt = 0 ∨ r.toInt.sign = y.toInt.sign)
  quotient : ¬ (x = Int64.minValue ∧ y = -1) → ∃ q : Int64,
    binary .floorDiv (.int x) (.int y) = .ok (.int q) ∧ q.toInt = ⌊(x.toInt / y.toInt : ℚ)⌋
  promoted : x = Int64.minValue → y = -1 →
    binary .floorDiv (.int x) (.int y) = asFloats .floorDiv x y
  recomposed : ∀ q r : Int64, binary .floorDiv (.int x) (.int y) = .ok (.int q) →
    binary .mod (.int x) (.int y) = .ok (.int r) → x.toInt = q.toInt * y.toInt + r.toInt

theorem exactOrPromoted_floorDiv (hy : y ≠ 0) :
    ExactOrPromoted .floorDiv x y (x.toInt.fdiv y.toInt) :=
  .of_int64? (floorDivInt_eq hy)

/-- What is promoted is not a whole number. -/
theorem asFloats_ne_int (op : ArithmeticOp) (x y i : Int64) : asFloats op x y ≠ .ok (.int i) := by
  rw [asFloats_eq, promoted]
  cases float op (Number.toFloat x) (Number.toFloat y) <;> nofun

theorem toInt_of_floorDiv (hy : y ≠ 0) {q : Int64}
    (h : binary .floorDiv (.int x) (.int y) = .ok (.int q)) : q.toInt = x.toInt.fdiv y.toInt := by
  have hexact := exactOrPromoted_floorDiv (x := x) hy
  by_cases hfits : -2 ^ 63 ≤ x.toInt.fdiv y.toInt ∧ x.toInt.fdiv y.toInt < 2 ^ 63
  · obtain ⟨i, hi, hquotient⟩ := hexact.exact hfits.1 hfits.2
    rw [hquotient] at h
    cases h
    exact hi
  · rw [hexact.promoted (by omega)] at h
    exact absurd h (asFloats_ne_int _ _ _ _)

theorem binary_mod (hy : y ≠ 0) :
    binary .mod (.int x) (.int y) = .ok (.int (Int64.ofInt (x.toInt.fmod y.toInt))) :=
  modInt_eq hy

theorem dividesToFloor (hy : y ≠ 0) : DividesToFloor x y where
  remainder := by
    refine ⟨_, binary_mod hy, ?_⟩
    rw [toInt_fmod hy]
    rcases fmod_between x.toInt (toInt_ne_zero hy) with ⟨hpos, hr⟩ | ⟨hneg, hr⟩
    · refine ⟨?_, ?_⟩
      · rw [abs_of_nonneg hr.1, abs_of_pos hpos]
        exact hr.2
      · rw [Int.sign_eq_one_of_pos hpos, Int.sign_eq_one_iff_pos]
        omega
    · refine ⟨?_, ?_⟩
      · rw [abs_of_nonpos hr.2, abs_of_neg hneg]
        omega
      · rw [Int.sign_eq_neg_one_of_neg hneg, Int.sign_eq_neg_one_iff_neg]
        omega
  quotient h := by
    have hfits := (fdiv_fits_iff hy).2 h
    obtain ⟨q, hq, hquotient⟩ := (exactOrPromoted_floorDiv hy).exact hfits.1 hfits.2
    exact ⟨q, hquotient, hq.trans (floor_div_eq_fdiv _ (toInt_ne_zero hy)).symm⟩
  promoted hx hleast := by
    have hfits := mt (fdiv_fits_iff hy).1 (not_not.2 ⟨hx, hleast⟩)
    exact (exactOrPromoted_floorDiv hy).promoted (by omega)
  recomposed q r hq hr := by
    rw [binary_mod hy] at hr
    cases hr
    rw [toInt_of_floorDiv hy hq, toInt_fmod hy, mul_comm]
    exact (Int.mul_fdiv_add_fmod _ _).symm

/-- Sum, difference, product and power of whole numbers are exact or promoted, quotient and
remainder are those of the floor, and no operator breaks a run off by an overflow. -/
theorem whole_numbers_exact (x y : Int64) :
    ExactOrPromoted .add x y (x.toInt + y.toInt) ∧
    ExactOrPromoted .sub x y (x.toInt - y.toInt) ∧
    ExactOrPromoted .mul x y (x.toInt * y.toInt) ∧
    (0 ≤ y.toInt → y.toInt < 2 ^ 32 →
      ExactOrPromoted .pow x y (x.toInt ^ y.toInt.toNat)) ∧
    (y ≠ 0 → DividesToFloor x y) ∧
    ∀ op reason, binary op (.int x) (.int y) ≠ .abort reason := by
  refine ⟨.of_int64? rfl, .of_int64? rfl, .of_int64? rfl, ?_, dividesToFloor, ?_⟩
  · intro hlow hhigh
    apply ExactOrPromoted.of_int64?
    show (match intPower? x y with
      | some i => _
      | none => _) = _
    rw [intPower?_eq hlow hhigh]
  · intro op reason
    exact Outcome.concludes_iff.1 (concludes_binary op _ _) reason

/-- The least number is a power of -2, though 2⁶³ does not fit; divided by -1 it is promoted. The
quotient of -7 by 2 goes below the one toward zero. -/
theorem whole_numbers_exact_least :
    (0 ≤ (63 : Int64).toInt ∧ (63 : Int64).toInt < 2 ^ 32 ∧
      binary .pow (.int (-2)) (.int 63) = .ok (.int Int64.minValue)) ∧
    ((-1 : Int64) ≠ 0 ∧ binary .floorDiv (.int Int64.minValue) (.int (-1)) =
      asFloats .floorDiv Int64.minValue (-1)) ∧
    ((2 : Int64) ≠ 0 ∧ binary .floorDiv (.int (-7)) (.int 2) = .ok (.int (-4))) := by
  refine ⟨⟨by decide, by decide, ?_⟩, ⟨by decide, ?_⟩, ⟨by decide, ?_⟩⟩
  · have hpower := (whole_numbers_exact (-2) 63).2.2.2.1 (by decide) (by decide)
    obtain ⟨i, hi, hresult⟩ := hpower.exact (by decide) (by decide)
    rw [hresult, Int64.toInt_inj.1 (hi.trans (by decide : _ = Int64.minValue.toInt))]
  · exact ((whole_numbers_exact Int64.minValue (-1)).2.2.2.2.1 (by decide)).promoted rfl rfl
  · have hdivides := (whole_numbers_exact (-7) 2).2.2.2.2.1 (by decide)
    obtain ⟨q, hresult, hq⟩ := hdivides.quotient (by decide)
    rw [floor_div_eq_fdiv _ (by decide)] at hq
    rw [hresult, Int64.toInt_inj.1 (hq.trans (by decide : _ = (-4 : Int64).toInt))]

end Appraisal.Arithmetic
