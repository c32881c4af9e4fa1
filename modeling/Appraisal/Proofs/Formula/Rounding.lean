import Appraisal.Formula.Call
import Appraisal.Proofs.Number.Tens
import Appraisal.Proofs.Outcome

/-!
# Whole numbers rounded to tens

`round` with a negative number of digits takes a whole number through floats: it is converted,
divided by a power of ten, rounded and multiplied again. For numbers of 53 bits the result is the
nearest multiple, the even one in the middle between two, and so it is for all that lie far from
such a middle if the multiple is a float (`Builtin.round_tens`). For other numbers each of
the steps may lead astray (`Builtin.round_tens_astray`).
-/

namespace Appraisal.Builtin

open Number
open Float.Model.UnpackedFloat (Sign)

variable {v n : Int64} {s : Sign} {u : Float} {p q unit : Nat} {m : Int}

/-- The multiple of `unit` nearest to `v`; of two it is the even one. -/
structure IsNearestMultiple (unit v m : Int) : Prop where
  dvd : unit ∣ m
  nearest : ∀ k, |v - m| ≤ |v - k * unit|
  even : ∀ k, k * unit ≠ m → |v - m| = |v - k * unit| → 2 * unit ∣ m

theorem IsNearestMultiple.neg {unit v : Int} (h : IsNearestMultiple unit v m) :
    IsNearestMultiple unit (-v) (-m) := by
  have hneg (x y : Int) : |(-x - -y)| = |x - y| := by rw [neg_sub_neg, abs_sub_comm]
  have hmultiple (k : Int) : |-v - k * unit| = |v - -k * unit| := by
    rw [← hneg, neg_neg, neg_mul]
  refine ⟨(dvd_neg).2 h.dvd, fun k => ?_, fun k hk heq => (dvd_neg).2 (h.even (-k) ?_ ?_)⟩
  · rw [hneg, hmultiple]
    exact h.nearest (-k)
  · intro hm
    exact hk (by rw [← hm, neg_mul, neg_neg])
  · rwa [hneg, hmultiple] at heq

/-- The nearest whole number of a quotient tells the nearest multiple. -/
theorem isNearestMultiple_of_isHalfEven {n : Nat} (hunit : 0 < unit)
    (h : IsHalfEven (n / unit) q) : IsNearestMultiple unit n (q * unit) := by
  have hpos : (0 : ℚ) < unit := by exact_mod_cast hunit
  have hlow : (2 * (q * unit) - unit : Int) ≤ 2 * n := by
    have := (le_div_iff₀ hpos).1 h.low
    have : (2 * (q * unit) - unit : ℚ) ≤ 2 * n := by linarith
    exact_mod_cast this
  have hhigh : (2 * n : Int) ≤ 2 * (q * unit) + unit := by
    have := (div_le_iff₀ hpos).1 h.high
    have : (2 * n : ℚ) ≤ 2 * (q * unit) + unit := by linarith
    exact_mod_cast this
  have hstep (k : Int) : k * unit = q * unit ∨ k * unit + unit ≤ q * unit ∨
      q * unit + unit ≤ k * unit := by
    rcases lt_trichotomy k q with hk | rfl | hk
    · have := mul_le_mul_of_nonneg_right (Int.add_one_le_of_lt hk) (Int.natCast_nonneg unit)
      rw [add_mul, one_mul] at this
      exact .inr (.inl this)
    · exact .inl rfl
    · have := mul_le_mul_of_nonneg_right (Int.add_one_le_of_lt hk) (Int.natCast_nonneg unit)
      rw [add_mul, one_mul] at this
      exact .inr (.inr this)
  refine ⟨dvd_mul_left _ _, fun k => ?_, fun k hne heq => ?_⟩
  · have := hstep k
    rcases abs_cases (n - q * unit : Int) with h₁ | h₁ <;>
      rcases abs_cases (n - k * unit : Int) with h₂ | h₂ <;> omega
  · -- the number lies in the middle, so the quotient is even
    have hmiddle :
        (2 * n : Int) = 2 * (q * unit) - unit ∨ (2 * n : Int) = 2 * (q * unit) + unit := by
      have := hstep k
      rcases abs_cases (n - q * unit : Int) with h₁ | h₁ <;>
        rcases abs_cases (n - k * unit : Int) with h₂ | h₂ <;> omega
    have heven : q % 2 = 0 := by
      by_contra hodd
      obtain ⟨hlt, hgt⟩ := h.odd (by omega)
      rw [lt_div_iff₀ hpos] at hlt
      rw [div_lt_iff₀ hpos] at hgt
      rcases hmiddle with hm | hm
      · have hm : (2 * n : ℚ) = 2 * (q * unit) - unit := by exact_mod_cast hm
        linarith
      · have hm : (2 * n : ℚ) = 2 * (q * unit) + unit := by exact_mod_cast hm
        linarith
    exact mul_dvd_mul_right (by exact_mod_cast Nat.dvd_of_mod_eq_zero heven) _

/-! ### Signs -/

theorem natAbs_apply (s : Sign) (m : Nat) : (s.apply m).natAbs = m := by
  cases s
  · exact (Int.natAbs_neg _).trans (Int.natAbs_natCast m)
  · exact Int.natAbs_natCast m

theorem apply_signOf (i : Int) : (signOf i).apply i.natAbs = i := by
  rw [signOf]
  split
  · show -(i.natAbs : Int) = i
    omega
  · show (i.natAbs : Int) = i
    omega

theorem IsNearestMultiple.apply {unit v : Int} (h : IsNearestMultiple unit v m) (s : Sign) :
    IsNearestMultiple unit (s.apply v) (s.apply m) := by
  cases s
  · exact h.neg
  · exact h

theorem isNearestMultiple_apply {v : Int} (hunit : 0 < unit)
    (h : IsHalfEven (v.natAbs / unit) q) :
    IsNearestMultiple unit v ((signOf v).apply (q * unit : ℕ)) := by
  have hnearest := (isNearestMultiple_of_isHalfEven hunit h).apply (signOf v)
  rw [apply_signOf] at hnearest
  exact_mod_cast hnearest

/-! ### Rounding on floats -/

/-- The number lies more than 2¹¹ away from the middle between any two multiples of `unit`. -/
def FarFromMiddle (unit v : Int) : Prop := ∀ t : Int, 2 ^ 12 < |2 * v - (2 * t + 1) * unit|

theorem FarFromMiddle.natAbs {unit v : Int} (h : FarFromMiddle unit v) :
    FarFromMiddle unit v.natAbs := by
  intro t
  rcases Int.natAbs_eq v with hv | hv
  · rw [← hv]
    exact h t
  · have hsymm := h (-t - 1)
    rw [hv, ← abs_neg] at hsymm
    convert hsymm using 2
    ring

/-- The power of ten up to which digits are dropped. -/
def tens (digits : Int64) : Nat := 10 ^ (-digits.toInt).toNat

theorem isHalfEven_zero {x : ℚ} (hx : 0 ≤ x) (hle : x ≤ 1 / 2) : IsHalfEven x 0 :=
  ⟨by norm_num; linarith, by rwa [Nat.cast_zero, zero_add], fun hodd => absurd hodd (by decide)⟩

/-- No number of 64 bits has a digit at the 23rd place before the point. -/
theorem eq_zero_of_large {n k : Nat} (hk : 23 ≤ k) (hn : n ≤ 2 ^ 63)
    (hq : IsHalfEven (n / (10 ^ k : ℕ)) q) : q = 0 := by
  have hpower : (10 ^ 23 : ℚ) ≤ (10 ^ k : ℕ) := by
    exact_mod_cast Nat.pow_le_pow_right (by norm_num) hk
  have hn : (n : ℚ) ≤ 2 ^ 63 := by exact_mod_cast hn
  refine hq.unique (isHalfEven_zero (by positivity) ?_)
  rw [div_le_iff₀ (lt_of_lt_of_le (by norm_num) hpower)]
  linarith

/-- The quotient that is computed has the same nearest whole number as the exact one, if the number
has 53 bits or lies far from the middle between two multiples. -/
theorem isHalfEven_tens {w y x : ℚ} {n k : Nat} (hk : 0 < k) (hw : IsRounded n w)
    (hy : IsTens (Min.min k 308) y) (hx : IsRounded (w / y) x)
    (hq : IsHalfEven (n / (10 ^ k : ℕ)) q) (hn : n ≤ 2 ^ 63)
    (hsafe : n < 2 ^ 53 ∨ FarFromMiddle (10 ^ k : ℕ) n) : IsHalfEven x q := by
  rcases Nat.eq_zero_or_pos n with rfl | hpos
  · rw [Nat.cast_zero] at hw hq
    rw [hw.eq_zero, zero_div] at hx
    rw [zero_div] at hq
    rwa [hx.eq_zero]
  have hw := hw.isNearest (by exact_mod_cast hpos)
  have hypos : 0 < y := one_pos.trans_le hy.one_le
  have hx := hx.isNearest (div_pos hw.pos hypos)
  rcases Nat.lt_or_ge k 23 with hsmall | hlarge
  · obtain rfl := hy.eq_pow (by omega)
    obtain ⟨j, rfl⟩ := Nat.exists_eq_add_of_lt hk
    have hunit : 10 ≤ 10 ^ (0 + j + 1) := Nat.le_self_pow (by omega) 10
    rcases hsafe with hlt | hfar
    · rw [hw.unique (isNearest_natCast hpos hlt)] at hx
      refine hx.isHalfEven_quotient hq hlt (by omega) ?_
      rw [pow_succ]
      omega
    · exact isHalfEven_of_far hw hx hq hn (by omega) (Nat.pow_le_pow_right (by norm_num) (by omega))
        hfar
  · -- the divisor is so large that the quotient is nothing
    have hwle : w ≤ 2 ^ (63 : Int) := hw.le_two_zpow (by exact_mod_cast hn) (by norm_num)
    have hquotient : w / y ≤ 2 ^ (-1 : Int) := by
      rw [div_le_iff₀ hypos]
      have hdivisor : (2 : ℚ) ^ (-1 : Int) * 2 ^ 64 ≤ 2 ^ (-1 : Int) * y :=
        mul_le_mul_of_nonneg_left (hy.large (by omega)) (by norm_num)
      exact hwle.trans (le_trans (by norm_num) hdivisor)
    have hxle := hx.le_two_zpow hquotient (by norm_num)
    rw [zpow_neg_one, inv_eq_one_div] at hxle
    rw [eq_zero_of_large hlarge hn hq]
    exact isHalfEven_zero hx.pos.le hxle

/-- The nearest multiple is at most twice the number. -/
theorem multiple_le {n : Nat} (hunit : 0 < unit) (hq : IsHalfEven (n / unit) q) :
    q * unit ≤ 2 * n := by
  have hpos : (0 : ℚ) < unit := by exact_mod_cast hunit
  rcases Nat.eq_zero_or_pos q with rfl | hq1
  · omega
  have hq1 : (1 : ℚ) ≤ q := by exact_mod_cast hq1
  have hlow := (le_div_iff₀ hpos).1 hq.low
  have hhalf := mul_le_mul_of_nonneg_right hq1 hpos.le
  have hle : (q * unit : ℚ) ≤ 2 * n := by linarith
  exact_mod_cast hle

theorem exists_quotient {w y : ℚ} {n : Nat} (hn : n ≤ 2 ^ 63) (hw : IsRounded n w) (hone : 1 ≤ y)
    (hmax : y < 2 ^ (1024 : Int)) : ∃ x, IsRounded (w / y) x ∧ x < 2 ^ (1024 : Int) := by
  rcases hw with ⟨-, rfl⟩ | hw
  · exact ⟨0, .inl ⟨zero_div y, rfl⟩, zpow_pos two_pos _⟩
  have hypos : 0 < y := one_pos.trans_le hone
  have hwone : 1 ≤ w := by
    have hn : 0 < n := by exact_mod_cast hw.left_pos
    exact hw.one_le (by exact_mod_cast hn)
  have hwle : w ≤ 2 ^ (63 : Int) := hw.le_two_zpow (by exact_mod_cast hn) (by norm_num)
  have hlow : (2 : ℚ) ^ (-1024 : Int) ≤ w / y := by
    rw [zpow_neg, ← one_div]
    exact div_le_div₀ (by linarith) hwone hypos hmax.le
  obtain ⟨x, hx⟩ := exists_isNearest ((zpow_le_zpow_right₀ (by norm_num) (by norm_num)).trans hlow)
  have hxle := hx.le_two_zpow ((div_le_self (by linarith) hone).trans hwle) (by norm_num)
  exact ⟨x, .inr hx, hxle.trans_lt (zpow_lt_zpow_right₀ (by norm_num) (by norm_num))⟩

theorem exists_product {y : ℚ} {n k : Nat} (hn : n ≤ 2 ^ 63) (hy : IsTens (Min.min k 308) y)
    (hq : IsHalfEven (n / (10 ^ k : ℕ)) q) : ∃ p : Nat, IsRounded (q * 10 ^ k : ℕ) p ∧
      IsRounded (q * y) p ∧ (p : ℚ) < 2 ^ (1024 : Int) := by
  rcases Nat.eq_zero_or_pos q with rfl | hpos
  · rw [Nat.cast_zero, zero_mul, zero_mul, Nat.cast_zero]
    exact ⟨0, .inl ⟨rfl, rfl⟩, .inl ⟨rfl, rfl⟩, zpow_pos two_pos _⟩
  have hk : k ≤ 22 := by
    by_contra hlarge
    exact hpos.ne' (eq_zero_of_large (by omega) hn hq)
  obtain rfl := hy.eq_pow hk
  have hone : (1 : ℚ) ≤ (q * 10 ^ k : ℕ) := by
    have : 0 < q * 10 ^ k := by positivity
    exact_mod_cast this
  have hle : ((q * 10 ^ k : ℕ) : ℚ) ≤ 2 ^ (64 : Int) := by
    have := multiple_le (by positivity) hq
    have : q * 10 ^ k ≤ 2 ^ 64 := by omega
    exact_mod_cast this
  obtain ⟨z, hz⟩ := exists_isNearest_of_one_le hone
  obtain ⟨p, rfl, -⟩ := hz.exists_natCast
  refine ⟨p, .inr hz, .inr (by exact_mod_cast hz), ?_⟩
  exact (hz.le_two_zpow hle (by norm_num)).trans_lt
    (zpow_lt_zpow_right₀ (by norm_num) (by norm_num))

/-- The rounded number as the sign and the nearest float to the multiple. -/
theorem exists_roundInt (hn : n.toInt < 0) (hq : IsHalfEven (v.toInt.natAbs / tens n) q)
    (hsafe : v.toInt.natAbs < 2 ^ 53 ∨ FarFromMiddle (tens n) v.toInt) :
    ∃ p : ℕ, IsRounded (q * tens n : ℕ) p ∧ ∃ u, HasSize u (signOf v.toInt) p ∧
      roundInt v n.toInt = integral round u := by
  obtain ⟨k, hk⟩ := Int.exists_eq_neg_ofNat hn.le
  have hunit : tens n = 10 ^ k := by rw [tens, hk, neg_neg, Int.toNat_natCast]
  have hdigits : Min.min (-n.toInt) 308 = (Min.min k 308 : ℕ) := by omega
  obtain ⟨w, hw, hfloat⟩ := exists_hasSize_toFloat v
  obtain ⟨y, hfactor, hy⟩ := hasMagnitude_power_ten (min_le_right k 308)
  have hle : v.toInt.natAbs ≤ 2 ^ 63 := by
    have hlow := v.le_toInt
    have hhigh := v.toInt_lt
    omega
  obtain ⟨x, hx, hxmax⟩ := exists_quotient hle hw hy.one_le (hy.lt (min_le_right k 308))
  have hquotient := hfloat.div hfactor hx hxmax
  rw [hunit] at hq hsafe ⊢
  have hxq := isHalfEven_tens (by omega) hw hy hx hq hle (hsafe.imp_right FarFromMiddle.natAbs)
  have hround := hquotient.roundTo hxq
  obtain ⟨p, hp, hpy, hpmax⟩ := exists_product hle hy hq
  have hresult := hround.mul hfactor hpy hpmax
  have hsign : signOf v.toInt / .positive * .positive = signOf v.toInt := by
    cases signOf v.toInt <;> rfl
  rw [hsign] at hresult
  refine ⟨p, hp, _, hresult, ?_⟩
  rw [roundInt, if_neg (by omega), hdigits]

/-! ### Calls -/

theorem exists_int_of_integral {f : Builtin} {r : Value} (h : integral f u = .ok r) :
    ∃ i, r = .int i := by
  rw [integral] at h
  split at h
  · next i _ =>
    cases h
    exact ⟨i, rfl⟩
  · cases h

theorem integral_eq_ok_iff {f : Builtin} {r : Value} (h : HasSize u s p) :
    integral f u = .ok r ↔ ∃ i : Int64, r = .int i ∧ i.toInt = s.apply p := by
  rw [integral, h.toInt64?]
  cases hint : int64? (s.apply p) with
  | none =>
    refine iff_of_false (fun h => by cases h) fun ⟨i, _, hi⟩ => ?_
    rw [int64?_eq_some_iff.2 hi] at hint
    cases hint
  | some j =>
    have hj := int64?_eq_some_iff.1 hint
    constructor
    · intro hr
      cases hr
      exact ⟨j, rfl, hj⟩
    · rintro ⟨i, rfl, hi⟩
      rw [Int64.toInt_inj.1 (hi.trans hj.symm)]

/-- A multiple of a power of ten of little more than 53 bits is a float, since it is even. -/
theorem isShort_multiple {k : Nat} (hk : 0 < k) (hle : q * 10 ^ k < 2 ^ 54) :
    IsShort (q * 10 ^ k) := by
  have hvalue : q * 10 ^ k = q * 5 ^ k * 2 ^ k := by
    rw [mul_assoc, ← mul_pow]
    norm_num
  refine ⟨q * 5 ^ k, k, ?_, hvalue⟩
  have htwo : q * 5 ^ k * 2 ≤ q * 5 ^ k * 2 ^ k :=
    Nat.mul_le_mul_left _ (Nat.le_self_pow hk.ne' 2)
  omega

/-- **Rounding a whole number to tens**: the result is a whole number; it is the nearest multiple if
the number has 53 bits, and far from the middle between two multiples it is the nearest one just
if that is a float. -/
theorem round_tens (hn : n.toInt < 0) :
    (∀ r, call round [.int v, .int n] = .ok r → ∃ i, r = .int i) ∧
    (v.toInt.natAbs < 2 ^ 53 → ∃ i, call round [.int v, .int n] = .ok (.int i) ∧
      IsNearestMultiple (tens n) v.toInt i.toInt) ∧
    (FarFromMiddle (tens n) v.toInt → ∃ m, IsNearestMultiple (tens n) v.toInt m ∧
      ∀ i, call round [.int v, .int n] = .ok (.int i) → (i.toInt = m ↔ IsShort m.natAbs)) := by
  have hcall : call round [.int v, .int n] = .ofExcept (roundInt v n.toInt) := rfl
  have hunit : 0 < tens n := Nat.pow_pos (by norm_num)
  obtain ⟨q, hq⟩ := exists_isHalfEven (by positivity : (0 : ℚ) ≤ v.toInt.natAbs / tens n)
  have hnearest := isNearestMultiple_apply hunit hq
  simp only [hcall, Outcome.ofExcept_eq_ok_iff]
  refine ⟨fun r hr => ?_, fun hlt => ?_, fun hfar => ?_⟩
  · rw [roundInt, if_neg (by omega)] at hr
    exact exists_int_of_integral hr
  · obtain ⟨p, hp, u, hu, hround⟩ := exists_roundInt hn hq (.inl hlt)
    have hle := multiple_le hunit hq
    obtain rfl := hp.eq_iff_isShort.2 (isShort_multiple (by omega) (by rw [← tens]; omega))
    obtain ⟨i, hi⟩ : ∃ i : Int64, i.toInt = (signOf v.toInt).apply (q * tens n : ℕ) := by
      have habs := natAbs_apply (signOf v.toInt) (q * tens n)
      exact ⟨_, Int64.toInt_ofInt_of_le (by omega) (by omega)⟩
    refine ⟨i, ?_, hi ▸ hnearest⟩
    rw [hround, integral_eq_ok_iff hu]
    exact ⟨i, rfl, hi⟩
  · obtain ⟨p, hp, u, hu, hround⟩ := exists_roundInt hn hq (.inr hfar)
    refine ⟨_, hnearest, fun i hi => ?_⟩
    rw [hround, integral_eq_ok_iff hu] at hi
    obtain ⟨j, hj, hvalue⟩ := hi
    cases hj
    rw [hvalue, natAbs_apply, ← hp.eq_iff_isShort]
    refine ⟨fun heq => ?_, congrArg fun k : ℕ => (signOf v.toInt).apply k⟩
    rw [← natAbs_apply (signOf v.toInt) p, heq, natAbs_apply]

/-- A number in the middle between two hundreds becomes the even one. -/
theorem round_tens_hundreds : (-2 : Int64).toInt < 0 ∧
    ∃ i, call round [.int 1250, .int (-2)] = .ok (.int i) ∧
      IsNearestMultiple (tens (-2)) (1250 : Int64).toInt i.toInt :=
  ⟨by decide, (round_tens (by decide)).2.1 (by decide)⟩

/-- The whole number that a call ends with. -/
def whole? : Outcome Fault Value → Option Int64
  | .ok (.int i) => some i
  | .ok _ | .error _ | .abort _ => none

theorem whole?_eq_some_iff {x : Outcome Fault Value} {i : Int64} :
    whole? x = some i ↔ x = .ok (.int i) := by
  constructor
  · intro h
    unfold whole? at h
    split at h <;> cases h
    rfl
  · rintro rfl
    rfl

/-- A number of 54 bits just below the middle between two thousands, which is rounded up. -/
theorem round_tens_astray :
    call round [.int 9007199254741499, .int (-3)] = .ok (.int 9007199254742000) ∧
      ¬ IsNearestMultiple (tens (-3)) (9007199254741499 : Int64).toInt
        (9007199254742000 : Int64).toInt := by
  refine ⟨whole?_eq_some_iff.1 (by decide +kernel), fun h => ?_⟩
  exact absurd (h.nearest 9007199254741) (by decide)

end Appraisal.Builtin
