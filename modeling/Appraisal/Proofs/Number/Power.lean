import Appraisal.Proofs.Number.Integer

/-!
# Powers that fit

A power is computed by repeated squaring, and every product on the way has to fit 64 bits. It
follows that the power has a result if it fits itself (`Number.power?_eq`): a square is only taken
where it will be a factor of the power, and no square is -2⁶³ or 2⁶³, so one that does not fit is
greater in magnitude than every number that does.
-/

namespace Appraisal.Number

/-! ### Multiples that do not fit -/

section Multiples

variable {a b : Int}

/-- A number that does not fit has no positive multiple that does. -/
theorem int64?_mul_eq_none (ha : int64? a = none) (hb : 1 ≤ b) : int64? (a * b) = none := by
  rw [int64?_eq_none_iff] at ha ⊢
  rcases ha with ha | ha
  · left
    nlinarith
  · right
    nlinarith

/-- 2⁶³ lies between the squares of neighbours. -/
theorem lt_square_of_int64? (h : int64? (b * b) = none) : 2 ^ 63 < b * b := by
  have hnonneg := mul_self_nonneg b
  rcases int64?_eq_none_iff.1 h with h | h
  · omega
  · rw [← Int.natAbs_mul_self' b] at h ⊢
    by_cases hroot : 3037000500 ≤ (b.natAbs : Int)
    · nlinarith
    · have hroot : (b.natAbs : Int) ≤ 3037000499 := by omega
      nlinarith

/-- Only zero fits among the multiples of a square that does not fit, and of its powers. The factor
may be negative here, since the square is not 2⁶³. -/
theorem int64?_mul_square_eq_none (ha : a ≠ 0) (hb : int64? (b * b) = none) {k : Nat}
    (hk : k ≠ 0) : int64? (a * (b * b) ^ k) = none := by
  have hsquare := lt_square_of_int64? hb
  have hpower : b * b ≤ (b * b) ^ k := le_self_pow₀ (by omega) hk
  rw [int64?_eq_none_iff]
  rcases Int.lt_or_gt_of_ne ha with hneg | hpos
  · left
    nlinarith
  · right
    nlinarith

/-- A power is the square's power of half the exponent, times the base where the exponent is odd. -/
theorem pow_eq_square_pow (b : Int) (n : Nat) : b ^ n = b ^ (n % 2) * (b * b) ^ (n / 2) := by
  rw [← pow_two, ← pow_mul, ← pow_add, Nat.mod_add_div]

end Multiples

/-! ### Repeated squaring -/

section Squaring

variable {result base : Int64} {n : Nat}

/-- The low bit of the exponent tells whether the base is a factor. -/
theorem lowBit_eq (result base : Int64) (n : Nat) :
    (if n % 2 = 1 then product? result base else some result) =
      int64? (result.toInt * base.toInt ^ (n % 2)) := by
  rcases Nat.mod_two_eq_zero_or_one n with hn | hn
  · rw [hn, if_neg (by decide), pow_zero, mul_one, int64?_toInt]
  · rw [hn, if_pos rfl, pow_one, product?]

theorem ne_zero_of_lowBit (h : int64? (result.toInt * base.toInt ^ (n % 2)) = none) :
    base.toInt ≠ 0 := by
  intro hzero
  rw [hzero] at h
  rcases Nat.mod_two_eq_zero_or_one n with hn | hn
  · rw [hn, pow_zero, mul_one, int64?_toInt] at h
    cases h
  · rw [hn, pow_one, mul_zero] at h
    exact absurd h (by decide)

theorem ne_zero_of_square (h : product? base base = none) : base.toInt ≠ 0 := by
  intro hzero
  rw [product?, hzero] at h
  exact absurd h (by decide)

/-- Repeated squaring yields the power if it fits. A result of zero would fit whatever the squares
are, so it must have come from a base of zero. -/
theorem powerFrom?_eq (n : Nat) (h : result.toInt = 0 → base.toInt = 0) :
    powerFrom? result base n = int64? (result.toInt * base.toInt ^ n) := by
  induction n using Nat.strongRecOn generalizing result base with
  | ind n ih =>
    rw [pow_eq_square_pow, ← mul_assoc, powerFrom?, lowBit_eq]
    by_cases hn : n / 2 = 0
    · rw [dif_pos hn, hn, pow_zero, mul_one]
    rw [dif_neg hn]
    cases hr : int64? (result.toInt * base.toInt ^ (n % 2)) with
    | none =>
      have hsquares : 0 < (base.toInt * base.toInt) ^ (n / 2) :=
        pow_pos (mul_self_pos.2 (ne_zero_of_lowBit hr)) _
      rw [int64?_mul_eq_none hr hsquares]
      rfl
    | some r =>
      have hr := toInt_of_int64? hr
      cases hs : product? base base with
      | none =>
        have hbase := ne_zero_of_square hs
        have hresult : r.toInt ≠ 0 := by
          rw [hr]
          exact mul_ne_zero (fun hzero => hbase (h hzero)) (pow_ne_zero _ hbase)
        rw [← hr, int64?_mul_square_eq_none hresult hs hn]
        rfl
      | some s =>
        have hs : s.toInt = base.toInt * base.toInt := toInt_of_int64? hs
        have hzero : r.toInt = 0 → s.toInt = 0 := by
          intro hzero
          rw [hr] at hzero
          rcases mul_eq_zero.1 hzero with hzero | hzero
          · rw [hs, h hzero, mul_zero]
          · rw [hs, eq_zero_of_pow_eq_zero hzero, mul_zero]
        show powerFrom? r s (n / 2) = _
        rw [ih (n / 2) (by omega) hzero, hr, hs]

end Squaring

/-- A power of whole numbers has a result if it fits. -/
theorem power?_eq (x : Int64) (n : Nat) : power? x n = int64? (x.toInt ^ n) := by
  have hone : (1 : Int64).toInt = 1 := rfl
  rw [power?, powerFrom?_eq n (by rw [hone]; nofun), hone, one_mul]

end Appraisal.Number
