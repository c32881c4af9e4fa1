import Appraisal.Proofs.Number.Natural

/-!
# Floats rounded to whole numbers

A float is a fraction whose denominator is a power of two, so it is rounded to a whole number by a
division with a rest: half of the way goes to the even number (`Number.HasSize.roundTo`). A
float that is a whole number comes back as that number (`Number.HasSize.toInt64?`).
-/

namespace Appraisal.Number

open Float.Model (Format UnpackedFloat)
open Float.Model.UnpackedFloat

variable {v w : Float} {s t : Sign} {x y z : ℚ} {m n q : Nat} {e : Int}

/-! ### Finite floats -/

/-- A finite float with its sign, and its magnitude or zero. -/
def HasSize (v : Float) (sign : Sign) (x : ℚ) : Prop :=
  x = 0 ∧ v.toModel.unpack = .zero sign ∨ HasMagnitude v sign x

/-- The float nearest to `x` has the value `y`, which is zero only for zero. -/
def IsRounded (x y : ℚ) : Prop := x = 0 ∧ y = 0 ∨ IsNearest x y

theorem IsRounded.eq_zero (h : IsRounded 0 y) : y = 0 := by
  rcases h with ⟨-, rfl⟩ | h
  · rfl
  · exact absurd h.left_pos (lt_irrefl 0)

theorem IsRounded.isNearest (h : IsRounded x y) (hx : 0 < x) : IsNearest x y :=
  h.resolve_left fun h0 => hx.ne' h0.1

/-- A whole number is not moved just if it is short. -/
theorem IsRounded.eq_iff_isShort (h : IsRounded n q) : q = n ↔ IsShort n := by
  rcases h with ⟨hn, hq⟩ | h
  · obtain rfl : n = 0 := by exact_mod_cast hn
    obtain rfl : q = 0 := by exact_mod_cast hq
    exact iff_of_true rfl (isShort_of_lt (by norm_num))
  · obtain ⟨k, hk, hiff⟩ := h.exists_natCast
    obtain rfl : q = k := by exact_mod_cast hk
    exact hiff

/-- The float of a whole number is the nearest one, on the same side of zero. -/
theorem exists_hasSize_toFloat (i : Int64) :
    ∃ x, IsRounded (i.toInt.natAbs : ℕ) x ∧ HasSize (toFloat i) (signOf i.toInt) x := by
  by_cases hi : i = 0
  · subst hi
    exact ⟨0, .inl ⟨rfl, rfl⟩, .inl ⟨rfl, rfl⟩⟩
  · obtain ⟨x, hx, h⟩ := exists_hasMagnitude_toFloat hi
    exact ⟨x, .inr hx, .inr h⟩

theorem hasSize_of_zero (h : v.toModel.unpack = unpack Format.binary64
    (pack Format.binary64 (.zero s))) : HasSize v s 0 := by
  refine .inl ⟨rfl, h.trans ?_⟩
  cases s <;> rfl

theorem HasSize.mul (hv : HasSize v s x) (hw : HasMagnitude w t y) (h : IsRounded (x * y) z)
    (hz : z < 2 ^ (1024 : Int)) : HasSize (v * w) (s * t) z := by
  rcases hv with ⟨rfl, hv⟩ | hv
  · obtain ⟨m, e, hm, hw, -⟩ := hw
    rw [zero_mul] at h
    rw [h.eq_zero]
    refine hasSize_of_zero ?_
    rw [unpack_mul, hv, hw]
    rfl
  · exact .inr (hv.mul hw (h.isNearest (mul_pos hv.pos hw.pos)) hz)

theorem HasSize.div (hv : HasSize v s x) (hw : HasMagnitude w t y) (h : IsRounded (x / y) z)
    (hz : z < 2 ^ (1024 : Int)) : HasSize (v / w) (s / t) z := by
  rcases hv with ⟨rfl, hv⟩ | hv
  · obtain ⟨m, e, hm, hw, -⟩ := hw
    rw [zero_div] at h
    rw [h.eq_zero]
    refine hasSize_of_zero ?_
    rw [unpack_div, hv, hw]
    rfl
  · exact .inr (hv.div hw (h.isNearest (div_pos hv.pos hw.pos)) hz)

/-! ### Rounding -/

/-- The whole number nearest to a fraction, found by a division with a rest. -/
theorem isHalfEven_div (m : Nat) (hn : 0 < n) (negative : Bool) : IsHalfEven (m / n)
    (if Direction.nearestEven.carries negative (m / n) (m % n) n then m / n + 1 else m / n) := by
  have hpos : (0 : ℚ) < n := by exact_mod_cast hn
  have hparts : (m : ℚ) = n * (m / n : ℕ) + (m % n : ℕ) := by
    exact_mod_cast (Nat.div_add_mod m n).symm
  have hrest : m % n < n := Nat.mod_lt m hn
  generalize m / n = k at hparts ⊢
  generalize m % n = r at hparts hrest ⊢
  have hvalue : (m / n : ℚ) = k + r / n := by
    rw [hparts]
    field_simp
  have hsome : (0 : ℚ) ≤ r / n := by positivity
  have hone : (r / n : ℚ) < 1 := (div_lt_one hpos).2 (by exact_mod_cast hrest)
  simp only [Direction.carries, Bool.or_eq_true, Bool.and_eq_true, beq_iff_eq, decide_eq_true_iff]
  rw [hvalue]
  rcases lt_trichotomy (2 * r) n with hlt | heq | hgt
  · have hhalf : (r / n : ℚ) < 1 / 2 := by
      rw [div_lt_iff₀ hpos]
      have : (2 * r : ℚ) < n := by exact_mod_cast hlt
      linarith
    rw [if_neg (by omega)]
    exact ⟨by linarith, by linarith, fun _ => ⟨by linarith, by linarith⟩⟩
  · have hhalf : (r / n : ℚ) = 1 / 2 := by
      rw [div_eq_iff hpos.ne']
      have : (2 * r : ℚ) = n := by exact_mod_cast heq
      linarith
    rw [hhalf]
    split
    · next hcarry => exact ⟨by push_cast; linarith, by push_cast; linarith, fun hodd => by omega⟩
    · next hstay => exact ⟨by linarith, by linarith, fun hodd => by omega⟩
  · have hhalf : (1 / 2 : ℚ) < r / n := by
      rw [lt_div_iff₀ hpos]
      have : (n : ℚ) < 2 * r := by exact_mod_cast hgt
      linarith
    rw [if_pos (by omega)]
    refine ⟨by push_cast; linarith, by push_cast; linarith, fun _ => ?_⟩
    push_cast
    exact ⟨by linarith, by linarith⟩

/-- A product with a power of two, as a fraction. -/
theorem mul_zpow_eq_div (m : Nat) (e : Int) :
    (m * 2 ^ e : ℚ) = (m <<< e.toNat : ℕ) / (1 <<< (-e).toNat : ℕ) := by
  rw [Nat.shiftLeft_eq, Nat.shiftLeft_eq, one_mul, eq_div_iff (by positivity)]
  push_cast
  rw [mul_assoc, zpow_mul_toNat two_ne_zero]

theorem isHalfEven_roundMagnitude (negative : Bool) (m : Nat) (e : Int) :
    IsHalfEven (m * 2 ^ e) (Scaled.roundMagnitude ⟨negative, m, e⟩ .nearestEven) := by
  rw [mul_zpow_eq_div]
  exact isHalfEven_div _ (by rw [Nat.shiftLeft_eq]; positivity) negative

theorem HasMagnitude.exists_scaled? (h : HasMagnitude v s x) : ∃ m e,
    scaled? v = some ⟨s == .negative, m, e⟩ ∧ x = m * 2 ^ e ∧ IsCanonical m e := by
  obtain ⟨m, e, hm, hv, rfl⟩ := h
  exact ⟨m, e, by rw [scaled?, hv], rfl, (isCanonical_of_unpack hv).1⟩

theorem scaled?_of_zero (h : v.toModel.unpack = .zero s) :
    scaled? v = some ⟨s == .negative, 0, 0⟩ := by
  rw [scaled?, h]

theorem hasSize_ofNat (hn : n < 2 ^ 53) : HasSize (Float.ofNat n) .positive n := by
  rcases Nat.eq_zero_or_pos n with rfl | hpos
  · exact .inl ⟨Nat.cast_zero, rfl⟩
  · exact .inr (hasMagnitude_ofNat hpos (by omega) (isNearest_natCast hpos hn))

theorem HasSize.neg (h : HasSize v s x) : HasSize (-v) (-s) x := by
  rcases h with ⟨rfl, h⟩ | h
  · refine hasSize_of_zero ?_
    rw [unpack_neg, h]
    rfl
  · exact .inr h.neg

/-- A float is rounded to the nearest whole number and keeps its sign. -/
theorem HasSize.roundTo (h : HasSize v s x) (hq : IsHalfEven x q) :
    HasSize (Number.roundTo .nearestEven v) s q := by
  rcases h with ⟨rfl, hv⟩ | h
  · obtain rfl : q = 0 := hq.unique (by exact_mod_cast isHalfEven_self 0)
    rw [Number.roundTo, scaled?_of_zero hv]
    exact .inl ⟨Nat.cast_zero, hv⟩
  obtain ⟨m, e, hscaled, rfl, hc⟩ := h.exists_scaled?
  rw [Number.roundTo, hscaled]
  dsimp only
  split
  · next hwhole =>
    -- a whole number stays as it is
    obtain ⟨j, rfl⟩ := Int.eq_ofNat_of_zero_le hwhole
    have hvalue : (m * 2 ^ (j : Int) : ℚ) = (m * 2 ^ j : ℕ) := by
      push_cast
      rw [zpow_natCast]
    rw [hvalue] at h hq
    rw [hq.unique (isHalfEven_self _)]
    exact .inr h
  · next hfraction =>
    rw [(isHalfEven_roundMagnitude _ m e).unique hq]
    have hlt : q < 2 ^ 53 := by
      have hm : (m : ℚ) < 2 ^ 53 := by exact_mod_cast hc.lt
      have hunit : (2 : ℚ) ^ e ≤ 1 / 2 := by
        rw [one_div, ← zpow_neg_one]
        exact zpow_le_zpow_right₀ (by norm_num) (by omega)
      have hproduct := mul_le_mul_of_nonneg_left hunit (Nat.cast_nonneg m : (0 : ℚ) ≤ m)
      have hlt : (q : ℚ) < 2 ^ 53 := by linarith [hq.low]
      exact_mod_cast hlt
    cases s
    · exact (hasSize_ofNat hlt).neg
    · exact hasSize_ofNat hlt

/-- A float that is a whole number comes back as that. -/
theorem HasSize.toInt64? (h : HasSize v s n) : Number.toInt64? v = int64? (s.apply n) := by
  rw [Number.toInt64?, truncated?]
  rcases h with ⟨hn, hv⟩ | h
  · obtain rfl : n = 0 := by exact_mod_cast hn
    rw [scaled?_of_zero hv]
    cases s <;> rfl
  · obtain ⟨m, e, hscaled, hvalue, -⟩ := h.exists_scaled?
    have hmagnitude : Scaled.roundMagnitude ⟨s == .negative, m, e⟩ .towardZero = n := by
      rw [mul_zpow_eq_div, eq_div_iff (by rw [Nat.shiftLeft_eq]; positivity)] at hvalue
      have hvalue : n * 1 <<< (-e).toNat = m <<< e.toNat := by exact_mod_cast hvalue
      show m <<< e.toNat / 1 <<< (-e).toNat = n
      rw [← hvalue, Nat.mul_div_cancel _ (by rw [Nat.shiftLeft_eq]; positivity)]
    rw [hscaled, Option.map_some, Option.bind_some]
    dsimp only
    rw [hmagnitude]
    cases s <;> rfl

end Appraisal.Number
