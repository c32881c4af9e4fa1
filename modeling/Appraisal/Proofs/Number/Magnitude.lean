import Appraisal.Proofs.Number.Nearest
import Appraisal.Proofs.Number.Packing

/-!
# Magnitudes of floats

A finite float other than zero has a sign and a magnitude (`Number.HasMagnitude`). A product or a
quotient of two such floats has the product or quotient of the signs, and for its magnitude the
float nearest to that of the magnitudes (`Number.HasMagnitude.mul`, `Number.HasMagnitude.div`).
-/

namespace Appraisal.Number

open Float.Model (Format UnpackedFloat totalExponent)
open Float.Model.UnpackedFloat

variable {v w : Float} {s t : Sign} {x y z : ℚ} {m : Nat} {e : Int}

/-- A finite float other than zero, its sign and its magnitude. -/
def HasMagnitude (v : Float) (sign : Sign) (x : ℚ) : Prop :=
  ∃ mantissa exponent, ∃ h : 0 < mantissa,
    v.toModel.unpack = .finite sign mantissa exponent h ∧ x = mantissa * 2 ^ exponent

theorem HasMagnitude.pos (h : HasMagnitude v s x) : 0 < x := by
  obtain ⟨m, e, hpos, -, rfl⟩ := h
  have hm : (0 : ℚ) < m := by exact_mod_cast hpos
  positivity

/-- A magnitude of a float has no nearer float than itself. -/
theorem HasMagnitude.isNearest (h : HasMagnitude v s x) : IsNearest x x := by
  obtain ⟨m, e, hpos, hv, rfl⟩ := h
  exact ⟨m, e, (isCanonical_of_unpack hv).1, roundsTo_self m e, rfl⟩

/-- A whole exponent as the difference of two natural ones. -/
theorem zpow_mul_toNat {a : ℚ} (ha : a ≠ 0) (i : Int) : a ^ i * a ^ (-i).toNat = a ^ i.toNat := by
  rw [← zpow_natCast, ← zpow_natCast, ← zpow_add₀ ha]
  congr 1
  omega

/-- No float is as great as 2¹⁰²⁴. -/
theorem IsCanonical.exponent_le (hc : IsCanonical m e) (h : (m * 2 ^ e : ℚ) < 2 ^ (1024 : Int)) :
    e ≤ 971 := by
  by_contra hlt
  have hm : (2 ^ 52 : ℚ) ≤ m := by exact_mod_cast hc.normal.resolve_right (by omega)
  have hle : (2 ^ 52 * 2 ^ (972 : Int) : ℚ) ≤ m * 2 ^ e :=
    mul_le_mul hm (zpow_le_zpow_right₀ (by norm_num) (by omega)) (zpow_pos two_pos _).le
      (Nat.cast_nonneg m)
  rw [← zpow_natCast, ← zpow_add₀ two_ne_zero] at hle
  simp only [Nat.cast_ofNat, Int.reduceAdd] at hle
  exact absurd h (not_lt.2 hle)

theorem HasMagnitude.lt (h : HasMagnitude v s x) : x < 2 ^ (1024 : Int) := by
  obtain ⟨m, e, hpos, hv, rfl⟩ := h
  obtain ⟨hc, he⟩ := isCanonical_of_unpack hv
  have hm : (m : ℚ) < 2 ^ 53 := by exact_mod_cast hc.lt
  calc (m * 2 ^ e : ℚ) < 2 ^ 53 * 2 ^ e := mul_lt_mul_of_pos_right hm (by positivity)
    _ ≤ 2 ^ 53 * 2 ^ (971 : Int) :=
      mul_le_mul_of_nonneg_left (zpow_le_zpow_right₀ (by norm_num) he) (by positivity)
    _ = 2 ^ (1024 : Int) := by
      rw [← zpow_natCast, ← zpow_add₀ two_ne_zero]
      simp only [Nat.cast_ofNat, Int.reduceAdd]

/-- What is packed as a float is unpacked as one. -/
theorem hasMagnitude_of_pack (hc : IsCanonical m e) (hmax : (m * 2 ^ e : ℚ) < 2 ^ (1024 : Int))
    (hv : v.toModel.unpack = unpack Format.binary64
      (pack Format.binary64 (.finite s m e hc.pos))) : HasMagnitude v s (m * 2 ^ e) :=
  ⟨m, e, hc.pos, hv.trans (unpack_pack hc (hc.exponent_le hmax) s), rfl⟩

/-! ### Operations -/

theorem unpack_neg (v : Float) : (-v).toModel.unpack =
    unpack .binary64 (pack .binary64 v.toModel.unpack.neg) := rfl

theorem unpack_mul (x y : Float) : (x * y).toModel.unpack =
    unpack .binary64 (pack .binary64 (mul .binary64 x.toModel.unpack y.toModel.unpack)) := rfl

theorem unpack_div (x y : Float) : (x / y).toModel.unpack =
    unpack .binary64 (pack .binary64 (div .binary64 x.toModel.unpack y.toModel.unpack)) := rfl

theorem HasMagnitude.neg (h : HasMagnitude v s x) : HasMagnitude (-v) (-s) x := by
  have hlt := h.lt
  obtain ⟨m, e, hpos, hv, rfl⟩ := h
  refine hasMagnitude_of_pack (isCanonical_of_unpack hv).1 hlt ?_
  rw [unpack_neg, hv]
  rfl

theorem log2_shiftLeft {m : Nat} (hm : 0 < m) (n : Nat) : (m <<< n).log2 = m.log2 + n := by
  have hpos : m <<< n ≠ 0 := by
    rw [Nat.shiftLeft_eq]
    positivity
  rw [Nat.log2_eq_iff hpos, Nat.shiftLeft_eq, Nat.add_right_comm, pow_add, pow_add]
  exact ⟨Nat.mul_le_mul_right _ (Nat.log2_self_le hm.ne'),
    Nat.mul_lt_mul_of_pos_right Nat.lt_log2_self (by positivity)⟩

variable {mantissa : Nat} {exponent : Int}

/-- An exact number of enough bits becomes the nearest float. -/
theorem roundWithAccuracy_exact (h : RoundsTo (m * 2 ^ e) mantissa exponent)
    (hc : IsCanonical mantissa exponent) (hm : 52 ≤ m.log2 ∨ e ≤ -1074) (sign : Sign) :
    roundWithAccuracy .binary64 sign m e .exact = .finite sign mantissa exponent hc.pos := by
  refine roundWithAccuracy_eq h hc sign ?_ ?_
  · rw [mul_div_cancel_right₀ _ (zpow_ne_zero e (by norm_num))]
    exact approximates_exact m
  · rw [targetExponent_eq]
    omega

/-- A product is the float nearest to the exact product. -/
theorem mul_finite_eq {m₁ m₂ : Nat} {e₁ e₂ : Int} (h₁ : IsCanonical m₁ e₁)
    (h₂ : IsCanonical m₂ e₂) (h : RoundsTo (m₁ * 2 ^ e₁ * (m₂ * 2 ^ e₂)) mantissa exponent)
    (hc : IsCanonical mantissa exponent) : mul .binary64 (.finite s m₁ e₁ h₁.pos)
      (.finite t m₂ e₂ h₂.pos) = .finite (s * t) mantissa exponent hc.pos := by
  have hvalue : (m₁ * 2 ^ e₁ * (m₂ * 2 ^ e₂) : ℚ) = (m₁ * m₂ : ℕ) * 2 ^ (e₁ + e₂) := by
    rw [zpow_add₀ (by norm_num)]
    push_cast
    ring
  rw [hvalue] at h
  have hne : m₁ * m₂ ≠ 0 := (Nat.mul_pos h₁.pos h₂.pos).ne'
  refine roundWithAccuracy_exact h hc ?_ _
  rcases h₁.normal with hbits | rfl
  · exact .inl ((Nat.le_log2 hne).2 (hbits.trans (Nat.le_mul_of_pos_right _ h₂.pos)))
  rcases h₂.normal with hbits | rfl
  · exact .inl ((Nat.le_log2 hne).2 (hbits.trans (Nat.le_mul_of_pos_left _ h₁.pos)))
  · exact .inr (by decide)

theorem HasMagnitude.mul (hv : HasMagnitude v s x) (hw : HasMagnitude w t y)
    (h : IsNearest (x * y) z) (hz : z < 2 ^ (1024 : Int)) : HasMagnitude (v * w) (s * t) z := by
  obtain ⟨m₁, e₁, h₁, hv, rfl⟩ := hv
  obtain ⟨m₂, e₂, h₂, hw, rfl⟩ := hw
  obtain ⟨m, e, hc, h, rfl⟩ := h
  refine hasMagnitude_of_pack hc hz ?_
  rw [unpack_mul, hv, hw,
    mul_finite_eq (isCanonical_of_unpack hv).1 (isCanonical_of_unpack hw).1 h hc]

theorem HasMagnitude.div (hv : HasMagnitude v s x) (hw : HasMagnitude w t y)
    (h : IsNearest (x / y) z) (hz : z < 2 ^ (1024 : Int)) : HasMagnitude (v / w) (s / t) z := by
  obtain ⟨m₁, e₁, h₁, hv, rfl⟩ := hv
  obtain ⟨m₂, e₂, h₂, hw, rfl⟩ := hw
  obtain ⟨m, e, hc, h, rfl⟩ := h
  refine hasMagnitude_of_pack hc hz ?_
  rw [unpack_div, hv, hw, div_finite_eq h hc]

end Appraisal.Number
