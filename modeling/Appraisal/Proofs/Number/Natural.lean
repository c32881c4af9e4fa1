import Appraisal.Proofs.Number.Integer
import Appraisal.Proofs.Number.Magnitude

/-!
# Whole numbers as floats

A natural number of at most 53 bits is a float (`Number.hasMagnitude_word`), and a greater one goes
to the nearest float (`Number.hasMagnitude_ofNat`). So the float of a whole number other than zero
has the sign of the number and the magnitude nearest to its own (`Number.hasMagnitude_toFloat`), and
it is zero only for zero (`Number.toFloat_beq_zero`).
-/

namespace Appraisal.Number

open Float.Model (Format UnpackedFloat totalExponent)
open Float.Model.UnpackedFloat

variable {v : Float} {s : Sign} {n : Nat} {x : ℚ}

/-- The product of a whole number and a power of two becomes the nearest float. -/
theorem round_eq {m mantissa : Nat} {e exponent : Int} (hm : 0 < m)
    (h : RoundsTo (m * 2 ^ e) mantissa exponent) (hc : IsCanonical mantissa exponent)
    (sign : Sign) : round .binary64 sign m e = .finite sign mantissa exponent hc.pos := by
  rw [Float.Model.UnpackedFloat.round, targetExponent_eq, decreaseExponent]
  generalize hshift : (e - max (m.log2 + e - 52) (-1074) : Int).toNat = shift
  have hvalue : (m * 2 ^ e : ℚ) = (m <<< shift : ℕ) * 2 ^ (e - shift : Int) := by
    rw [Nat.shiftLeft_eq, zpow_sub₀ (by norm_num), zpow_natCast]
    push_cast
    field_simp
  rw [hvalue] at h
  refine roundWithAccuracy_exact h hc ?_ sign
  rw [log2_shiftLeft hm]
  omega

/-- A word of at most 53 bits is a float. -/
theorem hasMagnitude_word (hn : 0 < n) (hlt : n < 2 ^ 53) :
    HasMagnitude n.toUInt64.toFloat .positive n := by
  obtain ⟨m, e, hc, h, hvalue⟩ := isNearest_natCast hn hlt
  have hword : n.toUInt64.toNat = n := by
    rw [Nat.toUInt64_eq, UInt64.toNat_ofNat', Nat.mod_eq_of_lt (by omega)]
  have hmax : (n : ℚ) < 2 ^ (1024 : Int) :=
    lt_of_lt_of_le (by exact_mod_cast hlt : (n : ℚ) < 2 ^ (53 : Int))
      (zpow_le_zpow_right₀ (by norm_num) (by norm_num))
  rw [hvalue] at hmax ⊢
  refine hasMagnitude_of_pack hc hmax ?_
  show unpack Format.binary64 (pack Format.binary64
    (normalize .binary64 (n.toUInt64.toNat : Int) 0 .positive)) = _
  rw [hword, Float.Model.UnpackedFloat.normalize, Int.compare_eq_gt.2 (by omega)]
  dsimp only
  rw [Int.toNat_natCast, round_eq hn (by rwa [zpow_zero, mul_one]) hc]

theorem hasMagnitude_one : HasMagnitude 1.0 .positive 1 :=
  ⟨2 ^ 52, -52, by norm_num, rfl, by norm_num⟩

/-- A positive number of 64 bits becomes the nearest float. -/
theorem hasMagnitude_ofNat (hn : 0 < n) (hlt : n < 2 ^ 64) (h : IsNearest n x) :
    HasMagnitude (Float.ofNat n) .positive x := by
  have hmax : x < 2 ^ (1024 : Int) := by
    have hle : (n : ℚ) ≤ 2 ^ (64 : Int) := by exact_mod_cast hlt.le
    exact (h.le_two_zpow hle (by norm_num)).trans_lt
      (zpow_lt_zpow_right₀ (by norm_num) (by norm_num))
  change HasMagnitude (Float.ofScientific n false 0) .positive x
  rw [Float.ofScientific]
  split
  · next hsmall =>
    -- the number is a float, and it is multiplied by one
    rw [if_neg Bool.false_ne_true]
    exact (hasMagnitude_word hn hsmall.1).mul hasMagnitude_one (by rwa [mul_one]) hmax
  · next hlarge =>
    obtain ⟨m, e, hc, h, rfl⟩ := h
    have hlog : 53 ≤ n.log2 ∧ n.log2 < 64 :=
      ⟨(Nat.le_log2 hn.ne').2 (by omega), (Nat.log2_lt hn.ne').2 hlt⟩
    refine hasMagnitude_of_pack hc hmax ?_
    change unpack Format.binary64 (pack Format.binary64 (ofScientific .binary64 n 0)) = _
    have hfits : (0 : Int) < 2 ^ Format.binary64.exponentBits := by positivity
    rw [ofScientific, dif_neg hn.ne', if_neg (by decide), if_neg (by omega), if_pos le_rfl, mul]
    change unpack Format.binary64 (pack Format.binary64
      (roundWithAccuracy .binary64 .positive (n <<< 53 * 1) (-53 + 0) .exact)) = _
    have hshift : (n : ℚ) = (n <<< 53 : ℕ) * 2 ^ (-53 : Int) := by
      rw [Nat.shiftLeft_eq]
      push_cast
      rw [zpow_neg, mul_assoc]
      norm_num
    rw [hshift] at h
    rw [mul_one, add_zero, roundWithAccuracy_exact h hc]
    rw [log2_shiftLeft hn]
    omega

/-- The sign of a whole number other than zero. -/
def signOf (i : Int) : Sign := if i < 0 then .negative else .positive

/-- The float of a whole number has its sign and the magnitude nearest to its own. -/
theorem hasMagnitude_toFloat {i : Int64} (hi : i ≠ 0) (h : IsNearest (i.toInt.natAbs : ℕ) x) :
    HasMagnitude (toFloat i) (signOf i.toInt) x := by
  have hne := toInt_ne_zero hi
  have hlow := i.le_toInt
  have hhigh := i.toInt_lt
  rw [toFloat]
  cases hvalue : i.toInt with
  | ofNat n =>
    rw [hvalue] at h hne hhigh
    rw [Int.ofNat_eq_natCast] at hne hhigh ⊢
    rw [signOf, if_neg (Int.not_lt.2 (Int.natCast_nonneg n))]
    exact hasMagnitude_ofNat (by omega) (by omega) h
  | negSucc n =>
    rw [hvalue] at h hlow
    rw [signOf, if_pos (Int.negSucc_lt_zero n)]
    exact (hasMagnitude_ofNat (n + 1).pos_of_neZero (by omega) h).neg

/-- A whole number has a nearest float. -/
theorem exists_hasMagnitude_toFloat {i : Int64} (hi : i ≠ 0) :
    ∃ x, IsNearest (i.toInt.natAbs : ℕ) x ∧ HasMagnitude (toFloat i) (signOf i.toInt) x := by
  have hpos : (1 : ℚ) ≤ (i.toInt.natAbs : ℕ) := by
    exact_mod_cast Int.natAbs_pos.2 (toInt_ne_zero hi)
  obtain ⟨x, h⟩ := exists_isNearest_of_one_le hpos
  exact ⟨x, h, hasMagnitude_toFloat hi h⟩

/-! ### Zero and other numbers -/

theorem HasMagnitude.isNaN_eq_false (h : HasMagnitude v s x) : v.isNaN = false := by
  obtain ⟨m, e, hm, hv, -⟩ := h
  show v.toModel.unpack.isNaN = false
  rw [hv]
  rfl

/-- The float of a whole number is a number. -/
theorem isNaN_toFloat (i : Int64) : (toFloat i).isNaN = false := by
  by_cases hi : i = 0
  · subst hi
    decide +kernel
  · obtain ⟨x, -, h⟩ := exists_hasMagnitude_toFloat hi
    exact h.isNaN_eq_false

theorem HasMagnitude.beq_zero (h : HasMagnitude v s x) : (v == 0.0) = false := by
  obtain ⟨m, e, hm, hv, -⟩ := h
  show (v.toModel.unpack.compare (.zero .positive) == some .eq) = false
  rw [hv]
  cases s <;> rfl

/-- The opposite of a float is zero only if the float is. -/
theorem neg_beq_zero (v : Float) : (-v == 0.0) = (v == 0.0) := by
  cases hv : v.toModel.unpack with
  | finite sign m e h =>
    have hfinite : HasMagnitude v sign (m * 2 ^ e) := ⟨m, e, h, hv, rfl⟩
    rw [hfinite.neg.beq_zero, hfinite.beq_zero]
  | _ =>
    show ((unpack Format.binary64 (pack Format.binary64 v.toModel.unpack.neg)).compare
      (.zero .positive) == some .eq) = (v.toModel.unpack.compare (.zero .positive) == some .eq)
    rw [hv]
    first | rfl | (rename_i sign; cases sign <;> rfl)

/-- The float of a whole number is zero only if the number is. -/
theorem toFloat_beq_zero (i : Int64) : (toFloat i == 0.0) = (i == 0) := by
  by_cases hi : i = 0
  · subst hi
    decide +kernel
  · obtain ⟨x, -, h⟩ := exists_hasMagnitude_toFloat hi
    rw [h.beq_zero, beq_eq_false_iff_ne.2 hi]

end Appraisal.Number
