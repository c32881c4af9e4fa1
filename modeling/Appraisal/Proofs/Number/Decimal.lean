import Appraisal.Number.Reading
import Appraisal.Proofs.Number.Natural

/-!
# Decimals as floats

A decimal that lies around a float is read as that float (`Number.ofScientific_eq`). Short decimals
are read by one exact division of two floats, since the first powers of ten are floats themselves
(`Number.hasMagnitude_power`); the others are divided as whole numbers and rounded once. Whatever
its digits are, a decimal is read as a float without a sign (`Number.unsigned_ofDecimal`).
-/

namespace Appraisal.Number

open Float.Model (Format UnpackedFloat)
open Float.Model.UnpackedFloat

theorem div_eq_pack (x y : Float) :
    x / y = .ofModel (.pack (div .binary64 x.toModel.unpack y.toModel.unpack)) := rfl

theorem unpack_of_scaled? {v : Float} {s : Scaled} (h : scaled? v = some s)
    (hs : 0 < s.mantissa) : v.toModel.unpack =
      .finite (if s.negative then .negative else .positive) s.mantissa s.exponent hs := by
  rw [scaled?] at h
  split at h
  · cases h
  · cases h
  · cases h
    exact absurd hs (Nat.lt_irrefl 0)
  · next sign _ _ _ hv =>
    cases h
    rw [hv]
    cases sign <;> rfl

/-- The powers of ten in the table are floats of that value. -/
theorem scaled?_powers : ∀ n : Fin Float.exactlyRepresentablePowersOfTen.size,
    (scaled? Float.exactlyRepresentablePowersOfTen[n]).any (fun s =>
      !s.negative && s.mantissa != 0 &&
        s.mantissa * 2 ^ s.exponent.toNat == 10 ^ n.val * 2 ^ (-s.exponent).toNat) = true := by
  decide +kernel

theorem hasMagnitude_power {n : Nat} (hn : n < Float.exactlyRepresentablePowersOfTen.size) :
    HasMagnitude Float.exactlyRepresentablePowersOfTen[n] .positive (10 ^ n) := by
  obtain ⟨s, hs, hvalue⟩ := (Option.any_eq_true _ _).1 (scaled?_powers ⟨n, hn⟩)
  simp only [Bool.and_eq_true, Bool.not_eq_true', bne_iff_ne, beq_iff_eq] at hvalue
  obtain ⟨⟨hnegative, hne⟩, hvalue⟩ := hvalue
  refine ⟨s.mantissa, s.exponent, Nat.pos_of_ne_zero hne, ?_, ?_⟩
  · have hunpack := unpack_of_scaled? hs (Nat.pos_of_ne_zero hne)
    rw [hnegative] at hunpack
    exact hunpack
  · have htwo : (2 : ℚ) ≠ 0 := by norm_num
    have hcast : (s.mantissa * 2 ^ s.exponent.toNat : ℚ) = 10 ^ n * 2 ^ (-s.exponent).toNat := by
      exact_mod_cast hvalue
    rw [← zpow_mul_toNat htwo, ← mul_assoc] at hcast
    exact (mul_right_cancel₀ (pow_ne_zero _ htwo) hcast).symm

variable {digits places mantissa : Nat} {exponent : Int}

/-- No decimal around a float is so small that it is taken for zero without a division. -/
theorem RoundsTo.places_le (h : RoundsTo (digits / 10 ^ places) mantissa exponent)
    (hc : IsCanonical mantissa exponent) : (places : Int) ≤ 2048 + digits.log2 := by
  by_contra hlong
  have hm : (1 : ℚ) ≤ mantissa := by exact_mod_cast hc.pos
  have hlow : (2 : ℚ) ^ (-1075 : Int) ≤ digits / 10 ^ places := by
    calc (2 : ℚ) ^ (-1075 : Int)
      _ = 1 / 2 * 2 ^ (-1074 : Int) := by
        rw [show (-1075 : Int) = -1 + -1074 from rfl, zpow_add₀ (by norm_num)]
        norm_num
      _ ≤ (mantissa - 1 / 2) * 2 ^ exponent := by
        refine mul_le_mul (by linarith) ?_ (by positivity) (by linarith)
        exact zpow_le_zpow_right₀ (by norm_num) hc.min_le
      _ ≤ digits / 10 ^ places := h.half_below
  have hhigh : (digits : ℚ) < 2 ^ (digits.log2 + 1) := by exact_mod_cast Nat.lt_log2_self
  have hten : (2 : ℚ) ^ places ≤ 10 ^ places := pow_le_pow_left₀ (by norm_num) (by norm_num) _
  have hless : (digits / 10 ^ places : ℚ) < 2 ^ (digits.log2 + 1) / 2 ^ places :=
    div_lt_div₀ hhigh hten (by positivity) (by positivity)
  have hsmall : (2 ^ (digits.log2 + 1) / 2 ^ places : ℚ) ≤ 2 ^ (-1075 : Int) := by
    rw [← zpow_natCast, ← zpow_natCast, ← zpow_sub₀ (by norm_num)]
    exact zpow_le_zpow_right₀ (by norm_num) (by push_cast; omega)
  linarith

theorem RoundsTo.digits_pos (h : RoundsTo (digits / 10 ^ places) mantissa exponent)
    (hc : IsCanonical mantissa exponent) : 0 < digits := by
  have hpos := h.pos hc
  rw [div_pos_iff_of_pos_right (by positivity)] at hpos
  exact_mod_cast hpos

theorem divide_eq (h : RoundsTo (digits / 10 ^ places) mantissa exponent)
    (hc : IsCanonical mantissa exponent) (hplaces : 0 < places) :
    ofScientific .binary64 digits (-places) = .finite .positive mantissa exponent hc.pos := by
  have hdigits := h.digits_pos hc
  have hle := h.places_le hc
  have hvalue : (digits / 10 ^ places : ℚ) =
      digits * 2 ^ (0 : Int) / ((10 ^ places : ℕ) * 2 ^ (0 : Int)) := by
    simp
  rw [hvalue] at h
  have hbits : Format.binary64.exponentBits = 11 := rfl
  rw [ofScientific, dif_neg hdigits.ne', hbits, if_neg (by omega), if_neg (by omega),
    if_neg (by omega)]
  have hnat : (-(-(places : Int))).toNat = places := by omega
  simp only [hnat]
  exact div_finite_eq h hc

/-- A decimal with places after its point is read as the nearest float. -/
theorem ofScientific_eq (h : RoundsTo (digits / 10 ^ places) mantissa exponent)
    (hc : IsCanonical mantissa exponent) (hplaces : 0 < places) :
    Float.ofScientific digits true places =
      .ofModel (.pack (.finite .positive mantissa exponent hc.pos)) := by
  rw [Float.ofScientific]
  split
  · next hshort =>
    have hsize : places < Float.exactlyRepresentablePowersOfTen.size :=
      Nat.lt_succ_of_le hshort.2
    obtain ⟨m₁, e₁, h₁, hword, hvalue₁⟩ := hasMagnitude_word (h.digits_pos hc) hshort.1
    obtain ⟨m₂, e₂, h₂, hpower, hvalue₂⟩ := hasMagnitude_power hsize
    rw [hvalue₁, hvalue₂] at h
    rw [if_pos rfl, div_eq_pack, hword, hpower, div_finite_eq h hc]
    rfl
  · rw [← divide_eq h hc hplaces, if_pos rfl, Int.negOfNat_eq]
    rfl

/-! ### Signs -/

/-- A number without a sign. -/
def Unsigned : UnpackedFloat → Prop
  | .notANumber => False
  | .infinity sign | .zero sign | .finite sign _ _ _ => sign = .positive

theorem isNaN_of_unsigned {f : UnpackedFloat} (h : Unsigned f) : f.isNaN = false := by
  cases f with
  | notANumber => exact h.elim
  | _ => rfl

theorem unsigned_of_packComponents {e : BitVec 11} {m : BitVec 52}
    (h : (unpack Format.binary64 (packComponents Format.binary64 .positive e m)).isNaN = false) :
    Unsigned (unpack Format.binary64 (packComponents Format.binary64 .positive e m)) := by
  simp only [unpack, unpackExponent_packComponents, unpackMantissa_packComponents,
    unpackSign_packComponents, ofBitVec_toBitVec] at h ⊢
  split
  · next hones =>
    rw [if_pos hones] at h
    split
    · rfl
    · next hm =>
      rw [if_neg hm] at h
      cases h
  · split
    · split <;> rfl
    · rfl

theorem exists_pack_eq {f : UnpackedFloat} (h : Unsigned f) :
    ∃ e m, pack Format.binary64 f = packComponents Format.binary64 .positive e m := by
  cases f with
  | notANumber => exact h.elim
  | infinity sign =>
    cases h
    exact ⟨_, _, rfl⟩
  | zero sign =>
    cases h
    exact ⟨_, _, rfl⟩
  | finite sign m e hm =>
    cases h
    rw [pack]
    dsimp only
    split
    · exact ⟨_, _, rfl⟩
    split
    · exact ⟨_, _, rfl⟩
    · exact ⟨_, _, rfl⟩

theorem unsigned_unpack_pack {f : UnpackedFloat} (h : Unsigned f) :
    Unsigned (unpack Format.binary64 (pack Format.binary64 f)) := by
  obtain ⟨e, m, hpack⟩ := exists_pack_eq h
  have hnumber := isNaN_unpack_pack (isNaN_of_unsigned h)
  rw [hpack] at hnumber ⊢
  exact unsigned_of_packComponents hnumber

theorem unsigned_roundWithAccuracy (m : Nat) (e : Int) (accuracy : Accuracy) :
    Unsigned (roundWithAccuracy Format.binary64 .positive m e accuracy) := by
  rw [roundWithAccuracy]
  dsimp only
  split <;> rfl

theorem unsigned_mul {f : UnpackedFloat} (h : Unsigned f) (m : Nat) (e : Int) (hm : 0 < m) :
    Unsigned (mul Format.binary64 f (.finite .positive m e hm)) := by
  cases f with
  | notANumber => exact h
  | finite =>
    cases h
    exact unsigned_roundWithAccuracy _ _ _
  | _ =>
    cases h
    rfl

theorem unsigned_div {f : UnpackedFloat} (h : Unsigned f) (m : Nat) (e : Int) (hm : 0 < m) :
    Unsigned (div Format.binary64 f (.finite .positive m e hm)) := by
  cases f with
  | notANumber => exact h
  | finite =>
    cases h
    exact unsigned_roundWithAccuracy _ _ _
  | _ =>
    cases h
    rfl

theorem unsigned_word (n : Nat) : Unsigned n.toUInt64.toFloat.toModel.unpack := by
  refine unsigned_unpack_pack
    (f := UnpackedFloat.normalize .binary64 (n.toUInt64.toNat : Int) 0 .positive) ?_
  unfold UnpackedFloat.normalize
  split
  · next hlt => exact absurd (Int.compare_eq_lt.1 hlt) (Int.not_lt.2 (Int.natCast_nonneg _))
  · rfl
  · exact unsigned_roundWithAccuracy _ _ _

theorem unsigned_ofScientific (digits : Nat) (exponent : Int) :
    Unsigned (ofScientific .binary64 digits exponent) := by
  rw [ofScientific]
  split
  · rfl
  split
  · rfl
  split
  · rfl
  split
  · refine unsigned_mul ?_ _ _ _
    rfl
  · refine unsigned_div ?_ _ _ _
    rfl

/-- The float of a decimal without a sign has none. -/
theorem unsigned_ofDecimal (digits : Nat) (exponent : Int) :
    Unsigned (ofDecimal digits exponent).toModel.unpack := by
  have hscientific (negative : Bool) (places : Nat) :
      Unsigned (Float.ofScientific digits negative places).toModel.unpack := by
    rw [Float.ofScientific]
    split
    · next hshort =>
      have hsize : places < Float.exactlyRepresentablePowersOfTen.size :=
        Nat.lt_succ_of_le hshort.2
      obtain ⟨m, e, hm, hpower, -⟩ := hasMagnitude_power hsize
      split
      · rw [unpack_div, hpower]
        exact unsigned_unpack_pack (unsigned_div (unsigned_word digits) m e hm)
      · rw [unpack_mul, hpower]
        exact unsigned_unpack_pack (unsigned_mul (unsigned_word digits) m e hm)
    · exact unsigned_unpack_pack (unsigned_ofScientific digits _)
  rw [ofDecimal]
  split
  · exact hscientific false _
  · exact hscientific true _

end Appraisal.Number
