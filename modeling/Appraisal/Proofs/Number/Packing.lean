import Appraisal.Proofs.Number.Rounding

/-!
# Packed floats

Mantissas and exponents as floats have them come back from the bits into which they are packed
(`Number.unpack_pack`), and a finite float unpacks into such a pair
(`Number.isCanonical_of_unpack`). Whatever is packed as a number is unpacked as one (`Number.isNaN_unpack_pack`).
-/

namespace Appraisal.Number

open Float.Model (Format UnpackedFloat)
open Float.Model.UnpackedFloat

variable {sign : Sign} {mantissa : Nat} {exponent : Int}

theorem unpackSign_packComponents (sign : Sign) (e : BitVec 11) (m : BitVec 52) :
    unpackSign (packComponents Format.binary64 sign e m) = sign.toBitVec := by
  show (sign.toBitVec ++ e ++ m).extractLsb' 63 1 = sign.toBitVec
  rw [BitVec.extractLsb'_append_eq_of_le (by decide),
    BitVec.extractLsb'_append_eq_of_le (by decide)]
  exact BitVec.extractLsb'_eq_self

theorem ofBitVec_toBitVec (sign : Sign) : Sign.ofBitVec sign.toBitVec = sign := by
  cases sign <;> rfl

/-- The leading bit of a normal mantissa, which is not stored. -/
theorem toNat_leading (m : BitVec 52) : (1#1 ++ m).toNat = 2 ^ 52 + m.toNat := by
  rw [BitVec.toNat_append, ← Nat.shiftLeft_add_eq_or_of_lt m.isLt]
  rfl

theorem unpack_packComponents (sign : Sign) {e : BitVec 11} (m : BitVec 52) (he : e ≠ -1#11) :
    unpack Format.binary64 (packComponents Format.binary64 sign e m) =
      if e = 0#11 then
        if h : m = 0#52 then .zero sign
        else
          .finite sign m.toNat (-1074) (Nat.pos_of_ne_zero fun h0 => h (BitVec.eq_of_toNat_eq h0))
      else .finite sign (2 ^ 52 + m.toNat) (e.toNat - 1075) (by positivity) := by
  rw [unpack]
  simp only [unpackExponent_packComponents, unpackMantissa_packComponents,
    unpackSign_packComponents, ofBitVec_toBitVec, if_neg he, toNat_leading]
  split
  · next hzero =>
    subst hzero
    split <;> rfl
  · rfl

/-- A mantissa of 53 bits is packed without the leading one, beside its exponent. -/
theorem pack_normal {biased : Nat} (h : 0 < mantissa) (hbit : 2 ^ 52 ≤ mantissa)
    (hlt : mantissa < 2 ^ 53) (hbiased : exponent + 1075 = biased) (hmax : biased < 2047)
    (sign : Sign) : pack Format.binary64 (.finite sign mantissa exponent h) =
      packComponents Format.binary64 sign (BitVec.ofNat 11 biased) (BitVec.ofNat 52 mantissa) := by
  have hfield : (exponent + Format.binary64.exponentBias +
      Format.binary64.mantissaBitsWithoutImplicit).toNat = biased := by
    show (exponent + 1023 + 52).toNat = biased
    omega
  have hsmall : ¬ 2 ^ Format.binary64.exponentBits ≤ biased + 1 := by
    show ¬ 2 ^ 11 ≤ biased + 1
    omega
  have hlog : mantissa.log2 + 1 = Format.binary64.mantissaBits := by
    rw [(Nat.log2_eq_iff h.ne').2 ⟨hbit, hlt⟩]
    rfl
  rw [pack]
  dsimp only
  rw [hfield, if_neg hsmall, if_pos hlog]

/-- A smaller mantissa is packed beside a zero. -/
theorem pack_subnormal (h : 0 < mantissa) (hbit : mantissa < 2 ^ 52) (sign : Sign) :
    pack Format.binary64 (.finite sign mantissa (-1074) h) =
      packComponents Format.binary64 sign 0#11 (BitVec.ofNat 52 mantissa) := by
  have hsmall : ¬ 2 ^ Format.binary64.exponentBits ≤ ((-1074 : Int) +
      Format.binary64.exponentBias + Format.binary64.mantissaBitsWithoutImplicit).toNat + 1 := by
    decide
  have hlog : ¬ mantissa.log2 + 1 = Format.binary64.mantissaBits := by
    have := (Nat.log2_lt h.ne').2 hbit
    show ¬ mantissa.log2 + 1 = 53
    omega
  rw [pack]
  dsimp only
  rw [if_neg hsmall, if_neg hlog]

/-- A mantissa and an exponent that floats have come back from the bits. -/
theorem unpack_pack (hc : IsCanonical mantissa exponent) (hmax : exponent ≤ 971) (sign : Sign) :
    unpack Format.binary64 (pack Format.binary64 (.finite sign mantissa exponent hc.pos)) =
      .finite sign mantissa exponent hc.pos := by
  obtain ⟨hpos, hlt, hmin, hnormal⟩ := hc
  by_cases hbit : 2 ^ 52 ≤ mantissa
  · obtain ⟨biased, hbiased⟩ := Int.eq_ofNat_of_zero_le (by omega : 0 ≤ exponent + 1075)
    have htoNat : (BitVec.ofNat 11 biased).toNat = biased := by
      rw [BitVec.toNat_ofNat, Nat.mod_eq_of_lt (by omega)]
    have hzero : BitVec.ofNat 11 biased ≠ 0#11 := fun h => by
      have := congrArg BitVec.toNat h
      rw [htoNat, BitVec.toNat_zero] at this
      omega
    have hones : BitVec.ofNat 11 biased ≠ -1#11 := fun h => by
      have := congrArg BitVec.toNat h
      rw [htoNat] at this
      change biased = 2047 at this
      omega
    have hm : 2 ^ 52 + (BitVec.ofNat 52 mantissa).toNat = mantissa := by
      rw [BitVec.toNat_ofNat]
      omega
    rw [pack_normal hpos hbit hlt hbiased (by omega), unpack_packComponents sign _ hones,
      if_neg hzero]
    simp only [hm, htoNat, ← hbiased]
    congr 1
    omega
  · have hm : (BitVec.ofNat 52 mantissa).toNat = mantissa := by
      rw [BitVec.toNat_ofNat, Nat.mod_eq_of_lt (Nat.not_le.1 hbit)]
    have hzero : ¬ BitVec.ofNat 52 mantissa = 0#52 := fun h => by
      have := congrArg BitVec.toNat h
      rw [hm, BitVec.toNat_zero] at this
      omega
    obtain rfl : exponent = -1074 := hnormal.resolve_left hbit
    rw [pack_subnormal hpos (Nat.not_le.1 hbit), unpack_packComponents sign _ (by decide),
      if_pos rfl, dif_neg hzero]
    simp only [hm]

/-- What is packed as a number is unpacked as one. -/
theorem isNaN_unpack_pack {f : UnpackedFloat} (h : f.isNaN = false) :
    (unpack Format.binary64 (pack Format.binary64 f)).isNaN = false := by
  have hcomponents (sign : Sign) (e : BitVec 11) (m : BitVec 52) (he : e = -1#11 → m = 0#52) :
      (unpack Format.binary64 (packComponents Format.binary64 sign e m)).isNaN = false := by
    simp only [unpack, unpackExponent_packComponents, unpackMantissa_packComponents]
    by_cases hones : e = -1#11
    · simp only [hones, he hones, if_true]
      rfl
    · rw [if_neg hones]
      split
      · split <;> rfl
      · rfl
  cases f with
  | notANumber => cases h
  | infinity sign => exact hcomponents sign _ _ fun _ => rfl
  | zero sign => exact hcomponents sign _ _ fun _ => rfl
  | finite sign m e hm =>
    rw [pack]
    dsimp only
    split
    · exact hcomponents sign _ _ fun _ => rfl
    next hsmall =>
    split
    · refine hcomponents sign _ _ fun hones => absurd (congrArg BitVec.toNat hones) ?_
      rw [BitVec.toNat_ofNat]
      have hlt := Nat.not_le.1 hsmall
      rw [Nat.mod_eq_of_lt (Nat.lt_of_succ_lt hlt)]
      show _ ≠ 2047
      have : 2 ^ 11 = 2048 := rfl
      omega
    · exact hcomponents sign _ _ fun hones => absurd hones (by decide)

theorem ofModel_pack_unpack (v : Float) : Float.ofModel (.pack v.toModel.unpack) = v :=
  Float.ofBits_toBits v

/-- The mantissa and the exponent of a finite float. -/
theorem isCanonical_of_unpack {v : Float} {h : 0 < mantissa}
    (hv : v.toModel.unpack = .finite sign mantissa exponent h) :
    IsCanonical mantissa exponent ∧ exponent ≤ 971 := by
  have hbits (b : BitVec Format.binary64.numBits)
      (hb : unpack Format.binary64 b = .finite sign mantissa exponent h) :
      IsCanonical mantissa exponent ∧ exponent ≤ 971 := by
    rw [unpack] at hb
    have hm : (unpackMantissa b).toNat < 2 ^ 52 := (unpackMantissa b).isLt
    dsimp only at hb
    split at hb
    · split at hb <;> cases hb
    next hones =>
    split at hb
    · next hzero =>
      split at hb
      · cases hb
      · cases hb
        rw [hzero]
        exact ⟨⟨h, by omega, by decide, .inr rfl⟩, by decide⟩
    · next hzero =>
      cases hb
      have he : (unpackExponent b).toNat < 2 ^ 11 := (unpackExponent b).isLt
      have hlow : (unpackExponent b).toNat ≠ 0 := fun h0 => hzero (BitVec.eq_of_toNat_eq h0)
      have hhigh : (unpackExponent b).toNat ≠ 2047 := fun h1 => hones (BitVec.eq_of_toNat_eq h1)
      have hleading := toNat_leading (unpackMantissa b)
      change IsCanonical _ (((unpackExponent b).toNat : Int) - (1023 + 52)) ∧
        ((unpackExponent b).toNat : Int) - (1023 + 52) ≤ 971
      refine ⟨⟨h, ?_, by omega, .inl ?_⟩, by omega⟩
      · rw [hleading]
        omega
      · rw [hleading]
        omega
  exact hbits _ hv

end Appraisal.Number
