import Appraisal.Number.Layout
import Appraisal.Proofs.Number.Shortest

/-!
# Floats read back from their text

The text of a float in a formula is a run of digits with a point in it, and its value rounds to the
float (`Number.Spells`, `Number.spells_fixedPoint`). A whole float has all its digits in front of
the point; any other has those of its shortest decimal, which reach below the point
(`Number.shortest_exponent_neg`).
-/

namespace Appraisal.Number

open Float.Model (UnpackedFloat)
open Float.Model.UnpackedFloat

/-! ### Runs of digits -/

theorem digitsValue_eq (digits : List Char) :
    digitsValue digits = Nat.ofDigitChars 10 digits 0 := rfl

theorem digitsValue_toDigits (n : Nat) : digitsValue (Nat.toDigits 10 n) = n :=
  Nat.ofDigitChars_ten_toDigits

theorem isDigit_toDigits (n : Nat) : ∀ c ∈ Nat.toDigits 10 n, c.isDigit = true := by
  intro c hc
  exact Nat.isDigit_of_mem_toDigits (by decide) (by decide) hc

/-- Zeros in front of a number do not count. -/
theorem digitsValue_zeros (n : Nat) (digits : List Char) :
    digitsValue (List.replicate n '0' ++ digits) = digitsValue digits := by
  rw [digitsValue_eq, Nat.ofDigitChars_append, Nat.ofDigitChars_replicate_zero, Nat.mul_zero]
  rfl

/-- A zero behind a number multiplies it by ten. -/
theorem digitsValue_zero (digits : List Char) :
    digitsValue (digits ++ ['0']) = 10 * digitsValue digits := by
  rw [digitsValue_eq, Nat.ofDigitChars_append]
  rfl

/-- A number with places below the point is written with a point in front of them. -/
theorem exists_inPlaces (suffix : String) {digits : List Char} {shift : Int}
    (hshift : shift < 0) (hdigits : ∀ c ∈ digits, c.isDigit = true) : ∃ whole fraction,
      (inPlaces suffix digits shift).toList = whole ++ '.' :: fraction ∧ whole ≠ [] ∧
      (∀ c ∈ whole ++ fraction, c.isDigit = true) ∧ (fraction.length : Int) = -shift ∧
      digitsValue (whole ++ fraction) = digitsValue digits := by
  rw [inPlaces]
  dsimp only
  rw [if_neg (Int.not_le.2 hshift)]
  split
  · next hlt =>
    refine ⟨digits.take (digits.length - (-shift).toNat),
      digits.drop (digits.length - (-shift).toNat), String.toList_ofList, ?_, ?_, ?_, ?_⟩
    · rw [← List.length_pos_iff, List.length_take]
      omega
    · rwa [List.take_append_drop]
    · rw [List.length_drop]
      omega
    · rw [List.take_append_drop]
  · next hle =>
    refine ⟨['0'], List.replicate ((-shift).toNat - digits.length) '0' ++ digits,
      String.toList_ofList, by simp, ?_, ?_, ?_⟩
    · intro c hc
      simp only [List.cons_append, List.nil_append, List.mem_cons, List.mem_append,
        List.mem_replicate] at hc
      rcases hc with rfl | ⟨-, rfl⟩ | hc
      · rfl
      · rfl
      · exact hdigits c hc
    · rw [List.length_append, List.length_replicate]
      omega
    · exact digitsValue_zeros ((-shift).toNat - digits.length + 1) digits

/-! ### Whole floats -/

variable {v : Float} {mantissa : Nat} {exponent : Int}

theorem isWhole_iff (h : scaled? v = some ⟨false, mantissa, exponent⟩) :
    isWhole v = true ↔ 0 ≤ exponent ∨ mantissa % 2 ^ (-exponent).toNat = 0 := by
  simp [isWhole, h, Nat.shiftLeft_eq]

/-- The integer part of a whole number is the number. -/
theorem roundMagnitude_eq (negative : Bool)
    (hwhole : 0 ≤ exponent ∨ mantissa % 2 ^ (-exponent).toNat = 0) :
    ((Scaled.roundMagnitude ⟨negative, mantissa, exponent⟩ .towardZero : ℕ) : ℚ) =
      mantissa * 2 ^ exponent := by
  have htwo : (2 : ℚ) ≠ 0 := by norm_num
  have hunit : (2 : ℚ) ^ (-exponent).toNat ≠ 0 := pow_ne_zero _ htwo
  have hdvd : 2 ^ (-exponent).toNat ∣ mantissa * 2 ^ exponent.toNat := by
    rcases hwhole with hwhole | hwhole
    · rw [show (-exponent).toNat = 0 by omega, pow_zero]
      exact one_dvd _
    · exact Dvd.dvd.mul_right (Nat.dvd_of_mod_eq_zero hwhole) _
  have hquotient : Scaled.roundMagnitude ⟨negative, mantissa, exponent⟩ .towardZero =
      mantissa * 2 ^ exponent.toNat / 2 ^ (-exponent).toNat := by
    simp [Scaled.roundMagnitude, Direction.carries, Nat.shiftLeft_eq]
  rw [hquotient, Nat.cast_div hdvd (by exact_mod_cast hunit), div_eq_iff (by exact_mod_cast hunit)]
  push_cast
  rw [mul_assoc, zpow_mul_toNat htwo]

/-- A float that a whole number rounds to is that number, unless it is too large for fractions. -/
theorem RoundsTo.eq_of_nat {n : Nat} (h : RoundsTo n mantissa exponent) (he : exponent ≤ 0) :
    mantissa = n * 2 ^ (-exponent).toNat := by
  obtain ⟨places, rfl⟩ := Int.exists_eq_neg_ofNat he
  have hunit : (0 : ℚ) < 2 ^ places := by positivity
  have hlow := h.half_below
  have hhigh := h.high
  rw [zpow_neg, zpow_natCast, ← div_eq_mul_inv, div_le_iff₀ hunit] at hlow
  rw [zpow_neg, zpow_natCast, ← div_eq_mul_inv, le_div_iff₀ hunit] at hhigh
  have hbelow : ((mantissa : ℕ) : ℚ) < (n * 2 ^ places + 1 : ℕ) := by
    push_cast
    linarith
  have habove : ((n * 2 ^ places : ℕ) : ℚ) < (mantissa + 1 : ℕ) := by
    push_cast
    linarith
  have hbelow := Nat.cast_lt.1 hbelow
  have habove := Nat.cast_lt.1 habove
  rw [Int.neg_neg, Int.toNat_natCast]
  omega

/-- The shortest decimal of a float with a fraction reaches below the point. -/
theorem shortest_exponent_neg (tie : Tie) (hc : IsCanonical mantissa exponent)
    (hmax : exponent ≤ 971) (he : exponent < 0) (hfraction : mantissa % 2 ^ (-exponent).toNat ≠ 0) :
    (shortest tie mantissa exponent).exponent < 0 := by
  by_contra hnot
  have h := roundsTo_shortest tie hc hmax
  obtain ⟨places, hplaces⟩ := Int.eq_ofNat_of_zero_le (Int.not_lt.1 hnot)
  rw [hplaces] at h
  have hn : (((shortest tie mantissa exponent).digits * 10 ^ places : ℕ) : ℚ) =
      (shortest tie mantissa exponent).digits * 10 ^ (places : Int) := by
    push_cast
    rfl
  rw [← hn] at h
  refine hfraction ?_
  rw [h.eq_of_nat he.le, Nat.mul_mod_left]

/-! ### Texts -/

/-- The text is digits with a point between them, and its value rounds to the float. -/
def Spells (cs : List Char) (v : Float) : Prop :=
  ∃ whole fraction, cs = whole ++ '.' :: fraction ∧ whole ≠ [] ∧
    (∀ c ∈ whole ++ fraction, c.isDigit = true) ∧
    ofDecimal (digitsValue (whole ++ fraction)) (0 - fraction.length) = v

/-- The float of a decimal with digits below the point. -/
theorem ofDecimal_eq {digits places : Nat} (h : RoundsTo (digits / 10 ^ places) mantissa exponent)
    (hc : IsCanonical mantissa exponent) (hplaces : 0 < places) :
    ofDecimal digits (0 - places) =
      .ofModel (.pack (.finite .positive mantissa exponent hc.pos)) := by
  rw [ofDecimal, if_neg (by omega), show (-(0 - (places : Int))).toNat = places by omega]
  exact ofScientific_eq h hc hplaces

/-- The text of a whole float. -/
theorem spells_fixedPoint_whole (hc : IsCanonical mantissa exponent)
    (hv : v = .ofModel (.pack (.finite .positive mantissa exponent hc.pos)))
    (hscaled : scaled? v = some ⟨false, mantissa, exponent⟩) (hwhole : isWhole v = true) :
    Spells (fixedPoint v).toList v := by
  have hvalue := roundMagnitude_eq false ((isWhole_iff hscaled).1 hwhole)
  simp only [fixedPoint, hscaled, if_pos hwhole]
  generalize Scaled.roundMagnitude ⟨false, mantissa, exponent⟩ .towardZero = n at hvalue ⊢
  have hrounds : RoundsTo ((10 * n : ℕ) / 10 ^ 1) mantissa exponent := by
    push_cast
    rw [pow_one, mul_div_cancel_left₀ _ (by norm_num), hvalue]
    exact roundsTo_self mantissa exponent
  refine ⟨Nat.toDigits 10 n, ['0'], by simp, Nat.toDigits_ne_nil, ?_, ?_⟩
  · intro c hc
    rcases List.mem_append.1 hc with hc | hc
    · exact isDigit_toDigits n c hc
    · rw [List.mem_singleton.1 hc]
      rfl
  · rw [digitsValue_zero, digitsValue_toDigits]
    exact (ofDecimal_eq hrounds hc one_pos).trans hv.symm

/-- The text of a float with a fraction. -/
theorem spells_fixedPoint_fraction (hc : IsCanonical mantissa exponent) (hmax : exponent ≤ 971)
    (hv : v = .ofModel (.pack (.finite .positive mantissa exponent hc.pos)))
    (hscaled : scaled? v = some ⟨false, mantissa, exponent⟩) (hfraction : ¬ isWhole v = true) :
    Spells (fixedPoint v).toList v := by
  simp only [fixedPoint, hscaled, if_neg hfraction]
  rw [isWhole_iff hscaled, not_or, Int.not_le] at hfraction
  have hrounds := roundsTo_shortest .upper hc hmax
  have hneg := shortest_exponent_neg .upper hc hmax hfraction.1 hfraction.2
  have htext : plainLayout.text ⟨false, mantissa, exponent⟩ =
      inPlaces "" (Nat.toDigits 10 (shortest .upper mantissa exponent).digits)
        (shortest .upper mantissa exponent).exponent := by
    simp [Layout.text, Layout.magnitude, plainLayout, hc.pos.ne']
  rw [htext]
  generalize shortest .upper mantissa exponent = d at hrounds hneg ⊢
  obtain ⟨whole, fraction, hlist, hne, hdigits, hlength, hvalue⟩ :=
    exists_inPlaces "" hneg (isDigit_toDigits d.digits)
  refine ⟨whole, fraction, hlist, hne, hdigits, ?_⟩
  rw [show d.exponent = -(fraction.length : Int) by omega, zpow_neg, zpow_natCast,
    ← div_eq_mul_inv] at hrounds
  rw [hvalue, digitsValue_toDigits]
  exact (ofDecimal_eq hrounds hc (by omega)).trans hv.symm

/-- **The text of a float reads back.** -/
theorem spells_fixedPoint (hv : Unsigned v.toModel.unpack) (hfinite : v.isFinite = true) :
    Spells (fixedPoint v).toList v := by
  have hback := ofModel_pack_unpack v
  rw [show v.isFinite = v.toModel.unpack.isFinite from rfl] at hfinite
  cases hunpack : v.toModel.unpack with
  | notANumber =>
    rw [hunpack] at hfinite
    cases hfinite
  | infinity sign =>
    rw [hunpack] at hfinite
    cases hfinite
  | zero sign =>
    rw [hunpack] at hv hback
    cases hv
    rw [← hback]
    exact ⟨['0'], ['0'], by decide +kernel, by simp, by simp, rfl⟩
  | finite sign mantissa exponent h =>
    rw [hunpack] at hv hback
    cases hv
    obtain ⟨hc, hmax⟩ := isCanonical_of_unpack hunpack
    have hscaled : scaled? v = some ⟨false, mantissa, exponent⟩ := by
      rw [scaled?, hunpack]
      rfl
    by_cases hwhole : isWhole v = true
    · exact spells_fixedPoint_whole hc hback.symm hscaled hwhole
    · exact spells_fixedPoint_fraction hc hmax hback.symm hscaled hwhole

/-- The text of an infinite float is a word. -/
theorem fixedPoint_of_not_finite (hv : Unsigned v.toModel.unpack) (hfinite : v.isFinite = false) :
    fixedPoint v = "inf" := by
  have hback := ofModel_pack_unpack v
  rw [show v.isFinite = v.toModel.unpack.isFinite from rfl] at hfinite
  cases hunpack : v.toModel.unpack with
  | infinity sign =>
    rw [hunpack] at hv hback
    cases hv
    rw [← hback]
    decide +kernel
  | notANumber =>
    rw [hunpack] at hv
    exact hv.elim
  | zero sign =>
    rw [hunpack] at hfinite
    cases hfinite
  | finite sign mantissa exponent h =>
    rw [hunpack] at hfinite
    cases hfinite

end Appraisal.Number
