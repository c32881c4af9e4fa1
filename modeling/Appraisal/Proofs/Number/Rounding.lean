import Appraisal.Number.Shortest
import Mathlib

/-!
# Rounding to the nearest float

A float is made from a mantissa, two bits on what was cut off, and an exponent. The bits tell where
the exact number lies (`Number.Approximates`), and shifts keep that up. So an exact number is made
into the float to which it is nearest: into `mantissa * 2 ^ exponent` if it lies around that
(`Number.RoundsTo`, `Number.roundWithAccuracy_eq`), and a quotient likewise
(`Number.div_finite_eq`).
-/

namespace Appraisal.Number

open Float.Model (Format UnpackedFloat totalExponent)
open Float.Model.UnpackedFloat

/-! ### Extended mantissas -/

/-- The number lies where the mantissa and its two bits say: on a whole number or half a unit above
one, or strictly between two such points. -/
def Approximates (em : ExtendedMantissa) (x : ℚ) : Prop :=
  match em.roundBit, em.stickyBit with
  | false, false => x = em.mantissa
  | false, true => em.mantissa < x ∧ x < em.mantissa + 1 / 2
  | true, false => x = em.mantissa + 1 / 2
  | true, true => em.mantissa + 1 / 2 < x ∧ x < em.mantissa + 1

variable {em : ExtendedMantissa} {x : ℚ}

theorem approximates_exact (m : Nat) :
    Approximates (.ofMantissaAndAccuracy m .exact) m := rfl

/-- The whole part of a quotient, with the place of its rest. -/
theorem approximates_quotient (m : Nat) {n : Nat} (hn : 0 < n) :
    Approximates (.ofMantissaAndAccuracy (m / n) (accuracyOfFraction (m % n) n)) (m / n : ℚ) := by
  have hpos : (0 : ℚ) < n := by exact_mod_cast hn
  have hparts : (m : ℚ) = n * (m / n : ℕ) + (m % n : ℕ) := by
    exact_mod_cast (Nat.div_add_mod m n).symm
  have hrest : ((m % n : ℕ) : ℚ) < n := by exact_mod_cast Nat.mod_lt m hn
  have hvalue : (m / n : ℚ) = (m / n : ℕ) + (m % n : ℕ) / n := by
    rw [div_eq_iff hpos.ne', add_mul, div_mul_cancel₀ _ hpos.ne', hparts]
    ring
  rw [hvalue, accuracyOfFraction]
  split
  · next hzero => simp [Approximates, ExtendedMantissa.ofMantissaAndAccuracy, hzero]
  next hzero =>
  have hsome : (0 : ℚ) < (m % n : ℕ) := by exact_mod_cast Nat.pos_of_ne_zero hzero
  have hfraction : (0 : ℚ) < (m % n : ℕ) / n := div_pos hsome hpos
  have hone : ((m % n : ℕ) : ℚ) / n < 1 := (div_lt_one hpos).2 hrest
  cases horder : compare (2 * (m % n)) n with
  | lt =>
    have hlt : (2 * (m % n : ℕ) : ℚ) < n := by exact_mod_cast Nat.compare_eq_lt.1 horder
    have hhalf : ((m % n : ℕ) : ℚ) / n < 1 / 2 := by rw [div_lt_iff₀ hpos]; linarith
    simp only [Approximates, ExtendedMantissa.ofMantissaAndAccuracy]
    exact ⟨by linarith, by linarith⟩
  | eq =>
    have heq : (2 * (m % n : ℕ) : ℚ) = n := by exact_mod_cast Nat.compare_eq_eq.1 horder
    have hhalf : ((m % n : ℕ) : ℚ) / n = 1 / 2 := by rw [div_eq_iff hpos.ne']; linarith
    simp only [Approximates, ExtendedMantissa.ofMantissaAndAccuracy, hhalf]
  | gt =>
    have hgt : (n : ℚ) < 2 * (m % n : ℕ) := by exact_mod_cast Nat.compare_eq_gt.1 horder
    have hhalf : (1 / 2 : ℚ) < (m % n : ℕ) / n := by rw [lt_div_iff₀ hpos]; linarith
    simp only [Approximates, ExtendedMantissa.ofMantissaAndAccuracy]
    exact ⟨by linarith, by linarith⟩

theorem Approximates.le (h : Approximates em x) : em.mantissa ≤ x := by
  obtain ⟨m, r, s⟩ := em
  cases r <;> cases s <;> simp only [Approximates] at h <;> linarith

theorem Approximates.lt (h : Approximates em x) : x < em.mantissa + 1 := by
  obtain ⟨m, r, s⟩ := em
  cases r <;> cases s <;> simp only [Approximates] at h <;> linarith

/-- What a mantissa and the place of a rest stand for lies within one unit above the mantissa. -/
theorem Approximates.bounds {m : Nat} {e : Int} {accuracy : Accuracy}
    (h : Approximates (.ofMantissaAndAccuracy m accuracy) (x / 2 ^ e)) :
    m * 2 ^ e ≤ x ∧ x < (m + 1) * 2 ^ e := by
  have hunit : (0 : ℚ) < 2 ^ e := zpow_pos (by norm_num) e
  have hm : (ExtendedMantissa.ofMantissaAndAccuracy m accuracy).mantissa = m := by
    cases accuracy with
    | exact => rfl
    | inexact order => cases order <;> rfl
  have hle := h.le
  have hlt := h.lt
  rw [hm] at hle hlt
  exact ⟨(le_div_iff₀ hunit).1 hle, (div_lt_iff₀ hunit).1 hlt⟩

theorem Approximates.shiftRightOne (h : Approximates em x) :
    Approximates em.shiftRightOne (x / 2) := by
  obtain ⟨m, r, s⟩ := em
  have hm : (m : ℚ) = 2 * (m / 2 : ℕ) + (m % 2 : ℕ) := by
    exact_mod_cast (Nat.div_add_mod m 2).symm
  rcases Nat.mod_two_eq_zero_or_one m with hbit | hbit <;> rw [hbit] at hm <;> push_cast at hm <;>
    cases r <;> cases s <;>
    simp only [Approximates, ExtendedMantissa.shiftRightOne, hbit, bne_self_eq_false, Bool.or_false,
      Bool.or_true, Nat.reduceBNe] at h ⊢ <;>
    first
      | linarith
      | exact ⟨by linarith, by linarith⟩

/-- A mantissa that is shifted to the right stands for a part of the number. -/
theorem Approximates.shiftRight (h : Approximates em x) (n : Nat) :
    Approximates (em >>> n) (x / 2 ^ n) := by
  induction n with
  | zero =>
    rw [pow_zero, div_one]
    exact h
  | succ n ih =>
    have hstep := ih.shiftRightOne
    rw [div_div, ← pow_succ] at hstep
    exact hstep

/-- The whole number is nearest to `x`; a number halfway between two goes to the even one. -/
structure IsHalfEven (x : ℚ) (n : Nat) : Prop where
  low : n - 1 / 2 ≤ x
  high : x ≤ n + 1 / 2
  odd : n % 2 = 1 → n - 1 / 2 < x ∧ x < n + 1 / 2

/-- The rounded mantissa is the whole number around which the number lies; of two it is the even
one. -/
theorem Approximates.roundedMantissa_eq (h : Approximates em x) {n : Nat} (hn : IsHalfEven x n) :
    em.roundedMantissa = n := by
  obtain ⟨m, r, s⟩ := em
  obtain ⟨hlow, hhigh, hodd⟩ := hn
  have hnear (k : Nat) (hlt : (n : ℚ) < k + 1) (hgt : (k : ℚ) < n + 1) : k = n := by
    have hle : n < k + 1 := by exact_mod_cast hlt
    have hge : k < n + 1 := by exact_mod_cast hgt
    omega
  cases r <;> cases s <;> simp only [Approximates] at h <;>
    simp only [ExtendedMantissa.roundedMantissa, ExtendedMantissa.accuracy,
      Accuracy.roundToNearestEven]
  case false.false => exact hnear m (by linarith) (by linarith)
  case false.true => exact hnear m (by linarith) (by linarith)
  case true.true => exact hnear (m + 1) (by push_cast; linarith) (by push_cast; linarith)
  -- halfway between two whole numbers, one of which is `n`
  case true.false =>
    have hlt : n ≤ m + 1 := by
      have : (n : ℚ) ≤ m + 1 := by linarith
      exact_mod_cast this
    have hge : m ≤ n := by
      have : (m : ℚ) ≤ n := by linarith
      exact_mod_cast this
    have heven : n % 2 = 0 := by
      by_contra hn
      obtain ⟨h1, h2⟩ := hodd (by omega)
      have hcases : n = m ∨ n = m + 1 := by omega
      rcases hcases with rfl | rfl
      · linarith
      · push_cast at h1
        linarith
    omega

/-! ### Target exponents -/

theorem targetExponent_eq (m : Nat) (e : Int) :
    Format.binary64.targetExponent (totalExponent m e) = max (m.log2 + e - 52) (-1074) := by
  show max (_ - ((1 + 52 : ℕ) : Int)) (3 - 2 ^ (11 - 1) - ((1 + 52 : ℕ) : Int)) = _
  rw [totalExponent]
  norm_num
  omega

/-- A mantissa that fits stays as it is. -/
theorem shiftToTargetExponent_of_lt {m : Nat} {e : Int} (hm : m < 2 ^ 53) (he : -1074 ≤ e) :
    shiftToTargetExponent .binary64 m e .exact = (⟨m, false, false⟩, e) := by
  have hlog : m.log2 ≤ 52 := by
    by_cases hzero : m = 0
    · simp [hzero]
    · exact Nat.le_of_lt_succ ((Nat.log2_lt hzero).2 hm)
  have hshift : (Format.binary64.targetExponent (totalExponent m e) - e).toNat = 0 := by
    rw [targetExponent_eq]
    omega
  rw [shiftToTargetExponent, shiftToExponent, hshift]
  exact Prod.ext rfl (add_zero e)

/-- A mantissa that was rounded up to 54 bits is halved. -/
theorem shiftToTargetExponent_carry {e : Int} (he : -1074 ≤ e) :
    shiftToTargetExponent .binary64 (2 ^ 53) e .exact = (⟨2 ^ 52, false, false⟩, e + 1) := by
  have hshift : (Format.binary64.targetExponent (totalExponent (2 ^ 53) e) - e).toNat = 1 := by
    rw [targetExponent_eq, Nat.log2_two_pow]
    omega
  rw [shiftToTargetExponent, shiftToExponent, hshift]
  rfl

/-- Shifting a mantissa to a greater exponent keeps what it stands for. -/
theorem approximates_shiftToExponent {m : Nat} {e target : Int} {accuracy : Accuracy}
    (h : Approximates (.ofMantissaAndAccuracy m accuracy) (x / 2 ^ e)) (he : e ≤ target) :
    Approximates (shiftToExponent m e accuracy target).1 (x / 2 ^ target) ∧
      (shiftToExponent m e accuracy target).2 = target := by
  obtain ⟨n, rfl⟩ := Int.le.dest he
  have hshift := h.shiftRight n
  rw [div_div, ← zpow_natCast, ← zpow_add₀ (by norm_num)] at hshift
  rw [shiftToExponent, show (e + n - e).toNat = n by omega]
  exact ⟨hshift, rfl⟩

/-! ### Nearest floats -/

/-- A positive mantissa and an exponent as floats have them: all 53 bits of the mantissa are in use
unless the exponent is the least one. -/
structure IsCanonical (mantissa : Nat) (exponent : Int) : Prop where
  pos : 0 < mantissa
  lt : mantissa < 2 ^ 53
  min_le : -1074 ≤ exponent
  normal : 2 ^ 52 ≤ mantissa ∨ exponent = -1074

/-- The number is nearest to the float `mantissa * 2 ^ exponent`. A number halfway to a neighbour
goes to an even mantissa. -/
structure RoundsTo (x : ℚ) (mantissa : Nat) (exponent : Int) : Prop where
  low : (mantissa - gapBelow mantissa exponent / 4) * 2 ^ exponent ≤ x
  high : x ≤ (mantissa + 1 / 2) * 2 ^ exponent
  odd : mantissa % 2 = 1 →
    (mantissa - 1 / 2) * 2 ^ exponent < x ∧ x < (mantissa + 1 / 2) * 2 ^ exponent

theorem gapBelow_eq (m : Nat) (e : Int) :
    gapBelow m e = 1 ∧ m = 2 ^ 52 ∧ -1074 < e ∨ gapBelow m e = 2 ∧ ¬ (m = 2 ^ 52 ∧ -1074 < e) := by
  rw [gapBelow]
  split
  · next h => exact .inl ⟨rfl, h⟩
  · next h => exact .inr ⟨rfl, h⟩

/-- A float is nearest to itself. -/
theorem roundsTo_self (m : Nat) (e : Int) : RoundsTo (m * 2 ^ e) m e := by
  have hunit : (0 : ℚ) < 2 ^ e := zpow_pos (by norm_num) e
  have hgap : (0 : ℚ) ≤ gapBelow m e := Nat.cast_nonneg _
  refine ⟨?_, ?_, fun _ => ⟨?_, ?_⟩⟩ <;> nlinarith

variable {mantissa : Nat} {exponent : Int}

theorem RoundsTo.lt (h : RoundsTo x mantissa exponent) (hc : IsCanonical mantissa exponent) :
    x < 2 ^ (53 + exponent) := by
  have hunit : (0 : ℚ) < 2 ^ exponent := zpow_pos (by norm_num) exponent
  have hm : (mantissa : ℚ) + 1 ≤ 2 ^ 53 := by exact_mod_cast hc.lt
  rw [zpow_add₀ (by norm_num)]
  have := h.high
  norm_num at hm ⊢
  nlinarith

theorem RoundsTo.half_below (h : RoundsTo x mantissa exponent) :
    (mantissa - 1 / 2) * 2 ^ exponent ≤ x := by
  have hunit : (0 : ℚ) < 2 ^ exponent := zpow_pos (by norm_num) exponent
  refine le_trans (mul_le_mul_of_nonneg_right ?_ hunit.le) h.low
  rcases gapBelow_eq mantissa exponent with ⟨hgap, -⟩ | ⟨hgap, -⟩ <;> rw [hgap] <;> push_cast <;>
    linarith

theorem RoundsTo.pos (h : RoundsTo x mantissa exponent) (hc : IsCanonical mantissa exponent) :
    0 < x := by
  have hunit : (0 : ℚ) < 2 ^ exponent := zpow_pos (by norm_num) exponent
  have hm : (1 : ℚ) ≤ mantissa := by exact_mod_cast hc.pos
  exact lt_of_lt_of_le (mul_pos (by linarith) hunit) h.half_below

theorem RoundsTo.gt (h : RoundsTo x mantissa exponent) (hm : 2 ^ 52 ≤ mantissa) :
    2 ^ (51 + exponent) < x := by
  have hunit : (0 : ℚ) < 2 ^ exponent := zpow_pos (by norm_num) exponent
  have hm : (2 ^ 52 : ℚ) ≤ mantissa := by exact_mod_cast hm
  rw [zpow_add₀ (by norm_num)]
  exact lt_of_lt_of_le (mul_lt_mul_of_pos_right (by norm_num; linarith) hunit) h.half_below

/-- A number is cut off at the exponent of the nearest float, or one place below that where it lies
just below a power of two. -/
theorem RoundsTo.target_cases (h : RoundsTo x mantissa exponent)
    (hc : IsCanonical mantissa exponent) {m : Nat} {e target : Int}
    (htarget : target = max (m.log2 + e - 52) (-1074)) (he : e ≤ target) (hlow : m * 2 ^ e ≤ x)
    (hhigh : x < (m + 1) * 2 ^ e) :
    target = exponent ∨
      target + 1 = exponent ∧ mantissa = 2 ^ 52 ∧ x < 2 ^ (52 + exponent) := by
  have htwo : (1 : ℚ) < 2 := by norm_num
  have hunit : (0 : ℚ) < 2 ^ e := zpow_pos (by norm_num) e
  have hmin := hc.min_le
  by_cases hzero : m = 0
  · -- what is cut off to nothing lies below the least exponent
    subst hzero
    simp only [Nat.log2_zero, Nat.cast_zero, zero_add] at htarget hhigh
    rw [one_mul] at hhigh
    rcases hc.normal with hnormal | hleast
    · have := (zpow_lt_zpow_iff_right₀ htwo).1 ((h.gt hnormal).trans hhigh)
      omega
    · omega
  have hbelow : (2 : ℚ) ^ (m.log2 + e) ≤ x := by
    rw [zpow_add₀ (by norm_num), zpow_natCast]
    refine le_trans (mul_le_mul_of_nonneg_right ?_ hunit.le) hlow
    exact_mod_cast Nat.log2_self_le hzero
  have habove : x < (2 : ℚ) ^ (m.log2 + 1 + e) := by
    refine lt_of_lt_of_le hhigh ?_
    rw [zpow_add₀ (by norm_num)]
    refine mul_le_mul_of_nonneg_right ?_ hunit.le
    exact_mod_cast Nat.lt_log2_self
  have hlog : (m.log2 + e : Int) < 53 + exponent :=
    (zpow_lt_zpow_iff_right₀ htwo).1 (lt_of_le_of_lt hbelow (h.lt hc))
  rcases hc.normal with hnormal | hleast
  · have hlog' : (51 + exponent : Int) < m.log2 + 1 + e :=
      (zpow_lt_zpow_iff_right₀ htwo).1 ((h.gt hnormal).trans habove)
    by_cases hjust : target = exponent
    · exact .inl hjust
    have hlt : x < (2 : ℚ) ^ (52 + exponent) := by
      rwa [show (m.log2 + 1 + e : Int) = 52 + exponent by omega] at habove
    refine .inr ⟨by omega, ?_, hlt⟩
    have hle : ((mantissa : ℚ) - 1 / 2) * 2 ^ exponent < 2 ^ 52 * 2 ^ exponent := by
      refine lt_of_le_of_lt h.half_below ?_
      rwa [zpow_add₀ (by norm_num)] at hlt
    have hle := lt_of_mul_lt_mul_right hle (zpow_pos (by norm_num) exponent).le
    have hm : (mantissa : ℚ) < 2 ^ 52 + 1 := by linarith
    have hm : mantissa < 2 ^ 52 + 1 := by exact_mod_cast hm
    omega
  · omega

/-- A mantissa is a whole number nearest to what it stands for. -/
theorem RoundsTo.isHalfEven (h : RoundsTo x mantissa exponent) :
    IsHalfEven (x / 2 ^ exponent) mantissa := by
  have hunit : (0 : ℚ) < 2 ^ exponent := zpow_pos (by norm_num) exponent
  refine ⟨(le_div_iff₀ hunit).2 h.half_below, (div_le_iff₀ hunit).2 h.high, fun hodd => ?_⟩
  exact ⟨(lt_div_iff₀ hunit).2 (h.odd hodd).1, (div_lt_iff₀ hunit).2 (h.odd hodd).2⟩

/-- One place below, just under a power of two, it is rounded up to that power. -/
theorem RoundsTo.roundedMantissa_carry {e : Int} (h : RoundsTo x (2 ^ 52) (e + 1))
    (he : -1074 ≤ e) (hlt : x < 2 ^ (52 + (e + 1))) (happ : Approximates em (x / 2 ^ e)) :
    em.roundedMantissa = 2 ^ 53 := by
  have hunit : (0 : ℚ) < 2 ^ e := zpow_pos (by norm_num) e
  have hdouble : (2 : ℚ) ^ (e + 1) = 2 * 2 ^ e := by
    rw [zpow_add_one₀ (by norm_num), mul_comm]
  have hgap : gapBelow (2 ^ 52) (e + 1) = 1 := if_pos ⟨rfl, Int.lt_add_one_of_le he⟩
  have hlow := h.low
  rw [hgap, hdouble] at hlow
  rw [zpow_add₀ (by norm_num), hdouble] at hlt
  refine happ.roundedMantissa_eq ⟨?_, ?_, by norm_num⟩
  · rw [le_div_iff₀ hunit]
    push_cast at hlow ⊢
    linarith
  · rw [div_le_iff₀ hunit]
    norm_num at hlt ⊢
    linarith

/-- An exact number, given by a mantissa and the place of the rest, becomes the nearest float. -/
theorem roundWithAccuracy_eq (h : RoundsTo x mantissa exponent)
    (hc : IsCanonical mantissa exponent) (sign : Sign) {m : Nat} {e : Int} {accuracy : Accuracy}
    (happ : Approximates (.ofMantissaAndAccuracy m accuracy) (x / 2 ^ e))
    (he : e ≤ Format.binary64.targetExponent (totalExponent m e)) :
    roundWithAccuracy .binary64 sign m e accuracy = .finite sign mantissa exponent hc.pos := by
  obtain ⟨hfirst, htarget⟩ := approximates_shiftToExponent happ he
  change Approximates (shiftToTargetExponent .binary64 m e accuracy).1 _ at hfirst
  change (shiftToTargetExponent .binary64 m e accuracy).2 = _ at htarget
  have hcases := h.target_cases hc (targetExponent_eq m e) he happ.bounds.1 happ.bounds.2
  have hleast : -1074 ≤ Format.binary64.targetExponent (totalExponent m e) := by
    rw [targetExponent_eq]
    exact le_max_right _ _
  rw [roundWithAccuracy]
  generalize shiftToTargetExponent .binary64 m e accuracy = first at hfirst htarget ⊢
  obtain ⟨em, shifted⟩ := first
  dsimp only at hfirst htarget ⊢
  rw [← htarget] at hfirst hcases hleast
  rcases hcases with hexponent | ⟨hexponent, hm, hlt⟩
  · rw [hexponent] at hfirst ⊢
    rw [hfirst.roundedMantissa_eq h.isHalfEven, shiftToTargetExponent_of_lt hc.lt hc.min_le]
    exact dif_neg hc.pos.ne'
  · subst hexponent hm
    rw [h.roundedMantissa_carry hleast hlt hfirst, shiftToTargetExponent_carry hleast]
    rfl

/-! ### Quotients and products -/

/-- A quotient is the float nearest to the exact quotient. -/
theorem div_finite_eq {s₁ s₂ : Sign} {m₁ m₂ : Nat} {e₁ e₂ : Int} {h₁ : 0 < m₁} {h₂ : 0 < m₂}
    (h : RoundsTo (m₁ * 2 ^ e₁ / (m₂ * 2 ^ e₂)) mantissa exponent)
    (hc : IsCanonical mantissa exponent) :
    div .binary64 (.finite s₁ m₁ e₁ h₁) (.finite s₂ m₂ e₂ h₂) =
      .finite (s₁ / s₂) mantissa exponent hc.pos := by
  have hdefault : Format.binary64.targetExponent (totalExponent m₁ e₁ - totalExponent m₂ e₂) =
      max (m₁.log2 + e₁ - (m₂.log2 + e₂) - 53) (-1074) := by
    show max (_ - ((1 + 52 : ℕ) : Int)) (3 - 2 ^ (11 - 1) - ((1 + 52 : ℕ) : Int)) = _
    rw [totalExponent, totalExponent]
    norm_num
    omega
  rw [div, divCore, hdefault]
  generalize htarget :
    min (e₁ - e₂) (max (m₁.log2 + e₁ - (m₂.log2 + e₂) - 53) (-1074) : Int) = target
  obtain ⟨shift, hshift⟩ := Int.le.dest (htarget ▸ min_le_left (e₁ - e₂) _ : target ≤ e₁ - e₂)
  rw [show (e₁ - e₂ - target).toNat = shift by omega, Nat.shiftLeft_eq]
  refine roundWithAccuracy_eq h hc _ ?_ ?_
  · have hvalue : (m₁ * 2 ^ e₁ / (m₂ * 2 ^ e₂) / 2 ^ target : ℚ) = (m₁ * 2 ^ shift : ℕ) / m₂ := by
      rw [show e₁ = target + shift + e₂ by omega, zpow_add₀ (by norm_num), zpow_add₀ (by norm_num)]
      have hm : (m₂ : ℚ) ≠ 0 := by exact_mod_cast h₂.ne'
      push_cast
      field_simp
      exact zpow_natCast 2 shift
    rw [hvalue]
    exact approximates_quotient _ h₂
  · rw [targetExponent_eq]
    by_cases hleast : target ≤ -1074
    · exact le_max_of_le_right hleast
    -- otherwise the numerator was shifted so far that the quotient has 53 bits
    refine le_max_of_le_left ?_
    have hbits : 52 ≤ (m₁ * 2 ^ shift / m₂).log2 := by
      have hquotient : 2 ^ 52 ≤ m₁ * 2 ^ shift / m₂ := by
        rw [Nat.le_div_iff_mul_le h₂]
        calc 2 ^ 52 * m₂ ≤ 2 ^ 52 * 2 ^ (m₂.log2 + 1) :=
              Nat.mul_le_mul_left _ Nat.lt_log2_self.le
          _ = 2 ^ (m₂.log2 + 53) := by rw [← pow_add]; congr 1; omega
          _ ≤ 2 ^ (m₁.log2 + shift) := Nat.pow_le_pow_right (by norm_num) (by omega)
          _ = 2 ^ m₁.log2 * 2 ^ shift := pow_add ..
          _ ≤ m₁ * 2 ^ shift := Nat.mul_le_mul_right _ (Nat.log2_self_le h₁.ne')
      exact (Nat.le_log2 (by omega)).2 hquotient
    omega

end Appraisal.Number
