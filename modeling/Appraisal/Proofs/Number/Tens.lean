import Appraisal.Proofs.Number.Whole

/-!
# Powers of ten as floats

The powers of ten up to the 22nd are floats themselves, and repeated squaring finds them
(`Number.hasMagnitude_power_ten`); the greater ones are rounded, but beyond any number of 64 bits.
A whole number is divided by such a power with two roundings. The whole number nearest to the
quotient is the same as without them if the number has 53 bits
(`Number.IsNearest.isHalfEven_quotient`) or lies far from the middle between two multiples
(`Number.isHalfEven_of_far`).
-/

namespace Appraisal.Number

variable {v w : Float} {x y z : ℚ} {k n q : Nat}

/-! ### Repeated squaring -/

/-- What products keep, with the exponents added up, holds of a power. -/
theorem powerLoop_induction {P : Nat → Float → Prop}
    (hmul : ∀ i j v w, P i v → P j w → P (i + j) (v * w)) {i j : Nat} (hv : P i v) (hw : P j w)
    (n : Nat) : P (i + j * n) (powerLoop v w n) := by
  induction n using Nat.strong_induction_on generalizing i j v w with
  | _ n ih =>
    have hbit : P (i + j * (n % 2)) (if n % 2 = 1 then v * w else v) := by
      rcases Nat.mod_two_eq_zero_or_one n with hn | hn <;> rw [hn]
      · exact hv
      · rw [mul_one]
        exact hmul i j v w hv hw
    rw [powerLoop]
    split
    · next hdone =>
      have hlast : i + j * (n % 2) = i + j * n := by rw [Nat.mod_eq_of_lt (by omega : n < 2)]
      rwa [hlast] at hbit
    · next hmore =>
      have hhalf := ih (n / 2) (by omega) hbit (hmul j j w w hw hw)
      have hsum : i + j * (n % 2) + (j + j) * (n / 2) = i + j * n := by
        rw [add_assoc, ← two_mul, mul_comm 2 j, mul_assoc, ← mul_add, Nat.mod_add_div]
      rwa [hsum] at hhalf

/-- What stands for a power of ten among the floats: the power if it is a float, and otherwise a
number beyond 64 bits, that was rounded upward little enough to be finite. -/
structure IsTens (k : Nat) (x : ℚ) : Prop where
  exact : k ≤ 22 → x = 10 ^ k
  large : 23 ≤ k → 2 ^ 64 ≤ x
  le : x ≤ 10 ^ k * (1 + 1 / 2 ^ 53) ^ (k - 1)

/-- Up to 10²² a bound on the exponent changes nothing, and the power is exact. -/
theorem IsTens.eq_pow (h : IsTens (Min.min k 308) x) (hk : k ≤ 22) : x = (10 ^ k : ℕ) := by
  rw [Nat.min_eq_left (by omega)] at h
  rw [h.exact hk, Nat.cast_pow, Nat.cast_ofNat]

theorem IsTens.one_le (h : IsTens k x) : 1 ≤ x := by
  rcases Nat.lt_or_ge k 23 with hk | hk
  · rw [h.exact (by omega)]
    exact one_le_pow₀ (by norm_num)
  · exact le_trans (by norm_num) (h.large hk)

/-- However often it is rounded upward, the 308th power of ten is finite. -/
theorem IsTens.lt (h : IsTens k x) (hk : k ≤ 308) : x < 2 ^ (1024 : Int) := by
  have hlast : 10 ^ 308 * (2 ^ 53 + 1) ^ 307 < 2 ^ 1024 * (2 ^ 53) ^ 307 := by decide +kernel
  calc x ≤ 10 ^ k * (1 + 1 / 2 ^ 53) ^ (k - 1) := h.le
    _ ≤ 10 ^ 308 * (1 + 1 / 2 ^ 53) ^ 307 :=
      mul_le_mul (pow_le_pow_right₀ (by norm_num) hk) (pow_le_pow_right₀ (by norm_num) (by omega))
        (by positivity) (by positivity)
    _ = 10 ^ 308 * (2 ^ 53 + 1) ^ 307 / (2 ^ 53) ^ 307 := by
      rw [mul_div_assoc, ← div_pow, add_div, div_self (by norm_num), add_comm]
    _ < 2 ^ 1024 := (div_lt_iff₀ (by positivity)).2 (by exact_mod_cast hlast)
    _ = 2 ^ (1024 : Int) := (zpow_natCast 2 1024).symm

/-- The rounded product of two powers of ten is the next one. -/
theorem IsTens.mul {i j : Nat} (hx : IsTens i x) (hy : IsTens j y) (hxself : IsNearest x x)
    (hyself : IsNearest y y) (hz : IsNearest (x * y) z) : IsTens (i + j) z := by
  have hone : 1 ≤ x * y := one_le_mul_of_one_le_of_one_le hx.one_le hy.one_le
  by_cases hi : i = 0
  · subst hi
    rw [hx.exact (by omega), pow_zero, one_mul] at hz
    rwa [hz.unique hyself, zero_add]
  by_cases hj : j = 0
  · subst hj
    rw [hy.exact (by omega), pow_zero, mul_one] at hz
    rwa [hz.unique hxself]
  refine ⟨fun hk => ?_, fun hk => ?_, ?_⟩
  · -- the odd part of the power has 53 bits
    rw [hx.exact (by omega), hy.exact (by omega), ← pow_add] at hz
    have hodd : 5 ^ (i + j) < 2 ^ 53 :=
      lt_of_le_of_lt (Nat.pow_le_pow_right (by norm_num) hk) (by norm_num)
    have hshort := isNearest_mul (e := (i + j : ℕ)) (by positivity) hodd (by omega)
    rw [zpow_natCast, Nat.cast_pow, ← mul_pow] at hshort
    norm_num at hshort
    exact hz.unique hshort
  · have hproduct : (2 ^ (64 : Int) : ℚ) ≤ x * y := by
      rcases Nat.lt_or_ge i 23 with hi | hi
      · rcases Nat.lt_or_ge j 23 with hj | hj
        · rw [hx.exact (by omega), hy.exact (by omega), ← pow_add]
          exact le_trans (by norm_num) (pow_le_pow_right₀ (by norm_num) hk)
        · exact (hy.large hj).trans (le_mul_of_one_le_left (by linarith [hy.one_le]) hx.one_le)
      · exact (hx.large hi).trans (le_mul_of_one_le_right (by linarith [hx.one_le]) hy.one_le)
    exact_mod_cast (isNearest_two_zpow (by norm_num)).mono hz hproduct
  · have hnear := abs_le.1 (hz.abs_sub_le (two_zpow_le_of_one_le hone (by norm_num)))
    calc z ≤ x * y * (1 + 1 / 2 ^ 53) := by linarith [hnear.1]
      _ ≤ 10 ^ i * (1 + 1 / 2 ^ 53) ^ (i - 1) * (10 ^ j * (1 + 1 / 2 ^ 53) ^ (j - 1)) *
          (1 + 1 / 2 ^ 53) := by
        refine mul_le_mul_of_nonneg_right ?_ (by norm_num)
        exact mul_le_mul hx.le hy.le (by linarith [hy.one_le]) (by positivity)
      _ = 10 ^ (i + j) * (1 + 1 / 2 ^ 53) ^ (i - 1 + (j - 1) + 1) := by ring
      _ = 10 ^ (i + j) * (1 + 1 / 2 ^ 53) ^ (i + j - 1) := by congr 2; omega

/-- Repeated squaring finds the powers of ten. -/
theorem hasMagnitude_power_ten (hk : k ≤ 308) :
    ∃ x, HasMagnitude (power 10.0 k) .positive x ∧ IsTens k x := by
  have hone : IsTens 0 1 := ⟨fun _ => (pow_zero 10).symm, fun h => by omega, by norm_num⟩
  have hten : IsTens 1 10 := ⟨fun _ => (pow_one 10).symm, fun h => by omega, by norm_num⟩
  have hmagnitude : HasMagnitude 10.0 .positive 10 :=
    ⟨5 * 2 ^ 50, -49, by norm_num, rfl, by norm_num⟩
  have hpower := powerLoop_induction
    (P := fun k v => k ≤ 308 → ∃ x, HasMagnitude v .positive x ∧ IsTens k x) ?_
    (fun _ => ⟨1, hasMagnitude_one, hone⟩) (fun _ => ⟨10, hmagnitude, hten⟩) k
  · rw [zero_add, one_mul] at hpower
    exact hpower hk
  · intro i j v w hv hw hsum
    obtain ⟨x, hvx, hx⟩ := hv (by omega)
    obtain ⟨y, hwy, hy⟩ := hw (by omega)
    have hone : 1 ≤ x * y := one_le_mul_of_one_le_of_one_le hx.one_le hy.one_le
    obtain ⟨z, hz⟩ := exists_isNearest_of_one_le hone
    have htens := hx.mul hy hvx.isNearest hwy.isNearest hz
    exact ⟨z, hvx.mul hwy hz (htens.lt hsum), htens⟩

/-! ### Rounded quotients -/

variable {unit : Nat}

theorem isHalfEven_of_lt (hlow : (q - 1 / 2 : ℚ) < x) (hhigh : x < q + 1 / 2) : IsHalfEven x q :=
  ⟨hlow.le, hhigh.le, fun _ => ⟨hlow, hhigh⟩⟩

/-- The middle between two whole numbers of 52 bits is a float. -/
theorem isNearest_middle (hk : 2 * k + 1 < 2 ^ 53) :
    IsNearest ((2 * k + 1 : ℕ) / 2) ((2 * k + 1 : ℕ) / 2) := by
  have h := isNearest_mul (e := -1) (by omega) hk (by norm_num)
  rwa [zpow_neg_one, ← div_eq_mul_inv] at h

/-- A quotient of a number of 53 bits is rounded to the middle between two whole numbers only if it
lies there. -/
theorem IsNearest.eq_middle (h : IsNearest (n / unit) ((2 * k + 1 : ℕ) / 2)) (hn : n < 2 ^ 53)
    (hunit : 0 < unit) (heven : unit % 2 = 0) : (n / unit : ℚ) = (2 * k + 1 : ℕ) / 2 := by
  have hpos : (0 : ℚ) < unit := by exact_mod_cast hunit
  have hmiddle : (1 / 2 : ℚ) ≤ (2 * k + 1 : ℕ) / 2 := by
    push_cast
    linarith [(Nat.cast_nonneg k : (0 : ℚ) ≤ k)]
  have hlarge : (2 : ℚ) ^ (-1022 : Int) ≤ n / unit := by
    by_contra hlt
    have hle := h.le_two_zpow (not_le.1 hlt).le le_rfl
    have hsmall : (2 : ℚ) ^ (-1022 : Int) < 2 ^ (-1 : Int) :=
      zpow_lt_zpow_right₀ (by norm_num) (by norm_num)
    rw [zpow_neg_one] at hsmall
    linarith
  have hnear : |(n / unit - (2 * k + 1 : ℕ) / 2 : ℚ)| < 1 / unit := by
    refine (h.abs_sub_le hlarge).trans_lt ?_
    rw [div_div, mul_comm, ← div_div, div_lt_div_iff_of_pos_right hpos, div_lt_one (by norm_num)]
    exact_mod_cast hn
  -- numbers with an even denominator that are no farther apart are equal
  have hnumerators : |(2 * n - (2 * k + 1) * unit : Int)| < 2 := by
    have hvalue : (n / unit - (2 * k + 1 : ℕ) / 2 : ℚ) =
        (2 * n - (2 * k + 1) * unit : Int) / (2 * unit) := by
      push_cast
      field_simp
    rw [hvalue, abs_div, abs_of_pos (by positivity : (0 : ℚ) < 2 * unit),
      div_lt_div_iff₀ (by positivity) hpos, ← mul_assoc, one_mul,
      mul_lt_mul_iff_left₀ hpos] at hnear
    exact_mod_cast hnear
  obtain ⟨half, rfl⟩ := Nat.dvd_of_mod_eq_zero heven
  have heq : (2 * n - (2 * k + 1) * (2 * half : ℕ) : Int) = 0 := by
    rw [abs_lt] at hnumerators
    push_cast at hnumerators ⊢
    rw [mul_left_comm] at hnumerators ⊢
    omega
  rw [div_eq_div_iff hpos.ne' two_ne_zero]
  have heq : (2 * n - (2 * k + 1) * (2 * half : ℕ) : ℚ) = 0 := by exact_mod_cast heq
  push_cast at heq ⊢
  linarith

/-- The rounded quotient of a number of 53 bits has the same nearest whole number as the exact
one. -/
theorem IsNearest.isHalfEven_quotient (h : IsNearest (n / unit) x) (hq : IsHalfEven (n / unit) q)
    (hn : n < 2 ^ 53) (hunit : 4 ≤ unit) (heven : unit % 2 = 0) : IsHalfEven x q := by
  have hpos : (0 : ℚ) < unit := by exact_mod_cast (by omega : 0 < unit)
  have hbits : q ≤ 2 ^ 51 := by
    have hquotient : (n / unit : ℚ) < 2 ^ 51 := by
      rw [div_lt_iff₀ hpos]
      have : n < 2 ^ 51 * unit := by omega
      exact_mod_cast this
    have hlt : (q : ℚ) < 2 ^ 51 + 1 := by linarith [hq.low]
    exact Nat.le_of_lt_succ (by exact_mod_cast hlt)
  have hup : (q + 1 / 2 : ℚ) = (2 * q + 1 : ℕ) / 2 := by
    push_cast
    ring
  have hupper := isNearest_middle (k := q) (by omega)
  have hhigh : x ≤ q + 1 / 2 := hup ▸ h.mono hupper (hup ▸ hq.high)
  have hhigh_lt (hodd : q % 2 = 1) : x < q + 1 / 2 := by
    refine lt_of_le_of_ne hhigh fun heq => (hq.odd hodd).2.ne ?_
    rw [heq, hup] at h
    rw [hup, h.eq_middle hn (by omega) heven]
  cases q with
  | zero =>
    have := h.pos
    exact ⟨by norm_num; linarith, hhigh, fun hodd => absurd hodd (by decide)⟩
  | succ p =>
    have hdown : ((p + 1 : ℕ) - 1 / 2 : ℚ) = (2 * p + 1 : ℕ) / 2 := by
      push_cast
      ring
    have hlower := isNearest_middle (k := p) (by omega)
    have hlow : ((p + 1 : ℕ) - 1 / 2 : ℚ) ≤ x := hdown ▸ hlower.mono h (hdown ▸ hq.low)
    refine ⟨hlow, hhigh, fun hodd => ⟨lt_of_le_of_ne hlow fun heq => ?_, hhigh_lt hodd⟩⟩
    rw [← heq, hdown] at h
    exact (hq.odd hodd).1.ne (by rw [hdown, h.eq_middle hn (by omega) heven])

/-- Two roundings do not lead over a middle that is far away. -/
theorem isHalfEven_of_far (hx : IsNearest n x) (hy : IsNearest (x / unit) y)
    (hq : IsHalfEven (n / unit) q) (hn : n ≤ 2 ^ 63) (hunit : 0 < unit) (hle : unit ≤ 10 ^ 22)
    (hfar : ∀ t : Int, 2 ^ 12 < |2 * n - (2 * t + 1) * unit|) : IsHalfEven y q := by
  have hpos : (0 : ℚ) < unit := by exact_mod_cast hunit
  have hle : (unit : ℚ) ≤ 10 ^ 22 := by exact_mod_cast hle
  have hone : (1 : ℚ) ≤ n := by
    have : 0 < n := by exact_mod_cast hx.left_pos
    exact_mod_cast this
  have hn : (n : ℚ) ≤ 2 ^ (63 : Int) := by exact_mod_cast hn
  have hxone : 1 ≤ x := hx.one_le hone
  have hxle : x ≤ 2 ^ (63 : Int) := hx.le_two_zpow hn (by norm_num)
  have hfirst : |n - x| ≤ 2 ^ 10 := by
    refine (hx.abs_sub_le (two_zpow_le_of_one_le hone (by norm_num))).trans ?_
    rw [div_le_iff₀ (by norm_num)]
    exact hn.trans (by norm_num)
  have hsecond : |x - y * unit| ≤ 2 ^ 10 := by
    have hquotient : (2 : ℚ) ^ (-1022 : Int) ≤ x / unit := by
      have hexponent : (2 : ℚ) ^ (-1022 : Int) ≤ 2 ^ (-74 : Int) :=
        zpow_le_zpow_right₀ (by norm_num) (by norm_num)
      refine hexponent.trans ((le_div_iff₀ hpos).2 ?_)
      refine le_trans (mul_le_mul_of_nonneg_left hle (by positivity)) (le_trans ?_ hxone)
      norm_num
    have hnear := mul_le_mul_of_nonneg_right (hy.abs_sub_le hquotient) hpos.le
    rw [← abs_of_pos hpos, ← abs_mul, abs_of_pos hpos, sub_mul, div_mul_cancel₀ _ hpos.ne',
      div_mul_eq_mul_div, div_mul_cancel₀ _ hpos.ne'] at hnear
    refine hnear.trans ((div_le_iff₀ (by norm_num)).2 (hxle.trans (by norm_num)))
  have hsteps := abs_le.1 ((abs_sub_le _ _ _).trans (add_le_add hfirst hsecond))
  have hbelow : (2 * q - 1) * unit + 2 ^ 12 < (2 * n : ℚ) := by
    have hle := (le_div_iff₀ hpos).1 hq.low
    have hcast : 2 ^ 12 < |(2 * n - (2 * (q - 1) + 1) * unit : ℚ)| := by
      exact_mod_cast hfar (q - 1)
    rw [abs_of_nonneg (by linarith)] at hcast
    linarith
  have habove : (2 * n : ℚ) + 2 ^ 12 < (2 * q + 1) * unit := by
    have hle := (div_le_iff₀ hpos).1 hq.high
    have hcast : 2 ^ 12 < |(2 * n - (2 * q + 1) * unit : ℚ)| := by
      exact_mod_cast hfar q
    rw [abs_of_nonpos (by linarith)] at hcast
    linarith
  refine isHalfEven_of_lt (lt_of_mul_lt_mul_right ?_ hpos.le) (lt_of_mul_lt_mul_right ?_ hpos.le)
  · linarith
  · linarith

end Appraisal.Number
