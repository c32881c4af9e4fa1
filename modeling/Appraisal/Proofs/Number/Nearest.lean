import Appraisal.Proofs.Number.Rounding

/-!
# Nearest floats

`Number.RoundsTo` says which numbers a float is nearest to. This module says that it is a function
of numbers, and what kind of one.

* Every positive number that is not too small has a nearest float (`Number.exists_roundsTo`). It is
  found by rounding a mantissa to a whole number, half of the way to an even one
  (`Number.IsHalfEven`).
* Rounding keeps the order (`Number.RoundsTo.mono`), so that it has one result
  (`Number.RoundsTo.unique`).
* It moves a number by one part in 2⁵³ at most (`Number.RoundsTo.abs_sub_le`), and a whole number to
  a whole number (`Number.IsNearest.exists_natCast`).
-/

namespace Appraisal.Number

variable {x y : ℚ} {m n : Nat} {d e : Int}

/-! ### Nearest whole numbers -/

theorem isHalfEven_self (n : Nat) : IsHalfEven n n :=
  ⟨by linarith, by linarith, fun _ => ⟨by linarith, by linarith⟩⟩

theorem IsHalfEven.le (h : IsHalfEven x m) (hy : IsHalfEven y n) (hxy : x ≤ y) : m ≤ n := by
  by_contra hlt
  have hcast : (n + 1 : ℚ) ≤ m := by exact_mod_cast Nat.not_le.1 hlt
  have hlow := h.low
  have hhigh := hy.high
  -- the two are neighbours, and both numbers lie halfway between them, where only the even one
  -- is taken
  have hnext : m = n + 1 := by
    have : (m : ℚ) ≤ n + 1 := by linarith
    have : m ≤ n + 1 := by exact_mod_cast this
    omega
  rcases Nat.mod_two_eq_zero_or_one n with hn | hn
  · have := (h.odd (by omega)).1
    linarith
  · have := (hy.odd hn).2
    linarith

theorem IsHalfEven.unique (h : IsHalfEven x m) (hn : IsHalfEven x n) : m = n :=
  Nat.le_antisymm (h.le hn le_rfl) (hn.le h le_rfl)

/-- A number has a nearest whole number. -/
theorem exists_isHalfEven (hx : 0 ≤ x) : ∃ n, IsHalfEven x n := by
  have hlow := Nat.floor_le hx
  have hhigh := Nat.lt_floor_add_one x
  generalize ⌊x⌋₊ = n at hlow hhigh
  rcases lt_trichotomy x (n + 1 / 2) with hlt | heq | hgt
  · exact ⟨n, by linarith, hlt.le, fun _ => ⟨by linarith, hlt⟩⟩
  · rcases Nat.mod_two_eq_zero_or_one n with hn | hn
    · exact ⟨n, by linarith, heq.le, fun hodd => by omega⟩
    · exact ⟨n + 1, by push_cast; linarith, by push_cast; linarith, fun hodd => by omega⟩
  · refine ⟨n + 1, by push_cast; linarith, by push_cast; linarith, fun _ => ?_⟩
    push_cast
    exact ⟨by linarith, by linarith⟩

/-! ### The order of floats -/

/-- Of two floats the one with the greater exponent is greater. -/
theorem IsCanonical.lt_of_exponent_lt (hm : IsCanonical m d) (hn : IsCanonical n e) (h : d < e) :
    (m * 2 ^ d : ℚ) < n * 2 ^ e := by
  have hmin := hm.min_le
  have hlt : (m : ℚ) < 2 ^ 53 := by exact_mod_cast hm.lt
  have hbits : (2 ^ 52 : ℚ) ≤ n := by exact_mod_cast hn.normal.resolve_right (by omega)
  calc (m * 2 ^ d : ℚ) < 2 ^ 53 * 2 ^ d := mul_lt_mul_of_pos_right hlt (by positivity)
    _ = 2 ^ 52 * 2 ^ (d + 1) := by rw [zpow_add_one₀ (by norm_num)]; ring
    _ ≤ 2 ^ 52 * 2 ^ e :=
      mul_le_mul_of_nonneg_left (zpow_le_zpow_right₀ (by norm_num) h) (by positivity)
    _ ≤ n * 2 ^ e := mul_le_mul_of_nonneg_right hbits (by positivity)

/-- Floats are ordered by their exponents and then by their mantissas. -/
theorem IsCanonical.compare_eq (hm : IsCanonical m d) (hn : IsCanonical n e) :
    (compare d e).then (compare m n) = compare (m * 2 ^ d : ℚ) (n * 2 ^ e) := by
  rcases lt_trichotomy d e with h | rfl | h
  · rw [compare_lt_iff_lt.2 h, compare_lt_iff_lt.2 (hm.lt_of_exponent_lt hn h)]
    rfl
  · rw [compare_eq_iff_eq.2 rfl, Ordering.then]
    have hunit : (0 : ℚ) < 2 ^ d := by positivity
    rcases lt_trichotomy m n with h | rfl | h
    · rw [compare_lt_iff_lt.2 h, eq_comm, compare_lt_iff_lt]
      exact mul_lt_mul_of_pos_right (by exact_mod_cast h) hunit
    · rw [compare_eq_iff_eq.2 rfl, eq_comm, compare_eq_iff_eq]
    · rw [compare_gt_iff_gt.2 h, eq_comm, compare_gt_iff_gt]
      exact mul_lt_mul_of_pos_right (by exact_mod_cast h) hunit
  · rw [compare_gt_iff_gt.2 h, compare_gt_iff_gt.2 (hn.lt_of_exponent_lt hm h)]
    rfl

/-- A whole number of at most 53 bits times a power of two is a float. -/
theorem exists_isCanonical_mul (hm : 0 < m) (hlt : m < 2 ^ 53) (he : -1022 ≤ e) :
    ∃ mantissa exponent, IsCanonical mantissa exponent ∧ 2 ^ 52 ≤ mantissa ∧
      e - 52 ≤ exponent ∧ exponent ≤ e ∧ (mantissa * 2 ^ exponent : ℚ) = m * 2 ^ e := by
  have hlog : m.log2 ≤ 52 := Nat.le_of_lt_succ ((Nat.log2_lt hm.ne').2 hlt)
  have hlow : 2 ^ 52 ≤ m * 2 ^ (52 - m.log2) := by
    calc 2 ^ 52 = 2 ^ m.log2 * 2 ^ (52 - m.log2) := by rw [← pow_add]; congr 1; omega
      _ ≤ m * 2 ^ (52 - m.log2) := Nat.mul_le_mul_right _ (Nat.log2_self_le hm.ne')
  have hhigh : m * 2 ^ (52 - m.log2) < 2 ^ 53 := by
    calc m * 2 ^ (52 - m.log2) < 2 ^ (m.log2 + 1) * 2 ^ (52 - m.log2) :=
          Nat.mul_lt_mul_of_pos_right Nat.lt_log2_self (by positivity)
      _ = 2 ^ 53 := by rw [← pow_add]; congr 1; omega
  refine ⟨m * 2 ^ (52 - m.log2), e - (52 - m.log2 : ℕ), ⟨by positivity, hhigh, by omega, .inl hlow⟩,
    hlow, by omega, by omega, ?_⟩
  rw [zpow_sub₀ (by norm_num), zpow_natCast]
  push_cast
  field_simp

/-! ### Rounding as a function -/

/-- Rounding keeps the order. -/
theorem RoundsTo.mono (hx : RoundsTo x m d) (hm : IsCanonical m d) (hy : RoundsTo y n e)
    (hn : IsCanonical n e) (h : x ≤ y) : (m * 2 ^ d : ℚ) ≤ n * 2 ^ e := by
  by_contra hlt
  rw [not_le] at hlt
  have hunit : (0 : ℚ) < 2 ^ e := by positivity
  rcases lt_trichotomy d e with hd | rfl | hd
  · exact absurd (hm.lt_of_exponent_lt hn hd) hlt.not_gt
  · have hle := hx.isHalfEven.le hy.isHalfEven (div_le_div_of_nonneg_right h hunit.le)
    have hle : (m : ℚ) ≤ n := by exact_mod_cast hle
    exact absurd (mul_le_mul_of_nonneg_right hle hunit.le) (not_le.2 hlt)
  · -- the end of the smaller binade is the start of the greater one
    have hbelow : y < (2 ^ 53 - 1 / 2) * 2 ^ e := by
      rcases Nat.mod_two_eq_zero_or_one n with heven | hodd
      · have hbits : n + 2 ≤ 2 ^ 53 := by
          have := hn.lt
          omega
        have hbits : (n + 2 : ℚ) ≤ 2 ^ 53 := by exact_mod_cast hbits
        exact hy.high.trans_lt (mul_lt_mul_of_pos_right (by linarith) hunit)
      · have hbits : (n + 1 : ℚ) ≤ 2 ^ 53 := by exact_mod_cast hn.lt
        exact (hy.odd hodd).2.trans_le (mul_le_mul_of_nonneg_right (by linarith) hunit.le)
    have hdouble : (2 * 2 ^ e : ℚ) ≤ 2 ^ d := by
      rw [mul_comm, ← zpow_add_one₀ (by norm_num)]
      exact zpow_le_zpow_right₀ (by norm_num) hd
    have hmin := hn.min_le
    have hbits : 2 ^ 52 ≤ m := hm.normal.resolve_right (by omega)
    have habove : (2 ^ 52 - 1 / 4 : ℚ) ≤ m - gapBelow m d / 4 := by
      rcases gapBelow_eq m d with ⟨hgap, rfl, -⟩ | ⟨hgap, hnot⟩ <;> rw [hgap]
      · norm_num
      · have hne : 2 ^ 52 + 1 ≤ m := by omega
        have hne : (2 ^ 52 + 1 : ℚ) ≤ m := by exact_mod_cast hne
        push_cast
        linarith
    have hxlow := hx.low
    have hproduct : (2 ^ 52 - 1 / 4 : ℚ) * (2 * 2 ^ e) ≤ (m - gapBelow m d / 4) * 2 ^ d :=
      mul_le_mul habove hdouble (by positivity) (le_trans (by norm_num) habove)
    linarith

/-- A number has one nearest float. -/
theorem RoundsTo.unique (hx : RoundsTo x m d) (hm : IsCanonical m d) (hy : RoundsTo x n e)
    (hn : IsCanonical n e) : (m * 2 ^ d : ℚ) = n * 2 ^ e :=
  le_antisymm (hx.mono hm hy hn le_rfl) (hy.mono hn hx hm le_rfl)

/-- Rounding moves a number by one part in 2⁵³ at most, unless the number is very small. -/
theorem RoundsTo.abs_sub_le (h : RoundsTo x m e) (hm : IsCanonical m e)
    (hx : 2 ^ (-1022 : Int) ≤ x) : |x - m * 2 ^ e| ≤ x / 2 ^ 53 := by
  have hunit : (0 : ℚ) < 2 ^ e := by positivity
  have hlow := h.low
  have hhigh := h.high
  have hbits : 2 ^ 52 ≤ m := by
    by_contra hlt
    obtain rfl := hm.normal.resolve_left hlt
    have hlt : (m + 1 : ℚ) ≤ 2 ^ 52 := by exact_mod_cast Nat.not_le.1 hlt
    have hless : (m + 1 / 2 : ℚ) * 2 ^ (-1074 : Int) < 2 ^ 52 * 2 ^ (-1074 : Int) :=
      mul_lt_mul_of_pos_right (by linarith) hunit
    rw [← zpow_natCast 2 52, ← zpow_add₀ two_ne_zero] at hless
    exact absurd (hx.trans hhigh) (not_le.2 hless)
  rw [abs_le, le_div_iff₀ (by norm_num), neg_le, le_div_iff₀ (by norm_num)]
  rcases gapBelow_eq m e with ⟨hgap, rfl, -⟩ | ⟨hgap, hnot⟩ <;> rw [hgap] at hlow
  · push_cast at hlow hhigh ⊢
    constructor <;> linarith
  · have hbelow : (2 ^ 52 * 2 ^ e : ℚ) ≤ x := by
      by_cases hleast : e = -1074
      · rw [hleast, ← zpow_natCast 2 52, ← zpow_add₀ two_ne_zero]
        exact hx
      · have hmin := hm.min_le
        have hbits : (2 ^ 52 + 1 : ℚ) ≤ m := by
          have : 2 ^ 52 + 1 ≤ m := by omega
          exact_mod_cast this
        refine le_trans (mul_le_mul_of_nonneg_right ?_ hunit.le) hlow
        push_cast
        linarith
    push_cast at hlow hhigh ⊢
    constructor <;> linarith

/-- The exponent at which a number has 53 bits before its point, or the least one. -/
theorem exists_exponent (hx : 2 ^ (-1074 : Int) ≤ x) : ∃ e : Int, -1074 ≤ e ∧ 1 ≤ x / 2 ^ e ∧
    x / 2 ^ e < 2 ^ 53 ∧ (2 ^ 52 ≤ x / 2 ^ e ∨ e = -1074) := by
  have hpos : 0 < x := lt_of_lt_of_le (by positivity) hx
  have hbelow : (2 : ℚ) ^ Int.log 2 x ≤ x := Int.zpow_log_le_self (by norm_num) hpos
  have habove : x < (2 : ℚ) ^ (Int.log 2 x + 1) := Int.lt_zpow_succ_log_self (by norm_num) x
  generalize Int.log 2 x = k at hbelow habove
  refine ⟨max (k - 52) (-1074), le_max_right _ _, ?_⟩
  generalize he : max (k - 52) (-1074 : Int) = e
  have hunit : (0 : ℚ) < 2 ^ e := by positivity
  have hhigh : x / 2 ^ e < 2 ^ 53 := by
    rw [div_lt_iff₀ hunit, ← zpow_natCast, ← zpow_add₀ (by norm_num)]
    exact habove.trans_le (zpow_le_zpow_right₀ (by norm_num) (by push_cast; omega))
  rcases max_cases (k - 52) (-1074 : Int) with ⟨hk, -⟩ | ⟨hk, -⟩
  · have hlow : 2 ^ 52 ≤ x / 2 ^ e := by
      rw [le_div_iff₀ hunit, ← zpow_natCast, ← zpow_add₀ (by norm_num)]
      exact (zpow_le_zpow_right₀ (by norm_num) (by push_cast; omega)).trans hbelow
    exact ⟨le_trans (by norm_num) hlow, hhigh, .inl hlow⟩
  · obtain rfl : e = -1074 := he.symm.trans hk
    exact ⟨(le_div_iff₀ hunit).2 (by rwa [one_mul]), hhigh, .inr rfl⟩

/-- Every number from the least float on has a nearest float. -/
theorem exists_roundsTo (hx : 2 ^ (-1074 : Int) ≤ x) :
    ∃ mantissa exponent, IsCanonical mantissa exponent ∧ RoundsTo x mantissa exponent := by
  obtain ⟨e, hmin, hone, hlt, hnormal⟩ := exists_exponent hx
  obtain ⟨n, hn⟩ := exists_isHalfEven (zero_le_one.trans hone)
  have hunit : (0 : ℚ) < 2 ^ e := by positivity
  have hlow := (le_div_iff₀ hunit).1 hn.low
  have hhigh := (div_le_iff₀ hunit).1 hn.high
  have hbits : n < 2 ^ 53 ∨ n = 2 ^ 53 := by
    have hle : (n : ℚ) < 2 ^ 53 + 1 := by linarith [hn.low]
    have hle : n < 2 ^ 53 + 1 := by exact_mod_cast hle
    omega
  rcases hbits with hbits | rfl
  · have hpos : 0 < n := by
      have : (0 : ℚ) < n := by linarith [hn.high]
      exact_mod_cast this
    have hcanonical : 2 ^ 52 ≤ n ∨ e = -1074 := by
      refine hnormal.imp_left fun hnormal => ?_
      have : (2 ^ 52 : ℚ) < n + 1 := by linarith [hn.high]
      exact Nat.le_of_lt_succ (by exact_mod_cast this)
    refine ⟨n, e, ⟨hpos, hbits, hmin, hcanonical⟩, ?_, hhigh, fun hodd => ?_⟩
    · rcases gapBelow_eq n e with ⟨hgap, rfl, he⟩ | ⟨hgap, -⟩ <;> rw [hgap]
      · -- a power of two is reached from above
        have hle := (le_div_iff₀ hunit).1 (hnormal.resolve_right (by omega))
        push_cast
        linarith
      · push_cast
        linarith
    · exact ⟨(lt_div_iff₀ hunit).1 (hn.odd hodd).1, (div_lt_iff₀ hunit).1 (hn.odd hodd).2⟩
  · -- the mantissa is rounded up to the next power of two
    have hdouble : (2 : ℚ) ^ (e + 1) = 2 * 2 ^ e := by
      rw [zpow_add_one₀ (by norm_num), mul_comm]
    have hgap : gapBelow (2 ^ 52) (e + 1) = 1 := if_pos ⟨rfl, Int.lt_add_one_of_le hmin⟩
    have hlt := (div_lt_iff₀ hunit).1 hlt
    refine ⟨2 ^ 52, e + 1, ⟨by norm_num, by norm_num, by omega, .inl le_rfl⟩, ?_, ?_, by norm_num⟩
    · rw [hgap, hdouble]
      push_cast at hlow ⊢
      linarith
    · rw [hdouble]
      push_cast
      linarith

/-! ### Values of nearest floats -/

/-- The float nearest to `x` has the value `y`. -/
def IsNearest (x y : ℚ) : Prop :=
  ∃ mantissa exponent, IsCanonical mantissa exponent ∧ RoundsTo x mantissa exponent ∧
    y = mantissa * 2 ^ exponent

variable {a b : ℚ}

theorem exists_isNearest (hx : 2 ^ (-1074 : Int) ≤ x) : ∃ y, IsNearest x y := by
  obtain ⟨m, e, hc, h⟩ := exists_roundsTo hx
  exact ⟨_, m, e, hc, h, rfl⟩

theorem IsNearest.mono (hx : IsNearest x a) (hy : IsNearest y b) (h : x ≤ y) : a ≤ b := by
  obtain ⟨m, d, hm, hxm, rfl⟩ := hx
  obtain ⟨n, e, hn, hyn, rfl⟩ := hy
  exact hxm.mono hm hyn hn h

theorem IsNearest.unique (ha : IsNearest x a) (hb : IsNearest x b) : a = b :=
  le_antisymm (ha.mono hb le_rfl) (hb.mono ha le_rfl)

theorem IsNearest.pos (h : IsNearest x y) : 0 < y := by
  obtain ⟨m, e, hc, -, rfl⟩ := h
  have hm : (0 : ℚ) < m := by exact_mod_cast hc.pos
  positivity

theorem IsNearest.left_pos (h : IsNearest x y) : 0 < x := by
  obtain ⟨m, e, hc, h, -⟩ := h
  exact h.pos hc

/-- A whole number of at most 53 bits times a power of two has no nearer float than itself. -/
theorem isNearest_mul (hm : 0 < m) (hlt : m < 2 ^ 53) (he : -1022 ≤ e) :
    IsNearest (m * 2 ^ e) (m * 2 ^ e) := by
  obtain ⟨n, d, hc, -, -, -, hvalue⟩ := exists_isCanonical_mul hm hlt he
  exact ⟨n, d, hc, hvalue ▸ roundsTo_self n d, hvalue.symm⟩

theorem two_zpow_le_of_one_le (hx : 1 ≤ x) (he : e ≤ 0) : 2 ^ e ≤ x :=
  (zpow_le_one_of_nonpos₀ one_le_two he).trans hx

theorem exists_isNearest_of_one_le (hx : 1 ≤ x) : ∃ y, IsNearest x y :=
  exists_isNearest (two_zpow_le_of_one_le hx (by norm_num))

theorem IsNearest.abs_sub_le (h : IsNearest x y) (hx : 2 ^ (-1022 : Int) ≤ x) :
    |x - y| ≤ x / 2 ^ 53 := by
  obtain ⟨m, e, hc, h, rfl⟩ := h
  exact h.abs_sub_le hc hx

theorem isNearest_natCast (hm : 0 < m) (hlt : m < 2 ^ 53) : IsNearest m m := by
  have h := isNearest_mul hm hlt (by decide : (-1022 : Int) ≤ 0)
  rwa [zpow_zero, mul_one] at h

theorem isNearest_two_zpow (he : -1022 ≤ e) : IsNearest (2 ^ e) (2 ^ e) := by
  have h := isNearest_mul one_pos (by norm_num) he
  rwa [Nat.cast_one, one_mul] at h

theorem IsNearest.one_le (h : IsNearest x y) (hx : 1 ≤ x) : 1 ≤ y := by
  have hself := isNearest_two_zpow (by norm_num : (-1022 : Int) ≤ 0)
  rw [zpow_zero] at hself
  exact hself.mono h hx

/-- A number below a power of two has no nearest float beyond it. -/
theorem IsNearest.le_two_zpow (h : IsNearest x y) (hx : x ≤ 2 ^ e) (he : -1022 ≤ e) : y ≤ 2 ^ e :=
  h.mono (isNearest_two_zpow he) hx

/-! ### Whole numbers -/

/-- A whole number of at most 53 bits, times a power of two. -/
def IsShort (n : Nat) : Prop := ∃ a j : Nat, a < 2 ^ 53 ∧ n = a * 2 ^ j

theorem isShort_of_lt (h : n < 2 ^ 53) : IsShort n := ⟨n, 0, h, by rw [pow_zero, mul_one]⟩

/-- The float nearest to a whole number is one, and it is the number itself if that is short. -/
theorem IsNearest.exists_natCast (h : IsNearest n y) :
    ∃ k : Nat, y = k ∧ (k = n ↔ IsShort n) := by
  have hn : 0 < n := by exact_mod_cast h.left_pos
  by_cases hlt : n < 2 ^ 53
  · exact ⟨n, h.unique (isNearest_natCast hn hlt), iff_of_true rfl (isShort_of_lt hlt)⟩
  have hlarge : (2 ^ (53 : Int) : ℚ) ≤ y :=
    (isNearest_two_zpow (by norm_num)).mono h (by exact_mod_cast Nat.not_lt.1 hlt)
  obtain ⟨m, e, hc, hround, rfl⟩ := id h
  have he : 0 ≤ e := by
    by_contra hneg
    have hm : (m : ℚ) < 2 ^ (53 : Int) := by exact_mod_cast hc.lt
    have hunit : (2 : ℚ) ^ e ≤ 1 := zpow_le_one_of_nonpos₀ (by norm_num) (by omega)
    exact absurd hlarge (not_le.2 ((mul_le_of_le_one_right (Nat.cast_nonneg m) hunit).trans_lt hm))
  obtain ⟨j, rfl⟩ := Int.eq_ofNat_of_zero_le he
  have hvalue : (m * 2 ^ (j : Int) : ℚ) = (m * 2 ^ j : ℕ) := by
    push_cast
    rw [zpow_natCast]
  refine ⟨m * 2 ^ j, hvalue, fun heq => ⟨m, j, hc.lt, heq.symm⟩, ?_⟩
  rintro ⟨a, i, ha, rfl⟩
  have hpos : 0 < a := Nat.pos_of_mul_pos_right hn
  have hself : IsNearest (a * 2 ^ i : ℕ) (a * 2 ^ i : ℕ) := by
    have := isNearest_mul hpos ha (by omega : (-1022 : Int) ≤ i)
    rw [zpow_natCast] at this
    exact_mod_cast this
  have heq := h.unique hself
  rw [hvalue] at heq
  exact_mod_cast heq

end Appraisal.Number
