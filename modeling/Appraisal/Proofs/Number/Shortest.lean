import Appraisal.Proofs.Number.Decimal

/-!
# Shortest decimals round to their float

Every decimal that the search accepts lies around the float (`Number.roundsTo_of_nearestOnGrid?`).
A grid that is finer than a quarter of the last place has such a decimal, and the last of the places
that are searched has such a grid, so the search never comes back empty
(`Number.roundsTo_shortest`).
-/

namespace Appraisal.Number

variable {tie : Tie} {mantissa k : Nat} {exponent place : Int}

/-- The two units of the comparison are in proportion to the steps of the two grids. -/
theorem ten_zpow_mul_scale (exponent place : Int) :
    (10 ^ place * (Nat.pow 10 (-place).toNat <<< exponent.toNat : ℕ) : ℚ) =
      2 ^ exponent * (Nat.pow 10 place.toNat <<< (-exponent).toNat : ℕ) := by
  have hten := zpow_mul_toNat (a := 10) (by norm_num) place
  have htwo := zpow_mul_toNat (a := 2) (by norm_num) exponent
  rw [Nat.shiftLeft_eq, Nat.shiftLeft_eq]
  push_cast [Nat.pow_eq]
  rw [← hten, ← htwo]
  ring

/-- What the search accepts is nearest to the float. -/
theorem roundsTo_of_nearestOnGrid? (h : nearestOnGrid? tie mantissa exponent place = some k) :
    RoundsTo (k * 10 ^ place) mantissa exponent := by
  have hunits := ten_zpow_mul_scale exponent place
  unfold nearestOnGrid? at h
  extract_lets scale unit value below above step inside n down up takesUpper at h
  change (10 ^ place * (scale : ℕ) : ℚ) = 2 ^ exponent * (unit : ℕ) at hunits
  have hpos : 0 < scale := by
    simp only [scale, Nat.shiftLeft_eq, Nat.pow_eq]
    positivity
  have hinside : inside k = true := by
    split at h
    · split at h
      · next hupper => rwa [← Option.some.inj h]
      · cases h
    · next hlower =>
      rw [← Option.some.inj h]
      by_contra hnot
      exact hlower (if_neg hnot)
  have hbounds : below ≤ k * step ∧ k * step ≤ above ∧
      (mantissa % 2 = 1 → below < k * step ∧ k * step < above) := by
    simp only [inside] at hinside
    split at hinside <;> simp only [Bool.and_eq_true, decide_eq_true_eq] at hinside <;> omega
  obtain ⟨hlow, hhigh, hodd⟩ := hbounds
  have hscale : (0 : ℚ) < 4 * scale := by positivity
  have htwo : (0 : ℚ) < 2 ^ exponent := zpow_pos (by norm_num) exponent
  -- the decimal and the ends of the interval in the unit of the comparison
  have hk : (k * 10 ^ place * (4 * scale) : ℚ) = 2 ^ exponent * (k * step : ℕ) := by
    simp only [step]
    push_cast
    linear_combination (4 * k : ℚ) * hunits
  have habove : (mantissa + 1 / 2) * 2 ^ exponent * (4 * scale) = 2 ^ exponent * (above : ℚ) := by
    simp only [above, value]
    push_cast
    ring
  have hbelow : (mantissa - gapBelow mantissa exponent / 4) * 2 ^ exponent * (4 * scale) ≤
      2 ^ exponent * (below : ℚ) := by
    have hsub : value ≤ below + gapBelow mantissa exponent * scale := Nat.le_add_of_sub_le le_rfl
    have hcast : (4 * mantissa * scale : ℚ) ≤ below + gapBelow mantissa exponent * scale := by
      exact_mod_cast hsub
    refine le_trans (le_of_eq ?_) (mul_le_mul_of_nonneg_left (sub_le_iff_le_add.2 hcast) htwo.le)
    ring
  refine ⟨le_of_mul_le_mul_right ?_ hscale, le_of_mul_le_mul_right ?_ hscale, ?_⟩
  · rw [hk]
    exact hbelow.trans (mul_le_mul_of_nonneg_left (by exact_mod_cast hlow) htwo.le)
  · rw [hk, habove]
    exact mul_le_mul_of_nonneg_left (by exact_mod_cast hhigh) htwo.le
  · intro hm
    obtain ⟨hlt, hgt⟩ := hodd hm
    have hgap : gapBelow mantissa exponent = 2 := by
      rcases gapBelow_eq mantissa exponent with ⟨-, rfl, -⟩ | ⟨hgap, -⟩
      · cases hm
      · exact hgap
    have hhalf : (mantissa - 1 / 2 : ℚ) = mantissa - (gapBelow mantissa exponent : ℕ) / 4 := by
      rw [hgap]
      norm_num
    rw [hhalf]
    refine ⟨lt_of_mul_lt_mul_right ?_ hscale.le, lt_of_mul_lt_mul_right ?_ hscale.le⟩
    · rw [hk]
      exact hbelow.trans_lt (mul_lt_mul_of_pos_left (by exact_mod_cast hlt) htwo)
    · rw [hk, habove]
      exact mul_lt_mul_of_pos_left (by exact_mod_cast hgt) htwo

/-- On a grid with steps of at most a quarter of the last place there is a decimal that rounds to
the float. -/
theorem isSome_nearestOnGrid? (hm : 0 < mantissa) (h : (10 ^ place : ℚ) ≤ 2 ^ (exponent - 2)) :
    (nearestOnGrid? tie mantissa exponent place).isSome := by
  have hunits := ten_zpow_mul_scale exponent place
  unfold nearestOnGrid?
  extract_lets scale unit value below above step inside n down up takesUpper
  change (10 ^ place * (scale : ℕ) : ℚ) = 2 ^ exponent * (unit : ℕ) at hunits
  have hpos : 0 < scale := by
    simp only [scale, Nat.shiftLeft_eq, Nat.pow_eq]
    positivity
  have hunit : 0 < unit := by
    simp only [unit, Nat.shiftLeft_eq, Nat.pow_eq]
    positivity
  have hfine : step ≤ scale := by
    have htwo : (0 : ℚ) < 2 ^ exponent := zpow_pos (by norm_num) exponent
    have hscale : (0 : ℚ) < scale := by exact_mod_cast hpos
    rw [zpow_sub₀ (by norm_num), le_div_iff₀ (by norm_num)] at h
    have hcast : (4 * unit : ℚ) ≤ scale := by
      refine le_of_mul_le_mul_left ?_ htwo
      calc 2 ^ exponent * (4 * unit : ℚ) = 10 ^ place * 2 ^ (2 : Int) * scale := by
            linear_combination (-4 : ℚ) * hunits
        _ ≤ 2 ^ exponent * scale := mul_le_mul_of_nonneg_right h hscale.le
    exact_mod_cast hcast
  -- the multiple of the step below the float is less than one step below it
  have hinside : inside n = true := by
    have hgap : scale ≤ gapBelow mantissa exponent * scale ∧
        gapBelow mantissa exponent * scale ≤ 2 * scale := by
      rcases gapBelow_eq mantissa exponent with ⟨hgap, -⟩ | ⟨hgap, -⟩ <;> rw [hgap] <;> omega
    have hvalue : 4 * scale ≤ value :=
      Nat.mul_le_mul_right scale (Nat.le_mul_of_pos_right 4 hm)
    have hstep : 0 < step := Nat.mul_pos (by decide) hunit
    have hdown : n * step ≤ value := Nat.div_mul_le_self value step
    have hup : value < n * step + step := by
      have := Nat.lt_mul_div_succ value hstep
      rwa [Nat.mul_comm, Nat.succ_mul] at this
    simp only [inside]
    split <;> simp only [Bool.and_eq_true, decide_eq_true_eq] <;> omega
  split
  · next htakes =>
    have hupper : inside (n + 1) = true := by
      simp only [takesUpper, hinside, if_true, Bool.and_eq_true] at htakes
      exact htakes.1
    rw [if_pos hupper]
    rfl
  · rfl

/-! ### The search -/

/-- Powers compare as their exponents do, in the proportion of two known powers. -/
theorem pow_le_pow_of_proportion {a b p q i j : Nat} (hb : 0 < b) (hp : p ≠ 0)
    (h : a ^ p ≤ b ^ q) (hij : q * i ≤ p * j) : a ^ i ≤ b ^ j := by
  refine (Nat.pow_le_pow_iff_left hp).1 ?_
  calc (a ^ i) ^ p = (a ^ p) ^ i := Nat.pow_right_comm a i p
    _ ≤ (b ^ q) ^ i := Nat.pow_le_pow_left h i
    _ = b ^ (q * i) := (Nat.pow_mul b q i).symm
    _ ≤ b ^ (p * j) := Nat.pow_le_pow_right hb hij
    _ = (b ^ j) ^ p := by rw [Nat.mul_comm, Nat.pow_mul]

/-- A power of ten below a power of two, by 10³¹ ≤ 2¹⁰³ and 2⁹³ ≤ 10²⁸. -/
theorem ten_zpow_le_two_zpow {i j : Int} (hup : 103 * i ≤ 31 * j) (hdown : 93 * i ≤ 28 * j) :
    (10 ^ i : ℚ) ≤ 2 ^ j := by
  rcases Int.le_total 0 i with hi | hi
  · lift i to ℕ using hi
    lift j to ℕ using by omega
    have h := pow_le_pow_of_proportion (i := i) (j := j) (p := 31) (q := 103) two_pos (by decide)
      (by decide : 10 ^ 31 ≤ 2 ^ 103) (by omega)
    exact_mod_cast h
  rcases Int.le_total 0 j with hj | hj
  · exact (zpow_le_one_of_nonpos₀ (by norm_num) hi).trans (one_le_zpow₀ (by norm_num) hj)
  · obtain ⟨m, rfl⟩ := Int.exists_eq_neg_ofNat hi
    obtain ⟨n, rfl⟩ := Int.exists_eq_neg_ofNat hj
    have h := pow_le_pow_of_proportion (i := n) (j := m) (p := 93) (q := 28) (by decide)
      (by decide) (by decide : 2 ^ 93 ≤ 10 ^ 28) (by omega)
    rw [zpow_neg, zpow_neg, zpow_natCast, zpow_natCast]
    exact inv_anti₀ (by positivity) (by exact_mod_cast h)

theorem nearestOnGrid?_of_shortestFrom {d : Decimal} {steps : Nat}
    (h : shortestFrom tie mantissa exponent steps place = some d) :
    nearestOnGrid? tie mantissa exponent d.exponent = some d.digits := by
  induction steps generalizing place with
  | zero => cases h
  | succ steps ih =>
    rw [shortestFrom] at h
    split at h
    · next k hk =>
      cases h
      exact hk
    · exact ih h

/-- The search succeeds if some place in its range does. -/
theorem isSome_shortestFrom {steps j : Nat} (hj : j < steps)
    (h : (nearestOnGrid? tie mantissa exponent (place - j)).isSome) :
    (shortestFrom tie mantissa exponent steps place).isSome := by
  induction steps generalizing place j with
  | zero => exact absurd hj (Nat.not_lt_zero j)
  | succ steps ih =>
    rw [shortestFrom]
    split
    · rfl
    · next hnone =>
      cases j with
      | zero => simp [hnone] at h
      | succ j =>
        refine ih (Nat.lt_of_succ_lt_succ hj) ?_
        rwa [Int.sub_sub, Int.add_comm 1 j]

/-- The shortest decimal of a float rounds to it. -/
theorem roundsTo_shortest (tie : Tie) (hc : IsCanonical mantissa exponent) (hmax : exponent ≤ 971) :
    RoundsTo ((shortest tie mantissa exponent).digits *
      10 ^ (shortest tie mantissa exponent).exponent) mantissa exponent := by
  have hlog : mantissa.log2 ≤ 52 := Nat.le_of_lt_succ ((Nat.log2_lt hc.pos.ne').2 hc.lt)
  have hmin := hc.min_le
  have hlast : (10 ^ (placeAbove mantissa exponent - (21 : ℕ)) : ℚ) ≤ 2 ^ (exponent - 2) := by
    rw [placeAbove]
    exact ten_zpow_le_two_zpow (by omega) (by omega)
  have hsearch :
      (shortestFrom tie mantissa exponent 22 (placeAbove mantissa exponent)).isSome :=
    isSome_shortestFrom (by decide) (isSome_nearestOnGrid? hc.pos hlast)
  obtain ⟨d, hd⟩ := Option.isSome_iff_exists.1 hsearch
  rw [shortest, hd, Option.getD_some]
  exact roundsTo_of_nearestOnGrid? (nearestOnGrid?_of_shortestFrom hd)

end Appraisal.Number
