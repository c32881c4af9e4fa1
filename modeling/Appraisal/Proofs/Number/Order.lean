import Appraisal.Proofs.Number.Natural
import Appraisal.Value.Compare

/-!
# The order of floats

A float that is a number has a place on the number line (`Number.place?`), the infinities beyond all
others, and floats are compared by their places (`Number.order?_eq`). Whole numbers keep
their order when they become floats (`Number.place?_toFloat_mono`), though they may become equal.
-/

namespace Appraisal.Number

open Float.Model (Format UnpackedFloat)
open Float.Model.UnpackedFloat

/-- A magnitude with its sign. -/
def signed : Sign → ℚ → ℚ
  | .positive, x => x
  | .negative, x => -x

/-- The place of a float on the number line. No finite float reaches those of the infinities. -/
def place? (v : Float) : Option ℚ :=
  match v.toModel.unpack with
  | .notANumber => none
  | .infinity sign => some (signed sign (2 ^ (1024 : Int)))
  | .zero _ => some 0
  | .finite sign mantissa exponent _ => some (signed sign (mantissa * 2 ^ exponent))

variable {v w : Float} {s t : Sign} {x y : ℚ}

theorem HasMagnitude.place? (h : HasMagnitude v s x) : Number.place? v = some (signed s x) := by
  obtain ⟨m, e, hm, hv, rfl⟩ := h
  rw [Number.place?, hv]

theorem place?_eq_none_iff : place? v = none ↔ v.isNaN = true := by
  show place? v = none ↔ v.toModel.unpack.isNaN = true
  rw [place?]
  cases v.toModel.unpack with
  | notANumber => exact iff_of_true rfl rfl
  | _ => exact iff_of_false nofun nofun

theorem exists_place? (h : v.isNaN = false) : ∃ x, place? v = some x := by
  rw [← Option.ne_none_iff_exists', Ne, place?_eq_none_iff, h]
  exact Bool.false_ne_true

/-! ### Comparisons -/

theorem signed_lt_signed (hx : 0 < x) (hy : 0 < y) : signed .negative x < signed .positive y :=
  (neg_lt_zero.2 hx).trans hy

theorem compare_neg (x y : ℚ) : compare (-x) (-y) = (compare x y).swap := by
  rcases lt_trichotomy x y with h | rfl | h
  · rw [compare_lt_iff_lt.2 h, compare_gt_iff_gt.2 (neg_lt_neg h)]
    rfl
  · rw [compare_eq_iff_eq.2 rfl, compare_eq_iff_eq.2 rfl]
    rfl
  · rw [compare_gt_iff_gt.2 h, compare_lt_iff_lt.2 (neg_lt_neg h)]
    rfl

/-- Two numbers are compared by their places. -/
theorem compare_unpack (hx : place? v = some x) (hy : place? w = some y) :
    v.toModel.unpack.compare w.toModel.unpack = some (compare x y) := by
  have hrange {u : Float} {s : Sign} {m : Nat} {e : Int} {h : 0 < m}
      (hu : u.toModel.unpack = .finite s m e h) :
      (0 : ℚ) < m * 2 ^ e ∧ (m * 2 ^ e : ℚ) < 2 ^ (1024 : Int) :=
    have hmagnitude : HasMagnitude u s (m * 2 ^ e) := ⟨m, e, h, hu, rfl⟩
    ⟨hmagnitude.pos, hmagnitude.lt⟩
  have htop : (0 : ℚ) < 2 ^ (1024 : Int) := zpow_pos two_pos _
  have hlt {a b : ℚ} (h : a < b) : some .lt = some (compare a b) := by
    rw [compare_lt_iff_lt.2 h]
  have hgt {a b : ℚ} (h : b < a) : some .gt = some (compare a b) := by
    rw [compare_gt_iff_gt.2 h]
  have heq (a : ℚ) : some .eq = some (compare a a) := by
    rw [compare_eq_iff_eq.2 rfl]
  rw [place?] at hx hy
  cases hv : v.toModel.unpack <;> cases hw : w.toModel.unpack <;> rw [hv] at hx <;>
    rw [hw] at hy <;> cases hx <;> cases hy
  case infinity.infinity s t =>
    cases s <;> cases t
    · exact heq _
    · exact hlt (signed_lt_signed htop htop)
    · exact hgt (signed_lt_signed htop htop)
    · exact heq _
  case infinity.zero s t =>
    cases s
    · exact hlt (neg_lt_zero.2 htop)
    · exact hgt htop
  case zero.infinity s t =>
    cases t
    · exact hgt (neg_lt_zero.2 htop)
    · exact hlt htop
  case zero.zero => exact heq 0
  case infinity.finite s t n e hn =>
    obtain ⟨hpos, hmax⟩ := hrange hw
    cases s <;> cases t
    · exact hlt (neg_lt_neg hmax)
    · exact hlt (signed_lt_signed htop hpos)
    · exact hgt (signed_lt_signed hpos htop)
    · exact hgt hmax
  case finite.infinity s m d hm t =>
    obtain ⟨hpos, hmax⟩ := hrange hv
    cases s <;> cases t
    · exact hgt (neg_lt_neg hmax)
    · exact hlt (signed_lt_signed hpos htop)
    · exact hgt (signed_lt_signed htop hpos)
    · exact hlt hmax
  case zero.finite s t n e hn =>
    obtain ⟨hpos, -⟩ := hrange hw
    cases t
    · exact hgt (neg_lt_zero.2 hpos)
    · exact hlt hpos
  case finite.zero s m d hm t =>
    obtain ⟨hpos, -⟩ := hrange hv
    cases s
    · exact hlt (neg_lt_zero.2 hpos)
    · exact hgt hpos
  case finite.finite s m d hm t n e hn =>
    obtain ⟨hleft, -⟩ := hrange hv
    obtain ⟨hright, -⟩ := hrange hw
    have horder := (isCanonical_of_unpack hv).1.compare_eq (isCanonical_of_unpack hw).1
    cases s <;> cases t
    · show some ((compare d e).then (compare m n)).swap = some (compare (-_) (-_))
      rw [horder, compare_neg]
    · exact hlt (signed_lt_signed hleft hright)
    · exact hgt (signed_lt_signed hright hleft)
    · exact congrArg some horder

theorem lt_iff (hx : place? v = some x) (hy : place? w = some y) : v < w ↔ x < y := by
  show decide ((v.toModel.unpack.compare w.toModel.unpack == some .lt) = true) = true ↔ _
  rw [compare_unpack hx hy, decide_eq_true_iff, beq_iff_eq, Option.some.injEq, compare_lt_iff_lt]

theorem le_iff (hx : place? v = some x) (hy : place? w = some y) : v ≤ w ↔ x ≤ y := by
  show decide ((v.toModel.unpack.compare w.toModel.unpack).any (·.isLE) = true) = true ↔ _
  rw [compare_unpack hx hy, decide_eq_true_iff, Option.any_some,
    Std.LawfulBCmp.isLE_iff_le]

theorem beq_iff (hx : place? v = some x) (hy : place? w = some y) : (v == w) = true ↔ x = y := by
  show (v.toModel.unpack.compare w.toModel.unpack == some .eq) = true ↔ _
  rw [compare_unpack hx hy, beq_iff_eq, Option.some.injEq, compare_eq_iff_eq]

theorem order?_of_place (hx : place? v = some x) (hy : place? w = some y) :
    order? v w = some (compare x y) := by
  rw [order?]
  rcases lt_trichotomy x y with h | h | h
  · rw [if_pos ((lt_iff hx hy).2 h), compare_lt_iff_lt.2 h]
  · rw [if_neg (mt (lt_iff hx hy).1 h.not_lt), if_pos ((beq_iff hx hy).2 h),
      compare_eq_iff_eq.2 h]
  · rw [if_neg (mt (lt_iff hx hy).1 h.not_gt), if_neg (mt (beq_iff hx hy).1 h.ne'),
      if_pos ((lt_iff hy hx).2 h), compare_gt_iff_gt.2 h]

theorem unpack_of_place? (h : place? v = none) : v.toModel.unpack = .notANumber := by
  rw [place?] at h
  cases hv : v.toModel.unpack <;> rw [hv] at h <;> first | rfl | cases h

theorem order?_of_nan (h : place? v = none ∨ place? w = none) : order? v w = none := by
  have hcompare : v.toModel.unpack.compare w.toModel.unpack = none ∧
      w.toModel.unpack.compare v.toModel.unpack = none := by
    rcases h with h | h <;> rw [unpack_of_place? h]
    · exact ⟨rfl, by cases w.toModel.unpack <;> rfl⟩
    · exact ⟨by cases v.toModel.unpack <;> rfl, rfl⟩
  have hlt : ¬ v < w := by
    show ¬ decide ((v.toModel.unpack.compare w.toModel.unpack == some .lt) = true) = true
    rw [hcompare.1]
    exact Bool.false_ne_true
  have hgt : ¬ w < v := by
    show ¬ decide ((w.toModel.unpack.compare v.toModel.unpack == some .lt) = true) = true
    rw [hcompare.2]
    exact Bool.false_ne_true
  have heq : ¬ (v == w) = true := by
    show ¬ (v.toModel.unpack.compare w.toModel.unpack == some .eq) = true
    rw [hcompare.1]
    exact Bool.false_ne_true
  rw [order?, if_neg hlt, if_neg heq, if_neg hgt]

/-- **Floats are ordered by their places**, and without two places there is no order. -/
theorem order?_eq (v w : Float) :
    order? v w = (place? v).bind fun x => (place? w).map (compare x) := by
  cases hv : place? v with
  | none => exact order?_of_nan (.inl hv)
  | some x =>
    cases hw : place? w with
    | none => exact order?_of_nan (.inr hw)
    | some y => exact order?_of_place hv hw

/-- Floats that have a place in the order are equal just if their order says so. -/
theorem beq_of_order? {o : Ordering} (h : order? v w = some o) : (v == w) = (o == .eq) := by
  rw [order?_eq] at h
  obtain ⟨x, hx, h⟩ := Option.bind_eq_some_iff.1 h
  obtain ⟨y, hy, rfl⟩ := Option.map_eq_some_iff.1 h
  rw [Bool.eq_iff_iff, beq_iff hx hy, beq_iff_eq, compare_eq_iff_eq]

/-- A float that is a number equals itself. -/
theorem beq_self (h : v.isNaN = false) : (v == v) = true := by
  obtain ⟨x, hx⟩ := exists_place? h
  exact (beq_iff hx hx).2 rfl

/-! ### Whole numbers -/

/-- The float nearest to a whole number, zero included, has the place `x`. -/
def IsNearestTo (n : Int) (x : ℚ) : Prop :=
  n = 0 ∧ x = 0 ∨ 0 < n ∧ IsNearest n x ∨ n < 0 ∧ IsNearest (-n) (-x)

theorem IsNearestTo.mono {m n : Int} (hx : IsNearestTo m x) (hy : IsNearestTo n y) (h : m ≤ n) :
    x ≤ y := by
  rcases hx with ⟨hm, rfl⟩ | ⟨hm, hx⟩ | ⟨hm, hx⟩ <;>
    rcases hy with ⟨hn, rfl⟩ | ⟨hn, hy⟩ | ⟨hn, hy⟩ <;> try omega
  · exact le_rfl
  · exact hy.pos.le
  · exact hx.mono hy (by exact_mod_cast h)
  · exact neg_nonneg.1 hx.pos.le
  · exact (neg_pos.1 hx.pos).le.trans hy.pos.le
  · exact neg_le_neg_iff.1 (hy.mono hx (neg_le_neg (by exact_mod_cast h)))

theorem exists_place?_toFloat (i : Int64) :
    ∃ x, place? (toFloat i) = some x ∧ IsNearestTo i.toInt x := by
  by_cases hi : i = 0
  · subst hi
    exact ⟨0, rfl, .inl ⟨rfl, rfl⟩⟩
  obtain ⟨x, hnear, h⟩ := exists_hasMagnitude_toFloat hi
  refine ⟨_, h.place?, ?_⟩
  rw [Nat.cast_natAbs] at hnear
  rcases Int.lt_or_gt_of_ne (toInt_ne_zero hi) with hneg | hpos
  · rw [abs_of_neg hneg, Int.cast_neg] at hnear
    rw [signOf, if_pos hneg]
    exact .inr (.inr ⟨hneg, by rwa [signed, neg_neg]⟩)
  · rw [abs_of_pos hpos] at hnear
    rw [signOf, if_neg (Int.not_lt.2 hpos.le)]
    exact .inr (.inl ⟨hpos, hnear⟩)

/-- Whole numbers keep their order as floats. -/
theorem place?_toFloat_mono {i j : Int64} (h : i.toInt ≤ j.toInt)
    (hx : place? (toFloat i) = some x) (hy : place? (toFloat j) = some y) : x ≤ y := by
  obtain ⟨x', hx', hi⟩ := exists_place?_toFloat i
  obtain ⟨y', hy', hj⟩ := exists_place?_toFloat j
  cases hx.symm.trans hx'
  cases hy.symm.trans hy'
  exact hi.mono hj h

end Appraisal.Number
