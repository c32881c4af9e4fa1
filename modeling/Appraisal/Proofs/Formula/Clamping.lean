import Appraisal.Proofs.Formula.Abort
import Appraisal.Proofs.Value.Order

/-!
# Numbers kept between bounds

`clamp` compares three whole numbers exactly and all other numbers as floats, whereas its bounds are
ordered like any two values. The two views do not get in each other's way: between bounds that are
in order every number is kept between them, itself if it lies there and else the nearer bound
(`Builtin.call_clamp`). On floats that is the place between two places
(`Builtin.exists_clampFloat`).
-/

namespace Appraisal.Builtin

open Value

variable {v lo hi : Float} {px pl ph : ℚ} {x low high : Value}

/-- On floats the number is kept in the place between two places. -/
theorem exists_clampFloat (hv : Number.place? v = some px) (hlo : Number.place? lo = some pl)
    (hhi : Number.place? hi = some ph) (h : pl ≤ ph) :
    ∃ w, clampFloat v lo hi = .float w ∧ Number.place? w = some (Max.max pl (Min.min px ph)) := by
  rw [clampFloat]
  split
  · next hlt =>
    have hlt := (Number.lt_iff hv hlo).1 hlt
    exact ⟨lo, rfl, by rw [max_eq_left (min_le_of_left_le hlt.le)]; exact hlo⟩
  next hle =>
  have hle := not_lt.1 (mt (Number.lt_iff hv hlo).2 hle)
  split
  · next hgt =>
    have hgt := (Number.lt_iff hhi hv).1 hgt
    exact ⟨hi, rfl, by rw [min_eq_right hgt.le, max_eq_right h]; exact hhi⟩
  · next hge =>
    have hge := not_lt.1 (mt (Number.lt_iff hhi hv).2 hge)
    exact ⟨v, rfl, by rw [min_eq_left hge, max_eq_right hle]; exact hv⟩

/-- What `clamp` does with a number and bounds: it is kept between them, and it is itself or the
nearer bound. -/
structure IsClamped (x low high v : Value) : Prop where
  low_le : Holds .le low v
  le_high : Holds .le v high
  inside : Holds .le low x → Holds .le x high → Holds .eq v x
  below : Holds .lt x low → Holds .eq v low
  above : Holds .gt x high → Holds .eq v high

theorem exists_clampInt {x low high : Int64} (h : low.toInt ≤ high.toInt) :
    ∃ v, clampInt x low high = .ok v ∧ IsClamped (.int x) (.int low) (.int high) v := by
  rw [clampInt, if_neg (Int.not_lt.2 h)]
  split
  · next hbelow =>
    refine ⟨_, rfl, holds_le_int_iff.2 le_rfl, holds_le_int_iff.2 h, fun hle _ => ?_,
      fun _ => holds_eq_self_int low, fun hgt => ?_⟩
    · exact absurd (holds_le_int_iff.1 hle) (Int.not_le.2 hbelow)
    · exact absurd (h.trans_lt (holds_gt_int_iff.1 hgt)) (Int.lt_asymm hbelow)
  next hlow =>
  split
  · next habove =>
    refine ⟨_, rfl, holds_le_int_iff.2 h, holds_le_int_iff.2 le_rfl, fun _ hle => ?_,
      fun hlt => ?_, fun _ => holds_eq_self_int high⟩
    · exact absurd (holds_le_int_iff.1 hle) (Int.not_le.2 habove)
    · exact absurd (holds_lt_int_iff.1 hlt) hlow
  · next hhigh =>
    refine ⟨_, rfl, holds_le_int_iff.2 (Int.not_lt.1 hlow), holds_le_int_iff.2 (Int.not_lt.1 hhigh),
      fun _ _ => holds_eq_self_int x, fun hlt => ?_, fun hgt => ?_⟩
    · exact absurd (holds_lt_int_iff.1 hlt) hlow
    · exact absurd (holds_gt_int_iff.1 hgt) hhigh

theorem clamped_of_float (hx : x.number? = some v) (hlow : low.number? = some lo)
    (hhigh : high.number? = some hi) (hle : lo ≤ hi) (hnan : v.isNaN = false)
    (hint : ¬ ∃ i j k, x = .int i ∧ low = .int j ∧ high = .int k) :
    clamped x low high = .ok (clampFloat v lo hi) := by
  have hnumber {w : Value} {y : Float} (hw : w.number? = some y) : number clamp w = .ok y := by
    rw [number, hw]
  simp only [clamped, hnumber hx, hnumber hlow, hnumber hhigh, hle, hnan]
  split
  · next hcrossed => simp at hcrossed
  split
  · next hx => cases hx
  split
  · exact absurd ⟨_, _, _, rfl, rfl, rfl⟩ hint
  · rfl

/-- Unless the three are whole numbers, the number is kept between the bounds as a float. -/
theorem exists_clamped (hx : IsNumber x) (hlow : IsNumber low) (hhigh : IsNumber high)
    (h : Holds .le low high) (hint : ¬ ∃ i j k, x = .int i ∧ low = .int j ∧ high = .int k) :
    ∃ v, clamped x low high = .ok v ∧ IsClamped x low high v := by
  obtain ⟨v, px, hv, hvp, hxp⟩ := hx.exists_place?
  obtain ⟨lo, pl, hlo, hlop, hlowp⟩ := hlow.exists_place?
  obtain ⟨hi, ph, hhi, hhip, hhighp⟩ := hhigh.exists_place?
  have hbounds := place_le_of_holds_le h hlowp hhighp
  have hnan : v.isNaN = false := by
    rw [← Bool.not_eq_true, ← Number.place?_eq_none_iff, hvp]
    exact Option.some_ne_none px
  obtain ⟨w, hclamp, hwp⟩ := exists_clampFloat hvp hlop hhip hbounds
  have hwp : (Value.float w).place? = some (Max.max pl (Min.min px ph)) := hwp
  refine ⟨.float w, ?_, ?_⟩
  · rw [clamped_of_float hv hlo hhi ((Number.le_iff hlop hhip).2 hbounds) hnan hint, hclamp]
  constructor
  · exact holds_le_of_place_le hlowp hwp nofun (le_max_left _ _)
  · exact holds_le_of_place_le hwp hhighp nofun (max_le hbounds (min_le_right _ _))
  · intro hbelow habove
    rw [holds_eq_iff_place hwp hxp, min_eq_left (place_le_of_holds_le habove hxp hhighp),
      max_eq_right (place_le_of_holds_le hbelow hlowp hxp)]
  · intro hlt
    have hle := (holds_lt_iff.1 hlt).place_le hxp hlowp
    rw [holds_eq_iff_place hwp hlowp, max_eq_left (min_le_of_left_le hle)]
  · intro hgt
    have hle := (holds_gt_iff.1 hgt).place_le hhighp hxp
    rw [holds_eq_iff_place hwp hhighp, min_eq_right hle, max_eq_right hbounds]

/-- **`clamp` keeps every number between bounds that are in order**, whatever types the three have:
it does not fail, and the number itself or the nearer bound comes out. -/
theorem call_clamp (hx : IsNumber x) (hlow : IsNumber low) (hhigh : IsNumber high)
    (h : Holds .le low high) : ∃ v, call clamp [x, low, high] = .ok v ∧ IsClamped x low high v := by
  show ∃ v, clamped x low high = .ok v ∧ _
  by_cases hint : ∃ i j k, x = .int i ∧ low = .int j ∧ high = .int k
  · obtain ⟨i, j, k, rfl, rfl, rfl⟩ := hint
    have hle := holds_le_int_iff.1 h
    obtain ⟨y, hy, -⟩ := Number.exists_place?_toFloat j
    obtain ⟨z, hz, -⟩ := Number.exists_place?_toFloat k
    rw [clamped_int, if_pos ((Number.le_iff hy hz).2 (Number.place?_toFloat_mono hle hy hz))]
    exact exists_clampInt hle
  · exact exists_clamped hx hlow hhigh h hint

/-- A whole number below the bound to which it is equal as a float, and a bound of another type. -/
theorem call_clamp_blurred :
    IsNumber (.int 9007199254740992) ∧ IsNumber (.int 9007199254740993) ∧
      IsNumber (.float 1e18) ∧ Holds .le (.int 9007199254740993) (.float 1e18) ∧
      ∃ v, call clamp [.int 9007199254740992, .int 9007199254740993, .float 1e18] = .ok v ∧
        IsClamped (.int 9007199254740992) (.int 9007199254740993) (.float 1e18) v := by
  have hx : IsNumber (.int 9007199254740992) := ⟨_, rfl, by decide +kernel⟩
  have hlow : IsNumber (.int 9007199254740993) := ⟨_, rfl, by decide +kernel⟩
  have hhigh : IsNumber (.float 1e18) := ⟨_, rfl, by decide +kernel⟩
  have h : Holds .le (.int 9007199254740993) (.float 1e18) := by
    rw [Holds]
    decide +kernel
  exact ⟨hx, hlow, hhigh, h, call_clamp hx hlow hhigh h⟩

end Appraisal.Builtin
