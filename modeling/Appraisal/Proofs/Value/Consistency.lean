import Appraisal.Proofs.Number.Order

/-!
# Comparisons that agree with each other

Equality and order are told by two functions. Where two values have an order, equality agrees with
it unless both are whole numbers: these are ordered exactly but taken as equal if their nearest
floats are. So the six operators are consistent for all values with an order but those of a
`Blurred` pair (`Value.consistent_iff_not_blurred`).
-/

namespace Appraisal

namespace Value

variable {a b : Value}

/-- Two whole numbers that differ but have equal nearest floats. -/
def Blurred (a b : Value) : Prop :=
  ∃ i j : Int64, a = .int i ∧ b = .int j ∧ i ≠ j ∧ (Number.toFloat i == Number.toFloat j) = true

/-- A comparison has an outcome, and that is true. -/
def Holds (op : Comparison) (a b : Value) : Prop := a.compare? op b = some true

/-- The six operators agree with each other. -/
structure Consistent (a b : Value) : Prop where
  /-- Just one of the three ways to be ordered. -/
  one : (Holds .lt a b ∧ ¬ Holds .eq a b ∧ ¬ Holds .gt a b) ∨
    (¬ Holds .lt a b ∧ Holds .eq a b ∧ ¬ Holds .gt a b) ∨
    (¬ Holds .lt a b ∧ ¬ Holds .eq a b ∧ Holds .gt a b)
  le_iff : Holds .le a b ↔ Holds .lt a b ∨ Holds .eq a b
  ge_iff : Holds .ge a b ↔ Holds .gt a b ∨ Holds .eq a b
  ne_iff : Holds .ne a b ↔ ¬ Holds .eq a b

theorem equals_int (i j : Int64) :
    (int i).equals (int j) = (Number.toFloat i == Number.toFloat j) := by
  simp [equals, number?]

theorem blurred_int_iff {i j : Int64} :
    Blurred (int i) (int j) ↔ i ≠ j ∧ (Number.toFloat i == Number.toFloat j) = true := by
  simp [Blurred]

/-- Whole numbers are ordered exactly. -/
theorem order?_int_eq_iff {i j : Int64} {o : Ordering} (h : (int i).order? (int j) = some o) :
    o = .eq ↔ i = j := by
  rw [order?, Option.some.injEq] at h
  rw [← h, compare_eq_iff_eq, Int64.toInt_inj]

theorem equals_of_order? {o : Ordering} (h : a.order? b = some o)
    (hmixed : ¬ ∃ i j, a = .int i ∧ b = .int j) : a.equals b = (o == .eq) := by
  cases a <;> cases b <;> simp_all [order?, equals, number?, Number.beq_of_order?]
  next s t => rw [← h, compare_eq_iff_eq]

/-- Equality agrees with the order of two values unless they are a blurred pair. -/
theorem equals_eq_iff {o : Ordering} (h : a.order? b = some o) :
    a.equals b = (o == .eq) ↔ ¬ Blurred a b := by
  by_cases hint : ∃ i j, a = .int i ∧ b = .int j
  · obtain ⟨i, j, rfl, rfl⟩ := hint
    have horder : (o == .eq) = decide (i = j) := by
      rw [Bool.eq_iff_iff, beq_iff_eq, decide_eq_true_iff, order?_int_eq_iff h]
    rw [horder, equals_int, blurred_int_iff]
    by_cases hij : i = j
    · subst hij
      simp [Number.beq_self (Number.isNaN_toFloat i)]
    · simp [hij]
  · exact iff_of_true (equals_of_order? h hint) fun ⟨i, j, ha, hb, _⟩ => hint ⟨i, j, ha, hb⟩

theorem holds_iff {o : Ordering} (h : a.order? b = some o) :
    (Holds .lt a b ↔ o = .lt) ∧ (Holds .gt a b ↔ o = .gt) ∧ (Holds .le a b ↔ o ≠ .gt) ∧
      (Holds .ge a b ↔ o ≠ .lt) := by
  simp [Holds, compare?, h]

/-- The operators agree with each other just if equality agrees with the order. -/
theorem consistent_iff {o : Ordering} (h : a.order? b = some o) :
    Consistent a b ↔ a.equals b = (o == .eq) := by
  have heq : Holds .eq a b ↔ a.equals b = true := by simp [Holds, compare?]
  have hne : Holds .ne a b ↔ a.equals b = false := by simp [Holds, compare?]
  obtain ⟨hlt, hgt, hle, hge⟩ := holds_iff h
  constructor
  · intro hcons
    have hone := hcons.one
    rw [hlt, hgt, heq] at hone
    cases o <;> simp_all
  · intro hequals
    constructor <;> simp only [hlt, hgt, hle, hge, heq, hne, hequals] <;> cases o <;> simp

/-- **The operators agree wherever there is an order**, but for whole numbers whose floats blur: of
such a pair one number is both less than the other and equal to it. -/
theorem consistent_iff_not_blurred (h : (a.compare? .lt b).isSome = true) :
    Consistent a b ↔ ¬ Blurred a b := by
  obtain ⟨_, hlt⟩ := Option.isSome_iff_exists.1 h
  obtain ⟨o, ho, -⟩ := Option.map_eq_some_iff.1 hlt
  exact (consistent_iff ho).trans (equals_eq_iff ho)

/-- A whole number and a float that equals it are consistent, far beyond the exact range. -/
theorem consistent_iff_not_blurred_mixed :
    ((int 9007199254740993).compare? .lt (float 9007199254740992)).isSome = true ∧
      Consistent (int 9007199254740993) (float 9007199254740992) := by
  have h : ((int 9007199254740993).compare? .lt (float 9007199254740992)).isSome = true := by
    decide +kernel
  refine ⟨h, (consistent_iff_not_blurred h).2 ?_⟩
  rintro ⟨i, j, -, hfloat, -⟩
  cases hfloat

/-- Two whole numbers above 2⁵³ of which one is less than the other and equal to it. -/
theorem not_consistent_above_exact :
    ((int 9007199254740992).compare? .lt (int 9007199254740993)).isSome = true ∧
      ¬ Consistent (int 9007199254740992) (int 9007199254740993) := by
  have h : Holds .lt (int 9007199254740992) (int 9007199254740993) ∧
      Holds .eq (int 9007199254740992) (int 9007199254740993) := by
    rw [Holds, Holds]
    decide +kernel
  refine ⟨by decide +kernel, fun hcons => ?_⟩
  rcases hcons.one with ⟨-, heq, -⟩ | ⟨hlt, -, -⟩ | ⟨hlt, -, -⟩
  · exact heq h.2
  · exact hlt h.1
  · exact hlt h.1

end Value

end Appraisal
