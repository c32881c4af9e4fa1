import Appraisal.Proofs.Value.Consistency

/-!
# The order of values

Two values have an order if both are texts or both are numbers (`Value.Comparable`). One precedes
the other (`Value.Precedes`) where the texts, two whole numbers or else the places of the floats do.
Since whole numbers keep their order as floats, that is one strict order on all values though it is
exact for some of them and rounded for others (`Value.Precedes.trans`).
-/

namespace Appraisal.Value

variable {a b c : Value} {x y : ℚ}

/-- The place on the number line of a value that is a number. -/
def place? (v : Value) : Option ℚ := v.number?.bind Number.place?

/-- The values are two texts, or two numbers. -/
def Comparable (a b : Value) : Prop :=
  (∃ s t, a = .string s ∧ b = .string t) ∨ ∃ x y, a.place? = some x ∧ b.place? = some y

theorem Comparable.symm : Comparable a b → Comparable b a
  | .inl ⟨s, t, ha, hb⟩ => .inl ⟨t, s, hb, ha⟩
  | .inr ⟨x, y, ha, hb⟩ => .inr ⟨y, x, hb, ha⟩

theorem place?_string (s : String) : (string s).place? = none := rfl

theorem Comparable.trans (hab : Comparable a b) (hbc : Comparable b c) : Comparable a c := by
  obtain ⟨s, t, rfl, rfl⟩ | ⟨x, y, ha, hb⟩ := hab
  · obtain ⟨_, u, -, rfl⟩ | ⟨y, -, hb, -⟩ := hbc
    · exact .inl ⟨s, u, rfl, rfl⟩
    · cases hb
  · obtain ⟨_, _, rfl, -⟩ | ⟨-, z, -, hc⟩ := hbc
    · cases hb
    · exact .inr ⟨x, z, ha, hc⟩

/-- One value is less than the other. -/
inductive Precedes : Value → Value → Prop
  | string {s t : String} (h : s < t) : Precedes (string s) (string t)
  | int {i j : Int64} (h : i.toInt < j.toInt) : Precedes (int i) (int j)
  | place {a b : Value} {x y : ℚ} (ha : a.place? = some x) (hb : b.place? = some y) (h : x < y) :
    Precedes a b

theorem exists_place?_int (i : Int64) : ∃ x, (int i).place? = some x :=
  (Number.exists_place?_toFloat i).imp fun _ h => h.1

/-- Of two numbers the one that is no greater has no greater place. -/
theorem place?_int_mono {i j : Int64} (h : i.toInt ≤ j.toInt) (hx : (int i).place? = some x)
    (hy : (int j).place? = some y) : x ≤ y :=
  Number.place?_toFloat_mono h hx hy

theorem Precedes.place_le (h : Precedes a b) (ha : a.place? = some x) (hb : b.place? = some y) :
    x ≤ y := by
  cases h with
  | string => cases ha
  | int h => exact place?_int_mono h.le ha hb
  | place ha' hb' h =>
    cases ha.symm.trans ha'
    cases hb.symm.trans hb'
    exact h.le

/-- **The order is transitive**, also where whole numbers and floats are mixed. -/
theorem Precedes.trans (hab : Precedes a b) (hbc : Precedes b c) : Precedes a c := by
  cases hab with
  | string h =>
    cases hbc with
    | string h' => exact .string (lt_trans h h')
    | place hb => cases hb
  | @int i j h =>
    cases hbc with
    | int h' => exact .int (h.trans h')
    | place hb hc h' =>
      obtain ⟨x, ha⟩ := exists_place?_int i
      exact .place ha hc ((place?_int_mono h.le ha hb).trans_lt h')
  | place ha hb h =>
    cases hbc with
    | string => cases hb
    | @int j k h' =>
      obtain ⟨z, hc⟩ := exists_place?_int k
      exact .place ha hc (h.trans_le (place?_int_mono h'.le hb hc))
    | place hb' hc h' =>
      cases hb.symm.trans hb'
      exact .place ha hc (h.trans h')

theorem not_precedes_self (a : Value) : ¬ Precedes a a := by
  intro h
  cases h with
  | string h => exact lt_irrefl _ h
  | int h => exact lt_irrefl _ h
  | place ha hb h =>
    cases ha.symm.trans hb
    exact lt_irrefl _ h

/-! ### What the order of two values is -/

theorem order?_of_unlike (hint : ¬ ∃ i j, a = .int i ∧ b = .int j)
    (hstring : ¬ ∃ s t, a = .string s ∧ b = .string t) :
    a.order? b = a.place?.bind fun x => b.place?.map (compare x) := by
  have hnone {v w : Value} (h : w.number? = none) :
      none = v.place?.bind fun x => w.place?.map (compare x) := by
    rw [place?, place?, h]
    cases v.number?.bind Number.place? <;> rfl
  cases a <;> cases b <;> first
    | exact Number.order?_eq _ _
    | rfl
    | exact hnone rfl
    | exact absurd ⟨_, _, rfl, rfl⟩ hint
    | exact absurd ⟨_, _, rfl, rfl⟩ hstring

/-- Whole numbers are ordered exactly, and all other numbers by their places. -/
theorem order?_eq_some_iff {o : Ordering} : a.order? b = some o ↔
    (∃ s t, a = .string s ∧ b = .string t ∧ compare s t = o) ∨
    (∃ i j, a = .int i ∧ b = .int j ∧ compare i.toInt j.toInt = o) ∨
    (¬ ∃ i j, a = .int i ∧ b = .int j) ∧
      ∃ x y, a.place? = some x ∧ b.place? = some y ∧ compare x y = o := by
  by_cases hint : ∃ i j, a = .int i ∧ b = .int j
  · obtain ⟨i, j, rfl, rfl⟩ := hint
    simp [order?]
  by_cases hstring : ∃ s t, a = .string s ∧ b = .string t
  · obtain ⟨s, t, rfl, rfl⟩ := hstring
    simp [order?, place?_string]
  · rw [order?_of_unlike hint hstring]
    constructor
    · intro h
      obtain ⟨x, ha, h⟩ := Option.bind_eq_some_iff.1 h
      obtain ⟨y, hb, h⟩ := Option.map_eq_some_iff.1 h
      exact .inr (.inr ⟨hint, x, y, ha, hb, h⟩)
    · rintro (⟨s, t, ha, hb, -⟩ | ⟨i, j, ha, hb, -⟩ | ⟨-, x, y, ha, hb, h⟩)
      · exact absurd ⟨s, t, ha, hb⟩ hstring
      · exact absurd ⟨i, j, ha, hb⟩ hint
      · rw [ha, hb, Option.bind_some, Option.map_some, h]

/-- The order of a pair is that of the pair the other way round, reversed. -/
theorem order?_swap {o : Ordering} (h : a.order? b = some o) : b.order? a = some o.swap := by
  rw [order?_eq_some_iff] at h ⊢
  rcases h with ⟨s, t, rfl, rfl, rfl⟩ | ⟨i, j, rfl, rfl, rfl⟩ | ⟨hint, x, y, ha, hb, rfl⟩
  · exact .inl ⟨t, s, rfl, rfl, Std.OrientedOrd.eq_swap⟩
  · exact .inr (.inl ⟨j, i, rfl, rfl, Std.OrientedOrd.eq_swap⟩)
  · exact .inr (.inr ⟨fun ⟨i, j, hb, ha⟩ => hint ⟨j, i, ha, hb⟩, y, x, hb, ha,
      Std.OrientedOrd.eq_swap⟩)

theorem order?_eq_none_iff : a.order? b = none ↔ ¬ Comparable a b := by
  rw [← not_iff_not, not_not, ← Ne, Option.ne_none_iff_exists']
  constructor
  · rintro ⟨o, h⟩
    rcases order?_eq_some_iff.1 h with
      ⟨s, t, rfl, rfl, -⟩ | ⟨i, j, rfl, rfl, -⟩ | ⟨-, x, y, ha, hb, -⟩
    · exact .inl ⟨s, t, rfl, rfl⟩
    · obtain ⟨x, hx⟩ := exists_place?_int i
      obtain ⟨y, hy⟩ := exists_place?_int j
      exact .inr ⟨x, y, hx, hy⟩
    · exact .inr ⟨x, y, ha, hb⟩
  · intro h
    by_cases hint : ∃ i j, a = .int i ∧ b = .int j
    · obtain ⟨i, j, rfl, rfl⟩ := hint
      exact ⟨_, rfl⟩
    obtain ⟨s, t, rfl, rfl⟩ | ⟨x, y, ha, hb⟩ := h
    · exact ⟨_, rfl⟩
    · exact ⟨_, order?_eq_some_iff.2 (.inr (.inr ⟨hint, x, y, ha, hb, rfl⟩))⟩

theorem order?_eq_lt_iff : a.order? b = some .lt ↔ Precedes a b := by
  rw [order?_eq_some_iff]
  constructor
  · rintro (⟨s, t, rfl, rfl, h⟩ | ⟨i, j, rfl, rfl, h⟩ | ⟨-, x, y, ha, hb, h⟩)
    · exact .string (compare_lt_iff_lt.1 h)
    · exact .int (compare_lt_iff_lt.1 h)
    · exact .place ha hb (compare_lt_iff_lt.1 h)
  · rintro (@⟨s, t, h⟩ | @⟨i, j, h⟩ | @⟨a, b, x, y, ha, hb, h⟩)
    · exact .inl ⟨s, t, rfl, rfl, compare_lt_iff_lt.2 h⟩
    · exact .inr (.inl ⟨i, j, rfl, rfl, compare_lt_iff_lt.2 h⟩)
    · by_cases hint : ∃ i j, a = .int i ∧ b = .int j
      · obtain ⟨i, j, rfl, rfl⟩ := hint
        -- the places differ, so the whole numbers do
        refine .inr (.inl ⟨i, j, rfl, rfl, compare_lt_iff_lt.2 ?_⟩)
        by_contra hle
        exact absurd (place?_int_mono (Int.not_lt.1 hle) hb ha) (not_le.2 h)
      · exact .inr (.inr ⟨hint, x, y, ha, hb, compare_lt_iff_lt.2 h⟩)

theorem order?_eq_gt_iff : a.order? b = some .gt ↔ Precedes b a := by
  rw [← order?_eq_lt_iff]
  exact ⟨order?_swap, order?_swap⟩

/-! ### What the operators say -/

/-- A truth value, a whole number or a float that is no NaN. -/
def IsNumber (v : Value) : Prop := ∃ x, v.number? = some x ∧ x.isNaN = false

theorem IsNumber.exists_place? (h : IsNumber a) :
    ∃ v x, a.number? = some v ∧ Number.place? v = some x ∧ a.place? = some x := by
  obtain ⟨v, hv, hnan⟩ := h
  obtain ⟨x, hx⟩ := Number.exists_place? hnan
  exact ⟨v, x, hv, hx, by rw [place?, hv]; exact hx⟩

/-- Numbers are equal if their places are. -/
theorem holds_eq_iff_place (ha : a.place? = some x) (hb : b.place? = some y) :
    Holds .eq a b ↔ x = y := by
  obtain ⟨v, hv, hx⟩ := Option.bind_eq_some_iff.1 ha
  obtain ⟨w, hw, hy⟩ := Option.bind_eq_some_iff.1 hb
  have hequals : a.equals b = (v == w) := by
    cases a <;> cases hv <;> cases b <;> cases hw <;> rfl
  rw [Holds, compare?, Option.some.injEq, hequals, Number.beq_iff hx hy]

theorem holds_lt_iff : Holds .lt a b ↔ Precedes a b := by
  rw [← order?_eq_lt_iff, Holds, compare?]
  cases a.order? b with
  | none => decide
  | some o => cases o <;> decide

theorem holds_gt_iff : Holds .gt a b ↔ Precedes b a := by
  rw [← order?_eq_gt_iff, Holds, compare?]
  cases a.order? b with
  | none => decide
  | some o => cases o <;> decide

theorem holds_le_iff : Holds .le a b ↔ Comparable a b ∧ ¬ Precedes b a := by
  have hsome : Comparable a b ↔ a.order? b ≠ none := by rw [Ne, order?_eq_none_iff, not_not]
  rw [← order?_eq_gt_iff, hsome, Holds, compare?]
  cases a.order? b with
  | none => decide
  | some o => cases o <;> decide

theorem place_le_of_holds_le (h : Holds .le a b) (ha : a.place? = some x)
    (hb : b.place? = some y) : x ≤ y := by
  by_contra hlt
  exact (holds_le_iff.1 h).2 (.place hb ha (not_le.1 hlt))

/-- A number and a float are ordered by their places. -/
theorem holds_le_of_place_le (ha : a.place? = some x) (hb : b.place? = some y)
    (hint : ¬ ∃ i j, a = .int i ∧ b = .int j) (h : x ≤ y) : Holds .le a b := by
  refine holds_le_iff.2 ⟨.inr ⟨x, y, ha, hb⟩, fun hprecedes => ?_⟩
  cases hprecedes with
  | string => cases ha
  | int => exact hint ⟨_, _, rfl, rfl⟩
  | place hb' ha' hlt =>
    cases ha.symm.trans ha'
    cases hb.symm.trans hb'
    exact absurd h (not_le.2 hlt)

theorem holds_le_int_iff {i j : Int64} : Holds .le (int i) (int j) ↔ i.toInt ≤ j.toInt := by
  rw [Holds, compare?, order?, Option.map_some, Option.some.injEq, bne_iff_ne, compare_le_iff_le]

theorem holds_lt_int_iff {i j : Int64} : Holds .lt (int i) (int j) ↔ i.toInt < j.toInt := by
  rw [Holds, compare?, order?, Option.map_some, Option.some.injEq, beq_iff_eq, compare_lt_iff_lt]

theorem holds_gt_int_iff {i j : Int64} : Holds .gt (int i) (int j) ↔ j.toInt < i.toInt := by
  rw [Holds, compare?, order?, Option.map_some, Option.some.injEq, beq_iff_eq, compare_gt_iff_gt]

theorem holds_eq_self_int (i : Int64) : Holds .eq (int i) (int i) := by
  obtain ⟨x, hx⟩ := exists_place?_int i
  exact (holds_eq_iff_place hx hx).2 rfl

end Appraisal.Value
