import Appraisal.Formula.Eval
import Appraisal.Proofs.Formula.Division
import Appraisal.Proofs.Number.Natural
import Appraisal.Proofs.Outcome

/-!
# Operations that break a run off

No operator (`Arithmetic.concludes_binary`), no subscript (`concludes_subscript`) and no function
but `clamp` ever breaks a run off. `clamp` does with three whole numbers whose bounds are crossed,
though their floats are not (`Builtin.call_eq_abort_iff`): the order of the bounds is judged on
floats, where neighbours far from zero are the same.
-/

namespace Appraisal

/-! ### Outcomes that are values or errors -/

namespace Outcome

variable {ε α β : Type}

/-- A run that ends with a value or an error. -/
def Concludes : Outcome ε α → Prop
  | abort _ => False
  | _ => True

theorem concludes_iff {x : Outcome ε α} : x.Concludes ↔ ∀ r, x ≠ abort r := by
  cases x <;> simp [Concludes]

theorem Concludes.bind {x : Outcome ε α} {f : α → Outcome ε β} (hx : x.Concludes)
    (hf : ∀ a, x = ok a → (f a).Concludes) : (x >>= f).Concludes := by
  cases x with
  | ok a => exact hf a rfl
  | error e => trivial
  | abort r => exact hx

theorem concludes_ofExcept (x : Except ε α) : (ofExcept x).Concludes := by
  cases x <;> trivial

theorem itemAt_of_lt {items : List α} {place : Nat} (h : place < items.length) :
    (itemAt items place : Outcome ε α) = ok items[place] := by
  rw [itemAt, List.getElem?_eq_getElem h]

theorem concludes_itemAt {items : List α} {place : Nat} (h : place < items.length) :
    (itemAt items place : Outcome ε α).Concludes := by
  rw [itemAt_of_lt h]
  trivial

end Outcome

open Outcome

/-! ### Operators -/

namespace Arithmetic

theorem concludes_int (op : ArithmeticOp) (x y : Int64) : (int op x y).Concludes := by
  unfold int
  split
  · by_cases hy : y = 0
    · rw [floorDivInt, if_pos hy]
      trivial
    · rw [floorDivInt_eq hy]
      split
      · trivial
      · exact concludes_ofExcept _
  · by_cases hy : y = 0
    · rw [modInt, if_pos hy]
      trivial
    · rw [modInt_eq hy]
      trivial
  · split
    · trivial
    · exact concludes_ofExcept _

/-- No step of an operator overflows. -/
theorem concludes_binary (op : ArithmeticOp) (left right : Value) :
    (binary op left right).Concludes := by
  unfold binary
  split
  · trivial
  · trivial
  split
  · trivial
  split
  · unfold numeric
    split
    · exact concludes_int _ _ _
    · exact concludes_ofExcept _
  · trivial

end Arithmetic

/-! ### Subscripts -/

/-- The number of items as a word, or the greatest word. -/
theorem getD_int64?_length_nonneg (length : Nat) :
    0 ≤ ((Number.int64? length).getD Int64.maxValue).toInt := by
  cases h : Number.int64? length with
  | none => decide
  | some i =>
    rw [Option.getD_some, Number.toInt_of_int64? h]
    exact Int.natCast_nonneg length

theorem step_sum?_of_neg {ε : Type} {index count : Int64} (hi : index < 0)
    (hc : 0 ≤ count.toInt) :
    (Number.step (Number.sum? index count) : Outcome ε Int64) =
      ok (Int64.ofInt (index.toInt + count.toInt)) := by
  have hneg : index.toInt < 0 := Int64.lt_iff_toInt_lt.1 hi
  have hlow := index.le_toInt
  have hhigh := count.toInt_lt
  rw [Number.sum?, Number.int64?_of_fits (by omega) (by omega), Number.step_some]

/-- A place that is found lies in the row. -/
theorem concludes_itemPlace (index : Int64) (length : Nat) :
    (itemPlace index length).Concludes ∧
      ∀ place, itemPlace index length = ok place → place < length := by
  have hplace (place : Int64) : ∀ x : Outcome Fault Nat,
      x = (if 0 ≤ place.toInt ∧ place.toInt.toNat < length then pure place.toInt.toNat
        else error .indexOutOfRange) →
      x.Concludes ∧ ∀ place, x = ok place → place < length := by
    rintro _ rfl
    split
    · next h => exact ⟨trivial, fun _ hp => by cases hp; exact h.2⟩
    · exact ⟨trivial, fun _ hp => by cases hp⟩
  rw [itemPlace]
  dsimp only
  split
  · next hi =>
    rw [step_sum?_of_neg hi (getD_int64?_length_nonneg length)]
    exact hplace _ _ rfl
  · exact hplace _ _ rfl

/-- Subscripts stay in range, and counting from the end does not overflow. -/
theorem concludes_subscript (object index : Value) : (subscript object index).Concludes := by
  have hitem (object : Value) (index : Int64) : (itemOf object index).Concludes := by
    unfold itemOf
    split
    · next items =>
      obtain ⟨hconcludes, hplace⟩ := concludes_itemPlace index items.length
      exact hconcludes.bind fun place h => concludes_itemAt (hplace place h)
    · next s =>
      obtain ⟨hconcludes, hplace⟩ := concludes_itemPlace index s.toList.length
      refine hconcludes.bind fun place h => ?_
      exact (concludes_itemAt (hplace place h)).bind fun _ _ => trivial
    · trivial
  unfold subscript
  split
  · exact hitem _ _
  · exact hitem _ _
  · trivial

/-! ### Functions -/

namespace Builtin

theorem concludes_sumFrom (total : Value) (items : List Value) :
    (sumFrom total items).Concludes := by
  induction items generalizing total with
  | nil => trivial
  | cons item rest ih =>
    rw [sumFrom]
    split
    · trivial
    · exact (Arithmetic.concludes_binary _ _ _).bind fun total _ => ih total

theorem concludes_sumOf (arguments : List Value) : (sumOf arguments).Concludes := by
  unfold sumOf
  split <;> exact concludes_sumFrom _ _

theorem minArity_le {f : Builtin} {count : Nat} (h : f.accepts count = true) :
    f.minArity ≤ count := by
  rw [accepts, Bool.and_eq_true, decide_eq_true_iff] at h
  exact h.1

/-- The functions but `clamp` never break a run off, as long as they have enough arguments. -/
theorem concludes_apply {f : Builtin} {arguments : List Value} (hf : f ≠ clamp)
    (h : f.minArity ≤ arguments.length) : (f.apply arguments).Concludes := by
  cases f with
  | abs | int | float | sqrt | floor | ceil =>
    exact (concludes_itemAt h).bind fun _ _ => concludes_ofExcept _
  | min | max => exact concludes_ofExcept _
  | round =>
    refine (concludes_ofExcept _).bind fun _ _ => ?_
    exact (concludes_itemAt h).bind fun _ _ => concludes_ofExcept _
  | sum => exact concludes_sumOf _
  | pow =>
    refine (concludes_itemAt (Nat.lt_of_succ_lt h)).bind fun _ _ => ?_
    exact (concludes_itemAt h).bind fun _ _ => Arithmetic.concludes_binary _ _ _
  | clamp => exact absurd rfl hf

/-- Bounds in the wrong order whose floats are in order. -/
def Crossed (low high : Int64) : Prop :=
  high.toInt < low.toInt ∧ Number.toFloat low ≤ Number.toFloat high

theorem clampInt_eq_abort_iff {x low high : Int64} {r : Abort} :
    clampInt x low high = abort r ↔ high.toInt < low.toInt ∧ r = .crossedBounds low high := by
  rw [clampInt]
  split
  · next h => simp [h, eq_comm]
  · next h =>
    split
    · simp [h]
    · split <;> simp [h]

/-- With whole numbers only the order of the bounds matters. -/
theorem clamped_int (x low high : Int64) :
    clamped (.int x) (.int low) (.int high) =
      if Number.toFloat low ≤ Number.toFloat high then clampInt x low high
      else .error (.boundsCrossed (Number.toFloat low) (Number.toFloat high)) := by
  have hnan := Number.isNaN_toFloat x
  by_cases h : Number.toFloat low ≤ Number.toFloat high
  · simp only [clamped, number, Value.number?, h, hnan, decide_true, Bool.not_true,
      Bool.false_eq_true, if_true, if_false]
  · simp only [clamped, number, Value.number?, h, decide_false, Bool.not_false, if_true, if_false]

theorem clamped_eq_abort_iff {x low high : Value} {r : Abort} :
    clamped x low high = abort r ↔ ∃ i lo hi, x = .int i ∧ low = .int lo ∧ high = .int hi ∧
      Crossed lo hi ∧ r = .crossedBounds lo hi := by
  constructor
  · intro h
    by_cases hints : ∃ i lo hi, x = .int i ∧ low = .int lo ∧ high = .int hi
    · obtain ⟨i, lo, hi, rfl, rfl, rfl⟩ := hints
      rw [clamped_int] at h
      split at h
      · next hle =>
        obtain ⟨hlt, rfl⟩ := clampInt_eq_abort_iff.1 h
        exact ⟨i, lo, hi, rfl, rfl, rfl, ⟨hlt, hle⟩, rfl⟩
      · cases h
    · unfold clamped at h
      split at h
      · split at h
        · cases h
        split at h
        · cases h
        split at h
        · exact absurd ⟨_, _, _, rfl, rfl, rfl⟩ hints
        · cases h
      all_goals cases h
  · rintro ⟨i, lo, hi, rfl, rfl, rfl, ⟨hlt, hle⟩, rfl⟩
    rw [clamped_int, if_pos hle]
    exact clampInt_eq_abort_iff.2 ⟨hlt, rfl⟩

theorem length_of_accepts_clamp {count : Nat} (h : clamp.accepts count = true) : count = 3 := by
  have hleast : 3 ≤ count := minArity_le h
  simp only [accepts, maxArity?, Option.all_some, Bool.and_eq_true, decide_eq_true_iff] at h
  exact Nat.le_antisymm h.2 hleast

/-- A call breaks a run off just where `clamp` gets whole numbers with crossed bounds. -/
theorem call_eq_abort_iff {f : Builtin} {arguments : List Value} {r : Abort} :
    f.call arguments = abort r ↔ f = clamp ∧ ∃ x low high,
      arguments = [.int x, .int low, .int high] ∧ Crossed low high ∧
      r = .crossedBounds low high := by
  rw [call]
  by_cases haccepts : f.accepts arguments.length = true
  · rw [if_pos haccepts]
    by_cases hf : f = clamp
    · subst hf
      obtain ⟨x, low, high, rfl⟩ := List.length_eq_three.1 (length_of_accepts_clamp haccepts)
      show clamped x low high = abort r ↔ _
      rw [clamped_eq_abort_iff]
      simp only [true_and, List.cons.injEq, and_true, and_assoc]
    · have hconcludes := concludes_iff.1 (concludes_apply hf (minArity_le haccepts)) r
      simp [hf, hconcludes]
  · rw [if_neg haccepts]
    constructor
    · intro h
      cases h
    · rintro ⟨rfl, x, low, high, rfl, -⟩
      exact absurd rfl haccepts

end Builtin

end Appraisal
