import Appraisal.Proofs.Formula.Faults
import Appraisal.Proofs.Number.Natural

/-!
# Divisors of zero

An operator fails over its divisor exactly if it divides a number by a number that is zero
(`Arithmetic.binary_eq_error_iff`): the float to which a whole number is taken for a division is
zero only if the whole number is.
-/

namespace Appraisal

open Outcome

/-- The fault of an operator that divides by zero. -/
def ArithmeticOp.zeroFault? : ArithmeticOp → Option Fault
  | div | floorDiv => some .divisionByZero
  | mod => some .moduloByZero
  | _ => none

/-- Whether a number is zero. -/
def Numeric.isZero : Numeric → Bool
  | int i => i == 0
  | float v => v == 0.0

/-- A number is divided by a number that is zero, which is the given fault. -/
structure DividesByZero (op : ArithmeticOp) (left right : Value) (fault : Fault) : Prop where
  operator : op.zeroFault? = some fault
  dividend : (Numeric.ofValue? left).isSome = true
  divisor : ∃ n, Numeric.ofValue? right = some n ∧ n.isZero = true

variable {op : ArithmeticOp} {fault : Fault}

theorem Numeric.toFloat_beq_zero (n : Numeric) : (n.toFloat == 0.0) = n.isZero := by
  cases n with
  | int i => exact Number.toFloat_beq_zero i
  | float v => rfl

namespace Arithmetic

theorem float_eq_error_iff {z : Fault} (hop : op.zeroFault? = some z) (x y : Float) :
    float op x y = .error fault ↔ (y == 0.0) = true ∧ z = fault := by
  cases op <;> cases hop <;> rw [float] <;> split <;> simp [*]

theorem ofExcept_float_eq_error_iff {z : Fault} (hop : op.zeroFault? = some z) (x y : Float) :
    ofExcept ((float op x y).map Value.float) = error fault ↔ (y == 0.0) = true ∧ z = fault := by
  rw [← float_eq_error_iff hop x y]
  cases float op x y <;> simp [Except.map]

theorem floorDivInt_eq_error_iff (x y : Int64) :
    floorDivInt x y = error fault ↔ y = 0 ∧ .divisionByZero = fault := by
  rw [floorDivInt]
  split
  · next hy => simp [hy]
  next hy =>
  simp only [hy, false_and, iff_false]
  intro h
  split at h
  · rcases bind_eq_error_iff.1 h with h | ⟨rest, -, h⟩
    · exact (failsOnly_step (P := fun _ => False) _).of_eq h
    split at h
    · rcases bind_eq_error_iff.1 h with h | ⟨q, -, h⟩
      · exact (failsOnly_step (P := fun _ => False) _).of_eq h
      · cases h
    · cases h
  · have hzero := ((ofExcept_float_eq_error_iff rfl _ _).1 h).1
    rw [Number.toFloat_beq_zero, beq_iff_eq] at hzero
    exact hy hzero

theorem modInt_eq_error_iff (x y : Int64) :
    modInt x y = error fault ↔ y = 0 ∧ .moduloByZero = fault := by
  rw [modInt]
  split
  · next hy => simp [hy]
  next hy =>
  simp only [hy, false_and, iff_false]
  intro h
  split at h
  · split at h
    · rcases bind_eq_error_iff.1 h with h | ⟨rest, -, h⟩
      · exact (failsOnly_step (P := fun _ => False) _).of_eq h
      · cases h
    · cases h
  · cases h

/-- Numbers are divided without a fault, unless by zero. -/
theorem numeric_eq_error_iff {z : Fault} (hop : op.zeroFault? = some z) (m n : Numeric) :
    numeric op m n = error fault ↔ n.isZero = true ∧ z = fault := by
  unfold numeric
  split
  · next x y =>
    rw [Numeric.isZero, beq_iff_eq]
    cases op <;> cases hop
    · show ofExcept (promoted .div x y) = error fault ↔ _
      rw [promoted, ofExcept_float_eq_error_iff rfl, Number.toFloat_beq_zero, beq_iff_eq]
    · exact floorDivInt_eq_error_iff x y
    · exact modInt_eq_error_iff x y
  · rw [ofExcept_float_eq_error_iff hop, Numeric.toFloat_beq_zero]

theorem divides_of_zeroFault? {z : Fault} (hop : op.zeroFault? = some z) :
    op.divides = true ∧ z.overZero = true := by
  cases op <;> cases hop <;> exact ⟨rfl, rfl⟩

/-- An operator fails over its divisor exactly if it divides a number by zero. -/
theorem binary_eq_error_iff (hzero : fault.overZero = true) (left right : Value) :
    binary op left right = error fault ↔ DividesByZero op left right fault := by
  have hunsupported {z : Fault} (hz : z.overZero = false) :
      ¬ (error z : Outcome Fault Value) = error fault := by
    rintro ⟨⟩
    rw [hz] at hzero
    cases hzero
  constructor
  · intro h
    have hdivides : op.divides = true := ((failsOnly_binary op left right).of_eq h).2 hzero
    obtain ⟨z, hop⟩ : ∃ z, op.zeroFault? = some z := by
      cases op <;> first | exact ⟨_, rfl⟩ | cases hdivides
    unfold binary at h
    split at h
    · cases h
    · cases h
    split at h
    · exact absurd h (hunsupported rfl)
    split at h
    · next m n hm hn =>
      obtain ⟨hn0, rfl⟩ := (numeric_eq_error_iff hop m n).1 h
      exact ⟨hop, by rw [hm]; rfl, n, hn, hn0⟩
    · exact absurd h (hunsupported rfl)
  · rintro ⟨hop, hleft, n, hn, hn0⟩
    obtain ⟨m, hm⟩ := Option.isSome_iff_exists.1 hleft
    have hnumeric : numeric op m n = error fault := (numeric_eq_error_iff hop m n).2 ⟨hn0, rfl⟩
    unfold binary
    split
    · cases hm
    · cases hm
    rw [if_neg (by rintro ⟨rfl, -⟩; cases hop)]
    simp only [hm, hn]
    exact hnumeric

end Arithmetic

end Appraisal
