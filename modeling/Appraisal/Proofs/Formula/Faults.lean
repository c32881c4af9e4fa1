import Appraisal.Formula.Eval
import Appraisal.Proofs.Outcome

/-!
# Where faults come from

A fault is about a field of the listing, about the form of the formula, or about an operation on
values (`Fault.kind`). Operators (`Arithmetic.failsOnly_binary`), functions
(`Builtin.failsOnly_apply`) and subscripts (`failsOnly_subscript`) only raise faults of the last
kind, fields only those of the first. Of the operations only the operators that divide raise faults
over a divisor of zero (`Fault.overZero`).
-/

namespace Appraisal

/-! ### Kinds of faults -/

/-- What a fault is about. -/
inductive FaultKind
  /-- A name that stands for no value. -/
  | field
  /-- A formula that could not have been read from a source. -/
  | form
  /-- Values that an operation does not take. -/
  | operation
  deriving DecidableEq

/-- What a fault is about. -/
def Fault.kind : Fault → FaultKind
  | undefined .. | groupOfFields _ => .field
  | tooDeep _ | notAFieldPath | unknownFunction _ | wrongCount .. => .form
  | _ => .operation

/-- Whether a fault is about a divisor of zero. -/
def Fault.overZero : Fault → Bool
  | divisionByZero | moduloByZero => true
  | _ => false

/-- A fault of an operation, over a divisor of zero only if the operation divides. -/
def Fault.IsOperation (divides : Bool) (fault : Fault) : Prop :=
  fault.kind = .operation ∧ (fault.overZero = true → divides = true)

/-! ### Errors of outcomes -/

namespace Outcome

variable {ε α β : Type} {P : ε → Prop}

/-- If a run fails, its error satisfies `P`. -/
def FailsOnly (P : ε → Prop) : Outcome ε α → Prop
  | ok _ => True
  | error e => P e
  | abort _ => True

theorem FailsOnly.of_eq {x : Outcome ε α} (h : x.FailsOnly P) {e : ε} (hx : x = error e) : P e := by
  rw [hx] at h
  exact h

theorem FailsOnly.bind {x : Outcome ε α} {f : α → Outcome ε β} (hx : x.FailsOnly P)
    (hf : ∀ a, x = ok a → (f a).FailsOnly P) : (x >>= f).FailsOnly P := by
  cases x with
  | ok a => exact hf a rfl
  | error e => exact hx
  | abort r => trivial

theorem FailsOnly.mono {Q : ε → Prop} {x : Outcome ε α} (hx : x.FailsOnly P)
    (h : ∀ e, P e → Q e) : x.FailsOnly Q := by
  cases x with
  | error e => exact h e hx
  | _ => trivial

theorem failsOnly_itemAt (items : List α) (place : Nat) : (itemAt items place).FailsOnly P := by
  rw [itemAt]
  split <;> trivial

theorem failsOnly_step (i : Option Int64) : (Number.step i).FailsOnly P := by
  cases i <;> trivial

end Outcome

open Outcome Fault

/-! ### Fields -/

theorem Context.failsOnly_variable (context : Context) (name : String) :
    (context.variable name).FailsOnly fun fault => fault.kind = .field := by
  rw [Context.variable]
  split
  · trivial
  · rw [Context.unresolved]
    split <;> rfl

theorem Context.failsOnly_path (context : Context) (path : String) :
    (context.path path).FailsOnly fun fault => fault.kind = .field := by
  rw [Context.path]
  split
  · trivial
  · rw [Context.unresolved]
    split <;> rfl

/-! ### Operators -/

namespace Arithmetic

theorem failsOnly_float (op : ArithmeticOp) (x y : Float) :
    (ofExcept (float op x y)).FailsOnly (IsOperation op.divides) := by
  cases op with
  | add | sub | mul => trivial
  | div | floorDiv | mod =>
    rw [float]
    split <;> first | exact ⟨rfl, fun _ => rfl⟩ | trivial
  | pow =>
    rw [float, floatPower]
    split
    · exact ⟨rfl, nofun⟩
    · dsimp only
      split <;> first | exact ⟨rfl, nofun⟩ | trivial

theorem failsOnly_map_float (op : ArithmeticOp) (x y : Float) :
    (ofExcept ((float op x y).map Value.float)).FailsOnly (IsOperation op.divides) := by
  rw [ofExcept_map]
  exact (failsOnly_float op x y).bind fun _ _ => trivial

theorem failsOnly_int (op : ArithmeticOp) (x y : Int64) :
    (int op x y).FailsOnly (IsOperation op.divides) := by
  have hpromoted (op : ArithmeticOp) :
      (ofExcept (promoted op x y)).FailsOnly (IsOperation op.divides) := failsOnly_map_float op _ _
  unfold int
  split
  · rw [floorDivInt]
    split
    · exact ⟨rfl, fun _ => rfl⟩
    split
    · refine (failsOnly_step _).bind fun rest _ => ?_
      split
      · exact (failsOnly_step _).bind fun _ _ => trivial
      · trivial
    · exact hpromoted .floorDiv
  · rw [modInt]
    split
    · exact ⟨rfl, fun _ => rfl⟩
    split
    · split
      · exact (failsOnly_step _).bind fun _ _ => trivial
      · trivial
    · trivial
  · split
    · trivial
    · exact hpromoted _

theorem failsOnly_binary (op : ArithmeticOp) (left right : Value) :
    (binary op left right).FailsOnly (IsOperation op.divides) := by
  unfold binary
  split
  · trivial
  · trivial
  split
  · exact ⟨rfl, nofun⟩
  split
  · unfold numeric
    split
    · exact failsOnly_int _ _ _
    · exact failsOnly_map_float _ _ _
  · exact ⟨rfl, nofun⟩

theorem failsOnly_unary (op : UnaryOp) (operand : Value) :
    (ofExcept (unary op operand)).FailsOnly (IsOperation false) := by
  unfold unary
  split
  · trivial
  all_goals split <;> first | exact ⟨rfl, nofun⟩ | trivial

theorem failsOnly_compare (op : Comparison) (left right : Value) :
    (ofExcept (compare op left right)).FailsOnly (IsOperation false) := by
  rw [compare]
  split <;> first | exact ⟨rfl, nofun⟩ | trivial

end Arithmetic

/-! ### Functions -/

namespace Builtin

theorem failsOnly_number (f : Builtin) (v : Value) :
    (ofExcept (number f v)).FailsOnly (IsOperation false) := by
  rw [number]
  split <;> first | exact ⟨rfl, nofun⟩ | trivial

theorem failsOnly_integral (f : Builtin) (v : Float) :
    (ofExcept (integral f v)).FailsOnly (IsOperation false) := by
  rw [integral]
  split <;> first | exact ⟨rfl, nofun⟩ | trivial

theorem failsOnly_extremeFrom (f : Builtin) (keep : Ordering) (best : Value) (items : List Value) :
    (ofExcept (extremeFrom f keep best items)).FailsOnly (IsOperation false) := by
  induction items generalizing best with
  | nil => trivial
  | cons item rest ih =>
    rw [extremeFrom]
    split
    · exact ⟨rfl, nofun⟩
    · exact ih _

theorem failsOnly_extreme (f : Builtin) (keep : Ordering) (arguments : List Value) :
    (ofExcept (extreme f keep arguments)).FailsOnly (IsOperation false) := by
  rw [extreme]
  split
  · exact ⟨rfl, nofun⟩
  · exact failsOnly_extremeFrom _ _ _ _

theorem failsOnly_digits? (v : Option Value) :
    (ofExcept (digits? v)).FailsOnly (IsOperation false) := by
  unfold digits?
  split <;> first | exact ⟨rfl, nofun⟩ | trivial

theorem failsOnly_roundValue (v : Value) (digits : Option Int) :
    (ofExcept (roundValue v digits)).FailsOnly (IsOperation false) := by
  unfold roundValue
  split
  · trivial
  · trivial
  · exact failsOnly_integral _ _
  · exact ⟨rfl, nofun⟩
  · rw [roundInt]
    split
    · trivial
    · exact failsOnly_integral _ _
  · rw [ofExcept_map]
    exact (failsOnly_number _ _).bind fun _ _ => trivial

theorem failsOnly_absolute (v : Value) : (ofExcept (absolute v)).FailsOnly (IsOperation false) := by
  unfold absolute
  split
  · split <;> trivial
  · trivial
  · trivial
  · exact ⟨rfl, nofun⟩

theorem failsOnly_toInteger (v : Value) : (ofExcept (toInteger v)).FailsOnly (IsOperation false) := by
  unfold toInteger
  split
  · trivial
  · trivial
  · exact failsOnly_integral _ _
  · split <;> first | exact ⟨rfl, nofun⟩ | trivial
  · exact ⟨rfl, nofun⟩

theorem failsOnly_toFloat (v : Value) : (ofExcept (toFloat v)).FailsOnly (IsOperation false) := by
  unfold toFloat
  split
  · split <;> first | exact ⟨rfl, nofun⟩ | trivial
  · rw [ofExcept_map]
    exact (failsOnly_number _ _).bind fun _ _ => trivial

theorem failsOnly_sumFrom (total : Value) (items : List Value) :
    (sumFrom total items).FailsOnly (IsOperation false) := by
  induction items generalizing total with
  | nil => trivial
  | cons item rest ih =>
    rw [sumFrom]
    split
    · exact ⟨rfl, nofun⟩
    · exact (Arithmetic.failsOnly_binary _ _ _).bind fun total _ => ih total

theorem failsOnly_sumOf (arguments : List Value) :
    (sumOf arguments).FailsOnly (IsOperation false) := by
  unfold sumOf
  split <;> exact failsOnly_sumFrom _ _

theorem failsOnly_root (v : Value) : (ofExcept (root v)).FailsOnly (IsOperation false) := by
  rw [root, ofExcept_bind]
  refine (failsOnly_number _ _).bind fun x _ => ?_
  split <;> first | exact ⟨rfl, nofun⟩ | trivial

theorem failsOnly_roundedTo (f : Builtin) (d : Number.Direction) (v : Value) :
    (ofExcept (roundedTo f d v)).FailsOnly (IsOperation false) := by
  unfold roundedTo
  split
  · trivial
  · rw [ofExcept_bind]
    exact (failsOnly_number _ _).bind fun _ _ => failsOnly_integral _ _

theorem failsOnly_clamped (x low high : Value) :
    (clamped x low high).FailsOnly (IsOperation false) := by
  have hnumber {v : Value} {e : Fault} (h : number clamp v = .error e) : e.IsOperation false := by
    have hv := failsOnly_number clamp v
    rw [h] at hv
    exact hv
  unfold clamped
  split
  · split
    · exact ⟨rfl, nofun⟩
    split
    · exact ⟨rfl, nofun⟩
    split
    · rw [clampInt]
      split
      · trivial
      · split
        · trivial
        · split <;> trivial
    · trivial
  · exact hnumber ‹_›
  · exact hnumber ‹_›
  · exact hnumber ‹_›

/-- Functions only fail on their values. -/
theorem failsOnly_apply (f : Builtin) (arguments : List Value) :
    (f.apply arguments).FailsOnly (IsOperation false) := by
  cases f with
  | abs => exact (failsOnly_itemAt _ _).bind fun _ _ => failsOnly_absolute _
  | min | max => exact failsOnly_extreme _ _ _
  | round =>
    refine (failsOnly_digits? _).bind fun _ _ => ?_
    exact (failsOnly_itemAt _ _).bind fun _ _ => failsOnly_roundValue _ _
  | int => exact (failsOnly_itemAt _ _).bind fun _ _ => failsOnly_toInteger _
  | float => exact (failsOnly_itemAt _ _).bind fun _ _ => failsOnly_toFloat _
  | sum => exact failsOnly_sumOf _
  | sqrt => exact (failsOnly_itemAt _ _).bind fun _ _ => failsOnly_root _
  | pow =>
    refine (failsOnly_itemAt _ _).bind fun _ _ => ?_
    exact (failsOnly_itemAt _ _).bind fun _ _ => Arithmetic.failsOnly_binary _ _ _
  | floor | ceil => exact (failsOnly_itemAt _ _).bind fun _ _ => failsOnly_roundedTo _ _ _
  | clamp =>
    refine (failsOnly_itemAt _ _).bind fun _ _ => ?_
    refine (failsOnly_itemAt _ _).bind fun _ _ => ?_
    exact (failsOnly_itemAt _ _).bind fun _ _ => failsOnly_clamped _ _ _

end Builtin

/-! ### Subscripts and results -/

theorem failsOnly_itemPlace (index : Int64) (length : Nat) :
    (itemPlace index length).FailsOnly (IsOperation false) := by
  have hplace (place : Int64) : (if 0 ≤ place.toInt ∧ place.toInt.toNat < length
      then pure place.toInt.toNat else error .indexOutOfRange).FailsOnly (IsOperation false) := by
    split <;> first | exact ⟨rfl, nofun⟩ | trivial
  rw [itemPlace]
  dsimp only
  split
  · exact (failsOnly_step _).bind fun place _ => hplace place
  · exact hplace index

theorem failsOnly_itemOf (object : Value) (index : Int64) :
    (itemOf object index).FailsOnly (IsOperation false) := by
  unfold itemOf
  split
  · exact (failsOnly_itemPlace _ _).bind fun _ _ => failsOnly_itemAt _ _
  · refine (failsOnly_itemPlace _ _).bind fun _ _ => ?_
    exact (failsOnly_itemAt _ _).bind fun _ _ => trivial
  · exact ⟨rfl, nofun⟩

theorem failsOnly_subscript (object index : Value) :
    (subscript object index).FailsOnly (IsOperation false) := by
  unfold subscript
  split
  · exact failsOnly_itemOf _ _
  · exact failsOnly_itemOf _ _
  · exact ⟨rfl, nofun⟩

theorem Expr.failsOnly_finiteNumber (v : Value) :
    (ofExcept (finiteNumber v)).FailsOnly (IsOperation false) := by
  rw [finiteNumber]
  split
  · exact ⟨rfl, nofun⟩
  · split <;> first | exact ⟨rfl, nofun⟩ | trivial

end Appraisal
