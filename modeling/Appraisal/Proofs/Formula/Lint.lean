import Appraisal.Formula.Diagnostic
import Appraisal.Proofs.Formula.FieldReads

/-!
# Divisions without a remark

The remarks on a formula warn of divisions whose divisor is no literal, or a literal of zero, under
any unary operators. Signs keep a number from being zero, but `not` does not: the value of such a
divisor is zero just if an odd number of `not`s stand before the literal (`Expr.isComplemented`,
`Expr.eval_isNonzeroLiteral`). So a formula without the warning fails over a divisor just where its
evaluation reaches a division of a number by such a literal, and never if it has none
(`Expr.fails_over_divisor_iff`).
-/

namespace Appraisal

open Outcome

/-! ### Unary operators -/

theorem Arithmetic.negate_isZero (n : Numeric) :
    ∃ m, Numeric.ofValue? (negate n) = some m ∧ m.isZero = n.isZero := by
  cases n with
  | float v => exact ⟨.float (-v), rfl, Number.neg_beq_zero v⟩
  | int i =>
    rw [negate]
    split
    · next j hj =>
      refine ⟨.int j, rfl, ?_⟩
      have hvalue := Number.toInt_of_int64? hj
      rw [Numeric.isZero, Numeric.isZero, Bool.eq_iff_iff, beq_iff_eq, beq_iff_eq,
        ← Int64.toInt_inj, ← Int64.toInt_inj, hvalue, Int64.toInt_zero]
      exact Int.neg_eq_zero
    · refine ⟨.float (-(Number.toFloat i)), rfl, ?_⟩
      show (-(Number.toFloat i) == 0.0) = (i == 0)
      rw [Number.neg_beq_zero, Number.toFloat_beq_zero]

theorem Value.isTruthy_of_number {v : Value} {n : Numeric} (h : Numeric.ofValue? v = some n) :
    v.isTruthy = !n.isZero := by
  cases v with
  | null | string | list => cases h
  | bool b =>
    cases h
    cases b <;> rfl
  | int i | float i =>
    cases h
    rfl

/-- Signs keep a number from being zero, and `not` turns that over. -/
theorem Arithmetic.unary_isZero {op : UnaryOp} {v w : Value} {n : Numeric}
    (hv : Numeric.ofValue? v = some n) (h : unary op v = .ok w) :
    ∃ m, Numeric.ofValue? w = some m ∧
      m.isZero = if op = .not then !n.isZero else n.isZero := by
  cases op with
  | not =>
    cases h
    refine ⟨.int (Number.ofBool !v.isTruthy), rfl, ?_⟩
    rw [Value.isTruthy_of_number hv, if_pos rfl]
    cases n.isZero <;> rfl
  | neg =>
    rw [unary, hv] at h
    cases h
    exact negate_isZero n
  | pos =>
    rw [unary, hv] at h
    cases n <;> cases h <;> exact ⟨_, rfl, rfl⟩

namespace Expr

variable {maximum : Nat} {context : Context} {depth : Nat} {e t : Expr} {v : Value}

/-! ### Literals under unary operators -/

/-- Whether an odd number of `not`s is among the unary operators before a formula. -/
def isComplemented : Expr → Bool
  | .unary .not operand => !operand.isComplemented
  | .unary _ operand => operand.isComplemented
  | _ => false

theorem isComplemented_unary (op : UnaryOp) (operand : Expr) :
    (Expr.unary op operand).isComplemented =
      if op = .not then !operand.isComplemented else operand.isComplemented := by
  cases op <;> rfl

/-- A literal other than zero, under unary operators, has a number for its value, and that is zero
just if an odd number of `not`s is among them. -/
theorem eval_isNonzeroLiteral (hliteral : e.isNonzeroLiteral = true)
    (hv : e.eval maximum context depth = ok v) :
    ∃ n, Numeric.ofValue? v = some n ∧ n.isZero = e.isComplemented := by
  fun_induction isNonzeroLiteral e generalizing depth v with
  | case1 i =>
    rw [eval.eq_def] at hv
    split at hv <;> cases hv
    refine ⟨.int i, rfl, ?_⟩
    show (i == 0) = false
    simpa using hliteral
  | case2 x =>
    rw [eval.eq_def] at hv
    split at hv <;> cases hv
    refine ⟨.float x, rfl, ?_⟩
    show (x == 0.0) = false
    simpa [bne] using hliteral
  | case3 op operand ih =>
    rw [eval.eq_def] at hv
    split at hv
    · cases hv
    obtain ⟨a, ha, h⟩ := bind_eq_ok_iff.1 hv
    obtain ⟨n, hn, hzero⟩ := ih hliteral ha
    have hunary : Arithmetic.unary op a = .ok v := by
      cases hu : Arithmetic.unary op a <;> rw [hu] at h <;> cases h
      rfl
    obtain ⟨m, hm, hm0⟩ := Arithmetic.unary_isZero hn hunary
    exact ⟨m, hm, by rw [hm0, hzero, isComplemented_unary]⟩
  | case4 => cases hliteral

/-! ### Divisors -/

/-- A part that is reached is a part of the formula. -/
theorem Reaches.mem_subtrees {deeper : Nat} (h : Reaches maximum context depth e deeper t) :
    t ∈ e.subtrees := by
  induction h with
  | refl => exact mem_subtrees_self _
  | step _ hdemands _ ih => exact subtrees_subset_of_child hdemands.mem_children ih

theorem mem_divisors {op : ArithmeticOp} {left right : Expr}
    (h : .arithmetic op left right ∈ e.subtrees) (hop : op.divides = true) :
    right ∈ e.divisors :=
  List.mem_filterMap.2 ⟨_, h, if_pos hop⟩

theorem all_isNonzeroLiteral (h : .mayDivideByZero ∉ e.diagnostics) :
    ∀ d ∈ e.divisors, d.isNonzeroLiteral = true := by
  rw [← List.all_eq_true]
  by_contra hall
  exact h (by simp [diagnostics, hall])

variable (maximum context)

/-- An operation at `depth` divides a number by a literal under an odd number of `not`s. -/
def DividesByComplementAt (depth : Nat) (e : Expr) (fault : Fault) : Prop :=
  depth ≤ maximum ∧ ∃ op left right a b, e = .arithmetic op left right ∧
    left.eval maximum context (depth + 1) = ok a ∧ right.eval maximum context (depth + 1) = ok b ∧
    op.zeroFault? = some fault ∧ (Numeric.ofValue? a).isSome = true ∧ right.isComplemented = true

variable {maximum context}

/-- Without the warning a divisor is zero just if it is complemented. -/
theorem dividesByZeroAt_iff {deeper : Nat} {fault : Fault}
    (hlint : .mayDivideByZero ∉ e.diagnostics) (h : Reaches maximum context depth e deeper t) :
    DividesByZeroAt maximum context deeper t fault ↔
      DividesByComplementAt maximum context deeper t fault := by
  have hdivisor {op : ArithmeticOp} {left right : Expr} {b : Value}
      (ht : t = .arithmetic op left right) (hop : op.zeroFault? = some fault)
      (hb : right.eval maximum context (deeper + 1) = ok b) :
      ∃ n, Numeric.ofValue? b = some n ∧ n.isZero = right.isComplemented := by
    have hmem := mem_divisors (ht ▸ h.mem_subtrees) (Arithmetic.divides_of_zeroFault? hop).1
    exact eval_isNonzeroLiteral (all_isNonzeroLiteral hlint right hmem) hb
  constructor
  · rintro ⟨hdepth, op, left, right, a, b, ht, ha, hb, hop, hleft, n, hn, hzero⟩
    obtain ⟨m, hm, hcomplemented⟩ := hdivisor ht hop hb
    obtain rfl : n = m := Option.some.inj (hn.symm.trans hm)
    exact ⟨hdepth, op, left, right, a, b, ht, ha, hb, hop, hleft, hcomplemented ▸ hzero⟩
  · rintro ⟨hdepth, op, left, right, a, b, ht, ha, hb, hop, hleft, hcomplemented⟩
    obtain ⟨n, hn, hzero⟩ := hdivisor ht hop hb
    exact ⟨hdepth, op, left, right, a, b, ht, ha, hb, hop, hleft, n, hn,
      hzero.trans hcomplemented⟩

/-- Faults over divisors come from the value, not from its form as a number. -/
theorem number_eq_overZero_iff {fault : Fault} (hzero : fault.overZero = true) :
    e.number maximum context = error fault ↔ e.value maximum context = error fault := by
  rw [number, bind_eq_error_iff]
  refine ⟨?_, .inl⟩
  rintro (h | ⟨v, _, h⟩)
  · exact h
  · have hfalse := ((failsOnly_finiteNumber v).of_eq h).2 hzero
    cases hfalse

/-- **What a formula without the warning of a divisor that may be zero fails over.** Whatever the
limit of the evaluator and the listing, it fails with a division by zero or a modulo by zero just
where its evaluation reaches a division of a number by a literal under an odd number of `not`s, and
likewise where a number is asked of it. It never does if none of its divisors is such a literal. -/
theorem fails_over_divisor_iff (hlint : .mayDivideByZero ∉ e.diagnostics) (maximum : Nat)
    (context : Context) {fault : Fault}
    (hfault : fault = .divisionByZero ∨ fault = .moduloByZero) :
    (e.value maximum context = error fault ↔ ∃ depth t, Reaches maximum context 1 e depth t ∧
      DividesByComplementAt maximum context depth t fault) ∧
    (e.number maximum context = error fault ↔ ∃ depth t, Reaches maximum context 1 e depth t ∧
      DividesByComplementAt maximum context depth t fault) ∧
    ((∀ d ∈ e.divisors, d.isComplemented = false) →
      e.value maximum context ≠ error fault ∧ e.number maximum context ≠ error fault) := by
  have hzero : fault.overZero = true := by
    rcases hfault with rfl | rfl <;> rfl
  have hvalue : e.value maximum context = error fault ↔ ∃ depth t,
      Reaches maximum context 1 e depth t ∧
      DividesByComplementAt maximum context depth t fault := by
    rw [value, eval_eq_overZero_iff hzero]
    exact exists_congr fun depth => exists_congr fun t =>
      and_congr_right fun hreaches => dividesByZeroAt_iff hlint hreaches
  have hnumber := (number_eq_overZero_iff hzero).trans hvalue
  refine ⟨hvalue, hnumber, fun hplain => ?_⟩
  have hnone : ¬ ∃ depth t, Reaches maximum context 1 e depth t ∧
      DividesByComplementAt maximum context depth t fault := by
    rintro ⟨depth, t, hreaches, -, op, left, right, a, b, rfl, -, -, hop, -, hcomplemented⟩
    have hmem := mem_divisors hreaches.mem_subtrees (Arithmetic.divides_of_zeroFault? hop).1
    rw [hplain right hmem] at hcomplemented
    cases hcomplemented
  exact ⟨fun h => hnone (hvalue.1 h), fun h => hnone (hnumber.1 h)⟩

/-- Divisors under a sign and under two `not`s, for all listings. -/
theorem fails_over_divisor_iff_signs :
    ∃ e, parse {} "price / -2 + 9 % (not not 5)" = .ok e ∧ e.divisors.length = 2 ∧
      .mayDivideByZero ∉ e.diagnostics ∧
      ∀ context, e.value 64 context ≠ error .divisionByZero ∧
        e.number 64 context ≠ error .divisionByZero := by
  have hruns : (parse {} "price / -2 + 9 % (not not 5)").toOption.map (fun e =>
      (e.divisors.length, decide (.mayDivideByZero ∈ e.diagnostics),
        e.divisors.any isComplemented)) = some (2, false, false) := by decide +kernel
  obtain ⟨e, he, hruns⟩ := Option.map_eq_some_iff.1 hruns
  obtain ⟨hlength, hruns⟩ := Prod.mk.inj hruns
  obtain ⟨hlint, hplain⟩ := Prod.mk.inj hruns
  have hlint := of_decide_eq_false hlint
  refine ⟨e, toOption_eq_some_iff.1 he, hlength, hlint, fun context => ?_⟩
  refine (fails_over_divisor_iff hlint 64 context (.inl rfl)).2.2 fun d hd => ?_
  exact Bool.eq_false_iff.2 (List.any_eq_false.1 hplain d hd)

/-- A formula without the warning that always fails with a division by zero. -/
theorem divides_by_complement :
    ∃ e, parse {} "1 / (not 5)" = .ok e ∧
      .mayDivideByZero ∉ Diagnostic.ofSource "1 / (not 5)" ∧
      e.value 64 .empty = error .divisionByZero ∧ e.number 64 .empty = error .divisionByZero := by
  have hruns : (parse {} "1 / (not 5)").toOption.map (fun e =>
      ((match e.value 64 .empty with | error .divisionByZero => true | _ => false),
        (match e.number 64 .empty with | error .divisionByZero => true | _ => false))) =
      some (true, true) := by decide +kernel
  obtain ⟨e, he, hruns⟩ := Option.map_eq_some_iff.1 hruns
  obtain ⟨hvalue, hnumber⟩ := Prod.mk.inj hruns
  refine ⟨e, toOption_eq_some_iff.1 he, by decide +kernel, ?_, ?_⟩
  · split at hvalue
    · assumption
    · cases hvalue
  · split at hnumber
    · assumption
    · cases hnumber

end Expr

end Appraisal
