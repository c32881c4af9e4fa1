import Appraisal.Proofs.Condition.Combinators

/-!
# How the operators of tests hang together

The operators that test a field are evaluated one by one, each with its own errors. They agree all
the same: `not_equals`, `not_in`, `less_than` and `less_than_or_equal` are the opposites of other
operators, `in` is a group of `equals` and `between` a pair of bounds. Only the operator that an
error names tells the two sides apart (`Condition.Alike`).

All of this is about a field that has a value. A field that is missing or null passes no test but
the one for null (`Test.eval_of_lacks`), so there an operator and its opposite fail together.
-/

namespace Appraisal

/-! ### Outcomes up to the operator that an error names -/

/-- The error with `op` for the operator that it names, if it names one. -/
def ConditionError.naming (op : TestOp) : ConditionError → ConditionError
  | invalidOperand field _ expected found => invalidOperand field op expected found
  | incomparable field _ left right => incomparable field op left right
  | e => e

namespace Condition

/-- The outcomes are the same, or errors that differ in the operator that they name at most. -/
def Alike {α : Type} (x y : Except ConditionError α) : Prop :=
  ∀ op : TestOp, x.mapError (ConditionError.naming op) = y.mapError (ConditionError.naming op)

section Alike

variable {α β : Type} {x y : Except ConditionError α}

theorem Alike.refl (x : Except ConditionError α) : Alike x x := fun _ => rfl

theorem Alike.bind {f g : α → Except ConditionError β} (h : Alike x y)
    (hfg : ∀ a, Alike (f a) (g a)) : Alike (x >>= f) (y >>= g) := by
  intro op
  specialize h op
  cases x with
  | error e =>
    cases y with
    | error e' => exact congrArg Except.error (Except.error.inj h)
    | ok b => cases h
  | ok a =>
    cases y with
    | error e' => cases h
    | ok b =>
      cases h
      exact hfg a op

end Alike

end Condition

/-! ### Fields without a value -/

/-- A field is missing or null. -/
def Context.Lacks (context : Context) (field : String) : Prop :=
  context.lookup? field = none ∨ context.lookup? field = some .null

namespace Test

open Condition

variable {find : Pattern.Find} {context : Context} {t : Test}

/-- The same test with another operator. -/
def under (t : Test) (op : TestOp) : Test := { t with op }

/-- The test of the same field with another operator and operand. -/
def asking (t : Test) (op : TestOp) (operand : Value) : Test := { t with op, operand }

theorem eval_of_lacks (h : context.Lacks t.field) :
    t.eval find context = .ok (t.op == .isNull) := by
  rw [eval]
  rcases h with h | h <;> rw [h] <;> rfl

/-- A test of a field that has a value is a test of that value. -/
theorem exists_eval_eq (h : ¬ context.Lacks t.field) (find : Pattern.Find) :
    ∃ v, ∀ s : Test, s.field = t.field → s.eval find context = s.evalValue find v := by
  obtain ⟨hmissing, hnull⟩ := not_or.1 h
  obtain ⟨v, hv⟩ := Option.ne_none_iff_exists'.1 hmissing
  have hpresent : v.isNull = false := by
    cases v with
    | null => exact absurd hv hnull
    | _ => rfl
  refine ⟨v, fun s hs => ?_⟩
  rw [eval, hs, hv, Option.filter_some, hpresent]
  rfl

/-! ### Values -/

section Values

variable (t) (v : Value)

/-- A comparison that fails does so under every operator. -/
theorem alike_rank (op op' : TestOp) (bound : Value) :
    Alike ((t.under op).rank v bound) ((t.under op').rank v bound) := by
  rw [rank, rank]
  cases v.rank? bound with
  | some o => exact .refl _
  | none => exact fun _ => rfl

/-- An operator that asks for an order is the opposite of the one that asks for the other orders. -/
theorem alike_deny_rank {op op' : TestOp} {holds holds' : Ordering → Bool} (bound : Value)
    (h : ∀ o, holds o = !holds' o) :
    Alike (return holds (← (t.under op).rank v bound))
      (deny (return holds' (← (t.under op').rank v bound))) := by
  have hdeny : deny (return holds' (← (t.under op').rank v bound)) =
      (return !holds' (← (t.under op').rank v bound)) := by
    cases (t.under op').rank v bound <;> rfl
  rw [hdeny]
  refine (t.alike_rank v op op' bound).bind fun o => ?_
  rw [h o]
  exact .refl _

theorem alike_isMember (op op' : TestOp) :
    Alike ((t.under op).isMember v) ((t.under op').isMember v) := by
  unfold isMember under
  cases t.operand <;> exact fun _ => rfl

theorem alike_notMember :
    Alike ((t.under .notMember).evalValue find v) (deny ((t.under .member).evalValue find v)) := by
  have hdeny : deny ((t.under .member).evalValue find v) =
      (return !(← (t.under .member).isMember v)) := by
    show deny ((t.under .member).isMember v) = _
    cases (t.under .member).isMember v <;> rfl
  rw [hdeny]
  exact (t.alike_isMember v .notMember .member).bind fun _ => .refl _

/-- A value lies between two bounds if it passes both in turn. -/
theorem alike_between (low high : Value) :
    Alike ((t.asking .between (.list [low, high])).evalValue find v)
      (andThen ((t.asking .greaterThanOrEqual low).evalValue find v)
        ((t.asking .lessThanOrEqual high).evalValue find v)) := by
  show Alike (do
      if (← (t.asking .between (.list [low, high])).rank v low) = .lt then return false
      return (← (t.asking .between (.list [low, high])).rank v high) != .gt)
    (andThen (return (← (t.asking .greaterThanOrEqual low).rank v low) != .lt)
      (return (← (t.asking .lessThanOrEqual high).rank v high) != .gt))
  simp only [rank]
  cases v.rank? low with
  | none => exact fun _ => rfl
  | some o =>
    cases v.rank? high with
    | none => cases o <;> exact fun _ => rfl
    | some o' => cases o <;> exact fun _ => rfl

end Values

/-! ### Tests -/

/-- Tests with a truth value each are evaluated up to the first that holds. -/
theorem evalAny_of_eval_eq {ask : Value → Test} {holds : Value → Bool}
    (h : ∀ v, (ask v).eval find context = .ok (holds v)) (vs : List Value) :
    evalAny find context (vs.map fun v => .test (ask v)) = .ok (vs.any holds) := by
  induction vs with
  | nil => rfl
  | cons v rest ih =>
    rw [List.map_cons, evalAny_cons, ih, evalWith, h, List.any_cons]
    cases holds v <;> rfl

/-- **The operators of tests agree with each other.** A field without a value passes no test but the
one for null. On a field with a value `not_equals`, `not_in`, `less_than` and `less_than_or_equal`
are the opposites of `equals`, `in`, `greater_than_or_equal` and `greater_than`. On every field `in`
comes to what a group of `equals` with each item comes to, and `between` to what the two bounds come
to. The outcomes are the same, errors included, save for the operator that an error names. -/
theorem operators_agree (find : Pattern.Find) (context : Context) (t : Test) :
    (context.Lacks t.field → ∀ op, op ≠ .isNull → (t.under op).eval find context = .ok false) ∧
    (¬ context.Lacks t.field →
      Alike ((t.under .notEquals).eval find context)
        (deny ((t.under .equals).eval find context)) ∧
      Alike ((t.under .notMember).eval find context)
        (deny ((t.under .member).eval find context)) ∧
      Alike ((t.under .lessThan).eval find context)
        (deny ((t.under .greaterThanOrEqual).eval find context)) ∧
      Alike ((t.under .lessThanOrEqual).eval find context)
        (deny ((t.under .greaterThan).eval find context))) ∧
    (∀ items : List Value, Alike ((t.asking .member (.list items)).eval find context)
      ((any (items.map fun item => .test (t.asking .equals item))).evalWith find context)) ∧
    ∀ low high : Value, Alike ((t.asking .between (.list [low, high])).eval find context)
      ((all [.test (t.asking .greaterThanOrEqual low),
        .test (t.asking .lessThanOrEqual high)]).evalWith find context) := by
  by_cases hlacks : context.Lacks t.field
  · have heval (op : TestOp) (operand : Value) (hop : op ≠ .isNull) :
        (t.asking op operand).eval find context = .ok false := by
      have hlacks : context.Lacks (t.asking op operand).field := hlacks
      rw [eval_of_lacks hlacks]
      exact congrArg Except.ok (beq_eq_false_iff_ne.2 hop)
    refine ⟨fun _ op hop => heval op t.operand hop, fun h => absurd hlacks h, ?_, ?_⟩
    · intro items
      have hequals (v : Value) := heval .equals v (by decide)
      have hnone : items.any (fun _ => false) = false := by simp
      rw [heval .member _ (by decide), evalWith_any, evalAny_of_eval_eq hequals, hnone]
      exact .refl _
    · intro low high
      rw [heval .between _ (by decide), evalWith_all, evalAll_cons, evalWith,
        heval .greaterThanOrEqual _ (by decide)]
      exact .refl _
  · obtain ⟨v, hv⟩ := exists_eval_eq hlacks find
    have heval (op : TestOp) (operand : Value) :
        (t.asking op operand).eval find context = (t.asking op operand).evalValue find v :=
      hv (t.asking op operand) rfl
    refine ⟨fun h => absurd h hlacks, fun _ => ⟨?_, ?_, ?_, ?_⟩, ?_, ?_⟩
    · rw [hv (t.under .notEquals) rfl, hv (t.under .equals) rfl]
      exact .refl _
    · rw [hv (t.under .notMember) rfl, hv (t.under .member) rfl]
      exact t.alike_notMember v
    · rw [hv (t.under .lessThan) rfl, hv (t.under .greaterThanOrEqual) rfl]
      exact t.alike_deny_rank v t.operand (by decide)
    · rw [hv (t.under .lessThanOrEqual) rfl, hv (t.under .greaterThan) rfl]
      exact t.alike_deny_rank v t.operand (by decide)
    · intro items
      rw [heval .member, evalWith_any, evalAny_of_eval_eq (heval .equals)]
      exact .refl _
    · intro low high
      rw [evalWith_all, evalAll_cons, evalAll_cons, evalWith, evalWith, evalAll, andThen_true,
        heval .between, heval .greaterThanOrEqual, heval .lessThanOrEqual]
      exact t.alike_between v low high

/-- A price is compared with a list, which has no order with it, and a card that is missing with
another one. -/
theorem operators_agree_price :
    let context := Context.empty.insert "price" (.int 450)
    let price : Test := ⟨"price", .number, .equals, .list [.int 400]⟩
    let card : Test := ⟨"gpu.model", .string, .equals, .string "rtx"⟩
    context.Lacks card.field ∧ ¬ context.Lacks price.field ∧
      (card.under .notEquals).eval Pattern.compile context = .ok false ∧
      Alike ((price.under .lessThan).eval Pattern.compile context)
        (deny ((price.under .greaterThanOrEqual).eval Pattern.compile context)) ∧
      (price.under .lessThan).eval Pattern.compile context =
        .error (.incomparable "price" .lessThan "int" "list") := by
  have hcard : (Context.empty.insert "price" (.int 450)).lookup? "gpu.model" = none := by rfl
  have hprice : (Context.empty.insert "price" (.int 450)).lookup? "price" = some (.int 450) := by
    rfl
  have herror : (Test.mk "price" .number .lessThan (.list [.int 400])).eval Pattern.compile
      (Context.empty.insert "price" (.int 450)) =
      .error (.incomparable "price" .lessThan "int" "list") := by rfl
  intro context price card
  have hpresent : ¬ context.Lacks price.field := by
    rintro (h | h) <;> cases hprice.symm.trans h
  obtain ⟨habsent, -, -, -⟩ := operators_agree Pattern.compile context card
  obtain ⟨-, hopposites, -, -⟩ := operators_agree Pattern.compile context price
  obtain ⟨-, -, hless, -⟩ := hopposites hpresent
  exact ⟨.inl hcard, hpresent, habsent (.inl hcard) .notEquals (by decide), hless, herror⟩

end Test

end Appraisal
