import Appraisal.Proofs.Formula.Abort
import Appraisal.Proofs.Formula.Divisor
import Appraisal.Proofs.Formula.Parts

/-!
# What an evaluation reaches

An evaluation asks for the values of some parts of a formula (`Expr.Demands`) and, level by level,
reaches parts of these (`Expr.Reaches`). A formula that has no value asks for a part that has none,
or fails by itself (`Expr.of_eval_eq_failed`, `Expr.OwnFailure`), so an evaluation fails just where
it reaches a part of the latter kind. It is broken off just where it reaches a call of `clamp` with
crossed bounds (`Expr.Crosses`, `Expr.value_eq_abort_iff`), and it fails over a divisor just where
it reaches a division by zero (`Expr.eval_eq_overZero_iff`).
-/

namespace Appraisal.Expr

open Outcome

variable (maximum : Nat) (context : Context)

/-- The parts of a formula at `depth` whose values its own value asks for. -/
inductive Demands (depth : Nat) : Expr → Expr → Prop
  | left {op left right} : Demands depth (.arithmetic op left right) left
  | right {op left right a} (ha : left.eval maximum context (depth + 1) = ok a) :
    Demands depth (.arithmetic op left right) right
  | operand {op operand} : Demands depth (.unary op operand) operand
  | first {first links} : Demands depth (.comparison first links) first
  /-- The links before the one that is asked for hold. -/
  | link {first before op e after a} (ha : first.eval maximum context (depth + 1) = ok a)
    (hbefore : evalLinks maximum context (depth + 1) a before = ok (.bool true)) :
    Demands depth (.comparison first (before ++ (op, e) :: after)) e
  | logicalLeft {op left right} : Demands depth (.logical op left right) left
  /-- The left operand does not decide the connective. -/
  | logicalRight {op left right a} (ha : left.eval maximum context (depth + 1) = ok a)
    (hopen : (a.isTruthy == (op == .or)) = false) : Demands depth (.logical op left right) right
  | argument {function f before e after vs} (hf : Builtin.ofName? function = some f)
    (hbefore : evalAll maximum context (depth + 1) before = ok vs) :
    Demands depth (.call function (before ++ e :: after)) e
  | test {test yes no} : Demands depth (.conditional test yes no) test
  | yes {test yes no t} (ht : test.eval maximum context (depth + 1) = ok t)
    (htruthy : t.isTruthy = true) : Demands depth (.conditional test yes no) yes
  | no {test yes no t} (ht : test.eval maximum context (depth + 1) = ok t)
    (htruthy : t.isTruthy = false) : Demands depth (.conditional test yes no) no
  | listItem {before e after vs}
    (hbefore : evalAll maximum context (depth + 1) before = ok vs) :
    Demands depth (.list (before ++ e :: after)) e
  | tupleItem {before e after vs}
    (hbefore : evalAll maximum context (depth + 1) before = ok vs) :
    Demands depth (.tuple (before ++ e :: after)) e
  | object {object index} : Demands depth (.subscript object index) object
  | index {object index a} (ha : object.eval maximum context (depth + 1) = ok a) :
    Demands depth (.subscript object index) index

/-- The evaluation of a formula at some depth comes to a part of it that lies deeper. -/
inductive Reaches : Nat → Expr → Nat → Expr → Prop
  | refl {depth e} : Reaches depth e depth e
  | step {depth e t deeper u} (hdepth : depth ≤ maximum) (h : Demands maximum context depth e t)
    (ht : Reaches (depth + 1) t deeper u) : Reaches depth e deeper u

/-- A call of `clamp` at `depth` has whole numbers for arguments, with crossed bounds. -/
def CrossesAt (depth : Nat) (e : Expr) (low high : Int64) : Prop :=
  depth ≤ maximum ∧ ∃ arguments x, e = .call Builtin.clamp.name arguments ∧
    evalAll maximum context (depth + 1) arguments = ok [.int x, .int low, .int high] ∧
    Builtin.Crossed low high

/-- The evaluation of a formula reaches a call of `clamp` with crossed bounds. -/
def Crosses (e : Expr) (low high : Int64) : Prop :=
  ∃ depth t, Reaches maximum context 1 e depth t ∧ CrossesAt maximum context depth t low high

/-- An operation at `depth` divides a number by zero. -/
def DividesByZeroAt (depth : Nat) (e : Expr) (fault : Fault) : Prop :=
  depth ≤ maximum ∧ ∃ op left right a b, e = .arithmetic op left right ∧
    left.eval maximum context (depth + 1) = ok a ∧ right.eval maximum context (depth + 1) = ok b ∧
    DividesByZero op a b fault

/-- The ways in which a formula fails by itself when it is evaluated at `depth`. -/
inductive OwnFailure (depth : Nat) : Expr → Fault ⊕ Abort → Prop
  | tooDeep {e} (h : maximum < depth) : OwnFailure depth e (.inl (.tooDeep maximum))
  | variable {name} (h : context.getFlat? name = none) :
    OwnFailure depth (.variable name) (.inl (context.unresolved name))
  | member {object name path} (hpath : (Expr.member object name).path? = some path)
    (h : context.lookup? path = none) :
    OwnFailure depth (.member object name) (.inl (context.unresolved path))
  | crossed {e low high} (h : CrossesAt maximum context depth e low high) :
    OwnFailure depth e (.inr (.crossedBounds low high))
  | byZero {e fault} (h : DividesByZeroAt maximum context depth e fault) :
    OwnFailure depth e (.inl fault)
  /-- The form of the formula is not admitted, or an operation does not take its values. -/
  | other {e} {fault : Fault} (hfield : fault.kind ≠ .field) (hdeep : ∀ n, fault ≠ .tooDeep n)
    (hzero : fault.overZero = false) : OwnFailure depth e (.inl fault)

variable {maximum context} {depth : Nat} {s : Fault ⊕ Abort}

/-! ### One step -/

theorem evalAll_eq_failed_iff {items : List Expr} :
    evalAll maximum context depth items = failed s ↔ ∃ before e after vs,
      items = before ++ e :: after ∧ evalAll maximum context depth before = ok vs ∧
      e.eval maximum context depth = failed s := by
  induction items with
  | nil => simp [evalAll, ok_ne_failed]
  | cons e rest ih =>
    rw [evalAll]
    constructor
    · intro h
      rcases bind_eq_failed_iff.1 h with h | ⟨v, hv, h⟩
      · exact ⟨[], e, rest, [], rfl, rfl, h⟩
      rcases bind_eq_failed_iff.1 h with h | ⟨vs, _, h⟩
      · obtain ⟨before, t, after, vs, rfl, hbefore, ht⟩ := ih.1 h
        refine ⟨e :: before, t, after, v :: vs, rfl, ?_, ht⟩
        rw [evalAll, hv, hbefore]
        rfl
      · exact absurd h ok_ne_failed
    · rintro ⟨before, t, after, vs, hitems, hbefore, ht⟩
      cases before with
      | nil =>
        cases hitems
        rw [ht]
        exact failed_bind s
      | cons _ before =>
        cases hitems
        obtain ⟨v, hv, h⟩ := bind_eq_ok_iff.1 hbefore
        obtain ⟨vs, hvs, -⟩ := bind_eq_ok_iff.1 h
        rw [hv, ok_bind, ih.2 ⟨before, t, after, vs, rfl, hvs, ht⟩]
        exact failed_bind s

/-- A chain of comparisons has no value from its first operand on that has none. -/
theorem evalLinks_of_failed {left : Value} {before after : List (Comparison × Expr)}
    {op : Comparison} {e : Expr}
    (hbefore : evalLinks maximum context depth left before = ok (.bool true))
    (h : e.eval maximum context depth = failed s) :
    evalLinks maximum context depth left (before ++ (op, e) :: after) = failed s := by
  induction before generalizing left with
  | nil =>
    rw [List.nil_append, evalLinks, h]
    exact failed_bind s
  | cons link before ih =>
    obtain ⟨right, hright, hrest⟩ := bind_eq_ok_iff.1 hbefore
    obtain ⟨holds, hholds, hrest⟩ := bind_eq_ok_iff.1 hrest
    split at hrest
    · next htrue =>
      rw [List.cons_append, evalLinks, hright, ok_bind, hholds, ok_bind, if_pos htrue]
      exact ih hrest
    · cases hrest

/-- What an operation that concludes fails with. -/
theorem exists_fault {α : Type} {x : Outcome Fault α} {divides : Bool} (hconcludes : x.Concludes)
    (hfails : x.FailsOnly (Fault.IsOperation divides)) (h : x = failed s) :
    ∃ fault, s = .inl fault ∧ x = error fault ∧ fault.IsOperation divides := by
  cases s with
  | inl fault => exact ⟨fault, rfl, h, hfails.of_eq h⟩
  | inr r => exact absurd h (concludes_iff.1 hconcludes r)

theorem OwnFailure.of_operation {e : Expr}
    (h : ∃ fault, s = .inl fault ∧ fault.IsOperation false) :
    OwnFailure maximum context depth e s := by
  obtain ⟨fault, rfl, hkind, hzero⟩ := h
  refine .other (by rw [hkind]; decide) ?_ ?_
  · rintro n rfl
    cases hkind
  · exact Bool.eq_false_iff.2 fun h => Bool.false_ne_true (hzero h)

/-- A chain of comparisons fails with an operand or with a comparison. -/
theorem exists_of_evalLinks_eq_failed {left : Value} {links : List (Comparison × Expr)}
    (h : evalLinks maximum context depth left links = failed s) :
    (∃ before op e after, links = before ++ (op, e) :: after ∧
      evalLinks maximum context depth left before = ok (.bool true) ∧
      e.eval maximum context depth = failed s) ∨
    ∃ fault, s = .inl fault ∧ fault.IsOperation false := by
  induction links generalizing left with
  | nil => exact absurd h ok_ne_failed
  | cons link rest ih =>
    obtain ⟨op, e⟩ := link
    rcases bind_eq_failed_iff.1 h with h | ⟨right, hright, h⟩
    · exact .inl ⟨[], op, e, rest, rfl, rfl, h⟩
    rcases bind_eq_failed_iff.1 h with h | ⟨holds, hholds, h⟩
    · obtain ⟨fault, hs, -, hfault⟩ :=
        exists_fault (concludes_ofExcept _) (Arithmetic.failsOnly_compare op left right) h
      exact .inr ⟨fault, hs, hfault⟩
    split at h
    · next htrue =>
      refine (ih h).imp_left ?_
      rintro ⟨before, op', t, after, rfl, hbefore, ht⟩
      refine ⟨(op, e) :: before, op', t, after, rfl, ?_, ht⟩
      rw [evalLinks, hright, ok_bind, hholds, ok_bind, if_pos htrue, hbefore]
    · exact absurd h ok_ne_failed

/-- A formula fails with a part that it asks for. -/
theorem eval_of_demands {e t : Expr} (hdepth : depth ≤ maximum)
    (h : Demands maximum context depth e t) (ht : t.eval maximum context (depth + 1) = failed s) :
    e.eval maximum context depth = failed s := by
  have hguard := Nat.not_lt.2 hdepth
  cases h with
  | left | operand | first | logicalLeft | test | object =>
    rw [eval, if_neg hguard, ht]
    exact failed_bind s
  | right ha | index ha =>
    rw [eval, if_neg hguard, ha, ok_bind, ht]
    exact failed_bind s
  | link ha hbefore =>
    rw [eval, if_neg hguard, ha, ok_bind]
    exact evalLinks_of_failed hbefore ht
  | logicalRight ha hopen =>
    rw [eval, if_neg hguard, ha, ok_bind, if_neg (by simp [hopen])]
    exact ht
  | argument hf hbefore =>
    rw [eval, if_neg hguard, hf]
    dsimp only
    rw [evalAll_eq_failed_iff.2 ⟨_, _, _, _, rfl, hbefore, ht⟩]
    exact failed_bind s
  | yes htest htruthy =>
    rw [eval, if_neg hguard, htest, ok_bind, if_pos htruthy]
    exact ht
  | no htest htruthy =>
    rw [eval, if_neg hguard, htest, ok_bind, if_neg (by simp [htruthy])]
    exact ht
  | listItem hbefore | tupleItem hbefore =>
    rw [eval, if_neg hguard, evalAll_eq_failed_iff.2 ⟨_, _, _, _, rfl, hbefore, ht⟩]
    exact failed_bind s

/-- A call of `clamp` with crossed bounds is broken off. -/
theorem eval_of_crossesAt {e : Expr} {low high : Int64}
    (h : CrossesAt maximum context depth e low high) :
    e.eval maximum context depth = abort (.crossedBounds low high) := by
  obtain ⟨hdepth, arguments, x, rfl, harguments, hcrossed⟩ := h
  rw [eval, if_neg (Nat.not_lt.2 hdepth), Builtin.ofName?_name]
  dsimp only
  rw [harguments, ok_bind]
  exact Builtin.call_eq_abort_iff.2 ⟨rfl, x, low, high, rfl, hcrossed, rfl⟩

/-- A division by zero fails with the fault of its operator. -/
theorem eval_of_dividesByZeroAt {e : Expr} {fault : Fault}
    (h : DividesByZeroAt maximum context depth e fault) :
    e.eval maximum context depth = error fault := by
  obtain ⟨hdepth, op, left, right, a, b, rfl, ha, hb, hzero⟩ := h
  rw [eval, if_neg (Nat.not_lt.2 hdepth), ha, ok_bind, hb, ok_bind]
  have hover := (Arithmetic.divides_of_zeroFault? hzero.operator).2
  exact (Arithmetic.binary_eq_error_iff hover a b).2 hzero

theorem ownFailure_of_path {object : Expr} {name path : String}
    (hpath : (Expr.member object name).path? = some path) (h : context.path path = failed s) :
    OwnFailure maximum context depth (.member object name) s := by
  rw [Context.path] at h
  split at h
  · exact absurd h ok_ne_failed
  · next hnone =>
    cases s <;> cases h
    exact .member hpath hnone

/-- A call whose arguments have values fails over them, over their number or over crossed
bounds. -/
theorem ownFailure_of_call {function : String} {f : Builtin} {arguments : List Expr}
    {vs : List Value} (hdepth : depth ≤ maximum) (hf : Builtin.ofName? function = some f)
    (hvs : evalAll maximum context (depth + 1) arguments = ok vs) (h : f.call vs = failed s) :
    OwnFailure maximum context depth (.call function arguments) s := by
  cases s with
  | inl fault =>
    change f.call vs = error fault at h
    rw [Builtin.call] at h
    split at h
    · exact .of_operation ⟨fault, rfl, (f.failsOnly_apply vs).of_eq h⟩
    · cases h
      exact .other (by simp [Fault.kind]) (by simp) rfl
  | inr r =>
    obtain ⟨rfl, x, low, high, rfl, hcrossed, rfl⟩ := Builtin.call_eq_abort_iff.1 h
    have hfunction := (Builtin.name_of_ofName? hf).symm
    exact .crossed ⟨hdepth, arguments, x, by rw [hfunction], hvs, hcrossed⟩

/-- An operation whose operands have values fails over a divisor of zero or otherwise. -/
theorem ownFailure_of_binary {op : ArithmeticOp} {left right : Expr} {a b : Value}
    (hdepth : depth ≤ maximum) (ha : left.eval maximum context (depth + 1) = ok a)
    (hb : right.eval maximum context (depth + 1) = ok b)
    (h : Arithmetic.binary op a b = failed s) :
    OwnFailure maximum context depth (.arithmetic op left right) s := by
  obtain ⟨fault, rfl, herror, hfault⟩ :=
    exists_fault (Arithmetic.concludes_binary op a b) (Arithmetic.failsOnly_binary op a b) h
  cases hzero : fault.overZero with
  | true =>
    have hdivides := (Arithmetic.binary_eq_error_iff hzero a b).1 herror
    exact .byZero ⟨hdepth, op, left, right, a, b, rfl, ha, hb, hdivides⟩
  | false => exact .of_operation ⟨fault, rfl, hfault.1, by rw [hzero]; exact id⟩

/-- A formula that fails asks for a part that fails, or fails by itself. -/
theorem of_eval_eq_failed {e : Expr} (h : e.eval maximum context depth = failed s) :
    (∃ t, Demands maximum context depth e t ∧ t.eval maximum context (depth + 1) = failed s) ∨
      OwnFailure maximum context depth e s := by
  rw [eval.eq_def] at h
  split at h
  · next hdeep =>
    cases s <;> cases h
    exact .inr (.tooDeep hdeep)
  next hdepth =>
  have hdepth := Nat.not_lt.1 hdepth
  cases e with
  | literal v => exact absurd h ok_ne_failed
  | «variable» name =>
    dsimp only [Context.variable] at h
    split at h
    · exact absurd h ok_ne_failed
    · next hnone =>
      cases s <;> cases h
      exact .inr (.variable hnone)
  | member object name =>
    dsimp only at h
    split at h
    · next path hpath => exact .inr (ownFailure_of_path hpath h)
    · cases s <;> cases h
      exact .inr (.other (by simp [Fault.kind]) (by simp) rfl)
  | arithmetic op left right =>
    rcases bind_eq_failed_iff.1 h with h | ⟨a, ha, h⟩
    · exact .inl ⟨left, .left, h⟩
    rcases bind_eq_failed_iff.1 h with h | ⟨b, hb, h⟩
    · exact .inl ⟨right, .right ha, h⟩
    · exact .inr (ownFailure_of_binary hdepth ha hb h)
  | unary op operand =>
    rcases bind_eq_failed_iff.1 h with h | ⟨a, _, h⟩
    · exact .inl ⟨operand, .operand, h⟩
    · obtain ⟨fault, hs, -, hfault⟩ :=
        exists_fault (concludes_ofExcept _) (Arithmetic.failsOnly_unary op a) h
      exact .inr (.of_operation ⟨fault, hs, hfault⟩)
  | comparison first links =>
    rcases bind_eq_failed_iff.1 h with h | ⟨a, ha, h⟩
    · exact .inl ⟨first, .first, h⟩
    rcases exists_of_evalLinks_eq_failed h with ⟨before, op, e, after, rfl, hbefore, h⟩ | h
    · exact .inl ⟨e, .link ha hbefore, h⟩
    · exact .inr (.of_operation h)
  | logical op left right =>
    rcases bind_eq_failed_iff.1 h with h | ⟨a, ha, h⟩
    · exact .inl ⟨left, .logicalLeft, h⟩
    split at h
    · exact absurd h ok_ne_failed
    · next hopen => exact .inl ⟨right, .logicalRight ha (by simpa using hopen), h⟩
  | call function arguments =>
    dsimp only at h
    split at h
    · cases s <;> cases h
      exact .inr (.other (by simp [Fault.kind]) (by simp) rfl)
    next f hf =>
    rcases bind_eq_failed_iff.1 h with h | ⟨vs, hvs, h⟩
    · obtain ⟨before, e, after, vs, rfl, hbefore, h⟩ := evalAll_eq_failed_iff.1 h
      exact .inl ⟨e, .argument hf hbefore, h⟩
    · exact .inr (ownFailure_of_call hdepth hf hvs h)
  | conditional test yes no =>
    rcases bind_eq_failed_iff.1 h with h | ⟨t, ht, h⟩
    · exact .inl ⟨test, .test, h⟩
    split at h
    · next htruthy => exact .inl ⟨yes, .yes ht htruthy, h⟩
    · next htruthy => exact .inl ⟨no, .no ht (by simpa using htruthy), h⟩
  | list items =>
    rcases bind_eq_failed_iff.1 h with h | ⟨vs, _, h⟩
    · obtain ⟨before, e, after, vs, rfl, hbefore, h⟩ := evalAll_eq_failed_iff.1 h
      exact .inl ⟨e, .listItem hbefore, h⟩
    · exact absurd h ok_ne_failed
  | tuple items =>
    rcases bind_eq_failed_iff.1 h with h | ⟨vs, _, h⟩
    · obtain ⟨before, e, after, vs, rfl, hbefore, h⟩ := evalAll_eq_failed_iff.1 h
      exact .inl ⟨e, .tupleItem hbefore, h⟩
    · exact absurd h ok_ne_failed
  | subscript object index =>
    rcases bind_eq_failed_iff.1 h with h | ⟨a, ha, h⟩
    · exact .inl ⟨object, .object, h⟩
    rcases bind_eq_failed_iff.1 h with h | ⟨i, _, h⟩
    · exact .inl ⟨index, .index ha, h⟩
    · obtain ⟨fault, hs, -, hfault⟩ :=
        exists_fault (concludes_subscript a i) (failsOnly_subscript a i) h
      exact .inr (.of_operation ⟨fault, hs, hfault⟩)

/-! ### Whole evaluations -/

theorem Demands.mem_children {e t : Expr} (h : Demands maximum context depth e t) :
    t ∈ e.children := by
  cases h <;> simp [children]

/-- A formula fails just where its evaluation reaches a part that fails by itself. -/
theorem exists_of_eval_eq_failed {e : Expr} (h : e.eval maximum context depth = failed s) :
    ∃ deeper t, Reaches maximum context depth e deeper t ∧
      OwnFailure maximum context deeper t s := by
  -- by induction on the height of the formula, which every part that is asked for reduces
  induction hn : e.depth using Nat.strong_induction_on generalizing e depth with
  | _ n ih =>
    subst hn
    rcases of_eval_eq_failed h with ⟨t, ht, hfailed⟩ | hown
    · by_cases hdepth : depth ≤ maximum
      · obtain ⟨deeper, u, hreaches, hown⟩ :=
          ih t.depth (depth_lt_of_mem_children ht.mem_children) hfailed rfl
        exact ⟨deeper, u, .step hdepth ht hreaches, hown⟩
      · rw [eval.eq_def, if_pos (Nat.not_le.1 hdepth)] at h
        cases s <;> cases h
        exact ⟨depth, e, .refl, .tooDeep (Nat.not_le.1 hdepth)⟩
    · exact ⟨depth, e, .refl, hown⟩

/-- A formula fails if its evaluation reaches a part that does. -/
theorem eval_of_reaches {e t : Expr} {deeper : Nat}
    (h : Reaches maximum context depth e deeper t)
    (ht : t.eval maximum context deeper = failed s) : e.eval maximum context depth = failed s := by
  induction h with
  | refl => exact ht
  | step hdepth h _ ih => exact eval_of_demands hdepth h (ih ht)

variable {r : Abort}

/-- An evaluation is broken off just where it reaches a call with crossed bounds. -/
theorem eval_eq_abort_iff {e : Expr} :
    e.eval maximum context depth = abort r ↔ ∃ deeper t low high,
      Reaches maximum context depth e deeper t ∧ CrossesAt maximum context deeper t low high ∧
      r = .crossedBounds low high := by
  constructor
  · intro h
    obtain ⟨deeper, t, hreaches, hown⟩ := exists_of_eval_eq_failed (s := .inr r) h
    cases hown with
    | @crossed _ low high hcrosses => exact ⟨deeper, t, low, high, hreaches, hcrosses, rfl⟩
  · rintro ⟨deeper, t, low, high, hreaches, hcrosses, rfl⟩
    exact eval_of_reaches (s := .inr _) hreaches (eval_of_crossesAt hcrosses)

/-- An evaluation fails over a divisor just where it reaches a division by zero. -/
theorem eval_eq_overZero_iff {e : Expr} {fault : Fault} (hzero : fault.overZero = true) :
    e.eval maximum context depth = error fault ↔ ∃ deeper t,
      Reaches maximum context depth e deeper t ∧
      DividesByZeroAt maximum context deeper t fault := by
  constructor
  · intro h
    obtain ⟨deeper, t, hreaches, hown⟩ := exists_of_eval_eq_failed (s := .inl fault) h
    cases hown with
    | byZero hdivides => exact ⟨deeper, t, hreaches, hdivides⟩
    | tooDeep => cases hzero
    | «variable» | member =>
      rw [Context.unresolved] at hzero
      split at hzero <;> cases hzero
    | other _ _ hfalse =>
      rw [hfalse] at hzero
      cases hzero
  · rintro ⟨deeper, t, hreaches, hdivides⟩
    exact eval_of_reaches (s := .inl _) hreaches (eval_of_dividesByZeroAt hdivides)

theorem value_eq_abort_iff {e : Expr} :
    e.value maximum context = abort r ↔ ∃ low high, e.Crosses maximum context low high ∧
      r = .crossedBounds low high := by
  rw [value, eval_eq_abort_iff]
  constructor
  · rintro ⟨deeper, t, low, high, hreaches, hcrosses, hr⟩
    exact ⟨low, high, ⟨deeper, t, hreaches, hcrosses⟩, hr⟩
  · rintro ⟨low, high, ⟨deeper, t, hreaches, hcrosses⟩, hr⟩
    exact ⟨deeper, t, low, high, hreaches, hcrosses, hr⟩

theorem number_eq_abort_iff {e : Expr} :
    e.number maximum context = abort r ↔ e.value maximum context = abort r := by
  rw [number, bind_eq_abort_iff]
  constructor
  · rintro (h | ⟨v, _, h⟩)
    · exact h
    · exact absurd h ofExcept_ne_abort
  · exact .inl

end Appraisal.Expr
