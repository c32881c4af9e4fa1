import Appraisal.Proofs.Formula.Limits

/-!
# Comparison chains

A chain of comparisons evaluates every operand once and hands it on to the next link. It could as
well be read link by link: `a < b < c` comes to the same end as `a < b and b < c`, although that
evaluates `b` twice and asks for the truth of each link.

* `Expr.linkwise` is the conjunction of the links of a chain, nested to the left.
* `Expr.value_andLinks` is the step from a link to the rest of the chain; the operand between them
  is what the chain carries over.
* `Expr.value_linkwise` says that the two formulas have one outcome: the same value or the same
  error, under every evaluator that admits their heights.
-/

namespace Appraisal.Expr

open Outcome

/-- A formula, and with it the links of the chain that goes on from the operand `left`. -/
def andLinks (e left : Expr) : List (Comparison × Expr) → Expr
  | [] => e
  | (op, right) :: rest => andLinks (.logical .and e (.comparison left [(op, right)])) right rest

/-- The conjunction of the links of a chain, from the left. -/
def linkwise (first : Expr) (op : Comparison) (second : Expr) (rest : List (Comparison × Expr)) :
    Expr :=
  andLinks (.comparison first [(op, second)]) second rest

example (a b c d : Expr) :
    linkwise a .lt b [(.le, c), (.ne, d)] =
      .logical .and (.logical .and (.comparison a [(.lt, b)]) (.comparison b [(.le, c)]))
        (.comparison c [(.ne, d)]) := rfl

variable {m : Nat} {context : Context} {e left right : Expr} {op : Comparison} {a b : Value}

theorem depth_le_andLinks (e left : Expr) (rest : List (Comparison × Expr)) :
    e.depth ≤ (andLinks e left rest).depth := by
  induction rest generalizing e left with
  | nil => exact Nat.le_refl _
  | cons link rest ih =>
    refine Nat.le_trans ?_ (ih _ _)
    rw [depth]
    omega

/-! ### Values of links and conjunctions -/

/-- An operand, one level down, has the value that it has by itself. -/
theorem eval_operand (h : e.depth + 1 ≤ m) : e.eval m context (1 + 1) = e.value m context :=
  eval_of_fits e (1 + 1) 1 (by omega) (by omega)

theorem evalLinks_operands {links : List (Comparison × Expr)} (h : depthLinks links + 1 ≤ m)
    (a : Value) : evalLinks m context (1 + 1) a links = evalLinks m context 1 a links :=
  evalLinks_of_fits links (1 + 1) 1 (by omega) (by omega) a

/-- A chain has the value that its links give the value of its first operand. -/
theorem value_comparison {links : List (Comparison × Expr)}
    (h : (Expr.comparison left links).depth ≤ m) :
    (Expr.comparison left links).value m context =
      left.value m context >>= fun a => evalLinks m context 1 a links := by
  rw [depth] at h
  rw [value, eval, if_neg (by omega), eval_operand (by omega)]
  simp only [evalLinks_operands (show depthLinks links + 1 ≤ m by omega)]

/-- A conjunction has the value of its left operand unless that is truthy. -/
theorem value_and (h : (Expr.logical .and left right).depth ≤ m) :
    (Expr.logical .and left right).value m context =
      left.value m context >>= fun a => if a.isTruthy then right.value m context else ok a := by
  rw [depth] at h
  rw [value, eval, if_neg (by omega), eval_operand (by omega), eval_operand (by omega)]
  congr 1
  funext a
  cases a.isTruthy <;> rfl

/-- The outcome of one link, of whose operands the left one is `a`. -/
def linkOutcome (m : Nat) (context : Context) (a : Value) (op : Comparison) (right : Expr) :
    Outcome Fault Value := do
  let b ← right.value m context
  let holds ← .ofExcept (Arithmetic.compare op a b)
  return .bool holds

theorem evalLinks_cons (a : Value) (op : Comparison) (right : Expr)
    (rest : List (Comparison × Expr)) :
    evalLinks m context 1 a ((op, right) :: rest) =
      right.value m context >>= fun b => .ofExcept (Arithmetic.compare op a b) >>= fun holds =>
        if holds then evalLinks m context 1 b rest else ok (.bool false) := rfl

theorem evalLinks_singleton (a : Value) (op : Comparison) (right : Expr) :
    evalLinks m context 1 a [(op, right)] = linkOutcome m context a op right := by
  rw [evalLinks_cons, linkOutcome]
  congr 1
  funext b
  congr 1
  funext holds
  cases holds <;> rfl

/-- A link that holds hands its right operand on. -/
theorem evalLinks_of_holds {rest : List (Comparison × Expr)}
    (hb : right.value m context = ok b) (hholds : Arithmetic.compare op a b = .ok true) :
    evalLinks m context 1 a ((op, right) :: rest) = evalLinks m context 1 b rest := by
  rw [evalLinks_cons, hb, ok_bind, hholds]
  rfl

/-- A link that does not hold, or has no outcome, ends the chain. -/
theorem evalLinks_of_stops {rest : List (Comparison × Expr)}
    (h : linkOutcome m context a op right ≠ ok (.bool true)) :
    evalLinks m context 1 a ((op, right) :: rest) = linkOutcome m context a op right := by
  rw [evalLinks_cons, linkOutcome] at *
  cases hb : right.value m context with
  | error e => rfl
  | abort r => rfl
  | ok b =>
    rw [hb, ok_bind] at h
    rw [ok_bind, ok_bind]
    cases hholds : Arithmetic.compare op a b with
    | error e => rfl
    | ok holds =>
      cases holds with
      | false => rfl
      | true =>
        rw [hholds] at h
        exact absurd rfl h

/-! ### Link by link -/

/-- What ends a conjunction: every outcome but a truthy value. -/
def Stops (x : Outcome Fault Value) : Prop := ∀ v, x = ok v → v.isTruthy = false

/-- A formula that ends a conjunction ends it whatever links come after it. -/
theorem value_andLinks_of_stops {rest : List (Comparison × Expr)}
    (hdepth : (andLinks e left rest).depth ≤ m) (h : Stops (e.value m context)) :
    (andLinks e left rest).value m context = e.value m context := by
  induction rest generalizing e left with
  | nil => rfl
  | cons link rest ih =>
    obtain ⟨op, right⟩ := link
    have hand : (Expr.logical .and e (.comparison left [(op, right)])).value m context =
        e.value m context := by
      rw [value_and (Nat.le_trans (depth_le_andLinks _ _ _) hdepth)]
      cases he : e.value m context with
      | error fault => rfl
      | abort reason => rfl
      | ok v => rw [ok_bind, h v he, if_neg Bool.false_ne_true]
    rw [andLinks, ih hdepth (by rwa [hand]), hand]

/-- A conjunction whose first formula has the outcome of a link has the outcome of the chain from
that link on. The operand between two links is the right one of the first, evaluated anew. -/
theorem value_andLinks {rest : List (Comparison × Expr)}
    (hdepth : (andLinks e right rest).depth ≤ m)
    (h : e.value m context = linkOutcome m context a op right) :
    (andLinks e right rest).value m context = evalLinks m context 1 a ((op, right) :: rest) := by
  induction rest generalizing e right a op with
  | nil => rw [andLinks, h, evalLinks_singleton]
  | cons link rest ih =>
    obtain ⟨next, third⟩ := link
    by_cases htrue : linkOutcome m context a op right = ok (.bool true)
    · obtain ⟨b, hb, hholds⟩ := bind_eq_ok_iff.1 htrue
      obtain ⟨holds, hcompare, hholds⟩ := bind_eq_ok_iff.1 hholds
      cases hholds
      have hcompare : Arithmetic.compare op a b = .ok true := by
        cases hx : Arithmetic.compare op a b <;> rw [hx] at hcompare <;> cases hcompare
        rfl
      have hand : (Expr.logical .and e (.comparison right [(next, third)])).depth ≤ m :=
        Nat.le_trans (depth_le_andLinks _ _ _) hdepth
      have hlink : (Expr.comparison right [(next, third)]).depth ≤ m := by
        rw [depth] at hand
        omega
      -- the conjunction goes on with the next link, whose left operand has the value `b` again
      rw [andLinks, evalLinks_of_holds hb hcompare]
      refine ih hdepth ?_
      rw [value_and hand, h, htrue, ok_bind, value_comparison hlink, hb, ok_bind,
        evalLinks_singleton]
      rfl
    · have hstops : Stops (e.value m context) := by
        intro v hv
        rw [h] at hv
        obtain ⟨b, -, hbool⟩ := bind_eq_ok_iff.1 hv
        obtain ⟨holds, -, hbool⟩ := bind_eq_ok_iff.1 hbool
        cases hbool
        cases holds with
        | false => rfl
        | true => exact absurd hv htrue
      rw [value_andLinks_of_stops hdepth hstops, h, evalLinks_of_stops htrue]

/-- **A chain of comparisons is the conjunction of its links.** The two come to the same end on
every listing, with the same value or the same error, as long as the evaluator admits their
heights. -/
theorem value_linkwise (first : Expr) (op : Comparison) (second : Expr)
    (rest : List (Comparison × Expr)) (context : Context) (maximum : Nat)
    (hchain : (Expr.comparison first ((op, second) :: rest)).depth ≤ maximum)
    (hlinks : (linkwise first op second rest).depth ≤ maximum) :
    (Expr.comparison first ((op, second) :: rest)).value maximum context =
      (linkwise first op second rest).value maximum context := by
  have hfirst : (Expr.comparison first [(op, second)]).value maximum context =
      first.value maximum context >>= fun a => evalLinks maximum context 1 a [(op, second)] :=
    value_comparison (Nat.le_trans (depth_le_andLinks _ second rest) hlinks)
  rw [value_comparison hchain]
  cases ha : first.value maximum context with
  | error fault =>
    rw [ha] at hfirst
    rw [linkwise, value_andLinks_of_stops hlinks (by rw [hfirst]; nofun), hfirst]
    rfl
  | abort reason =>
    rw [ha] at hfirst
    rw [linkwise, value_andLinks_of_stops hlinks (by rw [hfirst]; nofun), hfirst]
    rfl
  | ok a =>
    rw [ha, ok_bind, evalLinks_singleton] at hfirst
    rw [ok_bind, linkwise, value_andLinks hlinks hfirst]

/-- A chain of three links that ends at its second one, before a variable that is not there. -/
theorem value_linkwise_absent :
    (Expr.comparison (.literal (.int 1)) [(.lt, .literal (.int 3)), (.ge, .literal (.int 4)),
      (.eq, .variable "rate")]).depth ≤ 4 ∧
    (linkwise (.literal (.int 1)) .lt (.literal (.int 3)) [(.ge, .literal (.int 4)),
      (.eq, .variable "rate")]).depth ≤ 4 ∧
    (linkwise (.literal (.int 1)) .lt (.literal (.int 3)) [(.ge, .literal (.int 4)),
      (.eq, .variable "rate")]).value 4 .empty = ok (.bool false) := by
  have hchain : (Expr.comparison (.literal (.int 1)) [(.lt, .literal (.int 3)),
      (.ge, .literal (.int 4)), (.eq, .variable "rate")]).depth ≤ 4 := by decide
  have hlinks : (linkwise (.literal (.int 1)) .lt (.literal (.int 3)) [(.ge, .literal (.int 4)),
      (.eq, .variable "rate")]).depth ≤ 4 := by decide
  exact ⟨hchain, hlinks, (value_linkwise _ _ _ _ .empty 4 hchain hlinks).symm.trans rfl⟩

end Appraisal.Expr
