import Appraisal.Condition.Eval

/-!
# The algebra of conditions

The outcome of a condition is true, false or an error, and the outcome of a combination is told by
those of its parts: the second operand of `and` matters only if the first one is true
(`Condition.andThen`), that of `or` only if the first one is false (`Condition.orElse`), and `not`
turns truth values over (`Condition.deny`). Errors are outcomes like the others here, so the laws
also say which error is reported and what is left out.

* Building with `and` or `or` is associative as trees, since groups of the same connective are taken
  apart (`Condition.and_assoc`, `Condition.or_assoc`), and whatever is taken apart the outcome is
  that of the two operands in turn (`Condition.evalWith_and`, `Condition.evalWith_or`).
* Negation moves through groups (`Condition.deny_evalAll`, `Condition.deny_evalAny`).
-/

namespace Appraisal.Condition

/-! ### Outcomes -/

section Outcomes

variable {ε : Type}

/-- The second outcome if the first one is true, and else the first one. -/
def andThen (x y : Except ε Bool) : Except ε Bool :=
  match x with
  | .ok true => y
  | r => r

/-- The second outcome if the first one is false, and else the first one. -/
def orElse (x y : Except ε Bool) : Except ε Bool :=
  match x with
  | .ok false => y
  | r => r

/-- The opposite outcome; an error stays. -/
def deny (x : Except ε Bool) : Except ε Bool := x.map (!·)

variable (x y z : Except ε Bool)

@[simp] theorem andThen_true : andThen x (.ok true) = x := by
  rcases x with _ | _ | _ <;> rfl

@[simp] theorem orElse_false : orElse x (.ok false) = x := by
  rcases x with _ | _ | _ <;> rfl

theorem andThen_assoc : andThen (andThen x y) z = andThen x (andThen y z) := by
  rcases x with _ | _ | _ <;> rfl

theorem orElse_assoc : orElse (orElse x y) z = orElse x (orElse y z) := by
  rcases x with _ | _ | _ <;> rfl

@[simp] theorem deny_deny : deny (deny x) = x := by
  rcases x with _ | _ | _ <;> rfl

theorem deny_andThen : deny (andThen x y) = orElse (deny x) (deny y) := by
  rcases x with _ | _ | _ <;> rfl

theorem deny_orElse : deny (orElse x y) = andThen (deny x) (deny y) := by
  rcases x with _ | _ | _ <;> rfl

end Outcomes

/-! ### Trees -/

theorem members_combine (op : Connective) (a b : Condition) :
    (combine op a b).members op = a.members op ++ b.members op := by
  rw [combine, members, if_pos rfl]

theorem combine_assoc (op : Connective) (a b c : Condition) :
    combine op (combine op a b) c = combine op a (combine op b c) := by
  show group op ((combine op a b).members op ++ c.members op) =
    group op (a.members op ++ (combine op b c).members op)
  rw [members_combine, members_combine, List.append_assoc]

theorem and_assoc (a b c : Condition) : (a.and b).and c = a.and (b.and c) :=
  combine_assoc .all a b c

theorem or_assoc (a b c : Condition) : (a.or b).or c = a.or (b.or c) :=
  combine_assoc .any a b c

/-! ### Outcomes of trees -/

variable (find : Pattern.Find) (context : Context)

theorem evalWith_all (cs : List Condition) :
    (all cs).evalWith find context = evalAll find context cs := by
  rw [all, evalWith]

theorem evalWith_any (cs : List Condition) :
    (any cs).evalWith find context = evalAny find context cs := by
  rw [any, evalWith]

theorem evalWith_not (c : Condition) :
    c.not.evalWith find context = deny (c.evalWith find context) := by
  rw [not, evalWith]
  cases c.evalWith find context <;> rfl

theorem evalAll_cons (c : Condition) (rest : List Condition) :
    evalAll find context (c :: rest) =
      andThen (c.evalWith find context) (evalAll find context rest) := by
  rw [evalAll]
  rcases c.evalWith find context with _ | _ | _ <;> rfl

theorem evalAny_cons (c : Condition) (rest : List Condition) :
    evalAny find context (c :: rest) =
      orElse (c.evalWith find context) (evalAny find context rest) := by
  rw [evalAny]
  rcases c.evalWith find context with _ | _ | _ <;> rfl

theorem evalAll_append (cs ds : List Condition) :
    evalAll find context (cs ++ ds) =
      andThen (evalAll find context cs) (evalAll find context ds) := by
  induction cs with
  | nil => rfl
  | cons c rest ih => rw [List.cons_append, evalAll_cons, evalAll_cons, ih, andThen_assoc]

theorem evalAny_append (cs ds : List Condition) :
    evalAny find context (cs ++ ds) =
      orElse (evalAny find context cs) (evalAny find context ds) := by
  induction cs with
  | nil => rfl
  | cons c rest ih => rw [List.cons_append, evalAny_cons, evalAny_cons, ih, orElse_assoc]

/-- What a condition lends to a group under `and` has the outcome of the condition. -/
theorem evalAll_members (c : Condition) :
    evalAll find context (c.members .all) = c.evalWith find context := by
  unfold members
  split
  · split
    · next hop => rw [hop, evalWith]
    · rw [evalAll_cons]
      exact andThen_true _
  · rw [evalAll_cons]
    exact andThen_true _

/-- What a condition lends to a group under `or` has the outcome of the condition. -/
theorem evalAny_members (c : Condition) :
    evalAny find context (c.members .any) = c.evalWith find context := by
  unfold members
  split
  · split
    · next hop => rw [hop, evalWith]
    · rw [evalAny_cons]
      exact orElse_false _
  · rw [evalAny_cons]
    exact orElse_false _

theorem evalWith_and (a b : Condition) :
    (a.and b).evalWith find context =
      andThen (a.evalWith find context) (b.evalWith find context) := by
  rw [and, combine, evalWith, evalAll_append, evalAll_members, evalAll_members]

theorem evalWith_or (a b : Condition) :
    (a.or b).evalWith find context =
      orElse (a.evalWith find context) (b.evalWith find context) := by
  rw [or, combine, evalWith, evalAny_append, evalAny_members, evalAny_members]

/-- The first of some conditions that is not true is the first of their opposites that is not
false. -/
theorem deny_evalAll (cs : List Condition) :
    deny (evalAll find context cs) = evalAny find context (cs.map not) := by
  induction cs with
  | nil => rfl
  | cons c rest ih =>
    rw [List.map_cons, evalAll_cons, evalAny_cons, deny_andThen, evalWith_not, ih]

/-- The first of some conditions that is not false is the first of their opposites that is not
true. -/
theorem deny_evalAny (cs : List Condition) :
    deny (evalAny find context cs) = evalAll find context (cs.map not) := by
  induction cs with
  | nil => rfl
  | cons c rest ih =>
    rw [List.map_cons, evalAny_cons, evalAll_cons, deny_orElse, evalWith_not, ih]

/-- **Conditions form a short-circuit algebra, errors included.** Building with `and` or `or` is
associative; a combination has the outcome of its operands in turn; denying twice is no change; and
a denied group is the group of the other connective over the denied conditions. All of this holds
wherever patterns come from, so it holds of `eval` and of compiled rules. -/
theorem short_circuit_algebra :
    (∀ a b c : Condition, (a.and b).and c = a.and (b.and c) ∧ (a.or b).or c = a.or (b.or c)) ∧
    ∀ (find : Pattern.Find) (context : Context),
      (∀ a b : Condition,
        (a.and b).evalWith find context =
          andThen (a.evalWith find context) (b.evalWith find context) ∧
        (a.or b).evalWith find context =
          orElse (a.evalWith find context) (b.evalWith find context)) ∧
      (∀ a : Condition, a.not.not.evalWith find context = a.evalWith find context) ∧
      ∀ cs : List Condition,
        (all cs).not.evalWith find context = (any (cs.map not)).evalWith find context ∧
        (any cs).not.evalWith find context = (all (cs.map not)).evalWith find context := by
  refine ⟨fun a b c => ⟨and_assoc a b c, or_assoc a b c⟩, fun find context => ⟨?_, ?_, ?_⟩⟩
  · exact fun a b => ⟨evalWith_and find context a b, evalWith_or find context a b⟩
  · intro a
    rw [evalWith_not, evalWith_not, deny_deny]
  · intro cs
    rw [evalWith_not, evalWith_not, evalWith_all, evalWith_any, evalWith_all, evalWith_any]
    exact ⟨deny_evalAll find context cs, deny_evalAny find context cs⟩

end Appraisal.Condition
