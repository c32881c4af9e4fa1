import Appraisal.Formula.References
import Appraisal.Proofs.Formula.Names

/-!
# A formula depends on the fields that it reads

Two listings that agree on the fields that a formula reads (`Context.AgreesOn`) give it the same
value (`Expr.number_congr`). They also give it the same fault, save that the fault of an unknown
field tells which fields there are: it is the same once that list is left out (`Fault.masked`).
-/

namespace Appraisal

/-! ### Outcomes up to their errors -/

namespace Outcome

variable {ε δ ζ ξ α β : Type} {x y : Outcome ε α} {g : ε → δ}

/-- Two runs end alike: with the same value, with errors that `g` does not tell apart, or broken off
for the same reason. -/
def EqUpTo (g : ε → δ) (x y : Outcome ε α) : Prop := x.mapError g = y.mapError g

namespace EqUpTo

theorem refl (x : Outcome ε α) : x.EqUpTo g x := rfl

theorem bind {f h : α → Outcome ε β} (hx : x.EqUpTo g y) (hf : ∀ a, (f a).EqUpTo g (h a)) :
    (x >>= f).EqUpTo g (y >>= h) := by
  cases x <;> cases y <;> simp_all [EqUpTo, mapError]

/-- Runs that end alike still do in other words, if these keep apart no errors that `g` does not. -/
theorem mapError (hx : x.EqUpTo g y) (f : ε → ζ) {h : ζ → ξ} {k : δ → ξ}
    (hf : ∀ e, h (f e) = k (g e)) : (x.mapError f).EqUpTo h (y.mapError f) := by
  cases x <;> cases y <;> simp_all [EqUpTo, Outcome.mapError]

theorem caught (hx : x.EqUpTo g y) :
    x.caught.map (Except.mapError g) = y.caught.map (Except.mapError g) := by
  cases x <;> cases y <;>
    simp_all [EqUpTo, Outcome.mapError, Outcome.caught, Except.map, Except.mapError]

end EqUpTo

end Outcome

/-! ### Fields -/

/-- A fault without the list of the fields that there are. -/
def Fault.masked : Fault → Fault
  | .undefined name _ => .undefined name []
  | fault => fault

namespace Context

variable {c₁ c₂ : Context} {paths : List String}

/-- The listings have the same values at some paths, and the same groups. -/
def AgreesOn (paths : List String) (c₁ c₂ : Context) : Prop :=
  ∀ path ∈ paths, c₁.lookup? path = c₂.lookup? path ∧ c₁.isGroup path = c₂.isGroup path

theorem AgreesOn.mono {fewer : List String} (h : AgreesOn paths c₁ c₂) (hsub : fewer ⊆ paths) :
    AgreesOn fewer c₁ c₂ :=
  fun path hpath => h path (hsub hpath)

theorem path_congr {path : String} (h : c₁.lookup? path = c₂.lookup? path)
    (hgroup : c₁.isGroup path = c₂.isGroup path) :
    (c₁.path path).EqUpTo Fault.masked (c₂.path path) := by
  rw [Context.path, Context.path, h]
  cases c₂.lookup? path with
  | some v => exact .refl _
  | none =>
    dsimp only
    rw [unresolved, unresolved, hgroup]
    split <;> rfl

end Context

/-! ### Formulas -/

namespace Expr

open Outcome Context

variable {maximum : Nat} {c₁ c₂ : Context}

/-- Two evaluations end alike if they do wherever the depth leaves room for them. -/
theorem eqUpTo_of_depth {depth : Nat} {x y : Outcome Fault Value} (h : x.EqUpTo Fault.masked y) :
    (if maximum < depth then error (.tooDeep maximum) else x).EqUpTo Fault.masked
      (if maximum < depth then error (.tooDeep maximum) else y) := by
  split
  · exact .refl _
  · exact h

mutual

/-- A formula ends alike on listings that agree on what it reads. -/
theorem eval_congr : (e : Expr) → (depth : Nat) → e.Named IsPlain → AgreesOn e.reads c₁ c₂ →
    (e.eval maximum c₁ depth).EqUpTo Fault.masked (e.eval maximum c₂ depth)
  | .literal v, depth, _, _ => by
    rw [eval, eval]
    exact .refl _
  | .variable name, depth, hplain, h => by
    rw [eval, eval]
    refine eqUpTo_of_depth ?_
    have hname := (named_iff.1 hplain).1 name rfl
    obtain ⟨hlookup, hgroup⟩ := h name (List.mem_singleton_self name)
    rw [c₁.variable_eq_path hname, c₂.variable_eq_path hname]
    exact path_congr hlookup hgroup
  | .member object name, depth, _, h => by
    rw [eval, eval]
    refine eqUpTo_of_depth ?_
    cases hpath : (Expr.member object name).path? with
    | none => exact .refl _
    | some path =>
      obtain ⟨hlookup, hgroup⟩ := h path (by simp [reads, hpath])
      exact path_congr hlookup hgroup
  | .arithmetic op left right, depth, hplain, h => by
    rw [eval, eval]
    refine eqUpTo_of_depth ?_
    have ihl := eval_congr left (depth + 1) (hplain.child (by simp [children]))
      (h.mono (by simp [reads]))
    have ihr := eval_congr right (depth + 1) (hplain.child (by simp [children]))
      (h.mono (by simp [reads]))
    exact ihl.bind fun a => ihr.bind fun b => .refl _
  | .unary op operand, depth, hplain, h => by
    rw [eval, eval]
    refine eqUpTo_of_depth ?_
    have ih := eval_congr operand (depth + 1) (hplain.child (by simp [children])) h
    exact ih.bind fun a => .refl _
  | .comparison first links, depth, hplain, h => by
    rw [eval, eval]
    refine eqUpTo_of_depth ?_
    have ih := eval_congr first (depth + 1) (hplain.child (by simp [children]))
      (h.mono (by simp [reads]))
    refine ih.bind fun a => ?_
    refine evalLinks_congr links (depth + 1) a (fun link hlink => hplain.child ?_)
      (h.mono (by simp [reads]))
    exact List.mem_cons_of_mem _ (List.mem_map_of_mem hlink)
  | .logical op left right, depth, hplain, h => by
    rw [eval, eval]
    refine eqUpTo_of_depth ?_
    have ihl := eval_congr left (depth + 1) (hplain.child (by simp [children]))
      (h.mono (by simp [reads]))
    have ihr := eval_congr right (depth + 1) (hplain.child (by simp [children]))
      (h.mono (by simp [reads]))
    refine ihl.bind fun a => ?_
    split
    · exact .refl _
    · exact ihr
  | .call function arguments, depth, hplain, h => by
    rw [eval, eval]
    refine eqUpTo_of_depth ?_
    split
    · exact .refl _
    · have ihs := evalAll_congr arguments (depth + 1) (fun e he => hplain.child he) h
      exact ihs.bind fun vs => .refl _
  | .conditional test yes no, depth, hplain, h => by
    rw [eval, eval]
    refine eqUpTo_of_depth ?_
    have iht := eval_congr test (depth + 1) (hplain.child (by simp [children]))
      (h.mono (by simp [reads]))
    have ihy := eval_congr yes (depth + 1) (hplain.child (by simp [children]))
      (h.mono (by simp [reads]))
    have ihn := eval_congr no (depth + 1) (hplain.child (by simp [children]))
      (h.mono (by simp [reads]))
    refine iht.bind fun t => ?_
    split
    · exact ihy
    · exact ihn
  | .list items, depth, hplain, h => by
    rw [eval, eval]
    refine eqUpTo_of_depth ?_
    have ihs := evalAll_congr items (depth + 1) (fun e he => hplain.child he) h
    exact ihs.bind fun vs => .refl _
  | .tuple items, depth, hplain, h => by
    rw [eval, eval]
    refine eqUpTo_of_depth ?_
    have ihs := evalAll_congr items (depth + 1) (fun e he => hplain.child he) h
    exact ihs.bind fun vs => .refl _
  | .subscript object index, depth, hplain, h => by
    rw [eval, eval]
    refine eqUpTo_of_depth ?_
    have iho := eval_congr object (depth + 1) (hplain.child (by simp [children]))
      (h.mono (by simp [reads]))
    have ihi := eval_congr index (depth + 1) (hplain.child (by simp [children]))
      (h.mono (by simp [reads]))
    exact iho.bind fun a => ihi.bind fun i => .refl _

theorem evalAll_congr : (items : List Expr) → (depth : Nat) → (∀ e ∈ items, e.Named IsPlain) →
    AgreesOn (readsAll items) c₁ c₂ →
    (evalAll maximum c₁ depth items).EqUpTo Fault.masked (evalAll maximum c₂ depth items)
  | [], _, _, _ => .refl _
  | e :: rest, depth, hplain, h => by
    obtain ⟨he, hrest⟩ := List.forall_mem_cons.1 hplain
    have ih := eval_congr e depth he (h.mono (by simp [readsAll]))
    have ihs := evalAll_congr rest depth hrest (h.mono (by simp [readsAll]))
    rw [evalAll, evalAll]
    exact ih.bind fun v => ihs.bind fun vs => .refl _

theorem evalLinks_congr : (links : List (Comparison × Expr)) → (depth : Nat) → (left : Value) →
    (∀ link ∈ links, link.2.Named IsPlain) → AgreesOn (readsLinks links) c₁ c₂ →
    (evalLinks maximum c₁ depth left links).EqUpTo Fault.masked
      (evalLinks maximum c₂ depth left links)
  | [], _, _, _, _ => .refl _
  | (op, e) :: rest, depth, left, hplain, h => by
    obtain ⟨he, hrest⟩ := List.forall_mem_cons.1 hplain
    have ih := eval_congr e depth he (h.mono (by simp [readsLinks]))
    rw [evalLinks, evalLinks]
    refine ih.bind fun right => .bind (.refl _) fun holds => ?_
    split
    · exact evalLinks_congr rest depth right hrest (h.mono (by simp [readsLinks]))
    · exact .refl _

end

/-- The number that a formula computes depends on the fields that it reads. -/
theorem number_congr {e : Expr} (maximum : Nat) (hplain : e.Named IsPlain)
    (h : AgreesOn e.references c₁ c₂) :
    (e.number maximum c₁).EqUpTo Fault.masked (e.number maximum c₂) := by
  have hreads : AgreesOn e.reads c₁ c₂ := h.mono fun _ => mem_sortedSet.2
  exact (eval_congr e 1 hplain hreads).bind fun v => .refl _

end Expr

end Appraisal
