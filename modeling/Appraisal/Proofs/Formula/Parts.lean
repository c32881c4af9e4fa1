import Appraisal.Formula.Expr

/-!
# Parts of formulas

A property of all parts of a formula is one of the formula and of all parts of its children
(`Expr.forall_subtrees`), and the children are lower than the formula
(`Expr.depth_lt_of_mem_children`). Some parts are constants (`Expr.literals`).
-/

namespace Appraisal.Expr

variable {e t : Expr}

/-! ### Subtrees -/

theorem mem_subtreesAll {items : List Expr} :
    t ∈ subtreesAll items ↔ ∃ e ∈ items, t ∈ e.subtrees := by
  induction items with
  | nil => simp [subtreesAll]
  | cons e rest ih => simp [subtreesAll, ih]

theorem subtreesLinks_eq (links : List (Comparison × Expr)) :
    subtreesLinks links = subtreesAll (links.map (·.2)) := by
  induction links with
  | nil => rfl
  | cons link rest ih => simp [subtreesLinks, subtreesAll, ih]

theorem forall_subtreesAll {P : Expr → Prop} {items : List Expr} :
    (∀ t ∈ subtreesAll items, P t) ↔ ∀ e ∈ items, ∀ t ∈ e.subtrees, P t := by
  simp only [mem_subtreesAll]
  exact ⟨fun h e he t ht => h t ⟨e, he, ht⟩, fun h t ⟨e, he, ht⟩ => h e he t ht⟩

/-- What holds of all parts of a formula holds of it and of all parts of its children. -/
theorem forall_subtrees {P : Expr → Prop} :
    (∀ t ∈ e.subtrees, P t) ↔ P e ∧ ∀ t ∈ e.children, ∀ u ∈ t.subtrees, P u := by
  cases e <;> simp [subtrees, children, or_imp, forall_and, forall_subtreesAll, subtreesLinks_eq]

theorem mem_subtrees_self (e : Expr) : e ∈ e.subtrees :=
  (forall_subtrees.1 fun _ ht => ht).1

theorem subtrees_subset_of_child (h : t ∈ e.children) : t.subtrees ⊆ e.subtrees :=
  fun u hu => (forall_subtrees.1 fun _ hv => hv).2 t h u hu

/-! ### Heights -/

theorem depth_le_depthAll {items : List Expr} (h : e ∈ items) : e.depth ≤ depthAll items := by
  induction items with
  | nil => cases h
  | cons t rest ih =>
    rw [depthAll]
    rcases List.mem_cons.1 h with rfl | h
    · exact Nat.le_max_left _ _
    · exact Nat.le_trans (ih h) (Nat.le_max_right _ _)

theorem depthLinks_eq (links : List (Comparison × Expr)) :
    depthLinks links = depthAll (links.map (·.2)) := by
  induction links with
  | nil => rfl
  | cons link rest ih => simp only [depthLinks, List.map_cons, depthAll, ih]

theorem depth_lt_of_mem_children (h : t ∈ e.children) : t.depth < e.depth := by
  cases e with
  | literal | «variable» => cases h
  | comparison first links =>
    rw [depth, depthLinks_eq]
    rcases List.mem_cons.1 h with rfl | h
    · omega
    · have := depth_le_depthAll h
      omega
  | call _ items | list items | tuple items =>
    rw [depth]
    exact Nat.lt_succ_of_le (depth_le_depthAll h)
  | _ =>
    simp only [children, List.mem_cons, List.not_mem_nil, or_false] at h
    simp only [depth]
    grind

/-! ### Constants -/

/-- The constant that a formula is. -/
def literal? : Expr → Option Value
  | .literal v => some v
  | _ => none

/-- The constants in a formula. -/
def literals (e : Expr) : List Value := e.subtrees.filterMap literal?

theorem mem_literals {v : Value} : v ∈ e.literals ↔ .literal v ∈ e.subtrees := by
  rw [literals, List.mem_filterMap]
  constructor
  · rintro ⟨t, ht, hliteral⟩
    cases t <;> cases hliteral
    exact ht
  · exact fun hv => ⟨_, hv, rfl⟩

theorem literals_subset_of_child (h : t ∈ e.children) : t.literals ⊆ e.literals := by
  intro v hv
  rw [mem_literals] at hv ⊢
  exact subtrees_subset_of_child h hv

end Appraisal.Expr
