import Appraisal.Formula.References
import Appraisal.Proofs.Formula.Names

/-!
# A formula reads the fields that it declares

The references of a formula are collected by one walk through its tree and read by another. The
two agree (`Expr.reads_declared`): a parsed formula fails over a field only for a reference that
the listing does not resolve, and a strict one has a value only if all its references resolve.

* The fault of a formula is the fault of a part by itself (`Expr.OwnFailure`), so a fault about a
  field names a field that the formula reads (`Expr.exists_read_of_eval_eq_error`).
* A formula that asks for all its parts has no value unless they all have one
  (`Expr.exists_value_of_child`), so a strict one has none unless all fields that it reads resolve
  (`Expr.IsStrict.resolves`).
-/

namespace Appraisal

open Outcome

namespace Expr

variable {maximum depth : Nat} {context : Context} {e t : Expr} {fault : Fault}

/-! ### The fields of parts -/

/-- The formula is a field or a chain of names. -/
def isField : Expr → Bool
  | .variable _ | .member _ _ => true
  | _ => false

theorem mem_readsAll {items : List Expr} {name : String} :
    name ∈ readsAll items ↔ ∃ e ∈ items, name ∈ e.reads := by
  induction items with
  | nil => simp [readsAll]
  | cons e rest ih => simp [readsAll, ih]

theorem readsLinks_eq (links : List (Comparison × Expr)) :
    readsLinks links = readsAll (links.map (·.2)) := by
  induction links with
  | nil => rfl
  | cons link rest ih => simp [readsLinks, readsAll, ih]

/-- A formula that is no field reads what its children read. -/
theorem mem_reads_iff (h : e.isField = false) {name : String} :
    name ∈ e.reads ↔ ∃ t ∈ e.children, name ∈ t.reads := by
  cases e with
  | «variable» | member => cases h
  | comparison first links =>
    simp only [reads, children, List.mem_append, List.exists_mem_cons_iff, readsLinks_eq,
      mem_readsAll]
  | _ => simp [reads, children, mem_readsAll]

theorem Demands.isField_eq_false (h : Demands maximum context depth e t) : e.isField = false := by
  cases h <;> rfl

theorem Demands.reads_subset (h : Demands maximum context depth e t) : t.reads ⊆ e.reads :=
  fun _ hname => (mem_reads_iff h.isField_eq_false).2 ⟨t, h.mem_children, hname⟩

/-! ### Whole evaluations -/

/-- A formula that fails over a field by itself reads it, and the listing does not resolve it. -/
theorem OwnFailure.exists_read (h : OwnFailure maximum context depth e (.inl fault))
    (hplain : e.Named IsPlain) (hfield : fault.kind = .field) :
    ∃ name ∈ e.reads, context.lookup? name = none ∧ fault = context.unresolved name := by
  cases h with
  | tooDeep => cases hfield
  | @«variable» name hnone =>
    have hname := (named_iff.1 hplain).1 name rfl
    refine ⟨name, List.mem_singleton_self name, ?_, rfl⟩
    rw [context.lookup?_eq_getFlat? hname, hnone]
  | @member object name path hpath hnone => exact ⟨path, by simp [reads, hpath], hnone, rfl⟩
  | byZero h =>
    obtain ⟨-, op, left, right, a, b, -, -, -, hzero⟩ := h
    have hoperator := hzero.operator
    cases op <;> cases hoperator <;> cases hfield
  | other hother => exact absurd hfield hother

/-- A formula fails over a field only if it reads the field and the listing lacks it. -/
theorem exists_read_of_eval_eq_error (hplain : e.Named IsPlain) (hfield : fault.kind = .field)
    (h : e.eval maximum context depth = error fault) :
    ∃ name ∈ e.reads, context.lookup? name = none ∧ fault = context.unresolved name := by
  obtain ⟨deeper, t, hreaches, hown⟩ := exists_of_eval_eq_failed (s := .inl fault) h
  clear h
  -- what the part reads, the whole formula reads
  induction hreaches with
  | refl => exact hown.exists_read hplain hfield
  | step _ hdemands _ ih =>
    obtain ⟨name, hname, hfault⟩ := ih (hplain.child hdemands.mem_children) hown
    exact ⟨name, hdemands.reads_subset hname, hfault⟩

/-- A part that is reached is no nearer to the limit of the evaluator than the whole formula. -/
theorem Reaches.depth_le {deeper : Nat} (h : Reaches maximum context depth e deeper t) :
    deeper + t.depth ≤ depth + e.depth := by
  induction h with
  | refl => exact Nat.le_refl _
  | step _ hdemands _ ih =>
    have hlt := depth_lt_of_mem_children hdemands.mem_children
    omega

/-- A formula that fits under the limit of the evaluator is never found too high. -/
theorem eval_ne_tooDeep (hd : depth + e.depth ≤ maximum + 1) (n : Nat) :
    e.eval maximum context depth ≠ error (.tooDeep n) := by
  intro h
  obtain ⟨deeper, t, hreaches, hown⟩ := exists_of_eval_eq_failed (s := .inl (.tooDeep n)) h
  have hle := hreaches.depth_le
  generalize hs : Sum.inl (Fault.tooDeep n) = s at hown
  cases hown with
  | tooDeep hdeep => exact not_tooDeep (Nat.le_trans hle hd) hdeep
  | «variable» | member =>
    rw [Context.unresolved] at hs
    split at hs <;> cases hs
  | crossed => cases hs
  | byZero h =>
    obtain ⟨-, op, left, right, a, b, -, -, -, hzero⟩ := h
    cases hs
    have hover := (Arithmetic.divides_of_zeroFault? hzero.operator).2
    cases hover
  | other _ hdeep =>
    cases hs
    exact hdeep n rfl

/-! ### Strict formulas -/

/-- The value of the outermost part asks for the values of all its children. -/
def asksForAll : Expr → Bool
  | .conditional .. | .logical .. => false
  | .comparison _ links => decide (links.length ≤ 1)
  | _ => true

/-- The formula has no conditional, no connective and no comparison of more than one link. -/
def IsStrict (e : Expr) : Prop := ∀ t ∈ e.subtrees, t.asksForAll = true

theorem isStrict_iff : e.IsStrict ↔ e.asksForAll = true ∧ ∀ t ∈ e.children, t.IsStrict :=
  forall_subtrees

theorem forall_of_evalAll_eq_ok {items : List Expr} {vs : List Value}
    (h : evalAll maximum context depth items = ok vs) :
    ∀ t ∈ items, ∃ u, t.eval maximum context depth = ok u := by
  induction items generalizing vs with
  | nil => nofun
  | cons e rest ih =>
    obtain ⟨v, hv, h⟩ := bind_eq_ok_iff.1 h
    obtain ⟨vs, hvs, -⟩ := bind_eq_ok_iff.1 h
    exact List.forall_mem_cons.2 ⟨⟨v, hv⟩, ih hvs⟩

/-- A formula that asks for all its parts has no value unless they have one. -/
theorem exists_value_of_child {v : Value} (h : e.eval maximum context depth = ok v)
    (hfield : e.isField = false) (hall : e.asksForAll = true) (ht : t ∈ e.children) :
    ∃ u, t.eval maximum context (depth + 1) = ok u := by
  rw [eval.eq_def] at h
  split at h
  · cases h
  cases e with
  | «variable» | member => cases hfield
  | logical | conditional => cases hall
  | literal => cases ht
  | arithmetic op left right | subscript left right =>
    obtain ⟨a, ha, h⟩ := bind_eq_ok_iff.1 h
    obtain ⟨b, hb, -⟩ := bind_eq_ok_iff.1 h
    rcases List.mem_pair.1 ht with rfl | rfl
    · exact ⟨a, ha⟩
    · exact ⟨b, hb⟩
  | unary op operand =>
    obtain ⟨a, ha, -⟩ := bind_eq_ok_iff.1 h
    rw [List.mem_singleton.1 ht]
    exact ⟨a, ha⟩
  | comparison first links =>
    obtain ⟨a, ha, h⟩ := bind_eq_ok_iff.1 h
    rcases List.mem_cons.1 ht with rfl | ht
    · exact ⟨a, ha⟩
    match links, of_decide_eq_true hall with
    | [], _ => cases ht
    | [(op, right)], _ =>
      obtain ⟨b, hb, -⟩ := bind_eq_ok_iff.1 h
      rw [List.mem_singleton.1 ht]
      exact ⟨b, hb⟩
  | call function arguments =>
    dsimp only at h
    split at h
    · cases h
    obtain ⟨vs, hvs, -⟩ := bind_eq_ok_iff.1 h
    exact forall_of_evalAll_eq_ok hvs t ht
  | list items | tuple items =>
    obtain ⟨vs, hvs, -⟩ := bind_eq_ok_iff.1 h
    exact forall_of_evalAll_eq_ok hvs t ht

/-- A field that has a value resolves. -/
theorem resolves_of_isField {v : Value} (h : e.eval maximum context depth = ok v)
    (hplain : e.Named IsPlain) (hfield : e.isField = true) :
    ∀ name ∈ e.reads, (context.lookup? name).isSome = true := by
  rw [eval.eq_def] at h
  split at h
  · cases h
  cases e with
  | «variable» name =>
    have hname := (named_iff.1 hplain).1 name rfl
    dsimp only [Context.variable] at h
    rw [← context.lookup?_eq_getFlat? hname] at h
    split at h <;> cases h
    next hsome => simp [reads, hsome]
  | member object name =>
    dsimp only at h
    split at h
    · next path hpath =>
      rw [Context.path] at h
      split at h <;> cases h
      next hsome => simp [reads, hpath, hsome]
    · cases h
  | _ => cases hfield

/-- A strict formula has no value unless all fields that it reads resolve. -/
theorem IsStrict.resolves {v : Value} (hstrict : e.IsStrict) (hplain : e.Named IsPlain)
    (h : e.eval maximum context depth = ok v) :
    ∀ name ∈ e.reads, (context.lookup? name).isSome = true := by
  induction hn : e.depth using Nat.strong_induction_on generalizing e depth v with
  | _ n ih =>
    subst hn
    -- a chain of names reads its whole path, not what its parts read
    cases hfield : e.isField with
    | true => exact resolves_of_isField h hplain hfield
    | false =>
      intro name hname
      obtain ⟨t, ht, hname⟩ := (mem_reads_iff hfield).1 hname
      obtain ⟨hall, hchildren⟩ := isStrict_iff.1 hstrict
      obtain ⟨u, hu⟩ := exists_value_of_child h hfield hall ht
      exact ih _ (depth_lt_of_mem_children ht) (hchildren t ht) (hplain.child ht) hu rfl name hname

/-! ### Parsed formulas -/

theorem mem_references {name : String} : name ∈ e.references ↔ name ∈ e.reads := mem_sortedSet

/-- Faults about fields come from the value, not from its form as a number. -/
theorem value_of_number_eq_error (hfield : fault.kind = .field)
    (h : e.number maximum context = error fault) : e.value maximum context = error fault := by
  rcases bind_eq_error_iff.1 h with h | ⟨v, _, h⟩
  · exact h
  · rw [((failsOnly_finiteNumber v).of_eq h).1] at hfield
    cases hfield

/-- **A parsed formula reads the fields that it declares.** Whatever the limit of the evaluator:
a fault about a field names a reference of the formula that the listing does not resolve, so
there is none if all references resolve; and a strict formula has a value, or a number, only if
they do. -/
theorem reads_declared {limits : Limits} {source : String} (h : parse limits source = .ok e)
    (maximum : Nat) (context : Context) :
    (∀ fault, fault.kind = .field →
      e.value maximum context = error fault ∨ e.number maximum context = error fault →
      ∃ name ∈ e.references, context.lookup? name = none ∧ fault = context.unresolved name) ∧
    ((∀ name ∈ e.references, (context.lookup? name).isSome = true) → ∀ fault, fault.kind = .field →
      e.value maximum context ≠ error fault ∧ e.number maximum context ≠ error fault) ∧
    (e.IsStrict →
      (∃ v, e.value maximum context = ok v) ∨ (∃ x, e.number maximum context = ok x) →
      ∀ name ∈ e.references, (context.lookup? name).isSome = true) := by
  have hplain := plain_of_parse h
  have hvalue : ∀ fault, fault.kind = .field → e.value maximum context = error fault →
      ∃ name ∈ e.references, context.lookup? name = none ∧ fault = context.unresolved name := by
    intro fault hfield herror
    obtain ⟨name, hname, hfault⟩ := exists_read_of_eval_eq_error hplain hfield herror
    exact ⟨name, mem_references.2 hname, hfault⟩
  refine ⟨?_, ?_, ?_⟩
  · rintro fault hfield (herror | herror)
    · exact hvalue fault hfield herror
    · exact hvalue fault hfield (value_of_number_eq_error hfield herror)
  · intro hresolves fault hfield
    have hne : e.value maximum context ≠ error fault := by
      intro herror
      obtain ⟨name, hname, hnone, -⟩ := hvalue fault hfield herror
      simpa [hnone] using hresolves name hname
    exact ⟨hne, fun herror => hne (value_of_number_eq_error hfield herror)⟩
  · intro hstrict hok name hname
    have hv : ∃ v, e.value maximum context = ok v := by
      refine hok.elim id ?_
      rintro ⟨x, hx⟩
      obtain ⟨v, hv, -⟩ := bind_eq_ok_iff.1 hx
      exact ⟨v, hv⟩
    obtain ⟨v, hv⟩ := hv
    exact hstrict.resolves hplain hv name (mem_references.1 hname)

/-- A product of two fields on a listing that lacks one of them and on one that has both. -/
theorem reads_declared_product :
    let scarce := Context.empty.insert "cpu.cores" (.int 8)
    let full := scarce.insert "ram_gb" (.int 2)
    ∃ e, parse {} "cpu.cores * ram_gb" = .ok e ∧
      (∃ fault, e.value 64 scarce = error fault ∧
        ∃ name ∈ e.references, scarce.lookup? name = none ∧ fault = scarce.unresolved name) ∧
      (∃ v, e.value 64 full = ok v) ∧
      ∀ name ∈ e.references, (full.lookup? name).isSome = true := by
  intro scarce full
  have hruns : (parse {} "cpu.cores * ram_gb").toOption.map (fun e =>
      ((match e.value 64 scarce with | error fault => some fault.kind | _ => none),
        (match e.value 64 full with | ok _ => true | _ => false),
        e.subtrees.all asksForAll)) = some (some .field, true, true) := by decide +kernel
  obtain ⟨e, he, hruns⟩ := Option.map_eq_some_iff.1 hruns
  have hparse := toOption_eq_some_iff.1 he
  obtain ⟨hpartial, hruns⟩ := Prod.mk.inj hruns
  obtain ⟨hfull, hstrict⟩ := Prod.mk.inj hruns
  have hpartial : ∃ fault, e.value 64 scarce = error fault ∧ fault.kind = .field := by
    revert hpartial
    cases e.value 64 scarce <;> simp
  have hfull : ∃ v, e.value 64 full = ok v := by
    revert hfull
    cases e.value 64 full <;> simp
  obtain ⟨fault, hfault, hfield⟩ := hpartial
  refine ⟨e, hparse, ⟨fault, hfault, ?_⟩, hfull, ?_⟩
  · exact (reads_declared hparse 64 scarce).1 fault hfield (.inl hfault)
  · exact (reads_declared hparse 64 full).2.2 (List.all_eq_true.1 hstrict) (.inl hfull)

end Expr

end Appraisal
