import Appraisal.Proofs.Formula.Faults
import Appraisal.Proofs.Formula.Parts
import Appraisal.Proofs.Formula.Placement

/-!
# Parsed formulas stay in the sandbox

Every part of a parsed formula is one that the language allows (`Expr.Sandboxed`), and no parsed
formula is higher than the limit. The evaluator checks the form of a formula once more, for trees
that were built by hand; on a parsed one these checks never fail (`Expr.sandboxed_of_parse`).

* The walk from a phrase to a formula turns sound phrases into sandboxed formulas
  (`Phrase.reads_check`), so reading a source does (`Expr.reads_parse`).
* A sandboxed formula within the limit of the evaluator raises no fault about its form
  (`Expr.failsOnly_eval`).
-/

namespace Appraisal

/-! ### Allowed parts -/

theorem isReserved_eq_false_iff {name : String} :
    isReserved name = false ↔ ¬ ['_', '_'] <+: name.toList := by
  rw [isReserved]
  constructor
  · rintro h ⟨rest, hrest⟩
    rw [← hrest] at h
    cases h
  · intro h
    split
    · next rest hrest => exact absurd ⟨rest, hrest.symm⟩ h
    · rfl

namespace Expr

/-- What the outermost part of a formula may be. Calls go to functions of the list, with as many
arguments as the function takes; members belong to field paths; names are not reserved, and those
of fields are no words of the grammar; constants are no lists. -/
def Allowed : Expr → Prop
  | .literal v => ∀ items, v ≠ .list items
  | .variable name => ¬ ['_', '_'] <+: name.toList ∧ IsFieldName name
  | .member object name =>
    ¬ ['_', '_'] <+: name.toList ∧ (Expr.member object name).path?.isSome = true
  | .call function arguments =>
    ∃ f : Builtin, f.name = function ∧ f.accepts arguments.length = true
  | _ => True

/-- Every part of a formula is allowed. -/
def Sandboxed (e : Expr) : Prop := ∀ t ∈ e.subtrees, t.Allowed

/-- A formula is in the sandbox if its outermost part is allowed and its children are there. -/
theorem sandboxed_iff {e : Expr} :
    e.Sandboxed ↔ e.Allowed ∧ ∀ t ∈ e.children, t.Sandboxed :=
  forall_subtrees

end Expr

/-! ### From phrases to formulas -/

namespace Phrase

open Appraisal.Expr

variable {n : Nat}

theorem reads_callee {position : Nat} (hp : position ≤ n) (callee : Phrase) :
    Reads n (fun _ => True) (callee.callee position) := by
  unfold Phrase.callee
  split
  · split
    · exact hp
    · split
      · trivial
      · exact hp
  · exact hp
  · exact hp

mutual

/-- A sound phrase becomes a formula in the sandbox, or is refused at a place inside the
source. -/
theorem reads_check : (e : Phrase) → e.Sound n → Reads n Sandboxed e.check
  | .literal _ v, h => sandboxed_iff.2 ⟨h.2, by simp [children]⟩
  | .name _ s, h => by
    rw [Phrase.check]
    split
    · exact h.1
    · next hs =>
      have hs := isReserved_eq_false_iff.1 (Bool.eq_false_iff.2 hs)
      exact sandboxed_iff.2 ⟨⟨hs, h.2⟩, by simp [children]⟩
  | .member _ object s, h => by
    rw [Phrase.check]
    split
    · exact h.1
    next hs =>
    have hs := isReserved_eq_false_iff.1 (Bool.eq_false_iff.2 hs)
    refine (reads_check object h.2).bind fun object hobject => ?_
    split
    · exact h.1
    · next path hpath =>
      have hmember : (Expr.member object s).path?.isSome = true := by simp [path?, hpath]
      exact sandboxed_iff.2 ⟨⟨hs, hmember⟩, by simpa [children] using hobject⟩
  | .arithmetic _ op left right, h => by
    rw [Phrase.check]
    refine (reads_check left h.2.1).bind fun left hleft => ?_
    refine (reads_check right h.2.2).bind fun right hright => ?_
    exact sandboxed_iff.2 ⟨trivial, by simpa [children] using ⟨hleft, hright⟩⟩
  | .unary _ op operand, h => by
    rw [Phrase.check]
    refine (reads_check operand h.2).bind fun operand hoperand => ?_
    exact sandboxed_iff.2 ⟨trivial, by simpa [children] using hoperand⟩
  | .comparison _ first links, h => by
    rw [Phrase.check]
    refine (reads_check first h.2.1).bind fun first hfirst => ?_
    refine (reads_checkLinks links h.2.2).bind fun links hlinks => ?_
    exact sandboxed_iff.2
      ⟨trivial, List.forall_mem_cons.2 ⟨hfirst, List.forall_mem_map.2 hlinks⟩⟩
  | .logical _ op left right, h => by
    rw [Phrase.check]
    refine (reads_check left h.2.1).bind fun left hleft => ?_
    refine (reads_check right h.2.2).bind fun right hright => ?_
    exact sandboxed_iff.2 ⟨trivial, by simpa [children] using ⟨hleft, hright⟩⟩
  | .call _ callee arguments, h => by
    rw [Phrase.check]
    refine (reads_callee h.1 callee).bind fun f _ => ?_
    refine (reads_checkArguments arguments h.2.2).bind fun arguments harguments => ?_
    split
    · next haccepts => exact sandboxed_iff.2 ⟨⟨f, rfl, haccepts⟩, harguments⟩
    · exact h.1
  | .conditional _ test yes no, h => by
    rw [Phrase.check]
    refine (reads_check test h.2.1).bind fun test htest => ?_
    refine (reads_check yes h.2.2.1).bind fun yes hyes => ?_
    refine (reads_check no h.2.2.2).bind fun no hno => ?_
    exact sandboxed_iff.2 ⟨trivial, by simpa [children] using ⟨hyes, htest, hno⟩⟩
  | .list _ items, h => by
    rw [Phrase.check]
    refine (reads_checkAll items h.2).bind fun items hitems => ?_
    exact sandboxed_iff.2 ⟨trivial, hitems⟩
  | .tuple _ items, h => by
    rw [Phrase.check]
    refine (reads_checkAll items h.2).bind fun items hitems => ?_
    exact sandboxed_iff.2 ⟨trivial, hitems⟩
  | .subscript _ object index, h => by
    rw [Phrase.check]
    refine (reads_check object h.2.1).bind fun object hobject => ?_
    refine (reads_check index h.2.2).bind fun index hindex => ?_
    exact sandboxed_iff.2 ⟨trivial, by simpa [children] using ⟨hobject, hindex⟩⟩

theorem reads_checkAll : (items : List Phrase) → SoundAll n items →
    Reads n (fun es => ∀ e ∈ es, e.Sandboxed) (checkAll items)
  | [], _ => by simp [checkAll, Reads]
  | e :: rest, h => by
    rw [checkAll]
    refine (reads_check e h.1).bind fun e he => ?_
    refine (reads_checkAll rest h.2).bind fun rest hrest => ?_
    exact List.forall_mem_cons.2 ⟨he, hrest⟩

theorem reads_checkLinks : (links : List (Comparison × Phrase)) → SoundLinks n links →
    Reads n (fun links => ∀ link ∈ links, link.2.Sandboxed) (checkLinks links)
  | [], _ => by simp [checkLinks, Reads]
  | (op, e) :: rest, h => by
    rw [checkLinks]
    refine (reads_check e h.1).bind fun e he => ?_
    refine (reads_checkLinks rest h.2).bind fun rest hrest => ?_
    exact List.forall_mem_cons.2 ⟨he, hrest⟩

theorem reads_checkArguments : (arguments : List (Argument Phrase)) → SoundArguments n arguments →
    Reads n (fun es => ∀ e ∈ es, e.Sandboxed) (checkArguments arguments)
  | [], _ => by simp [checkArguments, Reads]
  | .positional e :: rest, h => by
    rw [checkArguments]
    refine (reads_check e h.1).bind fun e he => ?_
    refine (reads_checkArguments rest h.2).bind fun rest hrest => ?_
    exact List.forall_mem_cons.2 ⟨he, hrest⟩
  | .keyword _ _ :: _, h => h.1
  | .unpacked _ :: _, h => h.1

end

end Phrase

/-! ### From sources to formulas -/

namespace Expr

variable {maximum depth : Nat} {context : Context} {e : Expr}

/-- Reading a source yields a formula in the sandbox that is no higher than the limit, or a
complaint about a place that is inside the source and below the limit on its length. -/
theorem reads_parse (limits : Limits) (source : String) :
    Reads (Min.min source.toList.length limits.maxLength)
      (fun e => e.Sandboxed ∧ e.depth ≤ limits.maxDepth) (parse limits source) := by
  rw [parse]
  dsimp only
  split
  · next hlong => exact Nat.le_min.2 ⟨Nat.le_of_lt hlong, Nat.le_refl _⟩
  next hshort =>
  have hn : Min.min source.toList.length limits.maxLength = source.toList.length :=
    Nat.min_eq_left (Nat.not_lt.1 hshort)
  rw [hn]
  refine (Lexer.reads_tokenize source.toList).bind fun tokens htokens => ?_
  refine (Parser.reads_parse limits.maxDepth htokens).bind fun phrase hphrase => ?_
  refine (Phrase.reads_check phrase hphrase).bind fun e he => ?_
  split
  · exact Nat.zero_le _
  · next hdepth => exact ⟨he, Nat.not_lt.1 hdepth⟩

/-! ### Evaluation -/

open Outcome

theorem depth_pos (e : Expr) : 0 < e.depth := by
  cases e <;> simp [depth]

theorem not_tooDeep (h : depth + e.depth ≤ maximum + 1) : ¬ maximum < depth := by
  have := depth_pos e
  omega

theorem length_of_evalAll {items : List Expr} {vs : List Value}
    (h : evalAll maximum context depth items = ok vs) : vs.length = items.length := by
  induction items generalizing vs with
  | nil =>
    cases h
    rfl
  | cons e rest ih =>
    obtain ⟨v, _, h⟩ := bind_eq_ok_iff.1 h
    obtain ⟨vs, hvs, h⟩ := bind_eq_ok_iff.1 h
    cases h
    simp [ih hvs]

theorem Sandboxed.child {t : Expr} (h : e.Sandboxed) (ht : t ∈ e.children) : t.Sandboxed :=
  (sandboxed_iff.1 h).2 t ht

theorem failsOnly_of_operation {α : Type} {x : Outcome Fault α} {divides : Bool}
    (h : x.FailsOnly (Fault.IsOperation divides)) : x.FailsOnly fun fault => fault.kind ≠ .form :=
  h.mono fun _ hfault => by rw [hfault.1]; nofun

theorem failsOnly_of_field {α : Type} {x : Outcome Fault α}
    (h : x.FailsOnly fun fault => fault.kind = .field) :
    x.FailsOnly fun fault => fault.kind ≠ .form :=
  h.mono fun _ hfault => by rw [hfault]; nofun

mutual

/-- A sandboxed formula that fits under the limit of the evaluator raises no fault about its
form. -/
theorem failsOnly_eval : (e : Expr) → (depth : Nat) → e.Sandboxed →
    depth + e.depth ≤ maximum + 1 →
    (e.eval maximum context depth).FailsOnly fun fault => fault.kind ≠ .form
  | .literal v, depth, _, hd => by
    rw [eval, if_neg (not_tooDeep hd)]
    trivial
  | .variable name, depth, _, hd => by
    rw [eval, if_neg (not_tooDeep hd)]
    exact failsOnly_of_field (context.failsOnly_variable name)
  | .member object name, depth, h, hd => by
    rw [eval, if_neg (not_tooDeep hd)]
    obtain ⟨path, hpath⟩ := Option.isSome_iff_exists.1 (sandboxed_iff.1 h).1.2
    rw [hpath]
    exact failsOnly_of_field (context.failsOnly_path path)
  | .arithmetic op left right, depth, h, hd => by
    rw [eval, if_neg (not_tooDeep hd)]
    rw [Expr.depth] at hd
    have hleft := failsOnly_eval left (depth + 1) (h.child (by simp [children])) (by omega)
    refine hleft.bind fun a _ => ?_
    have hright := failsOnly_eval right (depth + 1) (h.child (by simp [children])) (by omega)
    refine hright.bind fun b _ => ?_
    exact failsOnly_of_operation (Arithmetic.failsOnly_binary op a b)
  | .unary op operand, depth, h, hd => by
    rw [eval, if_neg (not_tooDeep hd)]
    rw [Expr.depth] at hd
    have hoperand := failsOnly_eval operand (depth + 1) (h.child (by simp [children])) (by omega)
    refine hoperand.bind fun a _ => ?_
    exact failsOnly_of_operation (Arithmetic.failsOnly_unary op a)
  | .comparison first links, depth, h, hd => by
    rw [eval, if_neg (not_tooDeep hd)]
    rw [Expr.depth] at hd
    have hfirst := failsOnly_eval first (depth + 1) (h.child (by simp [children])) (by omega)
    refine hfirst.bind fun a _ => ?_
    refine failsOnly_evalLinks links (depth + 1) a (fun link hlink => h.child ?_) (by omega)
    exact List.mem_cons_of_mem _ (List.mem_map_of_mem hlink)
  | .logical op left right, depth, h, hd => by
    rw [eval, if_neg (not_tooDeep hd)]
    rw [Expr.depth] at hd
    have hleft := failsOnly_eval left (depth + 1) (h.child (by simp [children])) (by omega)
    refine hleft.bind fun a _ => ?_
    split
    · trivial
    · exact failsOnly_eval right (depth + 1) (h.child (by simp [children])) (by omega)
  | .call function arguments, depth, h, hd => by
    rw [eval, if_neg (not_tooDeep hd)]
    rw [Expr.depth] at hd
    obtain ⟨f, rfl, haccepts⟩ := (sandboxed_iff.1 h).1
    rw [Builtin.ofName?_name]
    have hvalues := failsOnly_evalAll arguments (depth + 1) (fun e he => h.child he) (by omega)
    refine hvalues.bind fun vs hvs => ?_
    rw [Builtin.call, length_of_evalAll hvs, if_pos haccepts]
    exact failsOnly_of_operation (f.failsOnly_apply vs)
  | .conditional test yes no, depth, h, hd => by
    rw [eval, if_neg (not_tooDeep hd)]
    rw [Expr.depth] at hd
    have htest := failsOnly_eval test (depth + 1) (h.child (by simp [children])) (by omega)
    refine htest.bind fun t _ => ?_
    split
    · exact failsOnly_eval yes (depth + 1) (h.child (by simp [children])) (by omega)
    · exact failsOnly_eval no (depth + 1) (h.child (by simp [children])) (by omega)
  | .list items, depth, h, hd => by
    rw [eval, if_neg (not_tooDeep hd)]
    rw [Expr.depth] at hd
    have hvalues := failsOnly_evalAll items (depth + 1) (fun e he => h.child he) (by omega)
    exact hvalues.bind fun _ _ => trivial
  | .tuple items, depth, h, hd => by
    rw [eval, if_neg (not_tooDeep hd)]
    rw [Expr.depth] at hd
    have hvalues := failsOnly_evalAll items (depth + 1) (fun e he => h.child he) (by omega)
    exact hvalues.bind fun _ _ => trivial
  | .subscript object index, depth, h, hd => by
    rw [eval, if_neg (not_tooDeep hd)]
    rw [Expr.depth] at hd
    have hobject := failsOnly_eval object (depth + 1) (h.child (by simp [children])) (by omega)
    refine hobject.bind fun a _ => ?_
    have hindex := failsOnly_eval index (depth + 1) (h.child (by simp [children])) (by omega)
    refine hindex.bind fun i _ => ?_
    exact failsOnly_of_operation (failsOnly_subscript a i)

theorem failsOnly_evalAll : (items : List Expr) → (depth : Nat) → (∀ e ∈ items, e.Sandboxed) →
    depth + depthAll items ≤ maximum + 1 →
    (evalAll maximum context depth items).FailsOnly fun fault => fault.kind ≠ .form
  | [], _, _, _ => trivial
  | e :: rest, depth, h, hd => by
    rw [evalAll]
    rw [depthAll] at hd
    obtain ⟨he, hrest⟩ := List.forall_mem_cons.1 h
    refine (failsOnly_eval e depth he (by omega)).bind fun v _ => ?_
    exact (failsOnly_evalAll rest depth hrest (by omega)).bind fun _ _ => trivial

theorem failsOnly_evalLinks : (links : List (Comparison × Expr)) → (depth : Nat) →
    (left : Value) → (∀ link ∈ links, link.2.Sandboxed) → depth + depthLinks links ≤ maximum + 1 →
    (evalLinks maximum context depth left links).FailsOnly fun fault => fault.kind ≠ .form
  | [], _, _, _, _ => trivial
  | (op, e) :: rest, depth, left, h, hd => by
    rw [evalLinks]
    rw [depthLinks] at hd
    obtain ⟨he, hrest⟩ := List.forall_mem_cons.1 h
    refine (failsOnly_eval e depth he (by omega)).bind fun right _ => ?_
    have hholds := failsOnly_of_operation (Arithmetic.failsOnly_compare op left right)
    refine hholds.bind fun holds _ => ?_
    split
    · exact failsOnly_evalLinks rest depth right hrest (by omega)
    · trivial

end

theorem failsOnly_number (h : e.Sandboxed) (hd : e.depth ≤ maximum) :
    (e.number maximum context).FailsOnly fun fault => fault.kind ≠ .form := by
  refine (failsOnly_eval e 1 h (by omega)).bind fun v _ => ?_
  exact failsOnly_of_operation (failsOnly_finiteNumber v)

/-- **A parsed formula stays in the sandbox.** Every part of it is allowed and it is no higher
than the limit, so an evaluator with room for it never has to refuse it for its form. -/
theorem sandboxed_of_parse {limits : Limits} {source : String}
    (h : parse limits source = .ok e) :
    (∀ t ∈ e.subtrees, t.Allowed) ∧ e.depth ≤ limits.maxDepth ∧
      ∀ maximum, e.depth ≤ maximum → ∀ context fault, fault.kind = .form →
        e.value maximum context ≠ .error fault ∧ e.number maximum context ≠ .error fault := by
  have hreads := reads_parse limits source
  rw [h] at hreads
  obtain ⟨hsandboxed, hdepth⟩ := hreads
  refine ⟨hsandboxed, hdepth, fun maximum hm context fault hform => ⟨?_, ?_⟩⟩
  · intro hvalue
    exact (failsOnly_eval e 1 hsandboxed (by omega)).of_eq hvalue hform
  · intro hnumber
    exact (failsOnly_number hsandboxed hm).of_eq hnumber hform

/-- A formula with a call, a path, a conditional and a list. -/
theorem sandboxed_of_parse_offer :
    ∃ e, parse {} "round(max([cpu.cores, 2]) * 1.5, 1) if not sold else price[0]" = .ok e ∧
      (∀ t ∈ e.subtrees, t.Allowed) ∧ e.depth ≤ 64 ∧
      ∀ maximum, e.depth ≤ maximum → ∀ context fault, fault.kind = .form →
        e.value maximum context ≠ .error fault ∧ e.number maximum context ≠ .error fault := by
  have h : (parse {} "round(max([cpu.cores, 2]) * 1.5, 1) if not sold else price[0]").isOk =
    true := by decide +kernel
  obtain ⟨e, he⟩ := isOk_iff.1 h
  exact ⟨e, he, sandboxed_of_parse he⟩

end Expr

end Appraisal
