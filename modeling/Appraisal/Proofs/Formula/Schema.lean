import Appraisal.Formula.Diagnostic
import Appraisal.Proofs.Formula.FieldReads

/-!
# Checking a formula against a listing

A formula can be checked against the paths that a listing names before it is evaluated. Where the
keys of the listing are segments of paths, the check reports just the references that do not
resolve, so a formula without remarks never fails over a field
(`Expr.schemaDiagnostics_fieldPaths`).

The check compares spellings and the evaluation searches a tree; they meet in the flat spellings of
the values (`Context.mem_flatSpellings_iff`).
-/

namespace Appraisal

open Outcome

/-! ### Keys that are segments -/

namespace Fields

variable {P : String → Prop} {fields : Fields}

/-- Every key satisfies `P`, in every group too. -/
def ForallKeys (P : String → Prop) : Fields → Prop
  | nil => True
  | leaf key _ rest => P key ∧ rest.ForallKeys P
  | group key members rest => P key ∧ members.ForallKeys P ∧ rest.ForallKeys P

theorem ForallKeys.of_mem_leaves (h : fields.ForallKeys P) {l : List String × Value}
    (hl : l ∈ fields.leaves) : ∀ key ∈ l.1, P key := by
  induction fields generalizing l with
  | nil => cases hl
  | leaf k v rest ih =>
    rcases List.mem_cons.1 hl with rfl | hl
    · exact List.forall_mem_singleton.2 h.1
    · exact ih h.2 hl
  | group k members rest ihm ih =>
    obtain ⟨hkey, hmembers, hrest⟩ := h
    rcases List.mem_append.1 hl with hl | hl
    · obtain ⟨inner, hinner, rfl⟩ := List.mem_map.1 hl
      exact List.forall_mem_cons.2 ⟨hkey, ihm hmembers hinner⟩
    · exact ih hrest hl

end Fields

theorem IsAddress.of_forall {keys : List String} (h : ∀ key ∈ keys, key ≠ "" ∧ IsPlain key) :
    IsAddress keys where
  plain key hkey := (h key hkey).2
  lead hhead := absurd rfl (h "" (List.mem_of_head? hhead)).1

variable {context : Context}

/-- A field is spelled as a listed path just if it resolves. -/
theorem Context.mem_flatSpellings_iff
    (hkeys : context.fields.ForallKeys fun key => key ≠ "" ∧ IsPlain key) (field : String) :
    flatSpelling field ∈ context.fieldPaths.map flatSpelling ↔
      (context.lookup? field).isSome := by
  have hspelled : context.fieldPaths.map flatSpelling =
      context.fields.leaves.map fun l => Text.join "_" l.1 := by
    rw [fieldPaths, List.map_map]
    refine List.map_congr_left fun l hl => ?_
    exact (IsAddress.of_forall (hkeys.of_mem_leaves hl)).flatSpelling_dotted
  rw [hspelled, List.mem_map, isSome_lookup?_iff, isSome_getFlat?_iff]

/-! ### The report -/

namespace Diagnostic

/-- The remark on a field names it. -/
theorem unknownField_inj {s t : String} : unknownField s = unknownField t ↔ s = t := by
  refine ⟨fun h => ?_, congrArg unknownField⟩
  have hmessage := congrArg Diagnostic.message h
  simpa [unknownField] using hmessage

end Diagnostic

namespace Expr

variable {e : Expr}

/-- A parsed formula whose references resolve never fails over a field. -/
theorem not_field_fault {limits : Limits} {source : String} (h : parse limits source = .ok e)
    (hresolves : ∀ field ∈ e.references, (context.lookup? field).isSome) (maximum : Nat)
    {fault : Fault} (hfield : fault.kind = .field) :
    e.value maximum context ≠ error fault ∧ e.number maximum context ≠ error fault := by
  have hvalue : e.value maximum context ≠ error fault := by
    intro herror
    obtain ⟨name, hname, hnone, -⟩ :=
      exists_read_of_eval_eq_error (plain_of_parse h) hfield herror
    simpa [hnone] using hresolves name (mem_references.2 hname)
  exact ⟨hvalue, fun herror => hvalue (value_of_number_eq_error hfield herror)⟩

/-- The check against the paths of a listing reports the references that do not resolve. -/
theorem schemaDiagnostics_eq
    (hkeys : context.fields.ForallKeys fun key => key ≠ "" ∧ IsPlain key) :
    e.schemaDiagnostics context.fieldPaths =
      (e.references.filter fun field => (context.lookup? field).isNone).map
        Diagnostic.unknownField := by
  rw [schemaDiagnostics]
  congr 2
  funext field
  have hmem := Context.mem_flatSpellings_iff hkeys field
  rw [Bool.eq_iff_iff, Bool.not_eq_true', ← Bool.not_eq_true, List.contains_iff_mem, hmem]
  cases context.lookup? field <;> simp

/-- **The check of a formula against a listing is exact.** Where no key of the listing is empty or
holds a point, the check against its paths reports the references that do not resolve and nothing
else. If it reports none, no evaluation on the listing fails over a field, whatever the limit of
the evaluator. -/
theorem schemaDiagnostics_fieldPaths {source : String} (h : parse {} source = .ok e)
    (hkeys : context.fields.ForallKeys fun key => key ≠ "" ∧ IsPlain key) :
    e.schemaDiagnostics context.fieldPaths =
      (e.references.filter fun field => (context.lookup? field).isNone).map
        Diagnostic.unknownField ∧
    (∀ field, .unknownField field ∈ e.schemaDiagnostics context.fieldPaths ↔
      field ∈ e.references ∧ context.lookup? field = none) ∧
    (e.schemaDiagnostics context.fieldPaths = [] → ∀ maximum fault, fault.kind = .field →
      e.value maximum context ≠ error fault ∧ e.number maximum context ≠ error fault) := by
  have hreport := schemaDiagnostics_eq (e := e) hkeys
  refine ⟨hreport, fun field => ?_, fun hnone maximum fault hfield => ?_⟩
  · simp [hreport, Diagnostic.unknownField_inj]
  · refine not_field_fault h (fun field hmem => ?_) maximum hfield
    rw [hreport, List.map_eq_nil_iff, List.filter_eq_nil_iff] at hnone
    simpa [Option.isSome_iff_ne_none] using hnone field hmem

/-- A formula that spells the fields of a listing in both ways. -/
theorem schemaDiagnostics_fieldPaths_cores :
    let context := (Context.empty.insert "cpu.cores" (.int 8)).insert "ram_gb" (.int 16)
    (context.fields.ForallKeys fun key => key ≠ "" ∧ IsPlain key) ∧
      ∃ e, parse {} "cpu_cores * ram_gb + cpu.cores" = .ok e ∧
        e.schemaDiagnostics context.fieldPaths = [] ∧
        ∀ maximum fault, fault.kind = .field → e.value maximum context ≠ error fault := by
  intro context
  have hfields : context.fields =
      .group "cpu" (.leaf "cores" (.int 8) .nil) (.leaf "ram_gb" (.int 16) .nil) := rfl
  have hkeys : context.fields.ForallKeys fun key => key ≠ "" ∧ IsPlain key := by
    simp [hfields, Fields.ForallKeys, IsPlain]
  have hruns : (parse {} "cpu_cores * ram_gb + cpu.cores").toOption.map
      (fun e => e.reads.all fun field => (context.lookup? field).isSome) = some true := by
    decide +kernel
  obtain ⟨e, he, hresolves⟩ := Option.map_eq_some_iff.1 hruns
  have hparse := toOption_eq_some_iff.1 he
  have hexact := schemaDiagnostics_fieldPaths hparse hkeys
  have hnone : e.schemaDiagnostics context.fieldPaths = [] := by
    rw [hexact.1, List.map_eq_nil_iff, List.filter_eq_nil_iff]
    intro field hfield
    have hsome := List.all_eq_true.1 hresolves field (mem_references.1 hfield)
    simpa [Option.isSome_iff_ne_none] using hsome
  exact ⟨hkeys, e, hparse, hnone, fun maximum fault hfield =>
    (hexact.2.2 hnone maximum fault hfield).1⟩

end Expr

end Appraisal
