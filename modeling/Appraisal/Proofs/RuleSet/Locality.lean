import Appraisal.Proofs.Action.Locality

/-!
# Unread fields do not interfere

Two listings that agree on the paths that a rule set reads (`RuleSet.reads`) get the same results
from it: the same rules match, with the same adjustments and the same entries, and what fails on
one fails on the other, in the same place and for the same reason. Only the fault of an unknown
field tells more, the fields that there are; results are compared without that list
(`RuleResult.masked`).

* A total does not depend on the list (`ActionOutcome.masked_ofBreakdown`), nor does a result
  (`Rule.masked_concluded`), so a compiled rule has the same result
  (`CompiledRule.evaluate_eqUpTo`).
* Rules with the same results one by one have the same results together
  (`resultsUntil_map_congr`), whether or not the first match ends the run.
-/

namespace Appraisal

open Outcome Context

/-! ### Results without the lists of fields -/

namespace BreakdownEntry

variable (e : BreakdownEntry)

/-- How the value of an action came about stays. -/
@[simp] theorem details?_masked : e.masked.details? = e.details? := by
  rw [details?, details?, masked]
  cases e.outcome <;> rfl

@[simp] theorem value_masked : e.masked.value = e.value := by
  rw [value, value, masked]
  cases e.outcome <;> rfl

end BreakdownEntry

namespace ActionOutcome

/-- What actions came to, without the lists of the fields that there are. -/
def masked (o : ActionOutcome) : ActionOutcome :=
  { o with breakdown := o.breakdown.map BreakdownEntry.masked }

/-- The lists of fields have no part in a total. -/
theorem masked_ofBreakdown (es : List BreakdownEntry) :
    (ofBreakdown es).masked = ofBreakdown (es.map BreakdownEntry.masked) := by
  have htotal : ((es.map BreakdownEntry.masked).filter fun e => e.details?.isSome).foldl
      (fun sum e => sum + e.value) 0.0 =
      (es.filter fun e => e.details?.isSome).foldl (fun sum e => sum + e.value) 0.0 := by
    rw [List.filter_map, List.foldl_map]
    simp only [Function.comp_def, BreakdownEntry.details?_masked, BreakdownEntry.value_masked]
  simp only [ofBreakdown, htotal]
  split <;> rfl

end ActionOutcome

/-- A result without the lists of the fields that there are. -/
def RuleResult.masked (r : RuleResult) : RuleResult :=
  { r with breakdown := r.breakdown.map BreakdownEntry.masked }

theorem Rule.masked_concluded (r : Rule) (o : ActionOutcome) :
    (r.concluded o).masked = r.concluded o.masked := by
  rw [concluded, concluded, ActionOutcome.masked]
  cases o.error <;> rfl

theorem RuleResult.matched_masked (r : RuleResult) : r.masked.matched = r.matched := rfl

/-! ### Rules -/

namespace CompiledRule

/-- The fields that a compiled rule reads. -/
def reads (settings : Settings) (c : CompiledRule) : List String :=
  (c.rule.condition.map Condition.reads).getD [] ++
    (c.rule.actions.flatMap (Action.reads settings) ++ c.formulas.flatMap PreparedFormula.reads)

variable {settings : Settings} {c₁ c₂ : Context}

/-- The result of a compiled rule depends on the fields that the rule reads. -/
theorem evaluate_eqUpTo {r : Rule} {c : CompiledRule} (hc : r.compile settings = .ok c)
    (h : AgreesOn (c.reads settings) c₁ c₂) :
    (c.evaluate settings c₁).map RuleResult.masked =
      (c.evaluate settings c₂).map RuleResult.masked := by
  obtain ⟨rfl, hformulas, -⟩ := Rule.compile_eq_ok_iff.1 hc
  have hmet : c.rule.isMet c.patterns.find c₁ = c.rule.isMet c.patterns.find c₂ := by
    have hcondition := h.mono (List.subset_append_left _ _)
    rw [Rule.isMet, Rule.isMet]
    cases hcase : c.rule.condition with
    | none => rfl
    | some condition =>
      rw [hcase] at hcondition
      exact Condition.evalWith_congr condition hcondition
  have hactions := h.mono (List.subset_append_right _ _)
  have hbreakdown := breakdown_congr (hactions.mono (List.subset_append_left _ _))
    (hformulas ▸ hactions.mono (List.subset_append_right _ _))
  rw [evaluate, evaluate, Rule.evaluateWith, Rule.evaluateWith, hmet, hformulas]
  -- only a rule that is met looks at its actions
  split
  · rfl
  · rfl
  · refine except_map_bind_congr (g := ActionOutcome.masked) ?_ fun o o' ho => ?_
    · refine except_map_bind_congr hbreakdown fun es es' hes => ?_
      simp only [pure, Except.pure, Except.map, ActionOutcome.masked_ofBreakdown, hes]
    · simp only [pure, Except.pure, Except.map, Rule.masked_concluded, ho]

end CompiledRule

/-! ### Rule sets -/

/-- Runs through a list whose items have the same results, without lists of fields, have the same
results. -/
theorem resultsUntil_map_congr {α : Type} {f g : α → Except Abort RuleResult} {stop : Bool}
    {as : List α} (h : ∀ a ∈ as, (f a).map RuleResult.masked = (g a).map RuleResult.masked) :
    (resultsUntil f stop as).map (List.map RuleResult.masked) =
      (resultsUntil g stop as).map (List.map RuleResult.masked) := by
  induction as with
  | nil => rfl
  | cons a rest ih =>
    obtain ⟨ha, hrest⟩ := List.forall_mem_cons.1 h
    rw [resultsUntil, resultsUntil]
    refine except_map_bind_congr ha fun r r' hr => ?_
    have hmatched : r.matched = r'.matched := by
      rw [← r.matched_masked, hr, r'.matched_masked]
    rw [hmatched]
    split
    · simp only [pure, Except.pure, Except.map, List.map_cons, List.map_nil, hr]
    · refine except_map_bind_congr (ih hrest) fun rs rs' hrs => ?_
      simp only [pure, Except.pure, Except.map, List.map_cons, hr, hrs]

namespace RuleSet

/-- The paths that a rule set reads: the fields of its conditions, metrics, prices and modifiers,
and the references of its formulas. -/
def reads (s : RuleSet) : List String := s.rules.flatMap (CompiledRule.reads s.settings)

variable {settings : Settings} {stop : Bool} {rules : List Rule} {s : RuleSet} {c₁ c₂ : Context}

/-- **Unread fields do not interfere.** Listings that agree on the paths that a rule set reads get
the same results, up to the lists of fields in faults, or are broken off alike. -/
theorem evaluate_congr (h : RuleSet.compile settings stop rules = .ok s)
    (hagree : AgreesOn s.reads c₁ c₂) :
    (s.evaluate c₁).map (List.map RuleResult.masked) =
      (s.evaluate c₂).map (List.map RuleResult.masked) := by
  refine resultsUntil_map_congr fun c hc => ?_
  have hmem := List.mem_of_mem_filter hc
  obtain ⟨r, -, hcompile⟩ := exists_compile_of_mem h hmem
  have hreads : c.reads s.settings ⊆ s.reads :=
    fun _ hpath => List.mem_flatMap.2 ⟨c, hmem, hpath⟩
  exact CompiledRule.evaluate_eqUpTo hcompile (hagree.mono hreads)

/-- A rule that does not read the colour, on listings without any field and with a colour. The
faults of its second action list different fields. -/
theorem evaluate_congr_colour :
    let rule : Rule := { id := "r", name := "memory",
                         condition := some (.test { field := "model", op := .isNull,
                                                    operand := .null })
                         actions := [.perUnit "per_gb" 3, .ofFormula "ram_gb * cpu.cores"] }
    let coloured := Context.empty.insert "colour" (.string "red")
    ∃ s, RuleSet.compile .standard false [rule] = .ok s ∧ AgreesOn s.reads .empty coloured ∧
      (s.evaluate .empty).map (List.map RuleResult.masked) =
        (s.evaluate coloured).map (List.map RuleResult.masked) := by
  intro rule coloured
  have hcompile : (RuleSet.compile .standard false [rule]).isOk = true :=
    isOk_compile_iff.2 (by decide +kernel)
  obtain ⟨s, hs⟩ := isOk_iff.1 hcompile
  refine ⟨s, hs, ?_⟩
  obtain ⟨patterns, -, hs'⟩ := exists_of_compile_singleton hs
  -- neither listing has any of the fields that are read
  have hfields : ∀ path ∈ (rule.condition.map Condition.reads).getD [] ++
      (rule.actions.flatMap (Action.reads .standard) ++ ["ram_gb", "cpu.cores"]),
      ∀ listing ∈ [Context.empty, coloured],
      listing.lookup? path = none ∧ listing.isGroup path = false := by decide +kernel
  have hparse : (Expr.parse Settings.standard.limits "ram_gb * cpu.cores").toOption.map Expr.reads =
      some ["ram_gb", "cpu.cores"] := by decide +kernel
  obtain ⟨e, he, hreads⟩ := Option.map_eq_some_iff.1 hparse
  have hnone : Settings.standard.prepare (.perUnit "per_gb" 3) = .none := rfl
  have hparsed : Settings.standard.prepare (.ofFormula "ram_gb * cpu.cores") = .parsed e :=
    Settings.prepare_eq_parsed_iff.2 ⟨_, rfl, toOption_eq_some_iff.1 he⟩
  have hagree : AgreesOn s.reads .empty coloured := by
    intro path hpath
    have hmem : path ∈ (rule.condition.map Condition.reads).getD [] ++
        (rule.actions.flatMap (Action.reads .standard) ++ ["ram_gb", "cpu.cores"]) := by
      rw [← hreads]
      simpa [hs', reads, CompiledRule.reads, PreparedFormula.reads, hnone, hparsed,
        Expr.references, rule] using hpath
    have hempty := hfields path hmem .empty List.mem_cons_self
    have hcoloured := hfields path hmem coloured (List.mem_cons_of_mem _ List.mem_cons_self)
    exact ⟨hempty.1.trans hcoloured.1.symm, hempty.2.trans hcoloured.2.symm⟩
  exact ⟨hagree, evaluate_congr hs hagree⟩

end RuleSet

end Appraisal
