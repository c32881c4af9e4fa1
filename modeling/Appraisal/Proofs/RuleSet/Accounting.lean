import Appraisal.Proofs.Action.Breakdown
import Appraisal.Proofs.RuleSet.Runs
import Appraisal.RuleSet.Basic

/-!
# Results account for every number

Whatever a rule set holds and whatever goes wrong in it, its results are in order
(`RuleSet.accounts_of_evaluate`).

* The result of a rule is that of a rule that failed, did not match, or matched with the sum of its
  actions (`RuleResult.Accounts`, `RuleResult.accounts_of_evaluateWith`).
* The summary of some results is made of those that contribute, and of nothing else
  (`Summary.Accounts`, `Summary.accounts_ofResults`).
* No number in either is infinite or missing. Amounts and factors may be, but then the action that
  uses them has an error in place of a value (`BreakdownEntry.finite_of_entry`).
-/

namespace Appraisal

variable {settings : Settings} {context : Context}

/-! ### Sums -/

/-- The sum of the values of the entries without an error. -/
def entryTotal (entries : List BreakdownEntry) : Float :=
  (entries.filter fun e => e.error?.isNone).foldl (fun sum e => sum + e.value) 0.0

/-- The sum of the adjustments of the results that contribute. -/
def contributedTotal (results : List RuleResult) : Float :=
  (results.filter RuleResult.contributes).foldl (fun sum r => sum + r.adjustment) (-0.0)

/-- Actions come to their sum if it is finite, and to an error otherwise. -/
theorem ofBreakdown_eq (entries : List BreakdownEntry) :
    ActionOutcome.ofBreakdown entries =
      if (entryTotal entries).isFinite then ⟨entryTotal entries, entries, none⟩
      else ⟨0.0, entries, some .totalNotFinite⟩ := by
  have hfilter : (entries.filter fun e => e.details?.isSome) =
      entries.filter fun e => e.error?.isNone := by
    refine List.filter_congr fun e _ => ?_
    obtain ⟨_, _, _ | _⟩ := e <;> rfl
  rw [ActionOutcome.ofBreakdown, hfilter]
  rfl

/-! ### Results of rules -/

namespace RuleResult

/-- The result of a rule is in order. -/
structure Accounts (settings : Settings) (context : Context) (rule : Rule) (result : RuleResult) :
    Prop where
  ruleId : result.ruleId = rule.id
  ruleName : result.ruleName = rule.name
  of_error : result.error.isSome = true → result.matched = false ∧ result.adjustment = 0.0
  of_unmatched : result.matched = false → result.error = none →
    result.adjustment = 0.0 ∧ result.breakdown = []
  /-- A rule that matched has an entry for each of its actions. -/
  entries : result.matched = true →
    List.Forall₂ (fun a e => ∃ f, a.entry settings f context = .ok e) rule.actions result.breakdown
  adjustment : result.matched = true → result.adjustment = entryTotal result.breakdown
  /-- An error stands in place of the details, and counts as zero. -/
  errors : ∀ e ∈ result.breakdown,
    (e.error?.isSome = true ↔ e.details? = none) ∧ (e.error?.isSome = true → e.value = 0.0)
  finite : result.adjustment.isFinite = true
  finite_entries : ∀ e ∈ result.breakdown, e.Finite

theorem error_in_place_of_details (e : BreakdownEntry) :
    (e.error?.isSome = true ↔ e.details? = none) ∧ (e.error?.isSome = true → e.value = 0.0) :=
  ⟨e.isSome_error?_iff, fun h => e.value_eq_zero (e.isSome_error?_iff.1 h)⟩

variable {rule : Rule} {entries : List BreakdownEntry}

theorem accounts_unmatched (settings : Settings) (context : Context) (rule : Rule) :
    rule.unmatched.Accounts settings context rule where
  ruleId := rfl
  ruleName := rfl
  of_error := nofun
  of_unmatched _ _ := ⟨rfl, rfl⟩
  entries := nofun
  adjustment := nofun
  errors := nofun
  finite := Number.isFinite_zero
  finite_entries := nofun

/-- A rule that failed keeps the entries it may have. -/
theorem accounts_failed (settings : Settings) (context : Context) (rule : Rule)
    (failure : RuleFailure) (h : ∀ e ∈ entries, e.Finite) :
    { rule.failed failure with breakdown := entries }.Accounts settings context rule where
  ruleId := rfl
  ruleName := rfl
  of_error _ := ⟨rfl, rfl⟩
  of_unmatched _ := nofun
  entries := nofun
  adjustment := nofun
  errors e _ := error_in_place_of_details e
  finite := Number.isFinite_zero
  finite_entries := h

theorem accounts_concluded
    (h : List.Forall₂ (fun a e => ∃ f, a.entry settings f context = .ok e) rule.actions entries) :
    (rule.concluded (.ofBreakdown entries)).Accounts settings context rule := by
  have hfinite : ∀ e ∈ entries, e.Finite := by
    intro e he
    obtain ⟨a, -, f, hentry⟩ := exists_of_forall₂_mem h he
    exact BreakdownEntry.finite_of_entry hentry
  rw [ofBreakdown_eq]
  split
  · next htotal => exact {
      ruleId := rfl
      ruleName := rfl
      of_error := nofun
      of_unmatched := nofun
      entries := fun _ => h
      adjustment := fun _ => rfl
      errors := fun e _ => error_in_place_of_details e
      finite := htotal
      finite_entries := hfinite }
  · exact accounts_failed settings context rule _ hfinite

theorem accounts_of_evaluateWith {find : Pattern.Find} {prepared : List PreparedFormula}
    {result : RuleResult} (h : rule.evaluateWith settings find prepared context = .ok result) :
    result.Accounts settings context rule := by
  rw [Rule.evaluateWith] at h
  split at h
  · cases h
    exact accounts_failed settings context rule _ nofun
  · cases h
    exact accounts_unmatched settings context rule
  · obtain ⟨outcome, houtcome, h⟩ := except_bind_eq_ok_iff.1 h
    obtain ⟨entries, hentries, houtcome⟩ := except_bind_eq_ok_iff.1 houtcome
    cases houtcome
    cases h
    exact accounts_concluded (forall₂_of_breakdown hentries)

end RuleResult

/-! ### Summaries -/

namespace Summary

/-- A summary of results is in order. -/
structure Accounts (results : List RuleResult) (summary : Summary) : Prop where
  /-- The rules are those of the results that contribute, in their order. -/
  matched : summary.matched = (results.filter RuleResult.contributes).map fun r =>
    ⟨r.ruleId, r.ruleName, r.adjustment, r.breakdown⟩
  count : summary.count = (results.filter RuleResult.contributes).length
  error_iff : summary.error.isSome = true ↔ (contributedTotal results).isFinite = false
  of_error : summary.error.isSome = true → summary.total = 0.0
  of_no_error : summary.error = none → summary.total = contributedTotal results
  finite : summary.total.isFinite = true
  finite_matched : ∀ r ∈ summary.matched,
    r.adjustment.isFinite = true ∧ ∀ e ∈ r.breakdown, e.Finite

theorem ofResults_eq (results : List RuleResult) :
    ofResults results =
      let matched := (results.filter RuleResult.contributes).map RuleResult.contribution
      if (contributedTotal results).isFinite then ⟨contributedTotal results, matched, none⟩
      else ⟨0.0, matched, some overflowMessage⟩ := by
  have htotal : ((results.filter RuleResult.contributes).map RuleResult.contribution).foldl
      (fun sum r => sum + r.adjustment) (-0.0) = contributedTotal results :=
    List.foldl_map
  rw [ofResults, htotal]

theorem accounts_ofResults {results : List RuleResult}
    (h : ∀ r ∈ results, r.adjustment.isFinite = true ∧ ∀ e ∈ r.breakdown, e.Finite) :
    (ofResults results).Accounts results := by
  have hmatched : ∀ m ∈ (results.filter RuleResult.contributes).map RuleResult.contribution,
      m.adjustment.isFinite = true ∧ ∀ e ∈ m.breakdown, e.Finite := by
    intro m hm
    obtain ⟨r, hr, rfl⟩ := List.mem_map.1 hm
    exact h r (List.mem_of_mem_filter hr)
  rw [ofResults_eq]
  dsimp only
  split
  · next htotal => exact {
      matched := rfl
      count := List.length_map _
      error_iff := by simp [htotal]
      of_error := nofun
      of_no_error := fun _ => rfl
      finite := htotal
      finite_matched := hmatched }
  · next htotal => exact {
      matched := rfl
      count := List.length_map _
      error_iff := by simp [htotal]
      of_error := fun _ => rfl
      of_no_error := nofun
      finite := Number.isFinite_zero
      finite_matched := hmatched }

end Summary

/-! ### Rule sets -/

namespace RuleSet

/-- **The results of a rule set and their summary account for every number.** -/
theorem accounts_of_evaluate {s : RuleSet} {results : List RuleResult}
    (h : s.evaluate context = .ok results) :
    (∀ result ∈ results, ∃ c ∈ s.rules, c.rule.isActive = true ∧
      result.Accounts s.settings context c.rule) ∧
    ∃ summary, s.summary context = .ok summary ∧ summary.Accounts results := by
  have hresults : ∀ result ∈ results, ∃ c ∈ s.rules, c.rule.isActive = true ∧
      result.Accounts s.settings context c.rule := by
    intro result hresult
    obtain ⟨c, hc, hevaluate⟩ := exists_of_mem_resultsUntil h hresult
    obtain ⟨hmem, hactive⟩ := List.mem_filter.1 hc
    exact ⟨c, hmem, hactive, RuleResult.accounts_of_evaluateWith hevaluate⟩
  refine ⟨hresults, .ofResults results, ?_, Summary.accounts_ofResults fun result hresult => ?_⟩
  · rw [summary, h]
    rfl
  · obtain ⟨c, -, -, haccounts⟩ := hresults result hresult
    exact ⟨haccounts.finite, haccounts.finite_entries⟩

/-- A rule with a formula that cannot be read, and one whose sum is infinite. -/
theorem accounts_of_evaluate_infinite :
    let unread : Rule := { id := "a", name := "unread",
                           actions := [.ofAmount 5, .ofFormula "ram_gb **"] }
    let large : Rule := { id := "b", name := "large",
                          actions := [.ofAmount 1e308, .ofAmount 1e308] }
    let s : RuleSet := {
      settings := .standard
      rules := [unread, large].map fun r => ⟨r, r.actions.map Settings.standard.prepare, .empty⟩
      stopsOnFirstMatch := false }
    ∃ results, s.evaluate .empty = .ok results ∧
      (results.map RuleResult.matched = [true, false] ∧
        results.map (fun r => r.error.isSome) = [false, true]) ∧
      (∀ result ∈ results, ∃ c ∈ s.rules, c.rule.isActive = true ∧
        result.Accounts s.settings .empty c.rule) ∧
      ∃ summary, s.summary .empty = .ok summary ∧ summary.Accounts results := by
  intro unread large s
  have h : (s.evaluate .empty).map (fun results =>
      (results.map RuleResult.matched, results.map fun r => r.error.isSome)) =
        .ok ([true, false], [false, true]) := by
    decide +kernel
  obtain ⟨results, hresults, hshape⟩ :=
    except_bind_eq_ok_iff.1 ((map_eq_pure_bind _ _).symm.trans h)
  exact ⟨results, hresults, Prod.mk.inj (Except.ok.inj hshape), accounts_of_evaluate hresults⟩

end RuleSet

end Appraisal
