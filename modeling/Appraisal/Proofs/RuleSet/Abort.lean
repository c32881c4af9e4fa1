import Appraisal.Proofs.Formula.Reach
import Appraisal.Proofs.RuleSet.Agreement

/-!
# When an evaluation is broken off

A run of a rule set that is broken off gives no result at all. Only a formula can do that: an action
passes it on (`Action.entry_eq_error_iff`), a rule does when its condition holds
(`CompiledRule.evaluate_eq_error_iff`), and a rule set does when it comes to the rule
(`resultsUntil_eq_error_iff`). So an evaluation is broken off just where it reaches a call of
`clamp` with crossed bounds (`RuleSet.broken_off_iff`).
-/

namespace Appraisal

open Outcome

variable {settings : Settings} {context : Context} {r : Abort}

/-! ### Actions -/

namespace Action

variable {f : FormulaValue} {a : Action}

theorem concludes_givenAmount (a : Action) : a.givenAmount.Concludes := by
  rw [givenAmount]
  split <;> trivial

theorem concludes_givenMetric (a : Action) : a.givenMetric.Concludes := by
  rw [givenMetric]
  split <;> trivial

/-- Only the formula of an action can break it off. -/
theorem base_eq_abort_iff :
    a.base settings f context = abort r ↔
      ∃ source, a.source? = some source ∧ f source = abort r := by
  have hother {x : Outcome ActionError Float} (hx : x.Concludes) (hk : a.kind ≠ .formula) :
      x = abort r ↔ ∃ source, a.source? = some source ∧ f source = abort r := by
    simp [concludes_iff.1 hx r, source?, hk]
  cases hk : a.kind with
  | formula =>
    simp only [base, hk]
    cases hf : a.formula with
    | none => simp [source?, hf]
    | some source => simp [source?_eq_some hk hf]
  | fixed | additive =>
    simp only [base, hk]
    exact hother a.concludes_givenAmount (by simp [hk])
  | perUnit =>
    simp only [base, hk]
    refine hother ?_ (by simp [hk])
    refine a.concludes_givenAmount.bind fun _ _ => ?_
    exact a.concludes_givenMetric.bind fun _ _ => trivial
  | benchmark =>
    simp only [base, hk]
    refine hother ?_ (by simp [hk])
    refine a.concludes_givenAmount.bind fun _ _ => ?_
    refine a.concludes_givenMetric.bind fun _ _ => ?_
    exact (concludes_ofExcept _).bind fun _ _ => trivial
  | multiplier =>
    simp only [base, hk]
    exact hother trivial (by simp [hk])

theorem entry_eq_error_iff :
    a.entry settings f context = .error r ↔
      ∃ source, a.source? = some source ∧ f source = abort r := by
  have hbase : a.base settings f context = abort r ↔
      ∃ source, a.source? = some source ∧ f source = abort r := base_eq_abort_iff
  rw [← hbase, entry, except_bind_eq_error_iff]
  simp only [caught_eq_error_iff, details, bind_eq_abort_iff]
  constructor
  · rintro ((h | ⟨base, _, h⟩) | ⟨_, _, h⟩)
    · exact h
    · split at h <;> cases h
    · cases h
  · exact fun h => .inl (.inl h)

end Action

namespace Settings

variable {a : Action}

theorem prepare_eq_parsed_iff {e : Expr} :
    settings.prepare a = .parsed e ↔
      ∃ source, a.source? = some source ∧ Expr.parse settings.limits source = .ok e := by
  rw [prepare]
  cases a.source? with
  | none => simp
  | some source => cases hparse : Expr.parse settings.limits source <;> simp [hparse]

theorem formulaValue_eq_abort_iff {source : String} :
    settings.formulaValue context source = abort r ↔
      ∃ e low high, Expr.parse settings.limits source = .ok e ∧
        e.Crosses settings.limits.maxDepth context low high ∧ r = .crossedBounds low high := by
  rw [formulaValue]
  cases Expr.parse settings.limits source with
  | error e => simp
  | ok e => simp [mapError_eq_abort_iff, Expr.number_eq_abort_iff, Expr.value_eq_abort_iff]

end Settings

/-- A prepared action is broken off if its formula crosses bounds. -/
theorem entry_prepare_eq_error_iff {a : Action} :
    a.entry settings (settings.preparedValue context (some (settings.prepare a))) context =
      .error r ↔ ∃ e low high, settings.prepare a = .parsed e ∧
        e.Crosses settings.limits.maxDepth context low high ∧ r = .crossedBounds low high := by
  rw [Action.entry_congr fun _ h => Settings.preparedValue_prepare h, Action.entry_eq_error_iff]
  simp only [Settings.formulaValue_eq_abort_iff, Settings.prepare_eq_parsed_iff]
  constructor
  · rintro ⟨source, hsource, e, low, high, hparse, h⟩
    exact ⟨e, low, high, ⟨source, hsource, hparse⟩, h⟩
  · rintro ⟨e, low, high, ⟨source, hsource, hparse⟩, h⟩
    exact ⟨source, hsource, e, low, high, hparse, h⟩

/-- Actions are broken off if a formula among them crosses bounds. -/
theorem breakdown_prepare_eq_error_iff {actions : List Action} :
    (∃ r, breakdown settings context actions (actions.map settings.prepare) = .error r) ↔
      ∃ e low high, .parsed e ∈ actions.map settings.prepare ∧
        e.Crosses settings.limits.maxDepth context low high := by
  induction actions with
  | nil => simp [breakdown]
  | cons a rest ih =>
    simp only [breakdown, List.map_cons, List.head?_cons, List.tail_cons, except_bind_eq_error_iff]
    constructor
    · rintro ⟨r, h | ⟨entry, _, h | ⟨entries, _, h⟩⟩⟩
      · obtain ⟨e, low, high, hp, hcrosses, -⟩ := entry_prepare_eq_error_iff.1 h
        exact ⟨e, low, high, List.mem_cons.2 (.inl hp.symm), hcrosses⟩
      · obtain ⟨e, low, high, he, hcrosses⟩ := ih.1 ⟨r, h⟩
        exact ⟨e, low, high, List.mem_cons_of_mem _ he, hcrosses⟩
      · cases h
    · rintro ⟨e, low, high, he, hcrosses⟩
      rcases List.mem_cons.1 he with hp | he
      · exact ⟨_, .inl (entry_prepare_eq_error_iff.2 ⟨e, low, high, hp.symm, hcrosses, rfl⟩)⟩
      · obtain ⟨r, hr⟩ := ih.2 ⟨e, low, high, he, hcrosses⟩
        cases hentry : a.entry settings
            (settings.preparedValue context (some (settings.prepare a))) context with
        | error r => exact ⟨r, .inl rfl⟩
        | ok entry => exact ⟨r, .inr ⟨entry, rfl, .inl hr⟩⟩

/-! ### Rules -/

/-- A formula of a rule crosses bounds, and the rule comes to run it. -/
def CompiledRule.Crosses (settings : Settings) (context : Context) (c : CompiledRule) : Prop :=
  c.rule.isMet c.patterns.find context = .ok true ∧ ∃ e low high, .parsed e ∈ c.formulas ∧
    e.Crosses settings.limits.maxDepth context low high

theorem CompiledRule.evaluate_eq_error_iff {rule : Rule} {c : CompiledRule}
    (h : rule.compile settings = .ok c) :
    (∃ r, c.evaluate settings context = .error r) ↔ c.Crosses settings context := by
  obtain ⟨rfl, hformulas, -⟩ := Rule.compile_eq_ok_iff.1 h
  rw [CompiledRule.Crosses, hformulas, ← breakdown_prepare_eq_error_iff]
  rw [CompiledRule.evaluate, hformulas, Rule.evaluateWith]
  split
  · next hmet => simp [hmet]
  · next hmet => simp [hmet]
  · next hmet => simp [hmet, runActions, except_bind_eq_error_iff, pure, Except.pure]

/-! ### Several rules -/

/-- Going through a list comes to an item: those before it give results that do not end the run. -/
def ComesTo {α : Type} (evaluate : α → Except Abort RuleResult) (stop : Bool) (as : List α)
    (a : α) : Prop :=
  ∃ before after, as = before ++ a :: after ∧
    ∀ b ∈ before, ∃ result, evaluate b = .ok result ∧ (stop && result.matched) = false

theorem resultsUntil_eq_error_iff {α : Type} {evaluate : α → Except Abort RuleResult}
    {stop : Bool} {as : List α} :
    (∃ r, resultsUntil evaluate stop as = .error r) ↔
      ∃ a, ComesTo evaluate stop as a ∧ ∃ r, evaluate a = .error r := by
  induction as with
  | nil => simp [resultsUntil, ComesTo]
  | cons a rest ih =>
    constructor
    · rintro ⟨r, h⟩
      rw [resultsUntil] at h
      rcases except_bind_eq_error_iff.1 h with h | ⟨result, hresult, h⟩
      · exact ⟨a, ⟨[], rest, rfl, by simp⟩, r, h⟩
      split at h
      · cases h
      next hstop =>
      rcases except_bind_eq_error_iff.1 h with h | ⟨results, _, h⟩
      · obtain ⟨b, ⟨before, after, rfl, hbefore⟩, hb⟩ := ih.1 ⟨r, h⟩
        have ha : ∃ result, evaluate a = .ok result ∧ (stop && result.matched) = false :=
          ⟨result, hresult, by simpa using hstop⟩
        exact ⟨b, ⟨a :: before, after, rfl, List.forall_mem_cons.2 ⟨ha, hbefore⟩⟩, hb⟩
      · cases h
    · rintro ⟨b, ⟨before, after, has, hbefore⟩, r, hr⟩
      rw [resultsUntil]
      cases before with
      | nil =>
        cases has
        exact ⟨r, except_bind_eq_error_iff.2 (.inl hr)⟩
      | cons _ before =>
        cases has
        obtain ⟨⟨result, hresult, hstop⟩, hbefore⟩ := List.forall_mem_cons.1 hbefore
        obtain ⟨r, hr⟩ := ih.2 ⟨b, ⟨before, after, rfl, hbefore⟩, r, hr⟩
        refine ⟨r, except_bind_eq_error_iff.2 (.inr ⟨result, hresult, ?_⟩)⟩
        rw [if_neg (by simp [hstop])]
        exact except_bind_eq_error_iff.2 (.inl hr)

namespace RuleSet

/-- **An evaluation is broken off just where it crosses bounds.** A formula gives a value or an
error unless its evaluation reaches a call of `clamp` whose bounds are crossed as whole numbers and
not as floats; no index is out of range and no step overflows. A rule set gives results unless it
comes to an active rule whose condition holds and which runs such a formula. -/
theorem broken_off_iff (context : Context) :
    (∀ (e : Expr) (maximum : Nat) (r : Abort), e.value maximum context = .abort r ↔
      ∃ low high, e.Crosses maximum context low high ∧ r = .crossedBounds low high) ∧
    ∀ (settings : Settings) (stop : Bool) (rules : List Rule) (s : RuleSet),
      RuleSet.compile settings stop rules = .ok s →
        ((∃ r, s.evaluate context = .error r) ↔
          ∃ c, ComesTo (CompiledRule.evaluate s.settings context) s.stopsOnFirstMatch
              (s.rules.filter fun c => c.rule.isActive) c ∧
            c.Crosses s.settings context) := by
  refine ⟨fun e maximum r => Expr.value_eq_abort_iff, ?_⟩
  intro settings stop rules s h
  rw [RuleSet.evaluate, resultsUntil_eq_error_iff]
  refine exists_congr fun c => and_congr_right fun hc => ?_
  obtain ⟨before, after, hrules, -⟩ := hc
  have hmem : c ∈ s.rules.filter fun c => c.rule.isActive := by simp [hrules]
  obtain ⟨rule, -, hrule⟩ := exists_compile_of_mem h (List.mem_of_mem_filter hmem)
  exact CompiledRule.evaluate_eq_error_iff hrule

/-- The rule in the statement above: a formula with crossed bounds. -/
theorem broken_off_iff_clamp :
    let source := "clamp(0, 9223372036854775807, 9223372036854775806)"
    let rule : Rule := { id := "r", name := "crossed", actions := [.ofFormula source] }
    ∃ s, RuleSet.compile .standard false [rule] = .ok s ∧ ∀ context,
      ((∃ r, s.evaluate context = .error r) ↔
        ∃ c, ComesTo (CompiledRule.evaluate s.settings context) s.stopsOnFirstMatch
            (s.rules.filter fun c => c.rule.isActive) c ∧ c.Crosses s.settings context) := by
  intro source rule
  have h : (RuleSet.compile .standard false [rule]).isOk = true :=
    isOk_compile_iff.2 (by decide +kernel)
  obtain ⟨s, hs⟩ := isOk_iff.1 h
  exact ⟨s, hs, fun context => (broken_off_iff context).2 .standard false [rule] s hs⟩

/-- A run can be broken off: the bounds are crossed, but their floats are the same. -/
theorem broken_off_at_crossed_bounds :
    let source := "clamp(0, 9223372036854775807, 9223372036854775806)"
    let rule : Rule := { id := "r", name := "crossed", actions := [.ofFormula source] }
    Settings.standard.formulaValue .empty source =
        .abort (.crossedBounds 9223372036854775807 9223372036854775806) ∧
      ∃ s, RuleSet.compile .standard false [rule] = .ok s ∧ ∃ r, s.evaluate .empty = .error r := by
  intro source rule
  have hformula : Settings.standard.formulaValue .empty source =
      .abort (.crossedBounds 9223372036854775807 9223372036854775806) :=
    abort?_eq_some_iff.1 (by decide +kernel)
  have hcompile : (RuleSet.compile .standard false [rule]).isOk = true :=
    isOk_compile_iff.2 (by decide +kernel)
  obtain ⟨s, hs⟩ := isOk_iff.1 hcompile
  refine ⟨hformula, s, hs, ?_⟩
  obtain ⟨e, low, high, hparse, hcrosses, -⟩ := Settings.formulaValue_eq_abort_iff.1 hformula
  obtain ⟨-, hrules, hsettings, -⟩ := compile_eq_ok_iff.1 hs
  rw [List.mergeSort_singleton] at hrules
  obtain ⟨c, _, hc, hnil, hone⟩ := List.forall₂_cons_left_iff.1 hrules
  cases hnil
  obtain ⟨hrule, hformulas, -⟩ := Rule.compile_eq_ok_iff.1 hc
  have hprepare : Settings.standard.prepare (.ofFormula source) = .parsed e :=
    Settings.prepare_eq_parsed_iff.2 ⟨source, rfl, hparse⟩
  have hcrosses : c.Crosses .standard .empty := by
    refine ⟨by rw [hrule]; rfl, e, low, high, ?_, hcrosses⟩
    rw [hformulas]
    exact List.mem_singleton.2 hprepare.symm
  rw [RuleSet.evaluate, resultsUntil_eq_error_iff, hone, hsettings]
  have hactive : [c].filter (fun c => c.rule.isActive) = [c] := by simp [hrule, rule]
  rw [hactive]
  exact ⟨c, ⟨[], [], rfl, by simp⟩, (CompiledRule.evaluate_eq_error_iff hc).2 hcrosses⟩

end RuleSet

end Appraisal
