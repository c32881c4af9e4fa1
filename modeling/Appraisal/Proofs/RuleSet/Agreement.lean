import Appraisal.Proofs.RuleSet.Compile

/-!
# Compiled rules agree with rules

A rule set reads its formulas, compiles its patterns and sorts its rules once; evaluating rules by
themselves does all of it anew on every item. The results are the same, errors and all
(`RuleSet.evaluate_compile`).

* A prepared formula stands for its source wherever an action asks for it
  (`Settings.preparedValue_prepare`, `Action.details_congr`), so breakdowns agree
  (`breakdown_prepare`).
* Patterns that are faithful are found as if they were compiled on the spot
  (`Patterns.find_eq_compile`), so conditions agree (`CompiledRule.evaluate_of_compile`).
* Runs over rules that agree one by one agree (`resultsUntil_congr`).
-/

namespace Appraisal

/-! ### Formulas read ahead -/

namespace Settings

variable {settings : Settings} {context : Context}

/-- The formula of an action counts the same, whether it was read before or not. -/
theorem preparedValue_prepare {a : Action} {source : String} (h : a.source? = some source) :
    settings.preparedValue context (some (settings.prepare a)) source =
      settings.formulaValue context source := by
  simp only [prepare, h, formulaValue]
  cases Expr.parse settings.limits source with
  | ok e => rfl
  | error e => rfl

end Settings

namespace Action

variable {settings : Settings} {context : Context} {f g : FormulaValue} {a : Action}

theorem source?_eq_some {source : String} (hk : a.kind = .formula) (hf : a.formula = some source) :
    a.source? = some source := by
  rw [source?, if_pos hk, hf]

/-- An action asks for the value of no formula but its own. -/
theorem details_congr (h : ∀ source, a.source? = some source → f source = g source) :
    a.details settings f context = a.details settings g context := by
  have hbase : a.base settings f context = a.base settings g context := by
    cases hk : a.kind with
    | formula =>
      simp only [base, hk]
      cases hf : a.formula with
      | none => rfl
      | some source => exact h source (source?_eq_some hk hf)
    | fixed | additive | perUnit | benchmark | multiplier => simp only [base, hk]
  rw [details, details, hbase]

theorem entry_congr (h : ∀ source, a.source? = some source → f source = g source) :
    a.entry settings f context = a.entry settings g context := by
  rw [entry, entry, details_congr h]

end Action

/-- Formulas that were read before make no difference to a breakdown. -/
theorem breakdown_prepare (settings : Settings) (context : Context) (actions : List Action) :
    breakdown settings context actions (actions.map settings.prepare) =
      breakdown settings context actions [] := by
  induction actions with
  | nil => rfl
  | cons a rest ih =>
    have hentry : a.entry settings (settings.preparedValue context (some (settings.prepare a)))
        context = a.entry settings (settings.preparedValue context none) context :=
      Action.entry_congr fun _ h => Settings.preparedValue_prepare h
    simp only [breakdown, List.map_cons, List.head?_cons, List.tail_cons, List.head?_nil,
      List.tail_nil, hentry, ih]

/-! ### Rules -/

variable {settings : Settings} {stop : Bool} {rules : List Rule} {s : RuleSet}

theorem CompiledRule.evaluate_of_compile {r : Rule} {c : CompiledRule}
    (h : r.compile settings = .ok c) (context : Context) :
    c.evaluate settings context = r.evaluate settings context := by
  obtain ⟨hrule, hformulas, hpatterns⟩ := Rule.compile_eq_ok_iff.1 h
  have hfind := Patterns.find_eq_compile (Rule.faithful_of_patterns hpatterns)
  rw [CompiledRule.evaluate, Rule.evaluate, hrule, hformulas, hfind]
  simp only [Rule.evaluateWith, runActions, breakdown_prepare]

theorem resultsUntil_congr {α β : Type} {f : α → Except Abort RuleResult}
    {g : β → Except Abort RuleResult} {as : List α} {bs : List β}
    (h : List.Forall₂ (fun a b => f a = g b) as bs) :
    resultsUntil f stop as = resultsUntil g stop bs := by
  induction h with
  | nil => rfl
  | cons hab _ ih => simp only [resultsUntil, hab, ih]

/-- **A rule set evaluates as the rules that it was compiled from.** On every item the results are
the same, in the same order and with the same errors. -/
theorem RuleSet.evaluate_compile (h : RuleSet.compile settings stop rules = .ok s)
    (context : Context) : s.evaluate context = evaluateRules settings stop context rules := by
  obtain ⟨-, hrules, hsettings, hstop⟩ := compile_eq_ok_iff.1 h
  rw [RuleSet.evaluate, evaluateRules, hsettings, hstop]
  refine (resultsUntil_congr (List.Forall₂.imp ?_ (List.rel_filter ?_ hrules))).symm
  · intro r c hc
    exact (CompiledRule.evaluate_of_compile hc context).symm
  · intro r c hc
    show r.isActive = true ↔ c.rule.isActive = true
    rw [(Rule.compile_eq_ok_iff.1 hc).1]

/-- A later rule with a formula that cannot be read, before an earlier one with a pattern. -/
theorem RuleSet.evaluate_compile_pair :
    let late : Rule := { id := "b", name := "late", order := 2,
                         actions := [.ofFormula "ram_gb * 2", .ofFormula "ram_gb **"] }
    let early : Rule := { id := "a", name := "early", order := 1, actions := [.ofAmount 5],
                          condition := some (.test { field := "model", op := .matchesPattern,
                                                     operand := .string "^opti" }) }
    ∃ s, RuleSet.compile .standard true [late, early] = .ok s ∧
      ∀ context, s.evaluate context = evaluateRules .standard true context [late, early] := by
  intro late early
  have h : (RuleSet.compile .standard true [late, early]).isOk = true :=
    isOk_compile_iff.2 (by decide +kernel)
  obtain ⟨s, hs⟩ := isOk_iff.1 h
  exact ⟨s, hs, fun context => evaluate_compile hs context⟩

end Appraisal
