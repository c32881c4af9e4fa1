import Appraisal.Proofs.RuleSet.Ordering

/-!
# Which rules make a rule set

Rules make a rule set just if their identities are distinct and not blank and all patterns in their
conditions are valid (`RuleSet.isOk_compile_iff_admitted`); no formula stands in the way. The rule
set then holds the rules in their stable order, finds each of them by its identity and lists the
formulas that cannot be read (`RuleSet.compile_admits`).

* Compiling the patterns of a condition walks through all of its tests, and leaves out a text that
  it has met before (`Patterns.isOk_addAll_iff`).
* Prepared formulas stand at the places of their actions, so the place of a defect is that of the
  action (`RuleSet.mem_invalidFrom_iff`, `Settings.prepare_eq_invalid_iff`).
-/

namespace Appraisal

/-! ### Tests in conditions -/

namespace Condition

/-- The test stands in the condition, at any depth. -/
inductive Contains (t : Test) : Condition → Prop
  | test : Contains t (.test t)
  | child {op children c} (hc : c ∈ children) (h : Contains t c) : Contains t (.group op children)

theorem contains_group_iff {t : Test} {op : Connective} {children : List Condition} :
    Contains t (.group op children) ↔ ∃ c ∈ children, Contains t c := by
  constructor
  · rintro (_ | ⟨hc, h⟩)
    exact ⟨_, hc, h⟩
  · rintro ⟨c, hc, h⟩
    exact .child hc h

mutual

theorem mem_tests_iff {t : Test} : (c : Condition) → (t ∈ c.tests ↔ Contains t c)
  | .test u => by
    rw [tests, List.mem_singleton]
    constructor
    · rintro rfl
      exact .test
    · rintro ⟨⟩
      rfl
  | .group _ children => by rw [tests, mem_testsAll_iff children, contains_group_iff]

theorem mem_testsAll_iff {t : Test} :
    (cs : List Condition) → (t ∈ testsAll cs ↔ ∃ c ∈ cs, Contains t c)
  | [] => by simp [testsAll]
  | c :: rest => by
    rw [testsAll, List.mem_append, mem_tests_iff c, mem_testsAll_iff rest,
      List.exists_mem_cons_iff]

end

end Condition

theorem Test.pattern?_eq_some_iff {t : Test} {text : String} :
    t.pattern? = some text ↔ t.op = .matchesPattern ∧ t.operand = .string text := by
  rw [pattern?]
  split
  · next pattern hop hoperand => simp [hop, hoperand]
  · next hne =>
    refine iff_of_false nofun ?_
    rintro ⟨hop, hoperand⟩
    exact hne text hop hoperand

/-! ### Patterns -/

/-- Every text is compiled, or was compiled before. -/
theorem Patterns.isOk_addAll_iff {ps : Patterns} (hps : ps.Faithful) {texts : List String} :
    (ps.addAll texts).isOk = true ↔ ∀ text ∈ texts, (Pattern.compile text).isOk = true := by
  induction texts generalizing ps with
  | nil => simp [addAll, isOk_iff]
  | cons text rest ih =>
    rw [List.forall_mem_cons, addAll]
    split
    · next hthere =>
      obtain ⟨p, hp⟩ := Option.isSome_iff_exists.1 hthere
      have htext : (Pattern.compile text).isOk = true := isOk_iff.2 ⟨p, hps text p hp⟩
      rw [ih hps, and_iff_right htext]
    next hnew =>
    split
    · next p hp =>
      have htext : (Pattern.compile text).isOk = true := isOk_iff.2 ⟨p, hp⟩
      have hadded : ps.addAll [text] = .ok ⟨ps.entries ++ [(text, p)]⟩ := by
        rw [addAll, if_neg hnew, hp]
        rfl
      rw [ih (hps.addAll hadded), and_iff_right htext]
    · next hfails =>
      rw [hfails]
      exact iff_of_false Bool.false_ne_true fun h => Bool.false_ne_true h.1

/-- All patterns that a rule tests for are valid. -/
def Rule.HasValidPatterns (r : Rule) : Prop :=
  ∀ c, r.condition = some c → ∀ t, c.Contains t → t.op = .matchesPattern →
    ∀ text, t.operand = .string text → ∃ p, Pattern.compile text = .ok p

theorem Rule.isOk_patterns_iff {r : Rule} : r.patterns.isOk = true ↔ r.HasValidPatterns := by
  rw [Rule.patterns, HasValidPatterns]
  split
  · next hnone => simp [hnone, isOk_iff]
  · next c hc =>
    have hmap : ((Patterns.ofCondition c).mapError (CompileError.invalidPattern r.id)).isOk =
        (Patterns.ofCondition c).isOk := by
      cases Patterns.ofCondition c <;> rfl
    rw [hmap, Patterns.ofCondition, Patterns.isOk_addAll_iff Patterns.faithful_empty]
    simp only [hc, Option.some.injEq, forall_eq', List.mem_filterMap, Test.pattern?_eq_some_iff,
      Condition.mem_tests_iff, isOk_iff]
    constructor
    · intro h t ht hop text htext
      exact h text ⟨t, ht, hop, htext⟩
    · rintro h text ⟨t, ht, hop, htext⟩
      exact h t ht hop text htext

/-! ### Formulas -/

/-- An action is prepared as invalid if it has a formula that cannot be read. -/
theorem Settings.prepare_eq_invalid_iff {settings : Settings} {a : Action} {e : FormulaError} :
    settings.prepare a = .invalid e ↔ a.kind = .formula ∧ ∃ source, a.formula = some source ∧
      ∃ defect, Expr.parse settings.limits source = .error defect ∧ e = .ofParse defect := by
  rw [prepare, Action.source?]
  by_cases hkind : a.kind = .formula
  · rw [if_pos hkind]
    cases a.formula with
    | none => simp
    | some source =>
      cases hparse : Expr.parse settings.limits source with
      | ok => simp [hparse]
      | error defect => simp [hkind, hparse, eq_comm]
  · simp [hkind]

namespace RuleSet

variable {settings : Settings} {stop : Bool} {rules : List Rule} {s : RuleSet}

theorem mem_invalidFrom_iff {first place : Nat} {e : FormulaError} {fs : List PreparedFormula} :
    (place, e) ∈ invalidFrom first fs ↔
      ∃ i, place = first + i ∧ fs[i]? = some (.invalid e) := by
  induction fs generalizing first with
  | nil => simp [invalidFrom]
  | cons f rest ih =>
    -- the place is that of the first formula, or one of the places after it
    have hrest : (∃ i, place = first + i ∧ (f :: rest)[i]? = some (.invalid e)) ↔
        (place = first ∧ f = .invalid e) ∨ (place, e) ∈ invalidFrom (first + 1) rest := by
      rw [ih]
      constructor
      · rintro ⟨_ | i, hplace, hi⟩
        · exact .inl ⟨hplace, by simpa using hi⟩
        · exact .inr ⟨i, by omega, by simpa using hi⟩
      · rintro (⟨hplace, rfl⟩ | ⟨i, hplace, hi⟩)
        · exact ⟨0, hplace, rfl⟩
        · exact ⟨i + 1, by omega, by simpa using hi⟩
    rw [hrest]
    cases f with
    | invalid defect => simp [invalidFrom, eq_comm]
    | none | parsed => simp [invalidFrom]

/-- Places ascend, so none of them comes twice. -/
theorem nodup_invalidFrom (first : Nat) (fs : List PreparedFormula) :
    ((invalidFrom first fs).map Prod.fst).Nodup := by
  induction fs generalizing first with
  | nil => simp [invalidFrom]
  | cons f rest ih =>
    cases f with
    | none | parsed => exact ih (first + 1)
    | invalid defect =>
      rw [invalidFrom, List.map_cons, List.nodup_cons]
      refine ⟨?_, ih (first + 1)⟩
      rw [List.mem_map]
      rintro ⟨⟨place, e⟩, hmem, rfl⟩
      obtain ⟨i, hplace, -⟩ := mem_invalidFrom_iff.1 hmem
      dsimp only at hplace
      omega

/-! ### Rule sets -/

theorem isOk_compile_iff_admitted : (RuleSet.compile settings stop rules).isOk = true ↔
    (∀ r ∈ rules, Text.trim r.id ≠ "") ∧ (rules.map Rule.id).Nodup ∧
      ∀ r ∈ rules, r.HasValidPatterns := by
  have hids : (Rule.checkIds [] rules).isOk = true ↔
      (∀ r ∈ rules, Text.trim r.id ≠ "") ∧ (rules.map Rule.id).Nodup := by
    have hunit : (Rule.checkIds [] rules).isOk = true ↔ Rule.checkIds [] rules = .ok () :=
      isOk_iff.trans ⟨fun ⟨_, h⟩ => h, fun h => ⟨(), h⟩⟩
    simp [hunit, Rule.checkIds_eq_ok_iff, Rule.isAnonymous]
  rw [isOk_compile_iff, hids, and_assoc]
  simp only [Rule.isOk_patterns_iff]

/-- Rules of distinct identities are found by them. -/
theorem get?_of_mem (hids : (s.sources.map Rule.id).Nodup) {r : Rule} (hr : r ∈ s.sources) :
    s.get? r.id = some r := by
  rw [get?]
  obtain ⟨found, hfound⟩ : ∃ found, s.sources.find? (fun t => t.id == r.id) = some found :=
    Option.isSome_iff_exists.1 (List.find?_isSome.2 ⟨r, hr, beq_self_eq_true r.id⟩)
  have hid : found.id = r.id := by simpa using List.find?_some hfound
  rw [hfound, List.inj_on_of_nodup_map hids (List.mem_of_find?_eq_some hfound) hr hid]

/-- The formulas of a rule in a rule set are those of its actions, prepared. -/
theorem prepared_of_mem (h : RuleSet.compile settings stop rules = .ok s) {c : CompiledRule}
    (hc : c ∈ s.rules) : c.rule ∈ rules ∧ c.formulas = c.rule.actions.map settings.prepare := by
  obtain ⟨r, hr, hcompile⟩ := exists_compile_of_mem h hc
  obtain ⟨rfl, hformulas, -⟩ := Rule.compile_eq_ok_iff.1 hcompile
  obtain ⟨-, -, rfl, -⟩ := compile_eq_ok_iff.1 h
  exact ⟨hr, hformulas⟩

/-- The formulas that cannot be read are listed with their rules and places. -/
theorem mem_invalidFormulas_iff (h : RuleSet.compile settings stop rules = .ok s) {id : String}
    {place : Nat} {e : FormulaError} : (id, place, e) ∈ s.invalidFormulas ↔
      ∃ r ∈ rules, r.id = id ∧ ∃ a, r.actions[place]? = some a ∧
        settings.prepare a = .invalid e := by
  have hplace (c : CompiledRule) (hc : c ∈ s.rules) : (place, e) ∈ invalidFrom 0 c.formulas ↔
      ∃ a, c.rule.actions[place]? = some a ∧ settings.prepare a = .invalid e := by
    rw [mem_invalidFrom_iff, (prepared_of_mem h hc).2]
    simp
  rw [invalidFormulas, List.mem_flatMap]
  constructor
  · rintro ⟨c, hc, hmem⟩
    obtain ⟨_, hinvalid, ⟨⟩⟩ := List.mem_map.1 hmem
    exact ⟨c.rule, (prepared_of_mem h hc).1, rfl, (hplace c hc).1 hinvalid⟩
  · rintro ⟨r, hr, rfl, ha⟩
    have hsource : r ∈ s.sources := by
      rw [sources_of_compile h]
      exact List.mem_mergeSort.2 hr
    obtain ⟨c, hc, rfl⟩ := List.mem_map.1 hsource
    exact ⟨c, hc, List.mem_map.2 ⟨(place, e), (hplace c hc).2 ha, rfl⟩⟩

/-- Each formula that cannot be read is listed once. -/
theorem nodup_invalidFormulas (hids : (s.sources.map Rule.id).Nodup) :
    (s.invalidFormulas.map fun (id, place, _) => (id, place)).Nodup := by
  have hlist : (s.invalidFormulas.map fun (id, place, _) => (id, place)) =
      s.rules.flatMap fun c =>
        ((invalidFrom 0 c.formulas).map Prod.fst).map fun place => (c.rule.id, place) := by
    simp [invalidFormulas, List.map_flatMap, Function.comp_def]
  rw [hlist, List.nodup_flatMap]
  refine ⟨fun c _ => (nodup_invalidFrom 0 c.formulas).map fun _ _ h => (Prod.mk.inj h).2, ?_⟩
  rw [sources, List.map_map] at hids
  refine (List.pairwise_map.1 hids).imp fun {c d} hne => ?_
  -- the rules tell the entries of one rule from those of another
  simp only [Function.onFun, List.disjoint_left, List.mem_map]
  rintro _ ⟨place, -, rfl⟩ ⟨place', -, heq⟩
  exact hne (Prod.mk.inj heq).1.symm

/-- **Which rules make a rule set.** Rules do so just if no identity is blank, no two are the same,
and all patterns are valid at any depth of any condition, that of an inactive rule included. The
rule set then holds the rules in their one stable ascending order, finds each of them by its
identity, and lists every action whose formula cannot be read within the limits, once and with the
error of reading it. -/
theorem compile_admits (settings : Settings) (stop : Bool) (rules : List Rule) :
    ((∃ s, RuleSet.compile settings stop rules = .ok s) ↔
      (∀ r ∈ rules, Text.trim r.id ≠ "") ∧ (rules.map Rule.id).Nodup ∧
        ∀ r ∈ rules, r.HasValidPatterns) ∧
    ∀ s, RuleSet.compile settings stop rules = .ok s →
      Rule.Ordered rules s.sources ∧
      (∀ other, Rule.Ordered rules other → other = s.sources) ∧
      (∀ r ∈ rules, s.get? r.id = some r) ∧
      (∀ id place e, (id, place, e) ∈ s.invalidFormulas ↔
        ∃ r ∈ rules, r.id = id ∧ ∃ a, r.actions[place]? = some a ∧ a.kind = .formula ∧
          ∃ source, a.formula = some source ∧
            ∃ defect, Expr.parse settings.limits source = .error defect ∧ e = .ofParse defect) ∧
      (s.invalidFormulas.map fun (id, place, _) => (id, place)).Nodup := by
  refine ⟨isOk_iff.symm.trans isOk_compile_iff_admitted, fun s hs => ?_⟩
  obtain ⟨-, hdistinct, -⟩ := isOk_compile_iff_admitted.1 (isOk_iff.2 ⟨s, hs⟩)
  have hordered : Rule.Ordered rules s.sources := by
    rw [sources_of_compile hs]
    exact Rule.ordered_mergeSort rules
  have hids : (s.sources.map Rule.id).Nodup :=
    (hordered.perm.map Rule.id).nodup_iff.2 hdistinct
  refine ⟨hordered, fun other hother => hother.eq hordered, ?_, ?_, nodup_invalidFormulas hids⟩
  · intro r hr
    exact get?_of_mem hids (hordered.perm.mem_iff.2 hr)
  · intro id place e
    rw [mem_invalidFormulas_iff hs]
    simp only [Settings.prepare_eq_invalid_iff]

/-- An inactive rule with a pattern in a nested group, and a rule whose second formula cannot be
read. -/
theorem compile_admits_pair :
    let test : Test := { field := "model", op := .matchesPattern, operand := .string "^x[0-9]" }
    let nested : Condition := .group .any [.group .negation [.test test]]
    let retired : Rule :=
      { id := "a", name := "retired", condition := some nested, order := 1, isActive := false }
    let torn : Rule := { id := "b", name := "torn", actions := [.ofFormula "1", .ofFormula "1 +"] }
    ∃ s, RuleSet.compile .standard false [retired, torn] = .ok s ∧
      s.get? "a" = some retired ∧ ∃ e, ("b", 1, e) ∈ s.invalidFormulas := by
  intro test nested retired torn
  have hcompile : (RuleSet.compile .standard false [retired, torn]).isOk = true :=
    isOk_compile_iff.2 (by decide +kernel)
  obtain ⟨s, hs⟩ := isOk_iff.1 hcompile
  obtain ⟨-, hadmits⟩ := compile_admits .standard false [retired, torn]
  obtain ⟨-, -, hget, hinvalid, -⟩ := hadmits s hs
  have hfails : (Expr.parse Settings.standard.limits "1 +").isOk = false := by decide +kernel
  cases hparse : Expr.parse Settings.standard.limits "1 +" with
  | ok =>
    rw [hparse] at hfails
    cases hfails
  | error defect =>
    refine ⟨s, hs, hget retired (by simp), .ofParse defect, (hinvalid "b" 1 _).2 ?_⟩
    exact ⟨torn, by simp, rfl, .ofFormula "1 +", rfl, rfl, "1 +", rfl, defect, hparse, rfl⟩

end RuleSet

end Appraisal
