import Appraisal.Proofs.Outcome
import Appraisal.RuleSet.Basic

/-!
# What compiling does

A rule set holds the rules it was compiled from in evaluation order, each with its prepared
formulas and its patterns (`RuleSet.compile_eq_ok_iff`). The patterns of a rule are those of their
texts (`Rule.faithful_of_patterns`), and the identities of the rules are distinct and not blank
(`Rule.checkIds_eq_ok_iff`).
-/

namespace Appraisal

/-! ### Patterns -/

namespace Patterns

theorem faithful_empty : empty.Faithful := by
  intro text p h
  simp [empty] at h

theorem Faithful.addAll {texts : List String} {ps qs : Patterns} (h : ps.Faithful)
    (hq : ps.addAll texts = .ok qs) : qs.Faithful := by
  induction texts generalizing ps with
  | nil =>
    cases hq
    exact h
  | cons text rest ih =>
    rw [Patterns.addAll] at hq
    split at hq
    · exact ih h hq
    · split at hq
      · next p hp =>
        refine ih ?_ hq
        intro other q ho
        rw [List.lookup_append, Option.or_eq_some_iff] at ho
        rcases ho with ho | ⟨-, ho⟩
        · exact h other q ho
        · rw [Table.lookup_cons_eq] at ho
          split at ho
          · next heq =>
            cases ho
            exact heq ▸ hp
          · cases ho
      · cases hq

theorem faithful_ofCondition {c : Condition} {ps : Patterns} (h : ofCondition c = .ok ps) :
    ps.Faithful :=
  faithful_empty.addAll h

end Patterns

namespace Rule

variable {settings : Settings} {r : Rule}

theorem faithful_of_patterns {ps : Patterns} (h : r.patterns = .ok ps) : ps.Faithful := by
  rw [Rule.patterns] at h
  split at h
  · cases h
    exact Patterns.faithful_empty
  · exact Patterns.faithful_ofCondition (mapError_eq_ok_iff.1 h)

/-! ### Rules -/

theorem precedes_iff {a b : Rule} : precedes a b = true ↔ a.order ≤ b.order := by
  simp [precedes]

theorem precedes_trans (a b c : Rule) (hab : precedes a b = true) (hbc : precedes b c = true) :
    precedes a c = true :=
  precedes_iff.2 (Int32.le_trans (precedes_iff.1 hab) (precedes_iff.1 hbc))

theorem precedes_total (a b : Rule) : (precedes a b || precedes b a) = true := by
  rw [Bool.or_eq_true, precedes_iff, precedes_iff]
  exact Int32.le_total a.order b.order

theorem compile_eq_ok_iff {c : CompiledRule} :
    r.compile settings = .ok c ↔
      c.rule = r ∧ c.formulas = r.actions.map settings.prepare ∧ r.patterns = .ok c.patterns := by
  rw [compile, except_bind_eq_ok_iff]
  constructor
  · rintro ⟨ps, hps, h⟩
    cases h
    exact ⟨rfl, rfl, hps⟩
  · obtain ⟨_, _, patterns⟩ := c
    rintro ⟨hrule, hformulas, hps⟩
    simp only at hrule hformulas
    subst hrule hformulas
    exact ⟨patterns, hps, rfl⟩

theorem isOk_compile_iff : (r.compile settings).isOk = true ↔ r.patterns.isOk = true := by
  rw [compile, isOk_bind_iff, isOk_iff]
  exact ⟨fun ⟨ps, hps, _⟩ => ⟨ps, hps⟩, fun ⟨ps, hps⟩ => ⟨ps, hps, rfl⟩⟩

theorem checkIds_eq_ok_iff {seen : List String} {rules : List Rule} :
    checkIds seen rules = .ok () ↔ (∀ r ∈ rules, r.isAnonymous = false ∧ r.id ∉ seen) ∧
      (rules.map Rule.id).Nodup := by
  induction rules generalizing seen with
  | nil => simp [checkIds]
  | cons r rest ih =>
    rw [checkIds]
    by_cases hblank : r.isAnonymous = true
    · simp [hblank]
    by_cases hseen : r.id ∈ seen
    · simp [hblank, hseen]
    · simp only [hblank, Bool.false_eq_true, List.contains_eq_mem, hseen, decide_false, if_false,
        ih]
      grind

end Rule

/-! ### Rule sets -/

namespace RuleSet

variable {settings : Settings} {stop : Bool} {rules : List Rule} {s : RuleSet}

/-- A rule set holds its rules in evaluation order, compiled. -/
theorem compile_eq_ok_iff :
    RuleSet.compile settings stop rules = .ok s ↔ Rule.checkIds [] rules = .ok () ∧
      List.Forall₂ (fun r c => r.compile settings = .ok c) (rules.mergeSort Rule.precedes) s.rules ∧
      s.settings = settings ∧ s.stopsOnFirstMatch = stop := by
  rw [compile, except_bind_eq_ok_iff]
  constructor
  · rintro ⟨_, hids, h⟩
    obtain ⟨compiled, hcompiled, h⟩ := except_bind_eq_ok_iff.1 h
    cases h
    exact ⟨hids, mapM_eq_ok_iff.1 hcompiled, rfl, rfl⟩
  · obtain ⟨_, compiled, _⟩ := s
    rintro ⟨hids, hcompiled, rfl, rfl⟩
    exact ⟨(), hids, except_bind_eq_ok_iff.2 ⟨compiled, mapM_eq_ok_iff.2 hcompiled, rfl⟩⟩

/-- The rule set of one rule. -/
theorem exists_of_compile_singleton {r : Rule} (h : RuleSet.compile settings stop [r] = .ok s) :
    ∃ patterns, r.patterns = .ok patterns ∧ s = {
      settings, stopsOnFirstMatch := stop
      rules := [{ rule := r, formulas := r.actions.map settings.prepare, patterns }] } := by
  obtain ⟨-, hrules, hsettings, hstop⟩ := compile_eq_ok_iff.1 h
  rw [List.mergeSort_singleton] at hrules
  obtain ⟨c, _, hc, hnil, hone⟩ := List.forall₂_cons_left_iff.1 hrules
  cases hnil
  obtain ⟨hrule, hformulas, hpatterns⟩ := Rule.compile_eq_ok_iff.1 hc
  obtain ⟨_, _, _⟩ := s
  obtain ⟨_, _, patterns⟩ := c
  simp only at hrule hformulas hone hsettings hstop
  subst hrule hformulas hone hsettings hstop
  exact ⟨patterns, hpatterns, rfl⟩

/-- The rules of a rule set are the given ones in evaluation order. -/
theorem sources_of_compile (h : RuleSet.compile settings stop rules = .ok s) :
    s.sources = rules.mergeSort Rule.precedes := by
  obtain ⟨-, hrules, -, -⟩ := compile_eq_ok_iff.1 h
  rw [sources]
  generalize rules.mergeSort Rule.precedes = sorted, s.rules = compiled at hrules ⊢
  induction hrules with
  | nil => rfl
  | cons hcompile _ ih => rw [List.map_cons, ih, (Rule.compile_eq_ok_iff.1 hcompile).1]

/-- Every rule of a rule set was compiled from one that was given. -/
theorem exists_compile_of_mem (h : RuleSet.compile settings stop rules = .ok s) {c : CompiledRule}
    (hc : c ∈ s.rules) : ∃ r ∈ rules, r.compile s.settings = .ok c := by
  obtain ⟨-, hrules, rfl, -⟩ := compile_eq_ok_iff.1 h
  obtain ⟨r, hr, hcompile⟩ := exists_of_forall₂_mem hrules hc
  exact ⟨r, List.mem_mergeSort.1 hr, hcompile⟩

/-- Rules make a rule set whenever their identities and their patterns are in order. -/
theorem isOk_compile_iff : (RuleSet.compile settings stop rules).isOk = true ↔
    (Rule.checkIds [] rules).isOk = true ∧ ∀ r ∈ rules, r.patterns.isOk = true := by
  rw [compile, isOk_bind_iff]
  constructor
  · rintro ⟨_, hids, h⟩
    obtain ⟨compiled, hcompiled, -⟩ := isOk_bind_iff.1 h
    refine ⟨isOk_iff.2 ⟨_, hids⟩, fun r hr => ?_⟩
    have hr := isOk_mapM_iff.1 (isOk_iff.2 ⟨compiled, hcompiled⟩) r (List.mem_mergeSort.2 hr)
    exact Rule.isOk_compile_iff.1 hr
  · rintro ⟨hids, h⟩
    obtain ⟨_, hids⟩ := isOk_iff.1 hids
    have hrules : ((rules.mergeSort Rule.precedes).mapM (Rule.compile settings)).isOk = true :=
      isOk_mapM_iff.2 fun r hr => Rule.isOk_compile_iff.2 (h r (List.mem_mergeSort.1 hr))
    obtain ⟨compiled, hcompiled⟩ := isOk_iff.1 hrules
    exact ⟨_, hids, isOk_bind_iff.2 ⟨compiled, hcompiled, rfl⟩⟩

end RuleSet

end Appraisal
