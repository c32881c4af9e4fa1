import Appraisal.Proofs.Formula.Faults
import Appraisal.Proofs.RuleSet.Compile

/-!
# Compiled patterns are there

Compiling the patterns of a condition leaves none out (`Rule.isSome_lookup_of_patterns`). A
condition whose patterns are all found reports none of them as invalid
(`Condition.failsOnly_evalWith`), so a compiled rule never does
(`Rule.isMet_ne_invalidPattern`).
-/

namespace Appraisal

variable {find : Pattern.Find} {context : Context} {text : String}

/-! ### Compiling -/

namespace Patterns

theorem isSome_lookup_of_addAll {texts : List String} {ps qs : Patterns}
    (hq : ps.addAll texts = .ok qs) (h : (ps.entries.lookup text).isSome = true ∨ text ∈ texts) :
    (qs.entries.lookup text).isSome = true := by
  induction texts generalizing ps with
  | nil =>
    cases hq
    exact h.resolve_right List.not_mem_nil
  | cons next rest ih =>
    rw [List.mem_cons] at h
    -- the text was there before, or it is the next to be compiled, or it comes later
    rw [addAll] at hq
    split at hq
    · next hthere =>
      refine ih hq ?_
      rcases h with h | rfl | h
      · exact .inl h
      · exact .inl hthere
      · exact .inr h
    split at hq
    · next p hp =>
      refine ih hq ?_
      rw [List.lookup_append, Option.isSome_or, Bool.or_eq_true]
      rcases h with h | rfl | h
      · exact .inl (.inl h)
      · exact .inl (.inr (by simp))
      · exact .inr h
    · cases hq

/-- A pattern that is there is found. -/
theorem exists_find_of_isSome {ps : Patterns} (h : (ps.entries.lookup text).isSome = true) :
    ∃ p, ps.find text = .ok p := by
  obtain ⟨p, hp⟩ := Option.isSome_iff_exists.1 h
  exact ⟨p, by rw [find, hp]⟩

end Patterns

/-- The texts that the tests of a rule match as patterns. -/
def Rule.patternTexts (r : Rule) : List String :=
  match r.condition with
  | none => []
  | some c => c.tests.filterMap Test.pattern?

/-- Compiling the patterns of a rule leaves none out. -/
theorem Rule.isSome_lookup_of_patterns {r : Rule} {ps : Patterns} (h : r.patterns = .ok ps)
    (ht : text ∈ r.patternTexts) : (ps.entries.lookup text).isSome = true := by
  rw [patternTexts] at ht
  rw [Rule.patterns] at h
  cases hc : r.condition with
  | none =>
    rw [hc] at ht
    cases ht
  | some c =>
    rw [hc] at h ht
    exact Patterns.isSome_lookup_of_addAll (mapError_eq_ok_iff.1 h) (.inr ht)

/-! ### Evaluating -/

open Outcome

/-- The error is not that of an invalid pattern. -/
def ConditionError.SparesPatterns (e : ConditionError) : Prop :=
  ∀ text defect, e ≠ .invalidPattern text defect

namespace Test

variable {t : Test}

theorem failsOnly_rank (t : Test) (actual bound : Value) :
    (ofExcept (t.rank actual bound)).FailsOnly ConditionError.SparesPatterns := by
  rw [rank]
  split
  · trivial
  · exact nofun

theorem failsOnly_isBetween (t : Test) (actual : Value) :
    (ofExcept (t.isBetween actual)).FailsOnly ConditionError.SparesPatterns := by
  rw [isBetween]
  split
  · rw [ofExcept_bind]
    refine (failsOnly_rank t _ _).bind fun o _ => ?_
    split
    · trivial
    · rw [ofExcept_bind]
      exact (failsOnly_rank t _ _).bind fun _ _ => trivial
  · exact nofun

theorem failsOnly_isMember (t : Test) (actual : Value) :
    (ofExcept (t.isMember actual)).FailsOnly ConditionError.SparesPatterns := by
  rw [isMember]
  split
  · trivial
  · exact nofun

theorem failsOnly_isMatch (hop : t.op = .matchesPattern)
    (hfind : ∀ text, t.pattern? = some text → ∃ p, find text = .ok p) (actual : Value) :
    (ofExcept (t.isMatch find actual)).FailsOnly ConditionError.SparesPatterns := by
  rw [isMatch]
  cases hoperand : t.operand with
  | string text =>
    obtain ⟨p, hp⟩ := hfind text (by simp [pattern?, hop, hoperand])
    simp only [hp]
    trivial
  | _ => exact nofun

/-- A test whose pattern is found reports none as invalid. -/
theorem failsOnly_eval (hfind : ∀ text, t.pattern? = some text → ∃ p, find text = .ok p) :
    (ofExcept (t.eval find context)).FailsOnly ConditionError.SparesPatterns := by
  rw [eval]
  split
  · next actual _ =>
    rw [evalValue]
    cases hop : t.op with
    | equals | notEquals | contains | startsWith | endsWith | isNull | isNotNull => trivial
    | greaterThan | greaterThanOrEqual | lessThan | lessThanOrEqual =>
      rw [ofExcept_bind]
      exact (failsOnly_rank t _ _).bind fun _ _ => trivial
    | between => exact failsOnly_isBetween t actual
    | member => exact failsOnly_isMember t actual
    | notMember =>
      rw [ofExcept_bind]
      exact (failsOnly_isMember t actual).bind fun _ _ => trivial
    | matchesPattern => exact failsOnly_isMatch hop hfind actual
  · trivial

end Test

namespace Condition

/-- The texts that the tests of some conditions match as patterns are found. -/
def Finds (find : Pattern.Find) (ts : List Test) : Prop :=
  ∀ text ∈ ts.filterMap Test.pattern?, ∃ p, find text = .ok p

theorem finds_append {ts us : List Test} :
    Finds find (ts ++ us) ↔ Finds find ts ∧ Finds find us := by
  rw [Finds, List.filterMap_append, List.forall_mem_append, Finds, Finds]

mutual

/-- A condition whose patterns are found reports none as invalid. -/
theorem failsOnly_evalWith : (c : Condition) → Finds find c.tests →
    (ofExcept (c.evalWith find context)).FailsOnly ConditionError.SparesPatterns
  | .test t, h => by
    rw [evalWith]
    exact Test.failsOnly_eval fun text ht => h text (by simp [tests, ht])
  | .group .all children, h => by
    rw [evalWith]
    exact failsOnly_evalAll children h
  | .group .any children, h => by
    rw [evalWith]
    exact failsOnly_evalAny children h
  | .group .negation [], _ => by
    rw [evalWith]
    exact nofun
  | .group .negation (child :: rest), h => by
    rw [evalWith, ofExcept_bind]
    exact (failsOnly_evalWith child (finds_append.1 h).1).bind fun _ _ => trivial

theorem failsOnly_evalAll : (cs : List Condition) → Finds find (testsAll cs) →
    (ofExcept (evalAll find context cs)).FailsOnly ConditionError.SparesPatterns
  | [], _ => by
    rw [evalAll]
    trivial
  | child :: rest, h => by
    obtain ⟨hchild, hrest⟩ := finds_append.1 h
    rw [evalAll, ofExcept_bind]
    refine (failsOnly_evalWith child hchild).bind fun holds _ => ?_
    split
    · exact failsOnly_evalAll rest hrest
    · trivial

theorem failsOnly_evalAny : (cs : List Condition) → Finds find (testsAll cs) →
    (ofExcept (evalAny find context cs)).FailsOnly ConditionError.SparesPatterns
  | [], _ => by
    rw [evalAny]
    trivial
  | child :: rest, h => by
    obtain ⟨hchild, hrest⟩ := finds_append.1 h
    rw [evalAny, ofExcept_bind]
    refine (failsOnly_evalWith child hchild).bind fun holds _ => ?_
    split
    · trivial
    · exact failsOnly_evalAny rest hrest

end

end Condition

/-- A rule with its patterns compiled reports none of them as invalid. -/
theorem Rule.isMet_ne_invalidPattern {r : Rule} {ps : Patterns} (h : r.patterns = .ok ps)
    (context : Context) (text : String) (defect : Pattern.Defect) :
    r.isMet ps.find context ≠ .error (.invalidPattern text defect) := by
  rw [isMet]
  cases hc : r.condition with
  | none => nofun
  | some c =>
    have hfinds : Condition.Finds ps.find c.tests := by
      intro text ht
      refine Patterns.exists_find_of_isSome (isSome_lookup_of_patterns h ?_)
      rw [patternTexts, hc]
      exact ht
    have hfails : (ofExcept (c.evalWith ps.find context)).FailsOnly
        ConditionError.SparesPatterns := Condition.failsOnly_evalWith c hfinds
    intro herror
    exact hfails.of_eq (congrArg ofExcept herror) text defect rfl

end Appraisal
