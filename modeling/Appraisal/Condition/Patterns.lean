import Appraisal.Condition.Eval

/-!
# Compiled patterns

The patterns of a condition can be compiled before it is evaluated. A look-up among them gives
what compiling the text would give (`Patterns.find_eq_compile`).
-/

namespace Appraisal

/-- The text that a test matches as a pattern, if it is such a test. -/
def Test.pattern? (t : Test) : Option String :=
  match t.op, t.operand with
  | .matchesPattern, .string pattern => some pattern
  | _, _ => none

/-- Compiled patterns, each with its text. -/
structure Patterns where
  entries : List (String × Pattern)
  deriving Inhabited

namespace Patterns

/-- No patterns. -/
def empty : Patterns := ⟨[]⟩

/-- The pattern for a text: the compiled one, or else a new one. -/
def find (ps : Patterns) : Pattern.Find := fun text =>
  match ps.entries.lookup text with
  | some p => .ok p
  | none => Pattern.compile text

/-- Compile the patterns that are not there yet. -/
def addAll (ps : Patterns) : List String → Except ConditionError Patterns
  | [] => .ok ps
  | text :: rest =>
    if (ps.entries.lookup text).isSome then ps.addAll rest
    else match Pattern.compile text with
      | .ok p => Patterns.addAll ⟨ps.entries ++ [(text, p)]⟩ rest
      | .error defect => .error (.invalidPattern text defect)

/-- The compiled patterns of a condition. -/
def ofCondition (c : Condition) : Except ConditionError Patterns :=
  empty.addAll (c.tests.filterMap Test.pattern?)

/-- Every pattern is the one of its text. -/
def Faithful (ps : Patterns) : Prop :=
  ∀ text p, ps.entries.lookup text = some p → Pattern.compile text = .ok p

theorem find_eq_compile {ps : Patterns} (h : ps.Faithful) : ps.find = Pattern.compile := by
  funext text
  rw [find]
  split
  · next p hp => exact (h text p hp).symm
  · rfl

end Patterns

end Appraisal
