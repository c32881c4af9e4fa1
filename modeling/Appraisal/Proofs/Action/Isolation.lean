import Appraisal.Proofs.Action.Breakdown
import Appraisal.Proofs.RuleSet.Abort

/-!
# Actions are isolated and auditable

The entry of an action is the same in any company, and tells how its value came about
(`runActions_isolated`).

* The value is the one that the way through the modifiers ends with (`Modifiers.pass`), so nothing
  is multiplied that is not recorded (`BreakdownEntry.audited_of_entry`).
* The record goes stage by stage, with the fields in their order (`Modifiers.staged_applied`).
* Only a formula with crossed bounds touches other actions: it breaks off the whole list
  (`Action.Crosses`, `isOk_runActions_iff`).
-/

namespace Appraisal

variable {settings : Settings} {context : Context}

/-! ### Stages -/

namespace Modifiers

/-- Factors stand stage by stage: first those of some of the fields, in the order of the fields,
then at most one of the condition, one of the age and one of the model or brand. -/
def Staged (context : Context) (m : Modifiers) (applied : List AppliedModifier) : Prop :=
  ∃ (chosen : List FieldMultiplier) (fields : List AppliedModifier)
    (condition age brand : Option AppliedModifier),
    applied = fields ++ condition.toList ++ age.toList ++ brand.toList ∧
    chosen.Sublist m.fields ∧ List.Forall₂ (fun f x => f.factor context = some x) chosen fields ∧
    (∀ x ∈ fields, x.stage = .field) ∧ (∀ x ∈ condition, x.stage = .condition) ∧
    (∀ x ∈ age, x.stage = .age) ∧ ∀ x ∈ brand, x.stage = .brand

theorem forall₂_filterMap {α β : Type} (f : α → Option β) (as : List α) :
    List.Forall₂ (fun a b => f a = some b) (as.filter fun a => (f a).isSome) (as.filterMap f) := by
  induction as with
  | nil => exact .nil
  | cons a rest ih =>
    cases h : f a with
    | none => simpa [h] using ih
    | some b => simpa [h] using ih

theorem staged_applied (settings : Settings) (context : Context) (m : Modifiers) :
    m.Staged context (m.applied settings context) := by
  have hfields := forall₂_filterMap (FieldMultiplier.factor context) m.fields
  refine ⟨_, m.fieldFactors context, m.conditionFactor settings context,
    m.ageFactor settings context, m.brandFactor settings context, rfl, List.filter_sublist, hfields,
    fun x hx => ?_, fun x hx => ?_, fun x hx => ?_, fun x hx => ?_⟩
  · obtain ⟨f, -, hf⟩ := exists_of_forall₂_mem hfields hx
    simp only [FieldMultiplier.factor, Option.bind_eq_bind, Option.bind_eq_some_iff] at hf
    obtain ⟨_, _, _, _, hf⟩ := hf
    cases hf
    rfl
  · simp only [conditionFactor, Option.bind_eq_bind, Option.mem_def, Option.bind_eq_some_iff] at hx
    obtain ⟨_, _, _, _, hx⟩ := hx
    cases hx
    rfl
  · simp only [ageFactor, Option.bind_eq_bind, Option.mem_def, Option.bind_eq_some_iff] at hx
    obtain ⟨_, _, _, _, hx⟩ := hx
    cases hx
    rfl
  · obtain ⟨field, -, hx⟩ := List.exists_of_findSome?_eq_some hx
    simp only [Option.bind_eq_bind, Option.bind_eq_some_iff] at hx
    obtain ⟨_, _, _, _, hx⟩ := hx
    cases hx
    rfl

end Modifiers

/-! ### Entries -/

/-- The details of an entry tell how its value came about. -/
structure BreakdownEntry.Audited (settings : Settings) (context : Context) (a : Action)
    (e : BreakdownEntry) (d : Details) : Prop where
  base : a.base settings (settings.formulaValue context) context = .ok d.base
  /-- The value is the base times every recorded factor, from left to right. -/
  value : e.value = d.modifiers.foldl (fun value m => value * m.multiplier) d.base
  /-- Nothing else was multiplied. -/
  pass : a.modifiers.pass settings context d.base = ⟨e.value, d.modifiers⟩
  staged : a.modifiers.Staged context d.modifiers

theorem BreakdownEntry.audited_of_entry {a : Action} {e : BreakdownEntry}
    (h : a.entry settings (settings.formulaValue context) context = .ok e) {d : Details}
    (hd : e.details? = some d) : e.Audited settings context a d := by
  obtain ⟨-, -, houtcome⟩ := Action.entry_eq_ok_iff.1 h
  rw [details?_eq_some_iff.1 hd] at houtcome
  obtain ⟨hbase, hmodifiers, -⟩ := Action.details_eq_ok_iff.1 houtcome
  have hvalue : e.value = d.value := by
    rw [value, details?_eq_some_iff.1 hd]
  refine ⟨hbase, hvalue, ?_, ?_⟩
  · rw [Modifiers.pass_eq, ← hmodifiers, hvalue]
  · rw [hmodifiers]
    exact Modifiers.staged_applied settings context a.modifiers

/-! ### Lists of actions -/

/-- The formula of an action crosses bounds. -/
def Action.Crosses (settings : Settings) (context : Context) (a : Action) : Prop :=
  ∃ source e low high, a.source? = some source ∧ Expr.parse settings.limits source = .ok e ∧
    e.Crosses settings.limits.maxDepth context low high

theorem Action.isOk_entry_iff {a : Action} :
    (a.entry settings (settings.formulaValue context) context).isOk = true ↔
      ¬ a.Crosses settings context := by
  have herror : (∃ r, a.entry settings (settings.formulaValue context) context = .error r) ↔
      a.Crosses settings context := by
    simp only [entry_eq_error_iff, Settings.formulaValue_eq_abort_iff, Crosses]
    constructor
    · rintro ⟨_, source, hsource, e, low, high, hparse, hcrosses, -⟩
      exact ⟨source, e, low, high, hsource, hparse, hcrosses⟩
    · rintro ⟨source, e, low, high, hsource, hparse, hcrosses⟩
      exact ⟨_, source, hsource, e, low, high, hparse, hcrosses, rfl⟩
  rw [← herror]
  cases a.entry settings (settings.formulaValue context) context <;>
    simp [Except.isOk, Except.toBool]

theorem isOk_runActions_iff {actions : List Action} :
    (runActions settings context actions []).isOk = true ↔
      ∀ a ∈ actions, ¬ a.Crosses settings context := by
  simp only [runActions, breakdown_nil_eq_mapM, ← Action.isOk_entry_iff, ← isOk_mapM_iff]
  exact isOk_bind_ok_iff

theorem runActions_eq_ok_iff {actions : List Action} {outcome : ActionOutcome} :
    runActions settings context actions [] = .ok outcome ↔ ∃ entries,
      List.Forall₂ (fun a e => a.entry settings (settings.formulaValue context) context = .ok e)
        actions entries ∧ outcome = .ofBreakdown entries := by
  rw [runActions, breakdown_nil_eq_mapM, except_bind_eq_ok_iff]
  refine exists_congr fun entries => ?_
  rw [mapM_eq_ok_iff]
  exact and_congr_right fun _ => ⟨fun h => (Except.ok.inj h).symm, fun h => h ▸ rfl⟩

/-- An action by itself comes to its own entry. -/
theorem runActions_singleton {a : Action} {e : BreakdownEntry}
    (h : a.entry settings (settings.formulaValue context) context = .ok e) :
    ∃ alone, runActions settings context [a] [] = .ok alone ∧ alone.breakdown = [e] :=
  ⟨_, runActions_eq_ok_iff.2 ⟨[e], .cons h .nil, rfl⟩, ActionOutcome.breakdown_ofBreakdown [e]⟩

/-- **Actions are isolated and auditable.** A list of actions comes to an outcome unless a formula
among them crosses bounds. Then the entry of each action is the one that it has by itself, and the
details of an entry without an error tell how its value came about. -/
theorem runActions_isolated (settings : Settings) (context : Context) (actions : List Action) :
    ((∃ outcome, runActions settings context actions [] = .ok outcome) ↔
      ∀ a ∈ actions, ¬ a.Crosses settings context) ∧
    ∀ outcome, runActions settings context actions [] = .ok outcome →
      List.Forall₂ (fun a e =>
          (∃ alone, runActions settings context [a] [] = .ok alone ∧ alone.breakdown = [e]) ∧
          (e.error? = none → ∃ d, e.details? = some d ∧ e.Audited settings context a d))
        actions outcome.breakdown := by
  refine ⟨isOk_iff.symm.trans isOk_runActions_iff, fun outcome h => ?_⟩
  obtain ⟨entries, hentries, rfl⟩ := runActions_eq_ok_iff.1 h
  rw [ActionOutcome.breakdown_ofBreakdown]
  refine hentries.imp fun a e he => ⟨runActions_singleton he, fun hnone => ?_⟩
  obtain ⟨d, hd⟩ := BreakdownEntry.exists_details hnone
  exact ⟨d, hd, BreakdownEntry.audited_of_entry he hd⟩

/-- An action with factors of two stages, beside one whose formula cannot be read. -/
theorem runActions_isolated_pair :
    let listing := (Context.empty.insert "condition" (.string "Used")).insert "age_years" (.int 2)
    let sound : Action := { Action.ofAmount 100 with
      modifiers := { condition := Modifiers.keyed [("used", 0.5)], age := some ⟨0.1, 0.5⟩ } }
    ∃ outcome, runActions .standard listing [sound, .ofFormula "ram_gb **"] [] = .ok outcome ∧
      List.Forall₂ (fun a e =>
          (∃ alone, runActions .standard listing [a] [] = .ok alone ∧ alone.breakdown = [e]) ∧
          (e.error? = none → ∃ d, e.details? = some d ∧ e.Audited .standard listing a d))
        [sound, .ofFormula "ram_gb **"] outcome.breakdown ∧
      outcome.breakdown.map (fun e => e.error?.isSome) = [false, true] := by
  intro listing sound
  have h : (runActions .standard listing [sound, .ofFormula "ram_gb **"] []).map (fun outcome =>
      outcome.breakdown.map fun e => e.error?.isSome) = .ok [false, true] := by
    decide +kernel
  obtain ⟨outcome, houtcome, herrors⟩ :=
    except_bind_eq_ok_iff.1 ((map_eq_pure_bind _ _).symm.trans h)
  have hisolated := runActions_isolated .standard listing [sound, .ofFormula "ram_gb **"]
  exact ⟨outcome, houtcome, hisolated.2 outcome houtcome, Except.ok.inj herrors⟩

/-- Crossed bounds in the formula of one action leave the other one without its entry. -/
theorem runActions_broken_off :
    let crossed : Action := .ofFormula "clamp(0, 9223372036854775807, 9223372036854775806)"
    (∃ alone, runActions .standard .empty [.ofAmount 5] [] = .ok alone) ∧
      ∃ r, runActions .standard .empty [.ofAmount 5, crossed] [] = .error r := by
  intro crossed
  refine ⟨isOk_iff.1 (by decide +kernel), ?_⟩
  have h : (runActions .standard .empty [.ofAmount 5, crossed] []).isOk = false := by
    decide +kernel
  cases hrun : runActions .standard .empty [.ofAmount 5, crossed] [] with
  | error r => exact ⟨r, rfl⟩
  | ok outcome =>
    rw [hrun] at h
    cases h

end Appraisal
