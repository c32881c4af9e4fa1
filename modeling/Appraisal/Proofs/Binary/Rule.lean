import Appraisal.Binary.Rule
import Appraisal.Proofs.Binary.Formula

/-!
# Stored rules

The codecs of settings, conditions, actions and rules restore everything (`restores_settings`,
`restores_rule`).
-/

namespace Appraisal.Codec

open Binary

/-! ### Settings -/

theorem restores_metricSource (m : MetricSource) : metricSource.Restores m :=
  .via (.pair (restores_string _) (restores_float _)) rfl

theorem restores_strings (texts : List String) : string.list.Restores texts :=
  .list filled_string fun s _ => restores_string s

theorem restores_settings (s : Settings) : settings.Restores s := by
  refine .via ?_ rfl
  refine .pair (restores_word _) (.pair (restores_word _) (.pair ?_ (.pair ?_ ?_)))
  · exact restores_table restores_metricSource
  · exact restores_strings _
  · refine .pair (restores_string _) (.pair (restores_string _) (.pair (restores_strings _) ?_))
    exact .option fun name _ => restores_string name

/-! ### Conditions -/

theorem restores_fieldType (t : FieldType) : fieldType.Restores t :=
  restores_oneOf (by cases t <;> decide) (by decide)

theorem restores_testOp (op : TestOp) : testOp.Restores op :=
  restores_oneOf (by cases op <;> decide) (by decide)

theorem restores_connective (op : Connective) : connective.Restores op :=
  restores_oneOf (by cases op <;> decide) (by decide)

theorem restores_test (t : Test) : test.Restores t := by
  refine .via (.pair (restores_string _) (.pair ?_ (.pair ?_ (restores_value _)))) rfl
  · exact restores_fieldType _
  · exact restores_testOp _

theorem filled_condition : condition.Filled := by
  intro c
  cases c <;> simp [condition, encodeCondition]

theorem encodeConditions_eq (items : List Condition) :
    encodeConditions items = items.flatMap encodeCondition := by
  induction items with
  | nil => rfl
  | cons c rest ih => rw [encodeConditions, ih, List.flatMap_cons]

theorem takes_condition {fuel : Nat} {c : Condition}
    (hfuel : (encodeCondition c).length ≤ fuel) (hlen : (encodeCondition c).length < 2 ^ 64) :
    Takes (decodeCondition fuel) (encodeCondition c) c := by
  induction fuel generalizing c with
  | zero => cases c <;> simp [encodeCondition] at hfuel
  | succ fuel ih =>
    cases c with
    | test t =>
      simp only [encodeCondition, List.length_cons] at hlen
      exact takes_case (n := 0) (by decide)
        ((restores_test t (by omega)).bind_last (takes_pure _))
    | group op children =>
      simp only [encodeCondition, encodeConditions_eq, List.length_cons, List.length_append]
        at hfuel hlen
      rw [encodeCondition, encodeConditions_eq, List.append_assoc]
      refine takes_case (n := 1) (by decide) ((restores_connective op (by omega)).bind ?_)
      exact takes_counted filled_condition (by omega)
        (fun c _ hc => ih (by omega) (by omega)) (takes_pure _)

theorem restores_condition (c : Condition) : condition.Restores c :=
  fun hlen => takes_fuelled fun _ hfuel => takes_condition hfuel hlen

/-! ### Actions -/

theorem filled_fieldMultiplier : fieldMultiplier.Filled := fun _ => filled_string.pair _

theorem restores_fieldMultiplier (m : FieldMultiplier) : fieldMultiplier.Restores m := by
  refine .via (.pair (restores_string _) (.pair (restores_table restores_float) ?_)) rfl
  exact .option fun v _ => restores_float v

theorem restores_depreciation (d : Depreciation) : depreciation.Restores d :=
  .via (.pair (restores_float _) (restores_float _)) rfl

theorem restores_modifiers (m : Modifiers) : modifiers.Restores m := by
  refine .via (.pair ?_ (.pair (restores_table restores_float) (.pair ?_ ?_))) rfl
  · exact .list filled_fieldMultiplier fun m _ => restores_fieldMultiplier m
  · exact .option fun d _ => restores_depreciation d
  · exact restores_table restores_float

theorem filled_oneOf {α : Type} [BEq α] (values : List α) : (oneOf values).Filled :=
  fun _ => compact_ne_nil _

theorem filled_action : action.Filled := fun _ => (filled_oneOf _).pair _

theorem restores_actionKind (kind : ActionKind) : actionKind.Restores kind :=
  restores_oneOf (by cases kind <;> decide) (by decide)

theorem restores_action (a : Action) : action.Restores a := by
  refine .via (.pair ?_ (.pair ?_ (.pair ?_ (.pair ?_ (.pair ?_ (restores_modifiers _)))))) rfl
  · exact restores_actionKind _
  · exact .option fun s _ => restores_string s
  · exact .option fun v _ => restores_float v
  · exact .option fun s _ => restores_string s
  · exact .option fun s _ => restores_string s

/-! ### Rules -/

theorem filled_rule : rule.Filled := fun _ => filled_string.pair _

theorem restores_rule (r : Rule) : rule.Restores r := by
  refine .via (.pair (restores_string _) (.pair (restores_string _) (.pair ?_ (.pair ?_ ?_)))) rfl
  · exact .option fun c _ => restores_condition c
  · exact .list filled_action fun a _ => restores_action a
  · exact .pair (restores_bool _) (restores_int32 _)

end Appraisal.Codec
