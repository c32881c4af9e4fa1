import Appraisal.Proofs.Formula.Locality
import Appraisal.Proofs.RuleSet.Abort

/-!
# Actions and conditions depend on the fields that they read

A condition reads the fields of its tests (`Condition.evalWith_congr`). An action reads what its
kind asks for, what its modifiers ask for (`Modifiers.applied_congr`) and, if it has a formula that
can be read, the references of that. Listings that agree on all of it give the actions of a rule
breakdowns that tell the same, save for the list of fields in a fault (`breakdown_congr`).
-/

namespace Appraisal

open Outcome Context

variable {settings : Settings} {c₁ c₂ : Context}

/-! ### Conditions -/

namespace Condition

/-- The fields that a condition reads. -/
def reads (c : Condition) : List String := c.tests.map Test.field

/-- The fields that some conditions read. -/
def readsAll (cs : List Condition) : List String := (testsAll cs).map Test.field

theorem readsAll_cons (c : Condition) (rest : List Condition) :
    readsAll (c :: rest) = c.reads ++ readsAll rest :=
  List.map_append

variable {find : Pattern.Find}

mutual

/-- A condition depends on the fields of its tests. -/
theorem evalWith_congr : (c : Condition) → AgreesOn c.reads c₁ c₂ →
    c.evalWith find c₁ = c.evalWith find c₂
  | .test t, h => by
    obtain ⟨hlookup, -⟩ := h t.field (List.mem_singleton_self _)
    rw [evalWith, evalWith, Test.eval, Test.eval, hlookup]
  | .group .all children, h => by
    rw [evalWith, evalWith]
    exact evalAll_congr children h
  | .group .any children, h => by
    rw [evalWith, evalWith]
    exact evalAny_congr children h
  | .group .negation [], _ => by rw [evalWith, evalWith]
  | .group .negation (child :: rest), h => by
    have hchild : AgreesOn child.reads c₁ c₂ := h.mono (by simp [reads, tests, testsAll])
    rw [evalWith, evalWith, evalWith_congr child hchild]

theorem evalAll_congr : (cs : List Condition) → AgreesOn (readsAll cs) c₁ c₂ →
    evalAll find c₁ cs = evalAll find c₂ cs
  | [], _ => by rw [evalAll, evalAll]
  | child :: rest, h => by
    rw [readsAll_cons] at h
    rw [evalAll, evalAll, evalWith_congr child (h.mono (by simp)),
      evalAll_congr rest (h.mono (by simp))]

theorem evalAny_congr : (cs : List Condition) → AgreesOn (readsAll cs) c₁ c₂ →
    evalAny find c₁ cs = evalAny find c₂ cs
  | [], _ => by rw [evalAny, evalAny]
  | child :: rest, h => by
    rw [readsAll_cons] at h
    rw [evalAny, evalAny, evalWith_congr child (h.mono (by simp)),
      evalAny_congr rest (h.mono (by simp))]

end

end Condition

/-! ### Modifiers -/

namespace Context

variable {path : String}

theorem numberAt?_congr (h : c₁.lookup? path = c₂.lookup? path) :
    c₁.numberAt? path = c₂.numberAt? path := by
  rw [numberAt?, numberAt?, h]

theorem keyAt?_congr (h : c₁.lookup? path = c₂.lookup? path) :
    c₁.keyAt? path = c₂.keyAt? path := by
  rw [keyAt?, keyAt?, h]

end Context

/-- Searches that find the same at every item find the same. -/
theorem findSome?_congr {α β : Type} {f g : α → Option β} {as : List α}
    (h : ∀ a ∈ as, f a = g a) : as.findSome? f = as.findSome? g := by
  induction as with
  | nil => rfl
  | cons a rest ih =>
    obtain ⟨ha, hrest⟩ := List.forall_mem_cons.1 h
    rw [List.findSome?_cons, List.findSome?_cons, ha, ih hrest]

namespace Modifiers

/-- The fields that modifiers read. -/
def reads (settings : Settings) (m : Modifiers) : List String :=
  m.fields.map FieldMultiplier.field ++ [settings.conditionField, settings.ageField] ++
    (settings.modelField.toList ++ settings.brandFields)

/-- The factors that apply depend on the fields that the modifiers read. -/
theorem applied_congr {m : Modifiers} (h : AgreesOn (m.reads settings) c₁ c₂) :
    m.applied settings c₁ = m.applied settings c₂ := by
  have hlookup : ∀ path ∈ m.reads settings, c₁.lookup? path = c₂.lookup? path :=
    fun path hpath => (h path hpath).1
  simp only [reads, List.forall_mem_append, List.forall_mem_map, List.forall_mem_cons] at hlookup
  obtain ⟨⟨hfields, hcondition, hage, -⟩, hmodel, hbrand⟩ := hlookup
  have hfieldFactors : m.fieldFactors c₁ = m.fieldFactors c₂ :=
    List.filterMap_congr fun f hf => by
      rw [FieldMultiplier.factor, FieldMultiplier.factor, keyAt?_congr (hfields f hf)]
  have hconditionFactor : m.conditionFactor settings c₁ = m.conditionFactor settings c₂ := by
    rw [conditionFactor, conditionFactor, keyAt?_congr hcondition]
  have hageFactor : m.ageFactor settings c₁ = m.ageFactor settings c₂ := by
    rw [ageFactor, ageFactor, numberAt?_congr hage]
  have hbrandFactor : m.brandFactor settings c₁ = m.brandFactor settings c₂ :=
    findSome?_congr fun field hfield => by
      have hfield := (List.mem_append.1 hfield).elim (hmodel field) (hbrand field)
      rw [keyAt?_congr hfield]
  rw [applied, applied, hfieldFactors, hconditionFactor, hageFactor, hbrandFactor]

end Modifiers

/-! ### Actions -/

/-- A report without the list of the fields that there are. -/
def FormulaError.masked : FormulaError → FormulaError
  | .undefined name _ => .undefined name []
  | e => e

/-- An error without the list of the fields that there are. -/
def ActionError.masked : ActionError → ActionError
  | .formula e => .formula e.masked
  | e => e

/-- The error of an action whose formula raises a fault. -/
def ActionError.ofFault (fault : Fault) : ActionError := .formula (.ofFault fault)

theorem ActionError.masked_ofFault (fault : Fault) :
    (ofFault fault).masked = ofFault fault.masked := by
  cases fault <;> rfl

/-- The fields that the formula of an action reads. -/
def PreparedFormula.reads : PreparedFormula → List String
  | .parsed e => e.references
  | _ => []

namespace Action

/-- The fields that an action reads to compute its value without a formula. -/
def quantities (settings : Settings) (a : Action) : List String :=
  match a.kind, a.metric with
  | .perUnit, some metric => [(settings.metricSource metric).field]
  | .benchmark, some metric => [metric]
  | .multiplier, _ => settings.priceFields
  | _, _ => []

/-- The fields that an action reads beside those of its formula. -/
def reads (settings : Settings) (a : Action) : List String :=
  a.quantities settings ++ a.modifiers.reads settings

variable {f g : FormulaValue} {a : Action}

/-- The base value of an action depends on the fields that the action reads. -/
theorem base_congr (h : AgreesOn (a.quantities settings) c₁ c₂)
    (hf : ∀ source, a.source? = some source → (f source).EqUpTo ActionError.masked (g source)) :
    (a.base settings f c₁).EqUpTo ActionError.masked (a.base settings g c₂) := by
  have hnumber : ∀ path ∈ a.quantities settings, c₁.numberAt? path = c₂.numberAt? path :=
    fun path hpath => numberAt?_congr (h path hpath).1
  simp only [base]
  cases hk : a.kind with
  | fixed | additive =>
    exact .refl _
  | perUnit =>
    dsimp only
    refine .bind (.refl _) fun amount => ?_
    rw [givenMetric]
    cases hm : a.metric with
    | none =>
      rw [error_bind, error_bind]
      exact .refl _
    | some metric =>
      have hquantity := hnumber (settings.metricSource metric).field (by simp [quantities, hk, hm])
      simp only [ok_bind, hquantity]
      exact .refl _
  | benchmark =>
    dsimp only
    refine .bind (.refl _) fun amount => ?_
    rw [givenMetric]
    cases hm : a.metric with
    | none =>
      rw [error_bind, error_bind]
      exact .refl _
    | some metric =>
      have hscore := hnumber metric (by simp [quantities, hk, hm])
      simp only [ok_bind, hscore]
      exact .refl _
  | multiplier =>
    have hprice : settings.priceFields.findSome? c₁.numberAt? =
        settings.priceFields.findSome? c₂.numberAt? :=
      findSome?_congr fun path hpath => hnumber path (by simpa [quantities, hk] using hpath)
    dsimp only
    rw [hprice]
    exact .refl _
  | formula =>
    dsimp only
    cases hs : a.formula with
    | none => exact .refl _
    | some source => exact hf source (source?_eq_some hk hs)

/-- How the value of an action comes about depends on the fields that the action reads. -/
theorem details_eqUpTo (h : AgreesOn (a.reads settings) c₁ c₂)
    (hf : ∀ source, a.source? = some source → (f source).EqUpTo ActionError.masked (g source)) :
    (a.details settings f c₁).EqUpTo ActionError.masked (a.details settings g c₂) := by
  have hmodifiers := Modifiers.applied_congr (h.mono (List.subset_append_right _ _))
  simp only [details, Modifiers.pass_eq, hmodifiers]
  exact (base_congr (h.mono (List.subset_append_left _ _)) hf).bind fun _ => .refl _

end Action

/-- The value of a formula that was read ahead depends on the fields that the formula reads. -/
theorem Settings.preparedValue_congr {a : Action} {source : String}
    (hsource : a.source? = some source) (h : AgreesOn (settings.prepare a).reads c₁ c₂) :
    (settings.preparedValue c₁ (some (settings.prepare a)) source).EqUpTo ActionError.masked
      (settings.preparedValue c₂ (some (settings.prepare a)) source) := by
  rw [preparedValue_prepare hsource, preparedValue_prepare hsource, formulaValue, formulaValue]
  cases hparse : Expr.parse settings.limits source with
  | error e => exact .refl _
  | ok e =>
    have hprepare := prepare_eq_parsed_iff.2 ⟨source, hsource, hparse⟩
    rw [hprepare] at h
    have hnumber := Expr.number_congr settings.limits.maxDepth (Expr.plain_of_parse hparse) h
    exact hnumber.mapError ActionError.ofFault ActionError.masked_ofFault

/-! ### Breakdowns -/

/-- An entry without the list of the fields that there are. -/
def BreakdownEntry.masked (e : BreakdownEntry) : BreakdownEntry :=
  { e with outcome := e.outcome.mapError ActionError.masked }

theorem Action.entry_eqUpTo {f g : FormulaValue} {a : Action}
    (h : AgreesOn (a.reads settings) c₁ c₂)
    (hf : ∀ source, a.source? = some source → (f source).EqUpTo ActionError.masked (g source)) :
    (a.entry settings f c₁).map BreakdownEntry.masked =
      (a.entry settings g c₂).map BreakdownEntry.masked := by
  rw [entry, entry]
  refine except_map_bind_congr (details_eqUpTo h hf).caught fun x y hxy => ?_
  simp only [pure, Except.pure, Except.map, BreakdownEntry.masked, hxy]

/-- The breakdown of the actions of a rule depends on the fields that they read. -/
theorem breakdown_congr {actions : List Action}
    (h : AgreesOn (actions.flatMap (Action.reads settings)) c₁ c₂)
    (hformulas : AgreesOn ((actions.map settings.prepare).flatMap PreparedFormula.reads) c₁ c₂) :
    (breakdown settings c₁ actions (actions.map settings.prepare)).map
        (List.map BreakdownEntry.masked) =
      (breakdown settings c₂ actions (actions.map settings.prepare)).map
        (List.map BreakdownEntry.masked) := by
  induction actions with
  | nil => rfl
  | cons a rest ih =>
    have ha : AgreesOn (a.reads settings) c₁ c₂ := h.mono (by simp)
    have hformula : AgreesOn (settings.prepare a).reads c₁ c₂ := hformulas.mono (by simp)
    have hentry := Action.entry_eqUpTo ha fun _ hsource =>
      Settings.preparedValue_congr hsource hformula
    have hrest := ih (h.mono (by simp)) (hformulas.mono (by simp))
    simp only [breakdown, List.map_cons, List.head?_cons, List.tail_cons]
    refine except_map_bind_congr hentry fun e e' he => ?_
    refine except_map_bind_congr hrest fun es es' hes => ?_
    simp only [pure, Except.pure, Except.map, List.map_cons, he, hes]

end Appraisal
