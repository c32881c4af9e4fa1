import Appraisal.Action.Breakdown
import Appraisal.Proofs.Outcome

/-!
# What a breakdown holds

The entry of an action holds what its run came to (`Action.entry_eq_ok_iff`): its details if their
value is finite (`Action.details_eq_ok_iff`), an error otherwise. The value of an action is checked
at the end only, but a number that is multiplied step by step is finite at the end only if it was
finite all along (`Number.isFinite_of_foldl_mul`). So a finite value vouches for the base and for
every factor, and all numbers of an entry are finite (`BreakdownEntry.Finite`).

A breakdown has one entry for each action, in their order (`forall₂_of_breakdown`). Without formulas
read ahead, the entry of an action is the same in any company (`breakdown_nil_eq_mapM`).
-/

namespace Appraisal

/-! ### Finite floats -/

namespace Number

open Float.Model (Format UnpackedFloat)
open Float.Model.UnpackedFloat

theorem isFinite_zero : (0.0 : Float).isFinite = true := by decide +kernel

/-- What is packed as no finite number is not unpacked as one. -/
theorem isFinite_unpack_pack {f : UnpackedFloat}
    (h : (unpack Format.binary64 (pack Format.binary64 f)).isFinite = true) :
    f.isFinite = true := by
  cases f with
  | notANumber => exact h
  | infinity sign => cases sign <;> exact h
  | zero => rfl
  | finite => rfl

theorem isFinite_of_unpacked_mul {spec : Format} {f g : UnpackedFloat}
    (h : (mul spec f g).isFinite = true) : f.isFinite = true ∧ g.isFinite = true := by
  cases f <;> cases g <;> first | exact ⟨rfl, rfl⟩ | exact absurd h Bool.false_ne_true

/-- The factors of a finite product are finite. -/
theorem isFinite_of_mul {x y : Float} (h : (x * y).isFinite = true) :
    x.isFinite = true ∧ y.isFinite = true :=
  isFinite_of_unpacked_mul (isFinite_unpack_pack h)

/-- If steps of multiplication lead to a finite number, then they start with one and all their
factors are finite. -/
theorem isFinite_of_foldl_mul {α : Type} {factor : α → Float} {as : List α} {x : Float}
    (h : (as.foldl (fun value a => value * factor a) x).isFinite = true) :
    x.isFinite = true ∧ ∀ a ∈ as, (factor a).isFinite = true := by
  induction as generalizing x with
  | nil => exact ⟨h, nofun⟩
  | cons a rest ih =>
    obtain ⟨hproduct, hrest⟩ := ih h
    obtain ⟨hx, ha⟩ := isFinite_of_mul hproduct
    exact ⟨hx, List.forall_mem_cons.2 ⟨ha, hrest⟩⟩

end Number

variable {settings : Settings} {context : Context}

/-! ### Details -/

theorem Details.isFinite_of_value {d : Details} (h : d.value.isFinite = true) :
    d.base.isFinite = true ∧ ∀ m ∈ d.modifiers, m.multiplier.isFinite = true :=
  Number.isFinite_of_foldl_mul h

namespace Action

variable {f : FormulaValue} {a : Action}

theorem details_eq_ok_iff {d : Details} :
    a.details settings f context = .ok d ↔ a.base settings f context = .ok d.base ∧
      d.modifiers = a.modifiers.applied settings context ∧ d.value.isFinite = true := by
  rw [details, Outcome.bind_eq_ok_iff]
  simp only [Modifiers.pass_eq]
  obtain ⟨base, modifiers⟩ := d
  constructor
  · rintro ⟨base', hbase, h⟩
    split at h
    · next hfinite =>
      cases h
      exact ⟨hbase, rfl, hfinite⟩
    · cases h
  · rintro ⟨hbase, rfl, hfinite⟩
    exact ⟨base, hbase, if_pos hfinite⟩

theorem entry_eq_ok_iff {e : BreakdownEntry} :
    a.entry settings f context = .ok e ↔ e.kind = a.kind ∧ e.metric = a.metric ∧
      a.details settings f context = .ofExcept e.outcome := by
  rw [entry, except_bind_eq_ok_iff]
  obtain ⟨kind, metric, outcome⟩ := e
  constructor
  · rintro ⟨outcome', h, heq⟩
    cases heq
    exact ⟨rfl, rfl, Outcome.caught_eq_ok_iff.1 h⟩
  · rintro ⟨rfl, rfl, h⟩
    exact ⟨outcome, Outcome.caught_eq_ok_iff.2 h, rfl⟩

end Action

/-! ### Entries -/

namespace BreakdownEntry

variable {e : BreakdownEntry}

theorem details?_eq_some_iff {d : Details} : e.details? = some d ↔ e.outcome = .ok d := by
  obtain ⟨_, _, _ | _⟩ := e <;> simp [details?, Except.toOption]

theorem isSome_error?_iff : e.error?.isSome = true ↔ e.details? = none := by
  obtain ⟨_, _, _ | _⟩ := e <;> simp [error?, details?, Except.toOption]

theorem exists_details (h : e.error? = none) : ∃ d, e.details? = some d :=
  Option.ne_none_iff_exists'.1 fun hd => by simpa [h] using isSome_error?_iff.2 hd

theorem value_eq_zero (h : e.details? = none) : e.value = 0.0 := by
  obtain ⟨_, _, _ | _⟩ := e
  · rfl
  · cases h

/-- Every number of an entry is finite. -/
structure Finite (e : BreakdownEntry) : Prop where
  value : e.value.isFinite = true
  base : ∀ d, e.details? = some d → d.base.isFinite = true
  multipliers : ∀ d, e.details? = some d → ∀ m ∈ d.modifiers, m.multiplier.isFinite = true

theorem finite_of_entry {f : FormulaValue} {a : Action}
    (h : a.entry settings f context = .ok e) : e.Finite := by
  obtain ⟨-, -, houtcome⟩ := Action.entry_eq_ok_iff.1 h
  have hdetails (d : Details) (hd : e.details? = some d) : d.value.isFinite = true := by
    rw [details?_eq_some_iff.1 hd] at houtcome
    exact (Action.details_eq_ok_iff.1 houtcome).2.2
  refine ⟨?_, fun d hd => (Details.isFinite_of_value (hdetails d hd)).1,
    fun d hd => (Details.isFinite_of_value (hdetails d hd)).2⟩
  cases hd : e.details? with
  | none =>
    rw [value_eq_zero hd]
    exact Number.isFinite_zero
  | some d =>
    rw [value, details?_eq_some_iff.1 hd]
    exact hdetails d hd

end BreakdownEntry

/-! ### Breakdowns -/

/-- Every action has its entry, whether its formula was read ahead or not. -/
theorem forall₂_of_breakdown {actions : List Action} {prepared : List PreparedFormula}
    {entries : List BreakdownEntry}
    (h : breakdown settings context actions prepared = .ok entries) :
    List.Forall₂ (fun a e => ∃ f, a.entry settings f context = .ok e) actions entries := by
  induction actions generalizing prepared entries with
  | nil =>
    cases h
    exact .nil
  | cons a rest ih =>
    obtain ⟨e, he, h⟩ := except_bind_eq_ok_iff.1 h
    obtain ⟨entries, hentries, h⟩ := except_bind_eq_ok_iff.1 h
    cases h
    exact .cons ⟨_, he⟩ (ih hentries)

/-- Actions whose formulas were not read ahead run each by itself. -/
theorem breakdown_nil_eq_mapM (settings : Settings) (context : Context) (actions : List Action) :
    breakdown settings context actions [] =
      actions.mapM fun a => a.entry settings (settings.formulaValue context) context := by
  induction actions with
  | nil => rfl
  | cons a rest ih =>
    rw [List.mapM_cons, ← ih]
    rfl

@[simp] theorem ActionOutcome.breakdown_ofBreakdown (entries : List BreakdownEntry) :
    (ofBreakdown entries).breakdown = entries := by
  simp only [ofBreakdown]
  split <;> rfl

end Appraisal
