import Appraisal.Formula.Call
import Appraisal.Proofs.Outcome
import Appraisal.Proofs.Value.Order

/-!
# The least and the greatest item

`min` and `max` scan their items once and compare each only with the best one so far. Whether the
scan fails does not depend on the order of the items (`Builtin.extremeFrom_eq_error_iff`), and what
it ends with is beaten by no item (`Builtin.best_of_extremeFrom`), since the order of values is
transitive though equality is not. So a call finds the extreme item of its arguments
(`Builtin.call_extreme`).
-/

namespace Appraisal.Builtin

open Value (Comparable Precedes)

variable {f : Builtin} {keep o : Ordering} {a b m best item : Value} {seen rest items : List Value}

/-! ### What the scan keeps -/

/-- What beats an item that beats a third one beats that one as well. -/
theorem beats_trans (hkeep : keep = .lt ∨ keep = .gt) (hab : a.order? b = some keep)
    (hbm : b.order? m = some keep) : a.order? m = some keep := by
  rcases hkeep with rfl | rfl
  · rw [Value.order?_eq_lt_iff] at *
    exact hab.trans hbm
  · rw [Value.order?_eq_gt_iff] at *
    exact hbm.trans hab

theorem not_beats_self (hkeep : keep = .lt ∨ keep = .gt) : a.order? a ≠ some keep := by
  rcases hkeep with rfl | rfl
  · exact mt Value.order?_eq_lt_iff.1 (Value.not_precedes_self a)
  · exact mt Value.order?_eq_gt_iff.1 (Value.not_precedes_self a)

/-- One of the items that none of them beats. -/
structure Best (keep : Ordering) (items : List Value) (m : Value) : Prop where
  mem : m ∈ items
  unbeaten : ∀ a ∈ items, a.order? m ≠ some keep

/-- One step of the scan finds the best of the items so far and one more. -/
theorem Best.step (h : Best keep seen best) (hkeep : keep = .lt ∨ keep = .gt)
    (ho : item.order? best = some o) :
    Best keep (seen ++ [item]) (if o = keep then item else best) := by
  split
  · next hbeats =>
    subst hbeats
    refine ⟨List.mem_append_right _ List.mem_cons_self, fun a ha hbeats => ?_⟩
    rcases List.mem_append.1 ha with ha | ha
    · exact h.unbeaten a ha (beats_trans hkeep hbeats ho)
    · rw [List.mem_singleton.1 ha] at hbeats
      exact not_beats_self hkeep hbeats
  · next hno =>
    refine ⟨List.mem_append_left _ h.mem, fun a ha hbeats => ?_⟩
    rcases List.mem_append.1 ha with ha | ha
    · exact h.unbeaten a ha hbeats
    · rw [List.mem_singleton.1 ha, ho] at hbeats
      exact hno (Option.some.inj hbeats)

/-- The scan ends with the best of all items. -/
theorem best_of_extremeFrom (hkeep : keep = .lt ∨ keep = .gt) (hbest : Best keep seen best)
    (h : extremeFrom f keep best rest = .ok m) : Best keep (seen ++ rest) m := by
  induction rest generalizing seen best with
  | nil =>
    cases h
    rwa [List.append_nil]
  | cons item rest ih =>
    rw [extremeFrom] at h
    split at h
    · cases h
    · next o ho =>
      have hrest := ih (hbest.step hkeep ho) h
      rwa [List.append_assoc, List.singleton_append] at hrest

/-! ### When the scan fails -/

/-- The scan fails just if some item has no order with the one it starts from. Which one it is
compared with makes no difference, since those that are kept all have one. -/
theorem extremeFrom_eq_error_iff : (∃ fault, extremeFrom f keep best rest = .error fault) ↔
    ∃ item ∈ rest, ¬ Comparable item best := by
  induction rest generalizing best with
  | nil => exact iff_of_false (fun ⟨_, h⟩ => by cases h) (fun ⟨_, h, _⟩ => by cases h)
  | cons item rest ih =>
    simp only [extremeFrom, List.mem_cons, exists_eq_or_imp]
    cases ho : item.order? best with
    | none => exact iff_of_true ⟨_, rfl⟩ (.inl (Value.order?_eq_none_iff.1 ho))
    | some o =>
      have hitem : Comparable item best := by
        by_contra hnot
        rw [Value.order?_eq_none_iff.2 hnot] at ho
        cases ho
      have hsame (a : Value) :
          Comparable a (if o = keep then item else best) ↔ Comparable a best := by
        split
        · exact ⟨fun h => h.trans hitem, fun h => h.trans hitem.symm⟩
        · exact Iff.rfl
      simp only [ih, hsame, hitem, not_true_eq_false, false_or]

theorem exists_not_comparable_iff {first : Value} (h : rest ≠ []) :
    (∃ item ∈ rest, ¬ Comparable item first) ↔
      ∃ a ∈ first :: rest, ∃ b ∈ first :: rest, ¬ Comparable a b := by
  constructor
  · rintro ⟨item, hitem, hnot⟩
    exact ⟨item, List.mem_cons_of_mem _ hitem, first, List.mem_cons_self, hnot⟩
  · rintro ⟨a, ha, b, hb, hnot⟩
    by_contra hall
    push Not at hall
    obtain ⟨other, hother⟩ := List.exists_mem_of_ne_nil rest h
    have hfirst : Comparable first first := (hall other hother).symm.trans (hall other hother)
    have hitem (item : Value) (hmem : item ∈ first :: rest) : Comparable item first := by
      rcases List.mem_cons.1 hmem with rfl | hmem
      · exact hfirst
      · exact hall item hmem
    exact hnot ((hitem a ha).trans (hitem b hb).symm)

/-! ### Calls -/

/-- What the least (or the greatest) of some items is: a single item is taken as it is; two or more
need an order with each other and with themselves, and then it is one of them that none of them
beats. -/
structure IsExtreme (keep : Ordering) (items : List Value) (outcome : Outcome Fault Value) :
    Prop where
  single : ∀ v, items = [v] → outcome = .ok v
  fails_iff : 2 ≤ items.length →
    ((∃ fault, outcome = .error fault) ↔ ∃ a ∈ items, ∃ b ∈ items, a.order? b = none)
  best : 2 ≤ items.length → (∀ a ∈ items, ∀ b ∈ items, a.order? b ≠ none) →
    ∃ m ∈ items, outcome = .ok m ∧ ∀ a ∈ items, a.order? m ≠ some keep

/-- The scan from the first item on finds the extreme one. -/
theorem isExtreme_extremeFrom {first : Value} (hkeep : keep = .lt ∨ keep = .gt) :
    IsExtreme keep (first :: rest) (.ofExcept (extremeFrom f keep first rest)) := by
  have hfails (hmore : 2 ≤ (first :: rest).length) :
      (∃ fault, extremeFrom f keep first rest = .error fault) ↔
        ∃ a ∈ first :: rest, ∃ b ∈ first :: rest, a.order? b = none := by
    have hrest : rest ≠ [] := List.ne_nil_of_length_pos (Nat.lt_of_succ_lt_succ hmore)
    simp only [Value.order?_eq_none_iff]
    rw [extremeFrom_eq_error_iff, exists_not_comparable_iff hrest]
  refine ⟨fun v hv => ?_, fun hmore => ?_, fun hmore hall => ?_⟩
  · cases hv
    rfl
  · simp only [Outcome.ofExcept_eq_error_iff, hfails hmore]
  · cases hrun : extremeFrom f keep first rest with
    | error fault =>
      obtain ⟨a, ha, b, hb, hnone⟩ := (hfails hmore).1 ⟨fault, hrun⟩
      exact absurd hnone (hall a ha b hb)
    | ok m =>
      have hfirst : Best keep [first] first :=
        ⟨List.mem_cons_self, fun a ha => List.mem_singleton.1 ha ▸ not_beats_self hkeep⟩
      have hbest := best_of_extremeFrom hkeep hfirst hrun
      exact ⟨m, hbest.mem, rfl, hbest.unbeaten⟩

/-- **`min` and `max` find the least and the greatest item**, wherever in the list it stands: they
fail only over items that have no order, and what they return is an item that none is less (or
greater) than. -/
theorem call_extreme {arguments : List Value} (h : spread arguments ≠ []) :
    IsExtreme .lt (spread arguments) (call min arguments) ∧
      IsExtreme .gt (spread arguments) (call max arguments) := by
  obtain ⟨first, rest, hitems⟩ := List.exists_cons_of_ne_nil h
  have hcount : 1 ≤ arguments.length := by
    cases arguments with
    | nil => exact absurd rfl h
    | cons => exact Nat.succ_pos _
  have hcall {f : Builtin} {keep : Ordering} (haccepts : f.accepts arguments.length = true)
      (hf : f.apply arguments = .ofExcept (extreme f keep arguments)) :
      f.call arguments = .ofExcept (extremeFrom f keep first rest) := by
    rw [call, if_pos haccepts, hf, extreme, hitems]
  have haccepts : min.accepts arguments.length = true := by
    rw [accepts, Bool.and_eq_true, decide_eq_true_iff]
    exact ⟨hcount, rfl⟩
  rw [hitems, hcall haccepts rfl, hcall (f := max) haccepts rfl]
  exact ⟨isExtreme_extremeFrom (.inl rfl), isExtreme_extremeFrom (.inr rfl)⟩

/-- Of two whole numbers that are equal as floats, and such a float between them, the least one is
found though the float is equal to both. -/
theorem call_extreme_blurred :
    spread [.list [.int 9007199254740993, .float 9007199254740992, .int 9007199254740992]] ≠ [] ∧
      IsExtreme .lt [.int 9007199254740993, .float 9007199254740992, .int 9007199254740992]
        (call min [.list [.int 9007199254740993, .float 9007199254740992,
          .int 9007199254740992]]) ∧
      IsExtreme .gt [.int 9007199254740993, .float 9007199254740992, .int 9007199254740992]
        (call max [.list [.int 9007199254740993, .float 9007199254740992,
          .int 9007199254740992]]) :=
  have h : spread [.list [.int 9007199254740993, .float 9007199254740992,
      .int 9007199254740992]] ≠ [] := List.cons_ne_nil _ _
  ⟨h, call_extreme h⟩

end Appraisal.Builtin
