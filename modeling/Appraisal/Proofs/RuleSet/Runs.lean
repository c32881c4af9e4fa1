import Appraisal.Proofs.Outcome
import Appraisal.Rule.Evaluate

/-!
# Runs through a list of rules

A run takes the results of a list (`resultsUntil_false_eq_ok_iff`), or those up to the first match
if it stops there (`resultsUntil_true_eq_ok_iff`). If the whole list has results, stopping cuts them
off and does nothing else to them (`exists_resultsUntil_true`).
-/

namespace Appraisal

/-! ### Matches -/

/-- No result is a match. -/
def NoMatch (results : List RuleResult) : Prop := ∀ r ∈ results, r.matched = false

/-- The last result is a match, and the only one. -/
def EndsAtMatch (results : List RuleResult) : Prop :=
  ∃ before r, results = before ++ [r] ∧ NoMatch before ∧ r.matched = true

theorem noMatch_cons {r : RuleResult} {rest : List RuleResult} :
    NoMatch (r :: rest) ↔ r.matched = false ∧ NoMatch rest :=
  List.forall_mem_cons

theorem not_endsAtMatch_nil : ¬ EndsAtMatch [] := by
  rintro ⟨before, r, h, -⟩
  simp at h

theorem endsAtMatch_cons {r : RuleResult} {rest : List RuleResult} :
    EndsAtMatch (r :: rest) ↔
      (r.matched = true ∧ rest = []) ∨ (r.matched = false ∧ EndsAtMatch rest) := by
  constructor
  · rintro ⟨_ | ⟨_, before⟩, last, h, hbefore, hlast⟩
    · cases h
      exact .inl ⟨hlast, rfl⟩
    · cases h
      obtain ⟨hr, hbefore⟩ := noMatch_cons.1 hbefore
      exact .inr ⟨hr, before, last, rfl, hbefore, hlast⟩
  · rintro (⟨hr, rfl⟩ | ⟨hr, before, last, rfl, hbefore, hlast⟩)
    · exact ⟨[], r, rfl, nofun, hr⟩
    · exact ⟨r :: before, last, rfl, noMatch_cons.2 ⟨hr, hbefore⟩, hlast⟩

/-- Results without a match, or the part of them that ends with the first one. -/
theorem noMatch_or_exists_endsAtMatch (results : List RuleResult) :
    NoMatch results ∨ ∃ cut, EndsAtMatch cut ∧ cut <+: results := by
  induction results with
  | nil => exact .inl nofun
  | cons r rest ih =>
    cases hr : r.matched with
    | true => exact .inr ⟨[r], endsAtMatch_cons.2 (.inl ⟨hr, rfl⟩), rest, rfl⟩
    | false =>
      rcases ih with hrest | ⟨cut, hcut, hprefix⟩
      · exact .inl (noMatch_cons.2 ⟨hr, hrest⟩)
      · exact .inr ⟨r :: cut, endsAtMatch_cons.2 (.inr ⟨hr, hcut⟩),
          (List.prefix_cons_inj r).2 hprefix⟩

/-! ### Results -/

section Runs

variable {α : Type} {evaluate : α → Except Abort RuleResult} {as : List α}
  {results : List RuleResult}

theorem resultsUntil_false_eq_mapM (evaluate : α → Except Abort RuleResult) (as : List α) :
    resultsUntil evaluate false as = as.mapM evaluate := by
  induction as with
  | nil => rfl
  | cons a rest ih =>
    rw [List.mapM_cons, ← ih]
    rfl

theorem resultsUntil_false_eq_ok_iff :
    resultsUntil evaluate false as = .ok results ↔
      List.Forall₂ (fun a r => evaluate a = .ok r) as results := by
  rw [resultsUntil_false_eq_mapM, mapM_eq_ok_iff]

/-- A run that stops takes the results of a list without a match, or of a part of it up to the first
match. -/
theorem resultsUntil_true_eq_ok_iff :
    resultsUntil evaluate true as = .ok results ↔
      (NoMatch results ∧ List.Forall₂ (fun a r => evaluate a = .ok r) as results) ∨
      (EndsAtMatch results ∧
        ∃ ran, ran <+: as ∧ List.Forall₂ (fun a r => evaluate a = .ok r) ran results) := by
  induction as generalizing results with
  | nil =>
    constructor
    · rintro ⟨⟩
      exact .inl ⟨nofun, .nil⟩
    · rintro (⟨-, ⟨⟩⟩ | ⟨hends, ran, hran, hresults⟩)
      · rfl
      · cases List.prefix_nil.1 hran
        cases hresults
        exact absurd hends not_endsAtMatch_nil
  | cons a rest ih =>
    rw [resultsUntil, except_bind_eq_ok_iff]
    constructor
    · rintro ⟨r, hr, h⟩
      split at h
      · next hmatched =>
        cases h
        exact .inr ⟨endsAtMatch_cons.2 (.inl ⟨hmatched, rfl⟩), [a], ⟨rest, rfl⟩, .cons hr .nil⟩
      · next hmatched =>
        obtain ⟨more, hmore, h⟩ := except_bind_eq_ok_iff.1 h
        cases h
        have hmatched : r.matched = false := by simpa using hmatched
        rcases ih.1 hmore with ⟨hnone, hall⟩ | ⟨hends, ran, hran, hall⟩
        · exact .inl ⟨noMatch_cons.2 ⟨hmatched, hnone⟩, .cons hr hall⟩
        · exact .inr ⟨endsAtMatch_cons.2 (.inr ⟨hmatched, hends⟩), a :: ran,
            (List.prefix_cons_inj a).2 hran, .cons hr hall⟩
    · rintro (⟨hnone, hall⟩ | ⟨hends, ran, hran, hall⟩)
      · obtain ⟨r, more, hr, hrest, rfl⟩ := List.forall₂_cons_left_iff.1 hall
        obtain ⟨hmatched, hnone⟩ := noMatch_cons.1 hnone
        refine ⟨r, hr, ?_⟩
        rw [if_neg (by simp [hmatched])]
        exact except_bind_eq_ok_iff.2 ⟨more, ih.2 (.inl ⟨hnone, hrest⟩), rfl⟩
      · cases hall with
        | nil => exact absurd hends not_endsAtMatch_nil
        | @cons b r ran more hr hmore =>
          obtain ⟨rfl, hprefix⟩ := List.cons_prefix_cons.1 hran
          refine ⟨r, hr, ?_⟩
          rcases endsAtMatch_cons.1 hends with ⟨hmatched, rfl⟩ | ⟨hmatched, hends⟩
          · rw [if_pos (by simp [hmatched])]
            rfl
          · rw [if_neg (by simp [hmatched])]
            exact except_bind_eq_ok_iff.2 ⟨more, ih.2 (.inr ⟨hends, ran, hprefix, hmore⟩), rfl⟩

/-- If a whole list has results, a run that stops has those up to the first match. -/
theorem exists_resultsUntil_true (h : resultsUntil evaluate false as = .ok results) :
    ∃ cut, resultsUntil evaluate true as = .ok cut ∧
      ((NoMatch results ∧ cut = results) ∨ (EndsAtMatch cut ∧ cut <+: results)) := by
  have hall := resultsUntil_false_eq_ok_iff.1 h
  rcases noMatch_or_exists_endsAtMatch results with hnone | ⟨cut, hends, hcut⟩
  · exact ⟨results, resultsUntil_true_eq_ok_iff.2 (.inl ⟨hnone, hall⟩), .inl ⟨hnone, rfl⟩⟩
  · have hran := List.forall₂_take cut.length hall
    rw [← List.prefix_iff_eq_take.1 hcut] at hran
    exact ⟨cut, resultsUntil_true_eq_ok_iff.2 (.inr ⟨hends, _, List.take_prefix _ _, hran⟩),
      .inr ⟨hends, hcut⟩⟩

/-- Every result of a run is that of an item of the list. -/
theorem exists_of_mem_resultsUntil {stop : Bool} (h : resultsUntil evaluate stop as = .ok results)
    {result : RuleResult} (hr : result ∈ results) : ∃ a ∈ as, evaluate a = .ok result := by
  cases stop with
  | false => exact exists_of_forall₂_mem (resultsUntil_false_eq_ok_iff.1 h) hr
  | true =>
    rcases resultsUntil_true_eq_ok_iff.1 h with ⟨-, hall⟩ | ⟨-, ran, hran, hall⟩
    · exact exists_of_forall₂_mem hall hr
    · obtain ⟨a, ha, hresult⟩ := exists_of_forall₂_mem hall hr
      exact ⟨a, hran.subset ha, hresult⟩

end Runs

end Appraisal
