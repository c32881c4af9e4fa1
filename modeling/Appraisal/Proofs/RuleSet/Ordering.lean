import Appraisal.Proofs.Action.Isolation
import Appraisal.Proofs.RuleSet.Runs

/-!
# Rules run in order, each by itself

A rule set runs its active rules in ascending order, those of one order as they are listed
(`Rule.Ordered`); there is one such order only (`Rule.Ordered.eq`). Every rule comes to what it
comes to by itself, and a run that stops at the first match only cuts the list off
(`RuleSet.evaluate_in_order`).

* A rule by itself has a result unless it crosses bounds (`Rule.exists_evaluate_iff`).
* Rules of distinct orders make the same rule set however they are listed
  (`RuleSet.compile_of_perm`).
-/

namespace Appraisal

variable {settings : Settings} {context : Context}

/-! ### The order of rules -/

namespace Rule

variable {rules ordered as bs : List Rule}

/-- The same rules in ascending order. -/
structure Ordered (rules ordered : List Rule) : Prop where
  perm : ordered.Perm rules
  ascending : ordered.Pairwise fun a b => a.order ≤ b.order
  /-- Rules of one order stand as they are listed. -/
  stable : ∀ k, (ordered.filter fun r => r.order = k) = rules.filter fun r => r.order = k

theorem ascending_mergeSort (rules : List Rule) :
    (rules.mergeSort precedes).Pairwise fun a b => a.order ≤ b.order :=
  (List.pairwise_mergeSort precedes_trans precedes_total rules).imp precedes_iff.1

theorem ordered_mergeSort (rules : List Rule) : Ordered rules (rules.mergeSort precedes) where
  perm := List.mergeSort_perm rules precedes
  ascending := ascending_mergeSort rules
  stable k := by
    -- rules of one order are sorted already, so sorting keeps them in a row
    have hsorted : (rules.filter fun r => r.order = k).Pairwise fun a b => precedes a b = true := by
      refine List.pairwise_iff_forall_sublist.2 fun {a b} hab => ?_
      have horder (r : Rule) (hr : r ∈ [a, b]) : r.order = k := by
        simpa using (List.mem_filter.1 (hab.subset hr)).2
      rw [precedes_iff, horder a (by simp), horder b (by simp)]
      exact Int32.le_refl k
    have hsub := List.sublist_mergeSort precedes_trans precedes_total hsorted List.filter_sublist
    have hfilter := hsub.filter fun r => r.order = k
    rw [List.filter_filter] at hfilter
    simp only [Bool.and_self] at hfilter
    exact (hfilter.eq_of_length
      ((List.mergeSort_perm rules precedes).filter _).length_eq.symm).symm

theorem Ordered.filter (h : Ordered rules ordered) (p : Rule → Bool) :
    Ordered (rules.filter p) (ordered.filter p) where
  perm := h.perm.filter p
  ascending := h.ascending.filter p
  stable k := by rw [List.filter_comm, h.stable, List.filter_comm]

theorem order_le_of_mem {a : Rule} (h : (a :: as).Pairwise fun a b => a.order ≤ b.order) {r : Rule}
    (hr : r ∈ a :: as) : a.order ≤ r.order := by
  rcases List.mem_cons.1 hr with rfl | hr
  · exact Int32.le_refl _
  · exact (List.pairwise_cons.1 h).1 r hr

theorem mem_iff_of_filter_eq
    (h : ∀ k, (as.filter fun r => r.order = k) = bs.filter fun r => r.order = k) (r : Rule) :
    r ∈ as ↔ r ∈ bs := by
  have hr : r ∈ (as.filter fun a => a.order = r.order) ↔
      r ∈ bs.filter fun b => b.order = r.order := by rw [h]
  simpa using hr

/-- Lists of rules in ascending order are told apart by their rules of each order. -/
theorem eq_of_ascending (ha : as.Pairwise fun a b => a.order ≤ b.order)
    (hb : bs.Pairwise fun a b => a.order ≤ b.order)
    (h : ∀ k, (as.filter fun r => r.order = k) = bs.filter fun r => r.order = k) : as = bs := by
  induction as generalizing bs with
  | nil =>
    cases bs with
    | nil => rfl
    | cons b bs => simpa using (mem_iff_of_filter_eq h b).2 List.mem_cons_self
  | cons a as ih =>
    cases bs with
    | nil => simpa using (mem_iff_of_filter_eq h a).1 List.mem_cons_self
    | cons b bs =>
      -- the least order is the same in both lists, and so is the first rule of that order
      have horder : a.order = b.order := Int32.le_antisymm
        (order_le_of_mem ha ((mem_iff_of_filter_eq h b).2 List.mem_cons_self))
        (order_le_of_mem hb ((mem_iff_of_filter_eq h a).1 List.mem_cons_self))
      have hfirst := h a.order
      rw [List.filter_cons_of_pos (by simp), List.filter_cons_of_pos (by simp [horder])] at hfirst
      obtain ⟨rfl, -⟩ := List.cons.inj hfirst
      refine congrArg (a :: ·) (ih ha.tail hb.tail fun k => ?_)
      have hk := h k
      by_cases hak : a.order = k
      · rw [List.filter_cons_of_pos (by simp [hak]), List.filter_cons_of_pos (by simp [hak])] at hk
        exact (List.cons.inj hk).2
      · rwa [List.filter_cons_of_neg (by simp [hak]), List.filter_cons_of_neg (by simp [hak])] at hk

/-- There is one order of some rules only. -/
theorem Ordered.eq (ha : Ordered rules as) (hb : Ordered rules bs) : as = bs :=
  eq_of_ascending ha.ascending hb.ascending fun k => (ha.stable k).trans (hb.stable k).symm

/-- Rules of distinct orders are sorted the same way however they are listed. -/
theorem mergeSort_eq_of_perm {rules' : List Rule} (hperm : rules'.Perm rules)
    (hnodup : (rules.map Rule.order).Nodup) :
    rules'.mergeSort precedes = rules.mergeSort precedes := by
  refine List.Perm.eq_of_pairwise (fun a b ha hb hab hba => ?_) (ascending_mergeSort rules')
    (ascending_mergeSort rules) ?_
  · have ha : a ∈ rules := hperm.subset (List.mem_mergeSort.1 ha)
    exact List.inj_on_of_nodup_map hnodup ha (List.mem_mergeSort.1 hb) (Int32.le_antisymm hab hba)
  · exact (List.mergeSort_perm rules' precedes).trans
      (hperm.trans (List.mergeSort_perm rules precedes).symm)

end Rule

namespace RuleSet

variable {stop : Bool} {rules : List Rule} {s : RuleSet}

/-- Rules of distinct orders make the same rule set however they are listed. -/
theorem compile_of_perm (h : RuleSet.compile settings stop rules = .ok s) {rules' : List Rule}
    (hperm : rules'.Perm rules) (hnodup : (rules.map Rule.order).Nodup) :
    RuleSet.compile settings stop rules' = .ok s := by
  obtain ⟨hids, hrules, hs⟩ := compile_eq_ok_iff.1 h
  obtain ⟨hvalid, hdistinct⟩ := Rule.checkIds_eq_ok_iff.1 hids
  refine compile_eq_ok_iff.2 ⟨Rule.checkIds_eq_ok_iff.2 ⟨?_, ?_⟩, ?_, hs⟩
  · exact fun r hr => hvalid r (hperm.subset hr)
  · exact (hperm.map Rule.id).nodup_iff.2 hdistinct
  · rwa [Rule.mergeSort_eq_of_perm hperm hnodup]

/-- The active rules of a rule set are those it was compiled from. -/
theorem forall₂_active (h : RuleSet.compile settings stop rules = .ok s) :
    List.Forall₂ (fun r c => r.compile settings = .ok c)
      ((rules.mergeSort Rule.precedes).filter Rule.isActive)
      (s.rules.filter fun c => c.rule.isActive) := by
  obtain ⟨-, hrules, -⟩ := compile_eq_ok_iff.1 h
  refine List.rel_filter (fun r c hc => ?_) hrules
  show r.isActive = true ↔ c.rule.isActive = true
  rw [(Rule.compile_eq_ok_iff.1 hc).1]

theorem evaluate_eq_resultsUntil (h : RuleSet.compile settings stop rules = .ok s)
    (context : Context) :
    s.evaluate context = resultsUntil (Rule.evaluate settings context) stop
      ((rules.mergeSort Rule.precedes).filter Rule.isActive) := by
  obtain ⟨-, -, hsettings, hstop⟩ := compile_eq_ok_iff.1 h
  rw [RuleSet.evaluate, hsettings, hstop]
  refine (resultsUntil_congr ((forall₂_active h).imp fun r c hc => ?_)).symm
  exact (CompiledRule.evaluate_of_compile hc context).symm

end RuleSet

/-! ### Rule sets -/

/-- A formula of a rule crosses bounds, and the rule comes to run it. -/
def Rule.Crosses (settings : Settings) (context : Context) (r : Rule) : Prop :=
  r.isMet Pattern.compile context = .ok true ∧ ∃ a ∈ r.actions, a.Crosses settings context

theorem Rule.exists_evaluate_iff {r : Rule} :
    (∃ result, r.evaluate settings context = .ok result) ↔ ¬ r.Crosses settings context := by
  rw [evaluate, evaluateWith, Crosses]
  split
  · next hmet => simp [hmet]
  · next hmet => simp [hmet]
  · next hmet =>
    have hactions : (runActions settings context r.actions []).isOk = true ↔
        ¬ ∃ a ∈ r.actions, a.Crosses settings context := by
      rw [isOk_runActions_iff]
      simp
    rw [hmet, ← isOk_iff]
    simp only [true_and, ← hactions]
    exact isOk_bind_ok_iff

/-- The rules have these results, each by itself. -/
def ResultsOf (settings : Settings) (context : Context) (rules : List Rule)
    (results : List RuleResult) : Prop :=
  List.Forall₂ (fun r result => r.evaluate settings context = .ok result) rules results

namespace RuleSet

variable {rules : List Rule} {full first : RuleSet}

/-- **Rules run in order, each by itself.** `full` runs all rules and `first` stops at the first
match. The active rules have one stable ascending order. Unless one of them crosses bounds, `full`
has a result for each of them, which is the one it has by itself; `first` has the same results up to
the first match, or all of them if there is none. Rules of distinct orders make the same rule sets
however they are listed. -/
theorem evaluate_in_order (hfull : RuleSet.compile settings false rules = .ok full)
    (hfirst : RuleSet.compile settings true rules = .ok first) (context : Context) :
    ∃ ordered, Rule.Ordered (rules.filter Rule.isActive) ordered ∧
      (∀ other, Rule.Ordered (rules.filter Rule.isActive) other → other = ordered) ∧
      ((∃ results, full.evaluate context = .ok results) ↔
        ∀ r ∈ ordered, ¬ r.Crosses settings context) ∧
      (∀ results, full.evaluate context = .ok results ↔
        ResultsOf settings context ordered results) ∧
      (∀ results, full.evaluate context = .ok results →
        ∃ cut, first.evaluate context = .ok cut ∧
          ((NoMatch results ∧ cut = results) ∨ (EndsAtMatch cut ∧ cut <+: results))) ∧
      (∀ cut, first.evaluate context = .ok cut ↔
        (NoMatch cut ∧ ResultsOf settings context ordered cut) ∨
        (EndsAtMatch cut ∧ ∃ ran, ran <+: ordered ∧ ResultsOf settings context ran cut)) ∧
      ∀ rules', rules'.Perm rules → (rules.map Rule.order).Nodup →
        RuleSet.compile settings false rules' = .ok full ∧
          RuleSet.compile settings true rules' = .ok first := by
  have hordered := (Rule.ordered_mergeSort rules).filter Rule.isActive
  have hfull' := evaluate_eq_resultsUntil hfull context
  have hfirst' := evaluate_eq_resultsUntil hfirst context
  refine ⟨(rules.mergeSort Rule.precedes).filter Rule.isActive, hordered,
    fun other hother => hother.eq hordered, ?_, ?_, ?_, ?_, ?_⟩
  · rw [hfull', resultsUntil_false_eq_mapM, ← isOk_iff, isOk_mapM_iff]
    exact forall₂_congr fun r _ => isOk_iff.trans Rule.exists_evaluate_iff
  · intro results
    rw [hfull']
    exact resultsUntil_false_eq_ok_iff
  · intro results h
    rw [hfull'] at h
    rw [hfirst']
    exact exists_resultsUntil_true h
  · intro cut
    rw [hfirst']
    exact resultsUntil_true_eq_ok_iff
  · intro rules' hperm hnodup
    exact ⟨compile_of_perm hfull hperm hnodup, compile_of_perm hfirst hperm hnodup⟩

/-- Two rules of one order and an earlier one that is listed between them. -/
theorem evaluate_in_order_three :
    let late : Rule := { id := "b", name := "late", order := 2, actions := [.ofAmount 5] }
    let early : Rule := { id := "a", name := "early", order := 1, actions := [.ofFormula "1 +"] }
    let last : Rule := { id := "c", name := "last", order := 2 }
    ∃ full first, RuleSet.compile .standard false [late, early, last] = .ok full ∧
      RuleSet.compile .standard true [late, early, last] = .ok first ∧ ∀ context,
        (∃ ordered, Rule.Ordered ([late, early, last].filter Rule.isActive) ordered ∧
          ∀ results, full.evaluate context = .ok results ↔
            ResultsOf .standard context ordered results) ∧
        ∀ results, full.evaluate context = .ok results → ∃ cut, first.evaluate context = .ok cut ∧
          ((NoMatch results ∧ cut = results) ∨ (EndsAtMatch cut ∧ cut <+: results)) := by
  intro late early last
  have hcompile (stop : Bool) : (RuleSet.compile .standard stop [late, early, last]).isOk = true :=
    isOk_compile_iff.2 (by decide +kernel)
  obtain ⟨full, hfull⟩ := isOk_iff.1 (hcompile false)
  obtain ⟨first, hfirst⟩ := isOk_iff.1 (hcompile true)
  refine ⟨full, first, hfull, hfirst, fun context => ?_⟩
  obtain ⟨ordered, hordered, -, -, hresults, hcut, -⟩ := evaluate_in_order hfull hfirst context
  exact ⟨⟨ordered, hordered, hresults⟩, hcut⟩

/-- A rule that crosses bounds leaves another one without its result. -/
theorem evaluate_broken_off_pair :
    let sound : Rule := { id := "a", name := "sound", actions := [.ofAmount 5] }
    let crossed : Rule := { id := "b", name := "crossed", order := 1, actions :=
      [.ofFormula "clamp(0, 9223372036854775807, 9223372036854775806)"] }
    ∃ s, RuleSet.compile .standard false [sound, crossed] = .ok s ∧
      (∃ result, sound.evaluate .standard .empty = .ok result) ∧
      ¬ ∃ results, s.evaluate .empty = .ok results := by
  intro sound crossed
  have hcompile : (RuleSet.compile .standard false [sound, crossed]).isOk = true :=
    isOk_compile_iff.2 (by decide +kernel)
  obtain ⟨s, hs⟩ := isOk_iff.1 hcompile
  refine ⟨s, hs, isOk_iff.1 (by decide +kernel), ?_⟩
  have hcrossed : (crossed.evaluate .standard .empty).isOk = false := by decide +kernel
  have hmem : crossed ∈ ([sound, crossed].mergeSort Rule.precedes).filter Rule.isActive :=
    List.mem_filter.2 ⟨List.mem_mergeSort.2 (by simp), rfl⟩
  rw [evaluate_eq_resultsUntil hs, resultsUntil_false_eq_mapM, ← isOk_iff, isOk_mapM_iff]
  intro h
  exact absurd (h crossed hmem) (by simp [hcrossed])

end RuleSet

end Appraisal
