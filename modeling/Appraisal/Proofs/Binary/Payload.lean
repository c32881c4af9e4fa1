import Appraisal.Binary.Image
import Appraisal.Proofs.Binary.Rule
import Appraisal.Proofs.Formula.Positions
import Appraisal.Proofs.RuleSet.Compile

/-!
# Stored rule sets

Compiling ensures something about the identities, the order, the formulas and the patterns of
rules (`RuleSet.WellFormed`). The payload of a well-formed rule set passes the check that payloads
of any origin have to pass (`RuleSet.WellFormed.check_payload`), it is restored from its bytes
(`RuleSet.WellFormed.restores_payload`), and reviving its rules compiles the patterns that the rule
set has (`RuleSet.WellFormed.mapM_revive`).
-/

namespace Appraisal

open Binary

/-! ### Prepared formulas -/

namespace Settings

variable {settings : Settings}

/-- A prepared formula may be the one of an action: there is one if the action needs it, no tree is
higher than the limit, and errors are at places that can be written. -/
def Suits (settings : Settings) (a : Action) : PreparedFormula → Prop
  | .none => a.source? = none
  | .parsed e => a.source?.isSome ∧ e.depth ≤ settings.limits.maxDepth
  | .invalid e => a.source?.isSome ∧ e.IsPlaced

theorem suits_prepare (a : Action) : settings.Suits a (settings.prepare a) := by
  cases hsource : a.source? with
  | none => simp only [prepare, hsource, Suits]
  | some source =>
    have hreads := Expr.reads_parse settings.limits source
    cases hparse : Expr.parse settings.limits source with
    | ok e =>
      rw [hparse] at hreads
      simp only [prepare, hsource, hparse, Suits]
      exact ⟨rfl, hreads.2⟩
    | error e =>
      rw [hparse] at hreads
      have hposition : e.position ≤ settings.maxFormulaLength.toNat :=
        Nat.le_trans hreads (Nat.min_le_right _ _)
      have hlimit := settings.maxFormulaLength.toNat_lt
      simp only [prepare, hsource, hparse, Suits]
      refine ⟨rfl, fun place hplace => ?_⟩
      rw [FormulaError.position?_ofParse] at hplace
      cases hplace
      omega

theorem Suits.isPlaced {a : Action} {f : PreparedFormula} (h : settings.Suits a f) :
    f.IsPlaced := by
  cases f with
  | invalid e => exact h.2
  | _ => trivial

end Settings

/-! ### The check -/

namespace StoredRule

variable {settings : Settings}

/-- The first formula passes if it suits its action; then the others are checked. -/
theorem checkFormulas_cons_eq_ok_iff {id : String} {place : Nat} {a : Action} {f : PreparedFormula}
    {rest : List (Action × PreparedFormula)} (hplaced : f.IsPlaced) :
    checkFormulas id settings.limits.maxDepth place ((a, f) :: rest) = .ok () ↔
      settings.Suits a f ∧ checkFormulas id settings.limits.maxDepth (place + 1) rest = .ok () := by
  cases f with
  | none => cases hsource : a.source? <;> simp [checkFormulas, Settings.Suits, hsource]
  | parsed e =>
    cases hsource : a.source? with
    | none => simp [checkFormulas, Settings.Suits, hsource]
    | some source =>
      by_cases hdepth : settings.limits.maxDepth < e.depth
      · simp [checkFormulas, Settings.Suits, hsource, hdepth]
      · simp [checkFormulas, Settings.Suits, hsource, hdepth, Nat.not_lt.1 hdepth]
  | invalid e =>
    have hplaced : e.IsPlaced := hplaced
    cases hsource : a.source? <;> simp [checkFormulas, Settings.Suits, hsource, hplaced]

theorem checkFormulas_eq_ok_iff {id : String} {place : Nat} {actions : List Action}
    {formulas : List PreparedFormula} (hlength : formulas.length = actions.length)
    (hplaced : ∀ f ∈ formulas, f.IsPlaced) :
    checkFormulas id settings.limits.maxDepth place (actions.zip formulas) = .ok () ↔
      List.Forall₂ settings.Suits actions formulas := by
  induction actions generalizing formulas place with
  | nil =>
    rw [List.length_eq_zero_iff.1 hlength]
    exact iff_of_true rfl .nil
  | cons a actions ih =>
    cases formulas with
    | nil => cases hlength
    | cons f formulas =>
      obtain ⟨hf, hothers⟩ := List.forall_mem_cons.1 hplaced
      rw [List.zip_cons_cons, checkFormulas_cons_eq_ok_iff hf, ih (Nat.succ.inj hlength) hothers,
        List.forall₂_cons]

/-- The first rule passes if its identity is a new one and its formulas suit its actions. -/
theorem check_cons_eq_ok_iff {maximum : Nat} {seen : List String} {r : StoredRule}
    {rest : List StoredRule} :
    check maximum seen (r :: rest) = .ok () ↔
      (r.rule.isAnonymous = false ∧ r.rule.id ∉ seen) ∧
        r.formulas.length = r.rule.actions.length ∧
        checkFormulas r.rule.id maximum 0 (r.rule.actions.zip r.formulas) = .ok () ∧
        check maximum (r.rule.id :: seen) rest = .ok () := by
  rw [check]
  dsimp only
  rw [guarded_eq_ok_iff, guarded_eq_ok_iff, guarded_eq_ok_iff, except_bind_eq_ok_iff]
  simp [and_assoc, Unique.exists_iff]

/-- Rules pass the check if they have distinct identities and the formulas that their actions
need. -/
theorem check_eq_ok_iff {rules : List StoredRule} {seen : List String}
    (hplaced : ∀ r ∈ rules, ∀ f ∈ r.formulas, f.IsPlaced) :
    check settings.limits.maxDepth seen rules = .ok () ↔
      (∀ r ∈ rules, r.rule.isAnonymous = false ∧ r.rule.id ∉ seen) ∧
        (rules.map fun r => r.rule.id).Nodup ∧
        ∀ r ∈ rules, List.Forall₂ settings.Suits r.rule.actions r.formulas := by
  induction rules generalizing seen with
  | nil => exact iff_of_true rfl ⟨nofun, List.nodup_nil, nofun⟩
  | cons r rest ih =>
    obtain ⟨hr, hrest⟩ := List.forall_mem_cons.1 hplaced
    rw [check_cons_eq_ok_iff, ih hrest, List.forall_mem_cons, List.forall_mem_cons, List.map_cons,
      List.nodup_cons, List.mem_map]
    -- the identity of the first rule is seen by the others, which are distinct from it
    constructor
    · rintro ⟨hfirst, hlength, hformulas, hids, hnodup, hsuits⟩
      have hsuit := (checkFormulas_eq_ok_iff hlength hr).1 hformulas
      refine ⟨⟨hfirst, fun q hq => ?_⟩, ⟨?_, hnodup⟩, hsuit, hsuits⟩
      · exact ⟨(hids q hq).1, fun hmem => (hids q hq).2 (List.mem_cons_of_mem _ hmem)⟩
      · rintro ⟨q, hq, heq⟩
        exact (hids q hq).2 (List.mem_cons.2 (.inl heq))
    · rintro ⟨⟨hfirst, hids⟩, ⟨hfresh, hnodup⟩, hsuit, hsuits⟩
      have hlength := hsuit.length_eq.symm
      refine ⟨hfirst, hlength, (checkFormulas_eq_ok_iff hlength hr).2 hsuit, fun q hq => ?_,
        hnodup, hsuits⟩
      refine ⟨(hids q hq).1, fun hmem => ?_⟩
      rcases List.mem_cons.1 hmem with heq | hmem
      · exact hfresh ⟨q, hq, heq⟩
      · exact (hids q hq).2 hmem

end StoredRule

theorem isAscending_eq_true {rules : List Rule} (h : rules.Pairwise fun a b => a.precedes b) :
    isAscending rules = true := by
  induction h with
  | nil => rfl
  | @cons a rules hfirst _ ih =>
    cases rules with
    | nil => rfl
    | cons b rest => rw [isAscending, hfirst b List.mem_cons_self, ih, Bool.and_self]

/-! ### Bytes -/

namespace Codec

theorem restores_digest (d : Digest) : digest.Restores d := by
  intro _
  have hlength : d.toList.length = 32 := Vector.length_toList
  refine (takes_bytes hlength).bind_last ?_
  rw [dif_pos hlength]
  exact takes_pure d

theorem filled_storedRule : storedRule.Filled := fun _ => filled_rule.pair _

theorem restores_storedRule {r : StoredRule} (h : ∀ f ∈ r.formulas, f.IsPlaced) :
    storedRule.Restores r :=
  .via (.pair (restores_rule _) (.list filled_prepared fun f hf => restores_prepared (h f hf))) rfl

theorem restores_payload {p : Payload} (h : ∀ r ∈ p.rules, ∀ f ∈ r.formulas, f.IsPlaced) :
    payload.Restores p := by
  refine .via (.pair (restores_word _) (.pair (restores_word _) (.pair ?_ (.pair ?_ ?_)))) rfl
  · exact .option fun d _ => restores_digest d
  · exact restores_settings _
  · exact .list filled_storedRule fun r hr => restores_storedRule (h r hr)

theorem length_actions_le (r : StoredRule) :
    r.rule.actions.length ≤ (storedRule.encode r).length := by
  have hactions := length_le_flatMap filled_action r.rule.actions
  simp only [storedRule, rule, via, pair, Codec.list, List.length_append]
  omega

/-- There are no more rules and no more actions than bytes. -/
theorem counts_le (p : Payload) : p.rules.length ≤ (payload.encode p).length ∧
    actionTotal (p.rules.map StoredRule.rule) ≤ (payload.encode p).length := by
  have hrules := length_le_flatMap filled_storedRule p.rules
  have hactions : actionTotal (p.rules.map StoredRule.rule) ≤
      (p.rules.flatMap storedRule.encode).length := by
    induction p.rules with
    | nil => exact Nat.le_refl 0
    | cons r rest ih =>
      have hr := length_actions_le r
      simp only [actionTotal, List.map_cons, List.foldr_cons, List.flatMap_cons,
        List.length_append] at ih ⊢
      omega
  simp only [payload, via, pair, Codec.list, List.length_append]
  omega

end Codec

/-! ### Rule sets -/

/-- What compiling ensures: rules stand in ascending order under distinct identities that are not
blank, their formulas are those that their actions need, and their patterns are compiled. -/
structure RuleSet.WellFormed (s : RuleSet) : Prop where
  ascending : s.sources.Pairwise fun a b => a.precedes b
  named : ∀ r ∈ s.sources, r.isAnonymous = false
  distinct : (s.sources.map Rule.id).Nodup
  /-- Every action has its formula at its own place. -/
  suited : ∀ c ∈ s.rules, List.Forall₂ s.settings.Suits c.rule.actions c.formulas
  patterned : ∀ c ∈ s.rules, c.rule.patterns = .ok c.patterns

namespace RuleSet

variable {settings : Settings} {stop : Bool} {rules : List Rule} {s : RuleSet}
  {source : Option String}

theorem rules_payload (s : RuleSet) (source : Option String) :
    (s.payload source).rules.map StoredRule.rule = s.sources := by
  simp [payload, sources, Function.comp_def]

namespace WellFormed

theorem isPlaced_of_mem (hs : s.WellFormed) :
    ∀ r ∈ (s.payload source).rules, ∀ f ∈ r.formulas, f.IsPlaced := by
  intro r hr f hf
  obtain ⟨c, hc, rfl⟩ := List.mem_map.1 hr
  obtain ⟨a, -, hsuits⟩ := exists_of_forall₂_mem (hs.suited c hc) hf
  exact hsuits.isPlaced

theorem restores_payload (hs : s.WellFormed) : Codec.payload.Restores (s.payload source) :=
  Codec.restores_payload hs.isPlaced_of_mem

/-- The payload of a well-formed rule set passes the check. -/
theorem check_payload (hs : s.WellFormed) (hsettings : s.settings.check = .ok ())
    (hlen : (Codec.payload.encode (s.payload source)).length < 2 ^ 64) :
    (s.payload source).check = .ok () := by
  have hstored := s.rules_payload source
  have hascending := isAscending_eq_true hs.ascending
  have hcheck : StoredRule.check (s.payload source).settings.limits.maxDepth []
      (s.payload source).rules = .ok () := by
    refine (StoredRule.check_eq_ok_iff hs.isPlaced_of_mem).2 ⟨fun r hr => ?_, ?_, fun r hr => ?_⟩
    · exact ⟨hs.named r.rule (hstored ▸ List.mem_map_of_mem hr), List.not_mem_nil⟩
    · have hmap : (s.payload source).rules.map (fun r => r.rule.id) = s.sources.map Rule.id := by
        rw [← hstored, List.map_map]
        rfl
      rw [hmap]
      exact hs.distinct
    · obtain ⟨c, hc, rfl⟩ := List.mem_map.1 hr
      exact hs.suited c hc
  -- the counts, which are words and so have to be less than the number of bytes
  obtain ⟨hrules, hactions⟩ := Codec.counts_le (s.payload source)
  rw [← List.length_map (f := StoredRule.rule), hstored] at hrules
  rw [hstored] at hactions
  have hruleCount : (s.payload source).ruleCount.toNat = s.sources.length := by
    have hsize : s.sources.length = s.size := List.length_map _
    rw [hsize] at hrules ⊢
    exact UInt64.toNat_ofNat_of_lt' (Nat.lt_of_le_of_lt hrules hlen)
  have hactionCount : (s.payload source).actionCount.toNat = actionTotal s.sources :=
    UInt64.toNat_ofNat_of_lt' (Nat.lt_of_le_of_lt hactions hlen)
  have hsettings : (s.payload source).settings.check = .ok () := hsettings
  simp only [Payload.check, hstored, hruleCount, hactionCount, hsettings, hcheck, hascending,
    ne_eq, not_true_eq_false, if_false, Bool.not_true, Bool.false_eq_true, Except.mapError]
  rfl

/-- The patterns of a stored rule set are compiled again. -/
theorem mapM_revive (hs : s.WellFormed) :
    (s.payload source).rules.mapM StoredRule.revive = .ok s.rules := by
  rw [mapM_eq_ok_iff]
  refine List.forall₂_map_left_iff.2 (List.forall₂_same.2 fun c hc => ?_)
  simp only [StoredRule.revive, hs.patterned c hc]
  rfl

end WellFormed

/-! ### Compiled rule sets -/

/-- Rule sets that were compiled are well-formed. -/
theorem wellFormed_of_compile (h : RuleSet.compile settings stop rules = .ok s) :
    s.WellFormed := by
  have hsources := sources_of_compile h
  obtain ⟨hids, -, -, -⟩ := compile_eq_ok_iff.1 h
  obtain ⟨hids, hnodup⟩ := Rule.checkIds_eq_ok_iff.1 hids
  have hperm : s.sources.Perm rules := hsources ▸ List.mergeSort_perm rules _
  have hcompiled (c : CompiledRule) (hc : c ∈ s.rules) :
      c.formulas = c.rule.actions.map s.settings.prepare ∧ c.rule.patterns = .ok c.patterns := by
    obtain ⟨r, -, hcompile⟩ := exists_compile_of_mem h hc
    obtain ⟨rfl, hformulas, hpatterns⟩ := Rule.compile_eq_ok_iff.1 hcompile
    exact ⟨hformulas, hpatterns⟩
  constructor
  case ascending =>
    rw [hsources]
    exact List.pairwise_mergeSort Rule.precedes_trans Rule.precedes_total rules
  case named => exact fun r hr => (hids r (hperm.mem_iff.1 hr)).1
  case distinct => exact (hperm.map Rule.id).nodup_iff.2 hnodup
  case suited =>
    intro c hc
    rw [(hcompiled c hc).1, List.forall₂_map_right_iff]
    exact List.forall₂_same.2 fun a _ => Settings.suits_prepare a
  case patterned => exact fun c hc => (hcompiled c hc).2

theorem restores_payload (h : RuleSet.compile settings stop rules = .ok s) :
    Codec.payload.Restores (s.payload source) :=
  (wellFormed_of_compile h).restores_payload

/-- The payload of a compiled rule set passes the check. -/
theorem check_payload (hsettings : settings.check = .ok ())
    (h : RuleSet.compile settings stop rules = .ok s)
    (hlen : (Codec.payload.encode (s.payload source)).length < 2 ^ 64) :
    (s.payload source).check = .ok () := by
  obtain ⟨-, -, rfl, -⟩ := compile_eq_ok_iff.1 h
  exact (wellFormed_of_compile h).check_payload hsettings hlen

theorem mapM_revive (h : RuleSet.compile settings stop rules = .ok s) :
    (s.payload source).rules.mapM StoredRule.revive = .ok s.rules :=
  (wellFormed_of_compile h).mapM_revive

end RuleSet

end Appraisal
