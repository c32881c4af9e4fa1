import Appraisal.Proofs.Binary.Bounds
import Appraisal.Proofs.Binary.Image
import Appraisal.Proofs.Formula.FieldReads
import Appraisal.Proofs.RuleSet.Patterns

/-!
# What is read is as good as what was compiled

Bytes of any origin that are read as a rule set make one that could have been compiled
(`RuleSet.sound_of_ofBytes`): it is well-formed under settings that are in order, its formulas are
never found too high and its patterns never invalid, and its own image is read as the same rule set.

* Reading takes what the header says for granted only where the payload bears it out
  (`Image.of_readPayload_eq_ok`).
* The check of a payload leaves nothing out that compiling ensures (`Payload.of_check_eq_ok`,
  `RuleSet.wellFormed_of_ofBytes`).
* A well-formed rule set is read from its image, whatever flags stand beside the one that counts
  (`RuleSet.WellFormed.ofBytes_ofPayload`).
-/

namespace Appraisal

open Binary

/-! ### The header -/

namespace Image

variable {bytes : List UInt8} {flags : Nat} {p : Payload}

/-- What is read agrees with the header. -/
theorem of_readPayload_eq_ok (h : readPayload bytes = .ok (flags, p)) :
    flags = numberAt bytes 8 4 ∧ numberAt bytes 12 4 = (bytes.drop headerSize).length ∧
      (bytes.drop 16).take 16 = checksum (bytes.drop headerSize) ∧
      ∃ rest, Codec.payload.decode (bytes.drop headerSize) = some (p, rest) := by
  obtain ⟨header, hheader, h⟩ := except_bind_eq_ok_iff.1 h
  rw [readHeader] at hheader
  split at hheader
  · cases hheader
  split at hheader
  · cases hheader
  cases hheader
  obtain ⟨-, h⟩ := guarded_eq_ok_iff.1 h
  obtain ⟨hlength, h⟩ := guarded_eq_ok_iff.1 h
  obtain ⟨hchecksum, h⟩ := guarded_eq_ok_iff.1 h
  split at h
  · next q rest hdecode =>
    cases h
    exact ⟨rfl, not_ne_iff.1 hlength, not_ne_iff.1 hchecksum, rest, hdecode⟩
  · cases h

end Image

/-! ### The check -/

theorem Settings.check_standard : standard.check = .ok () := by
  obtain ⟨_, h⟩ := isOk_iff.1 (by decide +kernel : standard.check.isOk = true)
  exact h

theorem pairwise_of_isAscending {rules : List Rule} (h : isAscending rules = true) :
    rules.Pairwise fun a b => a.precedes b := by
  induction rules with
  | nil => exact .nil
  | cons a rest ih =>
    cases rest with
    | nil => exact List.pairwise_singleton _ a
    | cons b rest =>
      rw [isAscending, Bool.and_eq_true] at h
      have hrest := ih h.2
      refine List.pairwise_cons.2 ⟨List.forall_mem_cons.2 ⟨h.1, fun c hc => ?_⟩, hrest⟩
      exact Rule.precedes_trans a b c h.1 ((List.pairwise_cons.1 hrest).1 c hc)

/-- A payload that passes the check has settings that are in order and rules that pass theirs. -/
theorem Payload.of_check_eq_ok {p : Payload} (h : p.check = .ok ()) :
    p.settings.check = .ok () ∧ StoredRule.check p.settings.limits.maxDepth [] p.rules = .ok () ∧
      isAscending (p.rules.map StoredRule.rule) = true := by
  rw [check] at h
  dsimp only at h
  obtain ⟨-, h⟩ := guarded_eq_ok_iff.1 h
  obtain ⟨-, h⟩ := guarded_eq_ok_iff.1 h
  obtain ⟨_, hsettings, h⟩ := except_bind_eq_ok_iff.1 h
  obtain ⟨_, hrules, h⟩ := except_bind_eq_ok_iff.1 h
  split at h
  · cases h
  · next hascending =>
    exact ⟨mapError_eq_ok_iff.1 hsettings, hrules, by simpa using hascending⟩

/-! ### Rule sets -/

theorem StoredRule.revive_eq_ok_iff {r : StoredRule} {c : CompiledRule} :
    r.revive = .ok c ↔
      c.rule = r.rule ∧ c.formulas = r.formulas ∧ r.rule.patterns = .ok c.patterns := by
  rw [revive, except_bind_eq_ok_iff]
  constructor
  · rintro ⟨ps, hps, h⟩
    cases h
    exact ⟨rfl, rfl, hps⟩
  · obtain ⟨_, _, patterns⟩ := c
    rintro ⟨hrule, hformulas, hps⟩
    simp only at hrule hformulas
    subst hrule hformulas
    exact ⟨patterns, hps, rfl⟩

namespace RuleSet

variable {bytes : List UInt8} {s : RuleSet} {source : Option String}

/-- What is read of a rule set is what its payload and one of its flags say. -/
theorem ofBytes_eq_ok_iff : ofBytes bytes = .ok s ↔ ∃ flags p,
    Image.readPayload bytes = .ok (flags, p) ∧ p.check = .ok () ∧
      p.rules.mapM StoredRule.revive = .ok s.rules ∧ s.settings = p.settings ∧
      s.stopsOnFirstMatch = decide (flags % 2 = 1) := by
  rw [ofBytes, except_bind_eq_ok_iff]
  constructor
  · rintro ⟨⟨flags, p⟩, hread, h⟩
    obtain ⟨_, hcheck, h⟩ := except_bind_eq_ok_iff.1 h
    obtain ⟨rules, hrules, h⟩ := except_bind_eq_ok_iff.1 h
    cases h
    exact ⟨flags, p, hread, mapError_eq_ok_iff.1 hcheck, mapError_eq_ok_iff.1 hrules, rfl, rfl⟩
  · obtain ⟨_, rules, _⟩ := s
    rintro ⟨flags, p, hread, hcheck, hrules, hsettings, hstop⟩
    simp only at hsettings hstop
    subst hsettings hstop
    refine ⟨(flags, p), hread, except_bind_eq_ok_iff.2 ⟨(), mapError_eq_ok_iff.2 hcheck, ?_⟩⟩
    exact except_bind_eq_ok_iff.2 ⟨rules, mapError_eq_ok_iff.2 hrules, rfl⟩

/-- A rule set that was read is well-formed, and its settings are in order. -/
theorem wellFormed_of_ofBytes (h : ofBytes bytes = .ok s) :
    s.WellFormed ∧ s.settings.check = .ok () := by
  obtain ⟨flags, p, hread, hcheck, hrevive, hsettings, -⟩ := ofBytes_eq_ok_iff.1 h
  obtain ⟨-, -, -, rest, hdecode⟩ := Image.of_readPayload_eq_ok hread
  obtain ⟨hp, hstored, hascending⟩ := Payload.of_check_eq_ok hcheck
  have hplaced := Codec.gives_payload _ p rest hdecode
  obtain ⟨hids, hnodup, hsuits⟩ := (StoredRule.check_eq_ok_iff hplaced).1 hstored
  have hrevived := mapM_eq_ok_iff.1 hrevive
  -- reviving adds patterns to the rules and keeps their order
  have hsources : s.sources = p.rules.map StoredRule.rule := by
    rw [sources]
    generalize p.rules = stored, s.rules = revived at hrevived
    induction hrevived with
    | nil => rfl
    | cons hr _ ih => rw [List.map_cons, List.map_cons, ih, (StoredRule.revive_eq_ok_iff.1 hr).1]
  refine ⟨?_, hsettings ▸ hp⟩
  constructor
  case ascending => exact hsources ▸ pairwise_of_isAscending hascending
  case named =>
    rw [hsources, List.forall_mem_map]
    exact fun r hr => (hids r hr).1
  case distinct =>
    rw [hsources, List.map_map]
    exact hnodup
  case suited =>
    intro c hc
    obtain ⟨r, hr, hrevive⟩ := exists_of_forall₂_mem hrevived hc
    obtain ⟨hrule, hformulas, -⟩ := StoredRule.revive_eq_ok_iff.1 hrevive
    rw [hrule, hformulas, hsettings]
    exact hsuits r hr
  case patterned =>
    intro c hc
    obtain ⟨r, -, hrevive⟩ := exists_of_forall₂_mem hrevived hc
    obtain ⟨hrule, -, hpatterns⟩ := StoredRule.revive_eq_ok_iff.1 hrevive
    rw [hrule]
    exact hpatterns

namespace WellFormed

/-- A well-formed rule set is read from its payload. The lowest flag tells whether it stops. -/
theorem ofBytes_ofPayload (hs : s.WellFormed) (hsettings : s.settings.check = .ok ())
    {flags : Nat} (hflags : flags < 2 ^ 32)
    (hlen : (Codec.payload.encode (s.payload source)).length < 2 ^ 32) :
    ofBytes (Image.ofPayload flags (Codec.payload.encode (s.payload source))) =
      .ok { s with stopsOnFirstMatch := decide (flags % 2 = 1) } := by
  have hread := Image.readPayload_ofPayload hflags hlen hs.restores_payload
  have hcheck := hs.check_payload hsettings (Nat.lt_trans hlen (by decide))
  exact ofBytes_eq_ok_iff.2 ⟨flags, s.payload source, hread, hcheck, hs.mapM_revive, rfl, rfl⟩

/-- The image of a well-formed rule set is read as it was. -/
theorem ofBytes_image (hs : s.WellFormed) (hsettings : s.settings.check = .ok ())
    (hlen : (Codec.payload.encode (s.payload source)).length < 2 ^ 32) :
    ofBytes (s.toBytes source) = .ok s := by
  obtain ⟨_, _, stops⟩ := s
  cases stops
  · exact hs.ofBytes_ofPayload hsettings (by decide : 0 < 2 ^ 32) hlen
  · exact hs.ofBytes_ofPayload hsettings (by decide : Image.stopFlag < 2 ^ 32) hlen

/-- No tree of a well-formed rule set is too high for its evaluation. -/
theorem number_ne_tooDeep (hs : s.WellFormed) {c : CompiledRule} (hc : c ∈ s.rules) {e : Expr}
    (he : .parsed e ∈ c.formulas) (context : Context) (n : Nat) :
    e.value s.settings.limits.maxDepth context ≠ .error (.tooDeep n) ∧
      e.number s.settings.limits.maxDepth context ≠ .error (.tooDeep n) := by
  obtain ⟨a, -, hsuits⟩ := exists_of_forall₂_mem (hs.suited c hc) he
  have hdepth : e.depth ≤ s.settings.limits.maxDepth := hsuits.2
  have hvalue : e.value s.settings.limits.maxDepth context ≠ .error (.tooDeep n) :=
    Expr.eval_ne_tooDeep (by omega) n
  refine ⟨hvalue, fun hnumber => ?_⟩
  rcases Outcome.bind_eq_error_iff.1 hnumber with h | ⟨v, -, h⟩
  · exact hvalue h
  · cases ((Expr.failsOnly_finiteNumber v).of_eq h).1

/-- The patterns of a well-formed rule set are there, each the one of its text. -/
theorem exists_pattern (hs : s.WellFormed) {c : CompiledRule} (hc : c ∈ s.rules) {text : String}
    (ht : text ∈ c.rule.patternTexts) :
    ∃ p, c.patterns.entries.lookup text = some p ∧ Pattern.compile text = .ok p := by
  have hpatterns := hs.patterned c hc
  obtain ⟨p, hp⟩ := Option.isSome_iff_exists.1 (Rule.isSome_lookup_of_patterns hpatterns ht)
  exact ⟨p, hp, Rule.faithful_of_patterns hpatterns text p hp⟩

end WellFormed

/-- **Bytes that are accepted are as good as a compilation.** Whatever bytes are read as a rule
set, it is well-formed, its settings are in order, and the patterns of its conditions are there. So
no evaluation of a stored tree finds it too high, no rule reports an invalid pattern, and the image
of the rule set is read as the rule set itself, unless the payload is too long for its length to be
written. -/
theorem sound_of_ofBytes (h : ofBytes bytes = .ok s) :
    s.WellFormed ∧ s.settings.check = .ok () ∧
    (∀ c ∈ s.rules, ∀ text ∈ c.rule.patternTexts,
      ∃ p, c.patterns.entries.lookup text = some p ∧ Pattern.compile text = .ok p) ∧
    (∀ c ∈ s.rules, ∀ context,
      (∀ e, .parsed e ∈ c.formulas → ∀ n,
        e.value s.settings.limits.maxDepth context ≠ .error (.tooDeep n) ∧
          e.number s.settings.limits.maxDepth context ≠ .error (.tooDeep n)) ∧
      ∀ text defect, c.rule.isMet c.patterns.find context ≠ .error (.invalidPattern text defect)) ∧
    ∀ source, (Codec.payload.encode (s.payload source)).length < 2 ^ 32 →
      ofBytes (s.toBytes source) = .ok s := by
  obtain ⟨hs, hsettings⟩ := wellFormed_of_ofBytes h
  refine ⟨hs, hsettings, fun c hc text ht => hs.exists_pattern hc ht, fun c hc context => ?_, ?_⟩
  · refine ⟨fun e he n => hs.number_ne_tooDeep hc he context n, ?_⟩
    exact Rule.isMet_ne_invalidPattern (hs.patterned c hc) context
  · exact fun source hlen => hs.ofBytes_image hsettings hlen

/-- Bytes that were written by hand: a flag is set that means nothing. The rule has a pattern, a
formula and one that cannot be read. -/
theorem sound_of_ofBytes_flagged :
    let rule : Rule :=
      { id := "a", name := "offer", order := -1
        actions := [.ofFormula "ram_gb * 2.5", .ofAmount 0.1, .ofFormula "ram_gb **"]
        condition := some (.test { field := "model", op := .matchesPattern,
                                   operand := .string "^opti" }) }
    ∃ s, ofBytes (Image.ofPayload 3 (Codec.payload.encode (s.payload none))) = .ok s ∧
      s.sources = [rule] ∧ s.WellFormed ∧ (∃ p, Pattern.compile "^opti" = .ok p) ∧
      ofBytes (s.toBytes none) = .ok s := by
  intro rule
  have hcompile : (RuleSet.compile .standard true [rule]).isOk = true :=
    isOk_compile_iff.2 (by decide +kernel)
  obtain ⟨s, hs⟩ := isOk_iff.1 hcompile
  have hwellFormed := wellFormed_of_compile hs
  obtain ⟨patterns, -, rfl⟩ := exists_of_compile_singleton hs
  have hlen : (Codec.payload.encode (RuleSet.payload {
      settings := .standard, stopsOnFirstMatch := true
      rules := [{ rule, formulas := rule.actions.map Settings.standard.prepare, patterns }] }
      none)).length < 2 ^ 32 := by
    simp only [payload, size, sources, List.map_cons, List.map_nil, List.length_cons,
      List.length_nil]
    decide +kernel
  have hread := hwellFormed.ofBytes_ofPayload Settings.check_standard (by decide : 3 < 2 ^ 32) hlen
  obtain ⟨-, -, hpatterns, -, himage⟩ := sound_of_ofBytes hread
  have htext : "^opti" ∈ rule.patternTexts := by decide
  obtain ⟨p, -, hp⟩ := hpatterns _ (List.mem_singleton_self _) "^opti" htext
  exact ⟨_, hread, rfl, hwellFormed, ⟨p, hp⟩, himage none hlen⟩

end RuleSet

end Appraisal
