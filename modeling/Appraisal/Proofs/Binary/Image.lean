import Appraisal.Proofs.Binary.Payload

/-!
# Images are read back

Whatever can be compiled survives being written and read: the image of a compiled rule set with
settings that are in order is read as that very rule set (`RuleSet.ofBytes_toBytes`).

* The header that is written says what is true of the payload, so it is accepted
  (`Image.readHeader_ofPayload`).
* The payload is restored from its bytes (`RuleSet.restores_payload`), passes the check
  (`RuleSet.check_payload`), and its patterns are those of its rules (`RuleSet.mapM_revive`).
-/

namespace Appraisal

open Binary

/-! ### The header -/

namespace Image

variable {flags : Nat} {payload : List UInt8}

theorem length_checksum (payload : List UInt8) : (checksum payload).length = 16 := by
  rw [checksum, List.length_take, Vector.length_toList]
  rfl

theorem ofPayload_eq (flags : Nat) (payload : List UInt8) :
    ofPayload flags payload = magic ++ (littleEndian 2 formatVersion ++
      (littleEndian 2 engineVersion ++ (littleEndian 4 flags ++
        (littleEndian 4 payload.length ++ (checksum payload ++ payload))))) := by
  simp only [ofPayload, header, List.append_assoc]

theorem drop_sixteen (flags : Nat) (payload : List UInt8) :
    (ofPayload flags payload).drop 16 = checksum payload ++ payload := by
  rw [ofPayload_eq]
  generalize checksum payload ++ payload = rest
  rfl

theorem drop_headerSize (flags : Nat) (payload : List UInt8) :
    (ofPayload flags payload).drop headerSize = payload := by
  show (ofPayload flags payload).drop (16 + 16) = payload
  rw [← List.drop_drop, drop_sixteen]
  exact List.drop_left' (length_checksum payload)

theorem flags_ofPayload (hflags : flags < 2 ^ 32) :
    numberAt (ofPayload flags payload) 8 4 = flags := by
  rw [ofPayload_eq]
  exact @ofLittleEndian_littleEndian 4 flags hflags

theorem readHeader_ofPayload (hflags : flags < 2 ^ 32) (hlen : payload.length < 2 ^ 32) :
    readHeader (ofPayload flags payload) = .ok {
      version := formatVersion
      flags
      payloadLength := payload.length
      checksum := checksum payload } := by
  have hsize : ¬ (ofPayload flags payload).length < headerSize := by
    have hrest := congrArg List.length (drop_sixteen flags payload)
    rw [List.length_drop, List.length_append, length_checksum] at hrest
    rw [headerSize]
    omega
  have hmagic : (ofPayload flags payload).take 4 = magic := by
    rw [ofPayload_eq]
    rfl
  have hversion : numberAt (ofPayload flags payload) 4 2 = formatVersion := by
    rw [ofPayload_eq]
    rfl
  have hlength : numberAt (ofPayload flags payload) 12 4 = payload.length := by
    rw [ofPayload_eq]
    exact @ofLittleEndian_littleEndian 4 payload.length hlen
  have hchecksum : ((ofPayload flags payload).drop 16).take 16 = checksum payload := by
    rw [drop_sixteen]
    exact List.take_left' (length_checksum payload)
  rw [readHeader, if_neg hsize, if_neg (not_not_intro hmagic), hversion,
    flags_ofPayload hflags, hlength, hchecksum]

/-- A payload is read with the flags, whatever it leaves over. -/
theorem readPayload_of_decode {p : Payload} {rest : List UInt8} (hflags : flags < 2 ^ 32)
    (hlen : payload.length < 2 ^ 32) (hdecode : Codec.payload.decode payload = some (p, rest)) :
    readPayload (ofPayload flags payload) = .ok (flags, p) := by
  simp only [readPayload, readHeader_ofPayload hflags hlen, drop_headerSize, hdecode,
    bind, Except.bind, ne_eq, not_true_eq_false, if_false]
  rfl

/-- A payload that its codec restores is read back with the flags. -/
theorem readPayload_ofPayload {p : Payload} (hflags : flags < 2 ^ 32)
    (hlen : (Codec.payload.encode p).length < 2 ^ 32) (hp : Codec.payload.Restores p) :
    readPayload (ofPayload flags (Codec.payload.encode p)) = .ok (flags, p) := by
  have htakes := hp (Nat.lt_trans hlen (by decide)) []
  rw [List.append_nil] at htakes
  exact readPayload_of_decode hflags hlen htakes

end Image

/-! ### Rule sets -/

namespace RuleSet

variable {settings : Settings} {stop : Bool} {rules : List Rule} {s : RuleSet}

/-- **Images keep rule sets**: a rule set that was compiled under settings that are in order is
read back from its image as it was, float by float, formula by formula and pattern by pattern; and
the image tells the hash of the text that the rules come from, if there is one. -/
theorem ofBytes_toBytes (hsettings : settings.check = .ok ())
    (h : RuleSet.compile settings stop rules = .ok s) (source : Option String)
    (hlen : (Codec.payload.encode (s.payload source)).length < 2 ^ 32) :
    ofBytes (s.toBytes source) = .ok s ∧
      Image.sourceDigest (s.toBytes source) =
        .ok (source.map fun text => Digest.hash text.toByteArray.toList) := by
  have hread : Image.readPayload (s.toBytes source) =
      .ok (if s.stopsOnFirstMatch then Image.stopFlag else 0, s.payload source) := by
    refine Image.readPayload_ofPayload ?_ hlen (restores_payload h)
    split <;> decide
  have hcheck : (s.payload source).check = .ok () :=
    check_payload hsettings h (Nat.lt_trans hlen (by decide))
  have hrules : (s.payload source).rules.mapM StoredRule.revive = .ok s.rules := mapM_revive h
  constructor
  · simp only [ofBytes, hread, hcheck, hrules, bind, Except.bind, Except.mapError]
    obtain ⟨_, _, stops⟩ := s
    cases stops <;> rfl
  · rw [Image.sourceDigest, hread]
    rfl

/-- The image of a rule with a pattern, a price, and formulas of which one cannot be read. -/
theorem ofBytes_toBytes_offer :
    let rule : Rule :=
      { id := "a", name := "offer", order := -1
        actions := [.ofAmount 0.1, .ofFormula "ram_gb * 2.5", .ofFormula "ram_gb **"]
        condition := some (.test { field := "model", op := .matchesPattern,
                                   operand := .string "^opti" }) }
    ∃ s, RuleSet.compile .standard true [rule] = .ok s ∧
      ofBytes (s.toBytes (some "rules")) = .ok s ∧
        Image.sourceDigest (s.toBytes (some "rules")) =
          .ok (some (Digest.hash "rules".toByteArray.toList)) := by
  intro rule
  obtain ⟨u, hsettings⟩ := isOk_iff.1 (by decide +kernel : Settings.standard.check.isOk = true)
  have h : (RuleSet.compile .standard true [rule]).isOk = true :=
    isOk_compile_iff.2 (by decide +kernel)
  obtain ⟨s, hs⟩ := isOk_iff.1 h
  have hlen : (Codec.payload.encode (s.payload (some "rules"))).length < 2 ^ 32 := by
    obtain ⟨-, hrules, hstandard, -⟩ := compile_eq_ok_iff.1 hs
    rw [List.mergeSort_singleton] at hrules
    obtain ⟨c, _, hc, hnil, hone⟩ := List.forall₂_cons_left_iff.1 hrules
    cases hnil
    obtain ⟨hrule, hformulas, -⟩ := Rule.compile_eq_ok_iff.1 hc
    simp only [payload, size, sources, hone, hstandard, List.map_cons, List.map_nil, hrule,
      hformulas, List.length_cons, List.length_nil]
    decide +kernel
  exact ⟨s, hs, ofBytes_toBytes hsettings hs (some "rules") hlen⟩

end RuleSet

end Appraisal
