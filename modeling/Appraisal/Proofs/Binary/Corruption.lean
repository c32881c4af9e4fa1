import Appraisal.Proofs.Binary.Acceptance

/-!
# Images with a wrong byte

The image of a rule set in which one byte was replaced is refused or read as the rule set, save for
one bit: nothing but the lowest of the flags tells whether the rule set stops, and the checksum is
that of the payload alone. So the bit that is turned over there goes unnoticed, and no other change
does any harm (`RuleSet.eq_of_ofBytes_replaced`).

* Bytes with the payload of a rule set are refused or read as that rule set, stopping as their
  flags say (`RuleSet.WellFormed.eq_of_ofBytes`).
* A byte that is replaced in the header leaves the payload as it is (`Image.payload_replaced`); one
  that is replaced in the payload leaves the checksum in the header as it is
  (`Image.checksum_replaced`), which then is another than that of the payload.
-/

namespace Appraisal

open Binary

/-! ### Replacing a byte -/

namespace Image

variable {before after : List UInt8} {x y : UInt8}

theorem numberAt_lt (bytes : List UInt8) (first count : Nat) :
    numberAt bytes first count < 256 ^ count := by
  refine Nat.lt_of_lt_of_le (ofLittleEndian_lt _) ?_
  exact Nat.pow_le_pow_right (by decide) (List.length_take_le _ _)

/-- The lowest flag is a bit of the first of their bytes. -/
theorem flags_mod_two (bytes : List UInt8) :
    numberAt bytes 8 4 % 2 = (bytes.getD 8 0).toNat % 2 := by
  have hfirst : bytes.getD 8 0 = (bytes.drop 8).headD 0 := by
    rw [List.headD_eq_head?_getD, List.head?_drop, List.getD_eq_getElem?_getD]
  rw [hfirst, numberAt]
  cases bytes.drop 8 with
  | nil => rfl
  | cons b rest =>
    rw [List.take_succ_cons, ofLittleEndian, List.headD_cons]
    omega

/-- A byte of the header is none of the payload. -/
theorem payload_replaced (h : before.length < headerSize) :
    (before ++ y :: after).drop headerSize = (before ++ x :: after).drop headerSize := by
  obtain ⟨k, hk⟩ := Nat.exists_eq_succ_of_ne_zero (Nat.sub_ne_zero_of_lt h)
  rw [List.drop_append, List.drop_append, hk, List.drop_succ_cons, List.drop_succ_cons]

/-- A byte of the payload is none of the checksum. -/
theorem checksum_replaced (h : headerSize ≤ before.length) :
    ((before ++ y :: after).drop 16).take 16 = ((before ++ x :: after).drop 16).take 16 := by
  have hlength : 16 + 16 ≤ before.length := h
  have hkept (rest : List UInt8) : ((before ++ rest).drop 16).take 16 =
      (before.drop 16).take 16 := by
    rw [List.drop_append_of_le_length (by omega), List.take_append_of_le_length]
    rw [List.length_drop]
    omega
  rw [hkept, hkept]

theorem getD_replaced {place : Nat} (h : before.length ≠ place) :
    (before ++ y :: after).getD place 0 = (before ++ x :: after).getD place 0 := by
  rcases Nat.lt_or_gt_of_ne h with hlt | hgt
  · obtain ⟨k, rfl⟩ := Nat.exists_eq_add_of_lt hlt
    rw [List.getD_append_right _ _ _ _ (by omega), List.getD_append_right _ _ _ _ (by omega)]
    have hk : before.length + k + 1 - before.length = k + 1 := by omega
    rw [hk, List.getD_cons_succ, List.getD_cons_succ]
  · rw [List.getD_append _ _ _ _ hgt, List.getD_append _ _ _ _ hgt]

theorem getD_length : (before ++ x :: after).getD before.length 0 = x := by
  rw [List.getD_append_right _ _ _ _ (Nat.le_refl _), Nat.sub_self, List.getD_cons_zero]

/-- Flags that are written with one byte replaced make images with one byte replaced. -/
theorem exists_ofPayload_replaced {flags flags' : Nat}
    (h : littleEndian 4 flags = before ++ x :: after)
    (h' : littleEndian 4 flags' = before ++ y :: after) (payload : List UInt8) :
    ∃ left right, left.length = 8 + before.length ∧
      ofPayload flags payload = left ++ x :: right ∧
      ofPayload flags' payload = left ++ y :: right := by
  let left := magic ++ littleEndian 2 formatVersion ++ littleEndian 2 engineVersion ++ before
  let right := after ++ littleEndian 4 payload.length ++ checksum payload ++ payload
  refine ⟨left, right, List.length_append, ?_, ?_⟩
  · simp only [ofPayload_eq, h, left, right, List.append_assoc, List.cons_append]
  · simp only [ofPayload_eq, h', left, right, List.append_assoc, List.cons_append]

end Image

/-! ### Rule sets -/

namespace RuleSet

variable {settings : Settings} {stop : Bool} {rules : List Rule} {s s' : RuleSet}
  {source : Option String} {bytes before after : List UInt8} {x y : UInt8}

/-- The lowest flag of an image tells whether the rule set stops. -/
theorem flags_toBytes (s : RuleSet) (source : Option String) :
    decide (Image.numberAt (s.toBytes source) 8 4 % 2 = 1) = s.stopsOnFirstMatch := by
  rw [toBytes]
  cases s.stopsOnFirstMatch
  · rw [Image.flags_ofPayload (by decide)]
    rfl
  · rw [Image.flags_ofPayload (by decide)]
    rfl

/-- Bytes with the payload of a well-formed rule set are read as that rule set, if they are read,
stopping as their lowest flag says. -/
theorem WellFormed.eq_of_ofBytes (hs : s.WellFormed)
    (hpayload : bytes.drop Image.headerSize = Codec.payload.encode (s.payload source))
    (hread : ofBytes bytes = .ok s') :
    s' = { s with stopsOnFirstMatch := decide (Image.numberAt bytes 8 4 % 2 = 1) } := by
  obtain ⟨flags, p, hp, -, hrules, hsettings, hstop⟩ := ofBytes_eq_ok_iff.1 hread
  obtain ⟨rfl, hlength, -, rest, hdecode⟩ := Image.of_readPayload_eq_ok hp
  rw [hpayload] at hlength hdecode
  have hlen : (Codec.payload.encode (s.payload source)).length < 2 ^ 64 := by
    have hnumber := Image.numberAt_lt bytes 12 4
    omega
  have hrestored := hs.restores_payload hlen []
  rw [List.append_nil, hdecode] at hrestored
  cases hrestored
  rw [hs.mapM_revive] at hrules
  obtain ⟨_, _, _⟩ := s'
  cases hrules
  simp only at hsettings hstop
  rw [hsettings, hstop]
  rfl

/-- The image of a rule set says the checksum of its payload. -/
theorem checksum_toBytes (s : RuleSet) (source : Option String) :
    ((s.toBytes source).drop 16).take 16 =
      Image.checksum ((s.toBytes source).drop Image.headerSize) := by
  rw [toBytes, Image.drop_sixteen, Image.drop_headerSize]
  exact List.take_left' (Image.length_checksum _)

/-- The replaced byte turns the lowest flag over. -/
def TurnsStop (before : List UInt8) (x y : UInt8) : Prop :=
  before.length = 8 ∧ x.toNat % 2 ≠ y.toNat % 2

instance : Decidable (TurnsStop before x y) := instDecidableAnd

theorem flags_replaced :
    decide (Image.numberAt (before ++ y :: after) 8 4 % 2 = 1) =
      (decide (Image.numberAt (before ++ x :: after) 8 4 % 2 = 1) ^^
        decide (TurnsStop before x y)) := by
  rw [Image.flags_mod_two, Image.flags_mod_two]
  -- no byte but the one at 8 has a part in the lowest flag
  by_cases hplace : before.length = 8
  · rw [← hplace, Image.getD_length, Image.getD_length]
    have hx := Nat.mod_two_eq_zero_or_one x.toNat
    have hy := Nat.mod_two_eq_zero_or_one y.toNat
    rcases hx with hx | hx <;> rcases hy with hy | hy <;> simp [TurnsStop, hplace, hx, hy]
  · rw [Image.getD_replaced (x := x) hplace]
    simp [TurnsStop, hplace]

/-- **Corruption goes unnoticed in one bit only.** Suppose that one byte is replaced in the image
of a compiled rule set, and that the checksum of the payload becomes another one if the payload
does. If the bytes are read at all, they are read as the rule set, but for whether it stops on the
first match: this changes if the lowest bit of byte 8 was turned over. If it was not, the rule set
comes to the same results on every item. -/
theorem eq_of_ofBytes_replaced (h : RuleSet.compile settings stop rules = .ok s)
    (hbytes : s.toBytes source = before ++ x :: after)
    (hhash : (before ++ y :: after).drop Image.headerSize ≠
        (s.toBytes source).drop Image.headerSize →
      Image.checksum ((before ++ y :: after).drop Image.headerSize) ≠
        Image.checksum ((s.toBytes source).drop Image.headerSize))
    (hread : ofBytes (before ++ y :: after) = .ok s') :
    s' = { s with
      stopsOnFirstMatch := s.stopsOnFirstMatch ^^ decide (TurnsStop before x y) } ∧
    (¬ TurnsStop before x y → ∀ context, s'.evaluate context = s.evaluate context) := by
  have hs := wellFormed_of_compile h
  have hpayload : (before ++ y :: after).drop Image.headerSize =
      (s.toBytes source).drop Image.headerSize := by
    -- by the place of the byte, in the header or in the payload
    rcases Nat.lt_or_ge before.length Image.headerSize with hlt | hge
    · rw [hbytes]
      exact Image.payload_replaced hlt
    · by_contra hne
      obtain ⟨flags, p, hp, -⟩ := ofBytes_eq_ok_iff.1 hread
      obtain ⟨-, -, hchecksum, -⟩ := Image.of_readPayload_eq_ok hp
      -- the checksum that is said is still that of the payload as it was
      refine hhash hne ?_
      rw [← hchecksum, Image.checksum_replaced (x := x) hge, ← hbytes, checksum_toBytes]
  have heq : s' = { s with
      stopsOnFirstMatch := s.stopsOnFirstMatch ^^ decide (TurnsStop before x y) } := by
    have hread' := hs.eq_of_ofBytes (hpayload.trans (Image.drop_headerSize _ _)) hread
    rw [flags_replaced (x := x), ← hbytes, flags_toBytes] at hread'
    exact hread'
  refine ⟨heq, fun hkept context => ?_⟩
  rw [heq, decide_eq_false hkept, Bool.xor_false]

/-- Two rules that come to an amount each. -/
def twoAmounts (stop : Bool) : RuleSet where
  settings := .standard
  rules := [
    { rule := { id := "a", name := "first", actions := [.ofAmount 5] },
      formulas := [.none], patterns := .empty },
    { rule := { id := "b", name := "second", actions := [.ofAmount 7] },
      formulas := [.none], patterns := .empty }]
  stopsOnFirstMatch := stop

theorem compile_twoAmounts (stop : Bool) :
    RuleSet.compile .standard stop (twoAmounts stop).sources = .ok (twoAmounts stop) := by
  refine compile_eq_ok_iff.2 ⟨rfl, ?_, rfl, rfl⟩
  rw [List.mergeSort_of_pairwise (by cases stop <;> decide)]
  exact .cons rfl (.cons rfl .nil)

theorem ofBytes_twoAmounts {flags : Nat} (hflags : flags < 2 ^ 32) (stop : Bool) :
    ofBytes (Image.ofPayload flags (Codec.payload.encode ((twoAmounts stop).payload none))) =
      .ok (twoAmounts (decide (flags % 2 = 1))) := by
  have hlen : (Codec.payload.encode ((twoAmounts stop).payload none)).length < 2 ^ 32 := by
    cases stop <;> decide +kernel
  have hs := wellFormed_of_compile (compile_twoAmounts stop)
  exact hs.ofBytes_ofPayload Settings.check_standard hflags hlen

/-- A flag that means nothing is set in the image of two rules. -/
theorem eq_of_ofBytes_replaced_flag :
    ∃ before after s', (twoAmounts true).toBytes none = before ++ (0 : UInt8) :: after ∧
      ofBytes (before ++ (1 : UInt8) :: after) = .ok s' ∧
      ∀ context, s'.evaluate context = (twoAmounts true).evaluate context := by
  have hstop : littleEndian 4 Image.stopFlag = [1] ++ 0 :: [0, 0] := by decide
  have hflag : littleEndian 4 257 = [1] ++ 1 :: [0, 0] := by decide
  obtain ⟨before, after, hplace, hbytes, hflagged⟩ := Image.exists_ofPayload_replaced hstop hflag
    (Codec.payload.encode ((twoAmounts true).payload none))
  have hread := ofBytes_twoAmounts (by decide : 257 < 2 ^ 32) true
  rw [hflagged] at hread
  have hpayload : (before ++ (1 : UInt8) :: after).drop Image.headerSize =
      ((twoAmounts true).toBytes none).drop Image.headerSize := by
    rw [toBytes, ← hflagged, Image.drop_headerSize, Image.drop_headerSize]
  have hkept : ¬ TurnsStop before 0 1 := by
    rintro ⟨hlength, -⟩
    simp [hlength] at hplace
  refine ⟨before, after, _, hbytes, hread, ?_⟩
  exact (eq_of_ofBytes_replaced (compile_twoAmounts true) hbytes (absurd hpayload) hread).2 hkept

/-- The bit that tells whether a rule set stops is turned over unnoticed, and the second of two
rules that match is left out. -/
theorem ofBytes_replaced_stop :
    RuleSet.compile .standard false (twoAmounts false).sources = .ok (twoAmounts false) ∧
      Settings.standard.check = .ok () ∧
      ∃ before after, (twoAmounts false).toBytes none = before ++ (0 : UInt8) :: after ∧
        (before ++ (1 : UInt8) :: after).drop Image.headerSize =
          ((twoAmounts false).toBytes none).drop Image.headerSize ∧
        ofBytes (before ++ (1 : UInt8) :: after) = .ok (twoAmounts true) ∧
        (twoAmounts true).evaluate .empty ≠ (twoAmounts false).evaluate .empty := by
  have hgoes : littleEndian 4 0 = [] ++ 0 :: [0, 0, 0] := by decide
  have hstops : littleEndian 4 1 = [] ++ 1 :: [0, 0, 0] := by decide
  obtain ⟨before, after, -, hbytes, hturned⟩ := Image.exists_ofPayload_replaced hgoes hstops
    (Codec.payload.encode ((twoAmounts false).payload none))
  have hread := ofBytes_twoAmounts (by decide : 1 < 2 ^ 32) false
  rw [hturned] at hread
  refine ⟨compile_twoAmounts false, Settings.check_standard, before, after, hbytes, ?_, hread, ?_⟩
  · rw [toBytes, ← hturned, Image.drop_headerSize, Image.drop_headerSize]
  · intro h
    have hlengths := congrArg (Except.map List.length) h
    revert hlengths
    decide +kernel

end RuleSet

end Appraisal
