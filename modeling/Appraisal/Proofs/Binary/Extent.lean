import Appraisal.Proofs.Binary.Corruption
import Appraisal.Proofs.Binary.Delimited

/-!
# How far an image is read

The header of an image says how long its payload is, and any other length is refused. Nothing says
how much of the payload its members take. They are read one after the other, and what follows the
last of them is covered by the length and by the checksum, but never looked at. So bytes that are
accepted stay accepted as the same rule set whatever is put after the last member, and none of the
bytes before can be missed (`RuleSet.extent_of_ofBytes`). The images that are written end with the
last member (`RuleSet.WellFormed.isExact_toBytes`).
-/

namespace Appraisal

open Binary

/-- The payload of an image ends where its last member does. -/
def Image.IsExact (bytes : List UInt8) : Prop :=
  ∃ p, Codec.payload.decode (bytes.drop Image.headerSize) = some (p, [])

namespace RuleSet

variable {s : RuleSet} {source : Option String} {bytes taken rest more : List UInt8} {p : Payload}
  {flags : Nat}

/-- Whatever follows the last member, the same rule set is read. -/
theorem ofBytes_continued (hread : ofBytes bytes = .ok s)
    (htaken : Takes Codec.payload.decode taken p)
    (hpayload : bytes.drop Image.headerSize = taken ++ rest) (hflags : flags < 2 ^ 32)
    (hstop : flags % 2 = Image.numberAt bytes 8 4 % 2) (hlen : (taken ++ more).length < 2 ^ 32) :
    ofBytes (Image.ofPayload flags (taken ++ more)) = .ok s := by
  obtain ⟨_, q, hread, hcheck, hrules, hsettings, hstops⟩ := ofBytes_eq_ok_iff.1 hread
  obtain ⟨rfl, -, -, left, hdecode⟩ := Image.of_readPayload_eq_ok hread
  rw [hpayload, htaken rest] at hdecode
  cases hdecode
  have hcontinued := Image.readPayload_of_decode hflags hlen (htaken more)
  refine ofBytes_eq_ok_iff.2 ⟨flags, p, hcontinued, hcheck, hrules, hsettings, ?_⟩
  rw [hstops, hstop]

/-- No bytes are accepted whose payload breaks off before the last member ends. -/
theorem payload_eq_of_ofBytes (htaken : Takes Codec.payload.decode taken p)
    (hread : ofBytes bytes = .ok s) (hbegins : bytes.drop Image.headerSize <+: taken) :
    bytes.drop Image.headerSize = taken := by
  obtain ⟨_, q, hread, -⟩ := ofBytes_eq_ok_iff.1 hread
  obtain ⟨-, -, -, left, hdecode⟩ := Image.of_readPayload_eq_ok hread
  obtain ⟨first, hfirst, htakes⟩ := Codec.delimited_payload _ q left hdecode
  have hends : first = taken := by
    refine (htakes _ (Nat.le_refl _)).eq_of_begins htaken ?_
    exact (List.prefix_append first left).trans (hfirst ▸ hbegins)
  refine hbegins.eq_of_length_le ?_
  rw [hfirst, List.length_append, hends]
  exact Nat.le_add_right ..

/-! ### Rule sets that were written -/

namespace WellFormed

/-- What follows the payload of a rule set is left over. -/
theorem isExact_continued_iff (hs : s.WellFormed)
    (hlen : (Codec.payload.encode (s.payload source)).length < 2 ^ 64) :
    Image.IsExact (Image.ofPayload flags (Codec.payload.encode (s.payload source) ++ more)) ↔
      more = [] := by
  rw [Image.IsExact, Image.drop_headerSize, hs.restores_payload hlen more]
  constructor
  · rintro ⟨_, hend⟩
    cases hend
    rfl
  · rintro rfl
    exact ⟨_, rfl⟩

/-- The images that are written end with the last member. -/
theorem isExact_toBytes (hs : s.WellFormed)
    (hlen : (Codec.payload.encode (s.payload source)).length < 2 ^ 64) :
    Image.IsExact (s.toBytes source) := by
  have hexact : Image.IsExact (Image.ofPayload (if s.stopsOnFirstMatch then Image.stopFlag else 0)
      (Codec.payload.encode (s.payload source) ++ [])) := (hs.isExact_continued_iff hlen).2 rfl
  rwa [List.append_nil] at hexact

/-- A rule set is read whatever follows its payload. -/
theorem ofBytes_spare (hs : s.WellFormed) (hsettings : s.settings.check = .ok ())
    (hflags : flags < 2 ^ 32)
    (hlen : (Codec.payload.encode (s.payload source) ++ more).length < 2 ^ 32) :
    ofBytes (Image.ofPayload flags (Codec.payload.encode (s.payload source) ++ more)) =
      .ok { s with stopsOnFirstMatch := decide (flags % 2 = 1) } := by
  have hshort : (Codec.payload.encode (s.payload source)).length < 2 ^ 32 := by
    rw [List.length_append] at hlen
    omega
  have htaken := hs.restores_payload (Nat.lt_trans hshort (by decide))
  have hpayload : (Image.ofPayload flags (Codec.payload.encode (s.payload source))).drop
      Image.headerSize = Codec.payload.encode (s.payload source) ++ [] := by
    rw [Image.drop_headerSize, List.append_nil]
  refine ofBytes_continued (hs.ofBytes_ofPayload hsettings hflags hshort) htaken hpayload hflags
    ?_ hlen
  rw [Image.flags_ofPayload hflags]

end WellFormed

/-! ### Rule sets that were read -/

/-- **What is read ends with the last member.** The payload of bytes that are accepted comes in two
parts. The first is what the members take: after it, any bytes may follow, and under a header that
says their length and their checksum the same rule set is read, while no payload that breaks off
within it is accepted. The other part is left over. So the payload is used up if and only if this
part is empty, as it is in the image that is written for the rule set. -/
theorem extent_of_ofBytes (h : ofBytes bytes = .ok s) :
    ∃ taken rest, bytes.drop Image.headerSize = taken ++ rest ∧
      (∀ flags more, flags < 2 ^ 32 → flags % 2 = Image.numberAt bytes 8 4 % 2 →
        (taken ++ more).length < 2 ^ 32 →
          ofBytes (Image.ofPayload flags (taken ++ more)) = .ok s) ∧
      (∀ bytes' s', ofBytes bytes' = .ok s' → bytes'.drop Image.headerSize <+: taken →
        bytes'.drop Image.headerSize = taken) ∧
      (Image.IsExact bytes ↔ rest = []) ∧
      ∀ source, (Codec.payload.encode (s.payload source)).length < 2 ^ 32 →
        Image.IsExact (s.toBytes source) := by
  obtain ⟨_, p, hread, -⟩ := ofBytes_eq_ok_iff.1 h
  obtain ⟨-, -, -, rest, hdecode⟩ := Image.of_readPayload_eq_ok hread
  obtain ⟨taken, hpayload, htakes⟩ := Codec.delimited_payload _ p rest hdecode
  have htaken : Takes Codec.payload.decode taken p := htakes _ (Nat.le_refl _)
  refine ⟨taken, rest, hpayload, fun flags more hflags hstop hlen => ?_, ?_, ?_, ?_⟩
  · exact ofBytes_continued h htaken hpayload hflags hstop hlen
  · exact fun bytes' s' hread' hbegins => payload_eq_of_ofBytes htaken hread' hbegins
  · rw [Image.IsExact, hdecode]
    constructor
    · rintro ⟨_, hend⟩
      cases hend
      rfl
    · rintro rfl
      exact ⟨p, rfl⟩
  · intro source hlen
    exact (wellFormed_of_ofBytes h).1.isExact_toBytes (Nat.lt_trans hlen (by decide))

/-- The image of two rules, with three bytes after the last member and a flag that means nothing. -/
theorem extent_of_ofBytes_spare :
    let payload := Codec.payload.encode ((twoAmounts true).payload none)
    ofBytes (Image.ofPayload 257 (payload ++ [1, 2, 3])) = .ok (twoAmounts true) ∧
      ∃ taken rest, payload ++ [1, 2, 3] = taken ++ rest ∧ rest ≠ [] ∧
        ofBytes (Image.ofPayload 1 taken) = .ok (twoAmounts true) ∧
        Image.IsExact ((twoAmounts true).toBytes none) := by
  intro payload
  have hs := wellFormed_of_compile (compile_twoAmounts true)
  have hlen : (payload ++ [1, 2, 3]).length < 2 ^ 32 := by decide +kernel
  have hshort : payload.length < 2 ^ 32 := by decide +kernel
  have hread := hs.ofBytes_spare Settings.check_standard (by decide : 257 < 2 ^ 32) hlen
  obtain ⟨taken, rest, hpayload, hcontinued, -, hexact, himage⟩ := extent_of_ofBytes hread
  have hover : rest ≠ [] := by
    rw [Ne, ← hexact, hs.isExact_continued_iff (Nat.lt_trans hshort (by decide))]
    decide
  rw [Image.flags_ofPayload (by decide)] at hcontinued
  rw [Image.drop_headerSize] at hpayload
  refine ⟨hread, taken, rest, hpayload, hover, ?_, himage none hshort⟩
  have hless : (taken ++ []).length < 2 ^ 32 := by
    rw [hpayload, List.length_append] at hlen
    rw [List.append_nil]
    omega
  have htaken := hcontinued 1 [] (by decide) rfl hless
  rwa [List.append_nil] at htaken

/-- A rule set without rules. -/
def empty : RuleSet where
  settings := .standard
  rules := []
  stopsOnFirstMatch := false

/-- One byte after the last member, told by the header as a part of the payload, is accepted and
left over. -/
theorem ofBytes_left_over :
    RuleSet.compile .standard false [] = .ok empty ∧
      let bytes := Image.ofPayload 0 (Codec.payload.encode (empty.payload none) ++ [0])
      ofBytes bytes = .ok empty ∧ ¬ Image.IsExact bytes := by
  have hcompile : RuleSet.compile .standard false [] = .ok empty := by
    refine compile_eq_ok_iff.2 ⟨rfl, ?_, rfl, rfl⟩
    rw [List.mergeSort_nil]
    exact .nil
  have hs := wellFormed_of_compile hcompile
  refine ⟨hcompile, hs.ofBytes_spare Settings.check_standard (by decide) (by decide +kernel), ?_⟩
  rw [hs.isExact_continued_iff (by decide +kernel)]
  decide

end RuleSet

end Appraisal
