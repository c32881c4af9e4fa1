import Appraisal.Binary.Image
import Appraisal.Proofs.Binary.Formula

/-!
# What decoders give

Bytes of any origin are read into values, but not into all values: a number that was read fits into
64 bits, and so does the place of every error. A decoder gives values with a property if whatever it
reads from whatever bytes has it (`Gives`); like what it takes, what a decoder gives composes along
its steps (`Gives.bind`). The payload of any bytes can be written again
(`Codec.gives_payload`).
-/

namespace Appraisal

namespace Binary

variable {α β : Type} {d : Decoder α} {P : α → Prop} {Q : β → Prop}

/-- Whatever a decoder reads satisfies `P`. -/
def Gives (d : Decoder α) (P : α → Prop) : Prop :=
  ∀ bytes a rest, d bytes = some (a, rest) → P a

/-! ### Steps -/

theorem gives_pure {a : α} (h : P a) : Gives (pure a) P := by
  rintro bytes _ rest ⟨⟩
  exact h

theorem gives_failure : Gives (failure : Decoder α) P := nofun

theorem Gives.bind {f : α → Decoder β} (h : Gives d P) (hf : ∀ a, P a → Gives (f a) Q) :
    Gives (d >>= f) Q := by
  intro bytes b rest hb
  obtain ⟨⟨a, left⟩, ha, hb⟩ := Option.bind_eq_some_iff.1 hb
  exact hf a (h bytes a left ha) left b rest hb

theorem gives_any (d : Decoder α) : Gives d fun _ => True := fun _ _ _ _ => trivial

theorem Gives.mono {P' : α → Prop} (h : Gives d P) (himp : ∀ a, P a → P' a) : Gives d P' :=
  fun bytes a rest ha => himp a (h bytes a rest ha)

theorem gives_many (h : Gives d P) (count : Nat) :
    Gives (Codec.takeMany d count) fun as => ∀ a ∈ as, P a := by
  induction count with
  | zero => exact gives_pure nofun
  | succ count ih =>
    refine h.bind fun a ha => ?_
    exact ih.bind fun as has => gives_pure (List.forall_mem_cons.2 ⟨ha, has⟩)

/-! ### Integers -/

theorem ofLittleEndian_lt (bytes : List UInt8) : ofLittleEndian bytes < 256 ^ bytes.length := by
  induction bytes with
  | nil => decide
  | cons b rest ih =>
    have hb := b.toNat_lt
    rw [ofLittleEndian, List.length_cons, Nat.pow_succ]
    omega

theorem gives_bytes (count : Nat) : Gives (takeBytes count) fun bytes => bytes.length = count := by
  intro bytes a rest h
  rw [takeBytes] at h
  split at h
  · next hcount =>
    cases h
    exact List.length_take_of_le hcount
  · cases h

theorem gives_fixed (count : Nat) : Gives (takeFixed count) fun n => n < 256 ^ count := by
  refine (gives_bytes count).bind fun bytes hbytes => gives_pure ?_
  rw [← hbytes]
  exact ofLittleEndian_lt bytes

/-- A compact number has no more than 64 bits. -/
theorem gives_compact (width : Nat) : Gives (takeCompact width) fun n => n < 2 ^ 64 := by
  have hfixed {count : Nat} (h : count ≤ 8) : Gives (takeFixed count) fun n => n < 2 ^ 64 := by
    refine (gives_fixed count).mono fun n hn => Nat.lt_of_lt_of_le hn ?_
    exact Nat.pow_le_pow_right (by decide) h
  refine (gives_any takeByte).bind fun marker _ => ?_
  split
  · exact gives_pure (Nat.lt_trans marker.toNat_lt (by decide))
  split
  · exact hfixed (by decide)
  split
  · exact hfixed (by decide)
  split
  · exact hfixed (by decide)
  · exact gives_failure

end Binary

open Binary

/-! ### Composition -/

namespace Codec

variable {α β : Type} {a : Codec α} {b : Codec β} {P : α → Prop} {Q : β → Prop}

theorem gives_via {make : α → β} {parts : β → α} (h : Gives a.decode fun x => Q (make x)) :
    Gives (a.via make parts).decode Q := by
  have hmap : (a.via make parts).decode = a.decode >>= fun x => pure (make x) :=
    map_eq_pure_bind make a.decode
  rw [hmap]
  exact h.bind fun x hx => gives_pure hx

theorem gives_pair (ha : Gives a.decode P) (hb : Gives b.decode Q) :
    Gives (a.pair b).decode fun v => P v.1 ∧ Q v.2 :=
  ha.bind fun _ hx => hb.bind fun _ hy => gives_pure ⟨hx, hy⟩

theorem gives_option (h : Gives a.decode P) : Gives a.option.decode fun o => ∀ x ∈ o, P x := by
  refine (gives_any takeByte).bind fun marker _ => ?_
  split
  · exact gives_pure nofun
  · refine h.bind fun x hx => gives_pure ?_
    rintro _ ⟨⟩
    exact hx
  · exact gives_failure

theorem gives_list (h : Gives a.decode P) : Gives a.list.decode fun xs => ∀ x ∈ xs, P x :=
  (gives_compact 8).bind fun count _ => gives_many h count

/-! ### Read formulas -/

/-- A place that is read has no more than 64 bits. -/
theorem gives_textError : Gives textError.decode fun e => ∀ place ∈ e.2.1, place < 2 ^ 64 := by
  have hplace : Gives nat.option.decode fun o => ∀ place ∈ o, place < 2 ^ 64 :=
    gives_option (gives_compact 8)
  exact (gives_pair (gives_any _) (gives_pair hplace (gives_any _))).mono fun _ h => h.2.1

theorem gives_formulaError : Gives formulaError.decode FormulaError.IsPlaced := by
  refine (gives_any takeCase).bind fun which _ => ?_
  split
  · exact gives_textError.bind fun e he => gives_pure he
  · exact gives_textError.bind fun e he => gives_pure he
  · refine (gives_any _).bind fun name _ => ?_
    exact (gives_any _).bind fun available _ => gives_pure nofun
  · exact (gives_any _).bind fun message _ => gives_pure nofun
  · exact gives_failure

theorem gives_prepared : Gives prepared.decode PreparedFormula.IsPlaced := by
  refine (gives_any takeCase).bind fun which _ => ?_
  split
  · exact gives_pure trivial
  · exact (gives_any _).bind fun e _ => gives_pure trivial
  · exact gives_formulaError.bind fun e he => gives_pure he
  · exact gives_failure

/-! ### Payloads -/

theorem gives_storedRule : Gives storedRule.decode fun r => ∀ f ∈ r.formulas, f.IsPlaced :=
  gives_via ((gives_pair (gives_any _) (gives_list gives_prepared)).mono fun _ h => h.2)

/-- The formulas of a payload that was read can be written again. -/
theorem gives_payload :
    Gives payload.decode fun p => ∀ r ∈ p.rules, ∀ f ∈ r.formulas, f.IsPlaced := by
  refine gives_via ?_
  have hrules := gives_list gives_storedRule
  have hmembers := gives_pair (gives_any word.decode) (gives_pair (gives_any word.decode)
    (gives_pair (gives_any digest.option.decode) (gives_pair (gives_any settings.decode) hrules)))
  exact hmembers.mono fun _ h => h.2.2.2.2

end Codec

end Appraisal
