import Appraisal.Binary.Image
import Appraisal.Proofs.Binary.Decoder

/-!
# Where decoders end

Decoders look at no byte that they do not take: whatever one reads from the front of some bytes, it
takes from just these, whatever follows them (`Delimits`). So the bytes themselves tell where a
value ends, and nobody but the reader of an image can tell that more bytes come than are needed.

Trees are read with fuel, as much as there are bytes. That is more where more bytes follow, so
nesting decoders are delimited as families: the bytes that were taken are taken under every fuel
that exceeds their number. As what decoders take and give, this composes along their steps
(`Delimits.bind`), where a number of a case pays for one unit of fuel (`Delimits.case`). It holds of
values (`Codec.delimits_value`), of formulas (`Codec.delimits_expr`), of conditions
(`Codec.delimits_condition`) and, from these, of payloads (`Codec.delimited_payload`).
-/

namespace Appraisal

namespace Binary

variable {α β : Type} {d : Decoder α} {e : Nat → Decoder α}

/-- Whatever `d` reads from the front of some bytes, each decoder of a family takes from just these
bytes, if its number is no less than theirs. -/
def Delimits (d : Decoder α) (e : Nat → Decoder α) : Prop :=
  ∀ bytes a rest, d bytes = some (a, rest) →
    ∃ taken, bytes = taken ++ rest ∧ ∀ n, taken.length ≤ n → Takes (e n) taken a

/-- Whatever is read from the front of some bytes is taken from just these. -/
def Delimited (d : Decoder α) : Prop := Delimits d fun _ => d

/-- Bytes from which a value is taken do not begin with others from which one is. -/
theorem Takes.eq_of_begins {x y : List UInt8} {a b : α} (hx : Takes d x a) (hy : Takes d y b)
    (h : x <+: y) : x = y := by
  obtain ⟨more, rfl⟩ := h
  have hread := hy []
  rw [List.append_assoc, hx (more ++ []), List.append_nil] at hread
  cases hread
  exact (List.append_nil x).symm

/-! ### Steps -/

theorem delimits_pure (a : α) : Delimits (pure a) fun _ => pure a := by
  rintro bytes _ rest ⟨⟩
  exact ⟨[], rfl, fun _ _ => takes_pure a⟩

theorem delimits_failure : Delimits (failure : Decoder α) e := nofun

theorem Delimits.bind {f : α → Decoder β} {g : Nat → α → Decoder β} (h : Delimits d e)
    (hf : ∀ a, Delimits (f a) fun n => g n a) : Delimits (d >>= f) fun n => e n >>= g n := by
  intro bytes b rest hb
  obtain ⟨⟨a, left⟩, ha, hnext⟩ := Option.bind_eq_some_iff.1 hb
  obtain ⟨first, rfl, hfirst⟩ := h bytes a left ha
  obtain ⟨second, rfl, hsecond⟩ := hf a left b rest hnext
  refine ⟨first ++ second, (List.append_assoc ..).symm, fun n hn => ?_⟩
  rw [List.length_append] at hn
  exact (hfirst n (by omega)).bind (hsecond n (by omega))

theorem Delimits.map (f : α → β) (h : Delimits d e) : Delimits (f <$> d) fun n => f <$> e n := by
  intro bytes b rest hb
  obtain ⟨⟨a, left⟩, ha, heq⟩ := Option.bind_eq_some_iff.1 hb
  obtain ⟨taken, hbytes, htaken⟩ := h bytes a left ha
  cases heq
  exact ⟨taken, hbytes, fun n hn => (htaken n hn).map f⟩

theorem delimits_many (h : Delimits d e) (count : Nat) :
    Delimits (Codec.takeMany d count) fun n => Codec.takeMany (e n) count := by
  induction count with
  | zero => exact delimits_pure []
  | succ count ih => exact h.bind fun a => ih.bind fun as => delimits_pure (a :: as)

/-! ### Integers -/

theorem delimited_byte : Delimited takeByte := by
  intro bytes b rest h
  cases bytes with
  | nil => cases h
  | cons b rest =>
    cases h
    exact ⟨[b], rfl, fun _ _ => takes_byte b⟩

theorem delimited_bytes (count : Nat) : Delimited (takeBytes count) := by
  intro bytes taken rest h
  rw [takeBytes] at h
  split at h
  · next hcount =>
    cases h
    refine ⟨bytes.take count, (List.take_append_drop count bytes).symm, fun _ _ => ?_⟩
    exact takes_bytes (List.length_take_of_le hcount)
  · cases h

theorem delimited_fixed (count : Nat) : Delimited (takeFixed count) :=
  (delimited_bytes count).bind fun _ => delimits_pure _

theorem delimited_compact (width : Nat) : Delimited (takeCompact width) := by
  refine delimited_byte.bind fun marker => ?_
  split
  · exact delimits_pure _
  split
  · exact delimited_fixed 2
  split
  · exact delimited_fixed 4
  split
  · exact delimited_fixed 8
  · exact delimits_failure

/-- As many values as the number before them tells. -/
theorem Delimits.counted {f : List α → Decoder β} {g : Nat → List α → Decoder β}
    (h : Delimits d e) (hf : ∀ as, Delimits (f as) fun n => g n as) :
    Delimits (do f (← Codec.takeMany d (← takeCompact 8)))
      (fun n => do g n (← Codec.takeMany (e n) (← takeCompact 8))) :=
  (delimited_compact 8).bind fun count => (delimits_many h count).bind hf

/-- No number is taken from no bytes. -/
theorem Takes.ne_nil_of_compact {width n : Nat} {bytes : List UInt8}
    (h : Takes (takeCompact width) bytes n) : bytes ≠ [] := by
  rintro rfl
  cases h []

/-- The number of a case takes a byte, which pays for one unit of the fuel. -/
theorem Delimits.case {f : Nat → Decoder α} {g : Nat → Nat → Decoder α}
    (h : ∀ which, Delimits (f which) fun n => g (n + 1) which) :
    Delimits (Codec.takeCase >>= f) fun n => Codec.takeCase >>= g n := by
  intro bytes a rest ha
  obtain ⟨⟨which, left⟩, hwhich, hmembers⟩ := Option.bind_eq_some_iff.1 ha
  obtain ⟨first, rfl, hfirst⟩ := delimited_compact 4 bytes which left hwhich
  obtain ⟨second, rfl, hsecond⟩ := h which left a rest hmembers
  have hpos := List.length_pos_iff.2 (hfirst _ (Nat.le_refl _)).ne_nil_of_compact
  refine ⟨first ++ second, (List.append_assoc ..).symm, fun n hn => ?_⟩
  rw [List.length_append] at hn
  obtain ⟨n, rfl⟩ : ∃ m, n = m + 1 := Nat.exists_eq_succ_of_ne_zero (by omega)
  exact (hfirst (n + 1) (by omega)).bind (hsecond n (by omega))

end Binary

open Binary

namespace Codec

variable {α β : Type} {a : Codec α} {b : Codec β}

/-! ### Scalars -/

theorem delimited_elim (o : Option α) : Delimited (o.elim failure pure) := by
  cases o with
  | none => exact delimits_failure
  | some x => exact delimits_pure x

theorem delimited_word : Delimited word.decode :=
  (delimited_compact 8).bind fun _ => delimits_pure _

theorem delimited_int64 : Delimited int64.decode :=
  (delimited_compact 8).bind fun _ => delimits_pure _

theorem delimited_int32 : Delimited int32.decode :=
  (delimited_compact 4).bind fun _ => delimits_pure _

theorem delimited_float : Delimited float.decode :=
  (delimited_fixed 8).bind fun _ => delimits_pure _

theorem delimited_bool : Delimited bool.decode := by
  refine delimited_byte.bind fun marker => ?_
  split
  · exact delimits_pure false
  · exact delimits_pure true
  · exact delimits_failure

theorem delimited_string : Delimited string.decode :=
  (delimited_compact 8).bind fun count => (delimited_bytes count).bind fun _ => delimited_elim _

theorem delimited_digest : Delimited digest.decode := by
  refine (delimited_bytes 32).bind fun bytes => ?_
  split
  · exact delimits_pure _
  · exact delimits_failure

theorem delimited_oneOf [BEq α] (values : List α) : Delimited (oneOf values).decode :=
  (delimited_compact 4).bind fun _ => delimited_elim _

/-! ### Composition -/

theorem delimited_via {make : α → β} {parts : β → α} (h : Delimited a.decode) :
    Delimited (a.via make parts).decode :=
  Delimits.map make h

theorem delimited_pair (ha : Delimited a.decode) (hb : Delimited b.decode) :
    Delimited (a.pair b).decode :=
  ha.bind fun _ => hb.bind fun _ => delimits_pure _

theorem delimited_option (h : Delimited a.decode) : Delimited a.option.decode := by
  refine delimited_byte.bind fun marker => ?_
  split
  · exact delimits_pure none
  · exact h.bind fun _ => delimits_pure _
  · exact delimits_failure

theorem delimited_list (h : Delimited a.decode) : Delimited a.list.decode :=
  (delimited_compact 8).bind fun count => delimits_many h count

theorem delimited_table (h : Delimited a.decode) : Delimited a.table.decode :=
  delimited_via (delimited_list (delimited_pair delimited_string h))

/-- As much fuel as there are bytes, and some more, is enough for what is taken of them. -/
theorem delimited_fuelled {decode : (fuel : Nat) → Decoder α}
    (h : ∀ fuel, Delimits (decode fuel) fun n => decode (n + 1)) : Delimited (fuelled decode) := by
  intro bytes x rest hx
  obtain ⟨taken, hbytes, htaken⟩ := h (bytes.length + 1) bytes x rest hx
  refine ⟨taken, hbytes, fun _ _ more => ?_⟩
  show decode ((taken ++ more).length + 1) (taken ++ more) = some (x, more)
  rw [List.length_append]
  exact htaken (taken.length + more.length) (Nat.le_add_right ..) more

/-! ### Trees -/

/-- By induction on the fuel, one case for each kind of value. -/
theorem delimits_value (fuel : Nat) : Delimits (decodeValue fuel) fun n => decodeValue (n + 1) := by
  induction fuel with
  | zero => exact delimits_failure
  | succ fuel ih =>
    refine Delimits.case fun which => ?_
    split
    · exact delimits_pure _
    · exact delimited_bool.bind fun _ => delimits_pure _
    · exact delimited_int64.bind fun _ => delimits_pure _
    · exact delimited_float.bind fun _ => delimits_pure _
    · exact delimited_string.bind fun _ => delimits_pure _
    · exact ih.counted fun _ => delimits_pure _
    · exact delimits_failure

theorem delimited_value : Delimited value.decode := delimited_fuelled delimits_value

/-- By induction on the fuel, one case for each form of a formula. -/
theorem delimits_expr (fuel : Nat) : Delimits (decodeExpr fuel) fun n => decodeExpr (n + 1) := by
  induction fuel with
  | zero => exact delimits_failure
  | succ fuel ih =>
    refine Delimits.case fun which => ?_
    split
    · exact delimited_value.bind fun _ => delimits_pure _
    · exact delimited_string.bind fun _ => delimits_pure _
    · exact ih.bind fun _ => delimited_string.bind fun _ => delimits_pure _
    · exact (delimited_oneOf _).bind fun _ => ih.bind fun _ => ih.bind fun _ => delimits_pure _
    · exact (delimited_oneOf _).bind fun _ => ih.bind fun _ => delimits_pure _
    · refine ih.bind fun first => Delimits.counted ?_ fun _ => delimits_pure _
      exact (delimited_oneOf _).bind fun _ => ih.bind fun _ => delimits_pure _
    · exact (delimited_oneOf _).bind fun _ => ih.bind fun _ => ih.bind fun _ => delimits_pure _
    · exact delimited_string.bind fun _ => ih.counted fun _ => delimits_pure _
    · exact ih.bind fun _ => ih.bind fun _ => ih.bind fun _ => delimits_pure _
    · exact ih.counted fun _ => delimits_pure _
    · exact ih.counted fun _ => delimits_pure _
    · exact ih.bind fun _ => ih.bind fun _ => delimits_pure _
    · exact delimits_failure

theorem delimited_expr : Delimited expr.decode := delimited_fuelled delimits_expr

theorem delimited_test : Delimited test.decode :=
  delimited_via <| delimited_pair delimited_string <| delimited_pair (delimited_oneOf _) <|
    delimited_pair (delimited_oneOf _) delimited_value

/-- By induction on the fuel, one case for a test and one for a group. -/
theorem delimits_condition (fuel : Nat) :
    Delimits (decodeCondition fuel) fun n => decodeCondition (n + 1) := by
  induction fuel with
  | zero => exact delimits_failure
  | succ fuel ih =>
    refine Delimits.case fun which => ?_
    split
    · exact Delimits.bind delimited_test fun _ => delimits_pure _
    · exact (delimited_oneOf _).bind fun _ => ih.counted fun _ => delimits_pure _
    · exact delimits_failure

theorem delimited_condition : Delimited condition.decode := delimited_fuelled delimits_condition

/-! ### Read formulas -/

theorem delimited_textError : Delimited textError.decode := by
  refine delimited_pair delimited_string (delimited_pair ?_ (delimited_option delimited_string))
  exact delimited_option (delimited_compact 8)

theorem delimited_formulaError : Delimited formulaError.decode := by
  refine (delimited_compact 4).bind fun which => ?_
  split
  · exact delimited_textError.bind fun _ => delimits_pure _
  · exact delimited_textError.bind fun _ => delimits_pure _
  · exact delimited_string.bind fun _ =>
      (delimited_list delimited_string).bind fun _ => delimits_pure _
  · exact delimited_string.bind fun _ => delimits_pure _
  · exact delimits_failure

theorem delimited_prepared : Delimited prepared.decode := by
  refine (delimited_compact 4).bind fun which => ?_
  split
  · exact delimits_pure _
  · exact delimited_expr.bind fun _ => delimits_pure _
  · exact delimited_formulaError.bind fun _ => delimits_pure _
  · exact delimits_failure

/-! ### Rules and settings -/

theorem delimited_action : Delimited action.decode := by
  have htable := delimited_table delimited_float
  have htext := delimited_option delimited_string
  have hfield : Delimited fieldMultiplier.decode := delimited_via <|
    delimited_pair delimited_string (delimited_pair htable (delimited_option delimited_float))
  have hage : Delimited depreciation.decode :=
    delimited_via (delimited_pair delimited_float delimited_float)
  have hmodifiers : Delimited modifiers.decode := delimited_via <|
    delimited_pair (delimited_list hfield) <| delimited_pair htable <|
      delimited_pair (delimited_option hage) htable
  exact delimited_via <| delimited_pair (delimited_oneOf _) <| delimited_pair htext <|
    delimited_pair (delimited_option delimited_float) <| delimited_pair htext <|
      delimited_pair htext hmodifiers

theorem delimited_rule : Delimited rule.decode :=
  delimited_via <| delimited_pair delimited_string <| delimited_pair delimited_string <|
    delimited_pair (delimited_option delimited_condition) <|
      delimited_pair (delimited_list delimited_action) <|
        delimited_pair delimited_bool delimited_int32

theorem delimited_settings : Delimited settings.decode := by
  have hsource : Delimited metricSource.decode :=
    delimited_via (delimited_pair delimited_string delimited_float)
  have htexts := delimited_list delimited_string
  exact delimited_via <| delimited_pair delimited_word <| delimited_pair delimited_word <|
    delimited_pair (delimited_table hsource) <| delimited_pair htexts <|
      delimited_pair delimited_string <| delimited_pair delimited_string <|
        delimited_pair htexts (delimited_option delimited_string)

/-! ### Payloads -/

/-- The bytes of a payload tell where it ends. -/
theorem delimited_payload : Delimited payload.decode := by
  have hrule : Delimited storedRule.decode :=
    delimited_via (delimited_pair delimited_rule (delimited_list delimited_prepared))
  exact delimited_via <| delimited_pair delimited_word <| delimited_pair delimited_word <|
    delimited_pair (delimited_option delimited_digest) <|
      delimited_pair delimited_settings (delimited_list hrule)

end Codec

end Appraisal
