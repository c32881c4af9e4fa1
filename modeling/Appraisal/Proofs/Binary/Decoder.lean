import Appraisal.Binary.Codec
import Mathlib

/-!
# What decoders take

A decoder takes a value from some bytes if it reads that value from them whatever follows, and
leaves what follows alone (`Takes`). Taking composes along the steps of a decoder (`Takes.bind`).
The integers that were written are taken: those of fixed width (`takes_fixed`), compact ones
(`takes_compact`), and as many values of a kind as were written one after the other (`takes_many`).
-/

namespace Appraisal.Binary

variable {α β : Type} {d : Decoder α} {bytes more : List UInt8} {a : α} {b : β}

/-- A decoder takes a value from some bytes, whatever follows them. -/
def Takes (d : Decoder α) (bytes : List UInt8) (a : α) : Prop :=
  ∀ rest, d (bytes ++ rest) = some (a, rest)

/-! ### Steps -/

theorem takes_pure (a : α) : Takes (pure a) [] a := fun _ => rfl

theorem Takes.bind {f : α → Decoder β} (h : Takes d bytes a) (hf : Takes (f a) more b) :
    Takes (d >>= f) (bytes ++ more) b := by
  intro rest
  show (d (bytes ++ more ++ rest)).bind (fun p => f p.1 p.2) = some (b, rest)
  rw [List.append_assoc, h (more ++ rest)]
  exact hf rest

/-- What follows the last step takes no bytes. -/
theorem Takes.bind_last {f : α → Decoder β} (h : Takes d bytes a) (hf : Takes (f a) [] b) :
    Takes (d >>= f) bytes b := by
  have hbind := h.bind hf
  rwa [List.append_nil] at hbind

theorem Takes.map (f : α → β) (h : Takes d bytes a) : Takes (f <$> d) bytes (f a) := by
  intro rest
  show (d (bytes ++ rest)).bind (fun p => some (f p.1, p.2)) = some (f a, rest)
  rw [h rest]
  rfl

/-! ### Integers -/

theorem takes_byte (b : UInt8) : Takes takeByte [b] b := fun _ => rfl

theorem takes_bytes {count : Nat} (h : bytes.length = count) :
    Takes (takeBytes count) bytes bytes := by
  intro rest
  subst h
  rw [takeBytes, if_pos (by simp)]
  simp

theorem takes_fixed {count n : Nat} (h : n < 1 <<< (8 * count)) :
    Takes (takeFixed count) (littleEndian count n) n := by
  refine (takes_bytes (length_littleEndian count n)).bind_last ?_
  rw [ofLittleEndian_littleEndian h]
  exact takes_pure n

/-- A compact number is read by everyone who reads numbers of its width. -/
theorem takes_compact {width n : Nat} (hwidth : 4 ≤ width)
    (h : n < 2 ^ 32 ∨ 8 ≤ width ∧ n < 2 ^ 64) : Takes (takeCompact width) (compact n) n := by
  rw [compact, takeCompact]
  -- by the width that is written, which is the least one that holds the number
  split
  · next hn =>
    have hmarker : UInt8.ofNat n < 251 := by
      rw [UInt8.lt_iff_toNat_lt, UInt8.toNat_ofNat']
      show n % 256 < 251
      omega
    refine (takes_byte (UInt8.ofNat n)).bind_last ?_
    rw [if_pos hmarker, UInt8.toNat_ofNat', Nat.mod_eq_of_lt (by omega)]
    exact takes_pure n
  split
  · next hn =>
    refine (takes_byte 251).bind ?_
    rw [if_neg (by decide), if_pos ⟨rfl, by omega⟩]
    exact takes_fixed hn
  split
  · next hn =>
    refine (takes_byte 252).bind ?_
    rw [if_neg (by decide), if_neg (by simp), if_pos ⟨rfl, hwidth⟩]
    exact takes_fixed hn
  · next hn =>
    have hlarge : 8 ≤ width ∧ n < 2 ^ 64 := h.resolve_left hn
    refine (takes_byte 253).bind ?_
    rw [if_neg (by decide), if_neg (by simp), if_neg (by simp), if_pos ⟨rfl, hlarge.1⟩]
    exact takes_fixed hlarge.2

theorem compact_ne_nil (n : Nat) : compact n ≠ [] := by
  rw [compact]
  split
  · simp
  · split
    · simp
    · split <;> simp

/-! ### Repetition -/

/-- Values are taken one after the other. -/
theorem takes_many {encode : α → List UInt8} {items : List α}
    (h : ∀ a ∈ items, Takes d (encode a) a) :
    Takes (Codec.takeMany d items.length) (items.flatMap encode) items := by
  induction items with
  | nil => exact takes_pure []
  | cons a rest ih =>
    have hrest := ih fun a ha => h a (List.mem_cons_of_mem _ ha)
    exact (h a List.mem_cons_self).bind (hrest.bind_last (takes_pure _))

theorem length_le_flatMap_of_mem {encode : α → List UInt8} {items : List α} (h : a ∈ items) :
    (encode a).length ≤ (items.flatMap encode).length :=
  (List.sublist_flatten_of_mem (List.mem_map_of_mem h)).length_le

/-- There are no more items than bytes. -/
theorem length_le_flatMap {encode : α → List UInt8} (h : ∀ a, encode a ≠ []) (items : List α) :
    items.length ≤ (items.flatMap encode).length := by
  induction items with
  | nil => exact Nat.le_refl 0
  | cons a rest ih =>
    have hpos := List.length_pos_iff.2 (h a)
    rw [List.flatMap_cons, List.length_append, List.length_cons]
    omega

/-- The items that were written after their number are taken one by one. -/
theorem takes_counted {encode : α → List UInt8} {items : List α} {f : List α → Decoder β}
    (hfilled : ∀ a, encode a ≠ []) (hlen : (items.flatMap encode).length < 2 ^ 64)
    (h : ∀ a ∈ items, (encode a).length ≤ (items.flatMap encode).length → Takes d (encode a) a)
    (hf : Takes (f items) [] b) :
    Takes (do f (← Codec.takeMany d (← takeCompact 8)))
      (compact items.length ++ items.flatMap encode) b := by
  have hcount := length_le_flatMap hfilled items
  refine (takes_compact (by decide) (.inr ⟨Nat.le_refl 8, by omega⟩)).bind ?_
  exact (takes_many fun a ha => h a ha (length_le_flatMap_of_mem ha)).bind_last hf

/-- The number of a case is a small one, written as one byte. -/
theorem takes_case {n : Nat} {f : Nat → Decoder α} (hn : n < 251) (h : Takes (f n) bytes a) :
    Takes (Codec.takeCase >>= f) (UInt8.ofNat n :: bytes) a := by
  have hcompact : Takes Codec.takeCase (compact n) n :=
    takes_compact (Nat.le_refl 4) (.inl (Nat.lt_trans hn (by decide)))
  have hcase : Takes Codec.takeCase [UInt8.ofNat n] n := by
    rwa [compact, if_pos hn] at hcompact
  exact hcase.bind h

end Appraisal.Binary
