import Appraisal.Proofs.Binary.Decoder

/-!
# What codecs restore

A codec restores a value if it takes the value from the bytes that it wrote (`Codec.Restores`).
Every scalar is restored, and a composition restores what its parts restore. The lengths of texts
and of lists are written as numbers below `2 ^ 64`; since no item is without bytes
(`Codec.Filled`), this is no restriction as long as the bytes are fewer than that.
-/

namespace Appraisal

open Binary

namespace Codec

variable {α β : Type} {a : Codec α} {b : Codec β}

/-- A codec takes a value from the bytes that it wrote for it, if they can be counted. -/
def Restores (c : Codec α) (x : α) : Prop :=
  (c.encode x).length < 2 ^ 64 → Takes c.decode (c.encode x) x

/-- A codec writes something for every value. -/
def Filled (c : Codec α) : Prop := ∀ x, c.encode x ≠ []

/-! ### Scalars -/

theorem restores_nat {n : Nat} (h : n < 2 ^ 64) : nat.Restores n :=
  fun _ => takes_compact (by decide) (.inr ⟨Nat.le_refl 8, h⟩)

theorem restores_word (w : UInt64) : word.Restores w := by
  intro _
  refine (takes_compact (by decide) (.inr ⟨Nat.le_refl 8, w.toNat_lt⟩)).bind_last ?_
  rw [UInt64.ofNat_toNat]
  exact takes_pure w

/-- The signed numbers of a width are folded into the unsigned ones of that width. -/
theorem zigzag_lt {i : Int} {half : Nat} (hlow : -half ≤ i) (hhigh : i < half) :
    zigzag i < 2 * half := by
  unfold zigzag
  split <;> omega

theorem restores_int64 (i : Int64) : int64.Restores i := by
  intro _
  have hlow := i.le_toInt
  have hhigh := i.toInt_lt
  have hfits : zigzag i.toInt < 2 * 2 ^ 63 := zigzag_lt (by omega) (by omega)
  refine (takes_compact (by decide) (.inr ⟨Nat.le_refl 8, by omega⟩)).bind_last ?_
  rw [unzigzag_zigzag, Int64.ofInt_toInt]
  exact takes_pure i

theorem restores_int32 (i : Int32) : int32.Restores i := by
  intro _
  have hlow := i.le_toInt
  have hhigh := i.toInt_lt
  have hfits : zigzag i.toInt < 2 * 2 ^ 31 := zigzag_lt (by omega) (by omega)
  refine (takes_compact (Nat.le_refl 4) (.inl (by omega))).bind_last ?_
  rw [unzigzag_zigzag, Int32.ofInt_toInt]
  exact takes_pure i

theorem restores_float (v : Float) : float.Restores v := by
  intro _
  have hfits : v.toBits.toNat < 1 <<< (8 * 8) := v.toBits.toNat_lt
  refine (takes_fixed hfits).bind_last ?_
  rw [UInt64.ofNat_toNat, Float.ofBits_toBits]
  exact takes_pure v

theorem restores_bool (x : Bool) : bool.Restores x := by
  intro _
  cases x
  · exact (takes_byte 0).bind_last (takes_pure false)
  · exact (takes_byte 1).bind_last (takes_pure true)

/-! ### Texts -/

theorem toList_loop (bytes : ByteArray) (i : Nat) (done : List UInt8) :
    ByteArray.toList.loop bytes i done = done.reverse ++ bytes.data.toList.drop i := by
  fun_induction ByteArray.toList.loop bytes i done with
  | case1 i done hi ih =>
    have hdrop : bytes.data.toList.drop i = bytes.get! i :: bytes.data.toList.drop (i + 1) := by
      have hget : bytes.get! i = bytes.data.toList.get ⟨i, hi⟩ := getElem!_pos bytes.data i hi
      rw [hget]
      exact List.drop_eq_getElem_cons hi
    rw [ih, hdrop, List.reverse_cons, List.append_assoc]
    rfl
  | case2 i done hi =>
    have hnil : bytes.data.toList.drop i = [] := List.drop_eq_nil_of_le (Nat.not_lt.1 hi)
    rw [hnil, List.append_nil]

theorem toList_eq (bytes : ByteArray) : bytes.toList = bytes.data.toList :=
  toList_loop bytes 0 []

theorem length_toList (s : String) : s.toByteArray.toList.length = s.utf8ByteSize := by
  rw [toList_eq]
  rfl

theorem restores_string (s : String) : string.Restores s := by
  intro hlen
  have hsize : s.utf8ByteSize < 2 ^ 64 := by
    simp only [string, List.length_append, length_toList] at hlen
    omega
  refine (takes_compact (by decide) (.inr ⟨Nat.le_refl 8, hsize⟩)).bind ?_
  refine (takes_bytes (length_toList s)).bind_last ?_
  have hread : String.fromUTF8? ⟨s.toByteArray.toList.toArray⟩ = some s := by
    rw [toList_eq]
    exact dif_pos s.isValidUTF8
  rw [hread]
  exact takes_pure s

/-! ### Composition -/

/-- A codec for a type restores what is made again from its parts. -/
theorem Restores.via {make : α → β} {parts : β → α} {y : β} (h : a.Restores (parts y))
    (hy : make (parts y) = y) : (a.via make parts).Restores y := by
  intro hlen
  have hmap := (h hlen).map make
  rwa [hy] at hmap

theorem Restores.pair {v : α × β} (ha : a.Restores v.1) (hb : b.Restores v.2) :
    (a.pair b).Restores v := by
  intro hlen
  simp only [Codec.pair, List.length_append] at hlen
  exact (ha (by omega)).bind ((hb (by omega)).bind_last (takes_pure v))

theorem Restores.option {o : Option α} (h : ∀ x ∈ o, a.Restores x) : a.option.Restores o := by
  intro hlen
  cases o with
  | none => exact (takes_byte 0).bind_last (takes_pure none)
  | some x =>
    simp only [Codec.option, List.length_cons] at hlen
    exact (takes_byte 1).bind ((h x rfl (by omega)).bind_last (takes_pure _))

theorem Restores.list {xs : List α} (hfilled : a.Filled) (h : ∀ x ∈ xs, a.Restores x) :
    a.list.Restores xs := by
  intro hlen
  simp only [Codec.list, List.length_append] at hlen
  have htakes := takes_counted (f := pure) hfilled (by omega)
    (fun x hx hx' => h x hx (by omega)) (takes_pure xs)
  simp only [bind_pure] at htakes
  exact htakes

theorem Filled.pair (h : a.Filled) : (a.pair b).Filled :=
  fun v hnil => h v.1 (List.append_eq_nil_iff.1 hnil).1

theorem filled_string : string.Filled :=
  fun _ hnil => compact_ne_nil _ (List.append_eq_nil_iff.1 hnil).1

theorem restores_table {t : Table α} (h : ∀ x, a.Restores x) : a.table.Restores t := by
  refine Restores.via ?_ t.ofList_entries
  exact .list filled_string.pair fun e _ => .pair (restores_string e.1) (h e.2)

theorem restores_oneOf [BEq α] [LawfulBEq α] {values : List α} {x : α} (hx : x ∈ values)
    (hlen : values.length < 2 ^ 32) : (oneOf values).Restores x := by
  intro _
  have hplace := List.idxOf_lt_length_of_mem hx
  refine (takes_compact (Nat.le_refl 4) (.inl (by omega))).bind_last ?_
  have hget : values[values.idxOf x]? = some x := by
    rw [List.getElem?_eq_getElem hplace, List.getElem_idxOf]
  rw [hget]
  exact takes_pure x

end Codec

end Appraisal
