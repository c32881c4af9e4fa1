/-!
# Integers as bytes

A fixed number of bytes holds an integer with its low byte first (`littleEndian`). A compact
integer takes one byte if it is small, and else a marker that tells its width. Signed integers
are folded into unsigned ones, so that those near zero stay small.
-/

namespace Appraisal.Binary

/-- A reader of bytes. -/
abbrev Decoder := StateT (List UInt8) Option

/-! ### Fixed width -/

/-- The low bytes of a number, the lowest first. -/
def littleEndian : (count : Nat) → Nat → List UInt8
  | 0, _ => []
  | count + 1, n => UInt8.ofNat (n % 256) :: littleEndian count (n / 256)

/-- The number that bytes stand for, the lowest first. -/
def ofLittleEndian : List UInt8 → Nat
  | [] => 0
  | b :: rest => b.toNat + 256 * ofLittleEndian rest

theorem length_littleEndian (count n : Nat) : (littleEndian count n).length = count := by
  induction count generalizing n with
  | zero => rfl
  | succ count ih => simp [littleEndian, ih]

/-- The bytes of a number that fits them stand for it. -/
theorem ofLittleEndian_littleEndian {count n : Nat} (h : n < 1 <<< (8 * count)) :
    ofLittleEndian (littleEndian count n) = n := by
  induction count generalizing n with
  | zero =>
    simp only [Nat.mul_zero, Nat.shiftLeft_zero, Nat.lt_one_iff] at h
    simp [littleEndian, ofLittleEndian, h]
  | succ count ih =>
    have hdiv : n / 256 < 1 <<< (8 * count) := by
      rw [Nat.div_lt_iff_lt_mul (by decide)]
      rw [Nat.mul_succ, Nat.shiftLeft_add, Nat.shiftLeft_eq _ 8] at h
      exact h
    rw [littleEndian, ofLittleEndian, ih hdiv]
    simp only [UInt8.toNat_ofNat', Nat.reducePow]
    omega

/-- Take one byte. -/
def takeByte : Decoder UInt8 := fun bytes =>
  match bytes with
  | [] => none
  | b :: rest => some (b, rest)

/-- Take a number of bytes. -/
def takeBytes (count : Nat) : Decoder (List UInt8) := fun bytes =>
  if count ≤ bytes.length then some (bytes.take count, bytes.drop count) else none

/-- Take a number of fixed width. -/
def takeFixed (count : Nat) : Decoder Nat := return ofLittleEndian (← takeBytes count)

/-! ### Compact -/

/-- The compact bytes of a number below `2 ^ 64`. -/
def compact (n : Nat) : List UInt8 :=
  if n < 251 then [UInt8.ofNat n]
  else if n < UInt16.size then 251 :: littleEndian 2 n
  else if n < UInt32.size then 252 :: littleEndian 4 n
  else 253 :: littleEndian 8 n

/-- Take a compact number that may be `width` bytes wide. More bytes than needed do no harm. -/
def takeCompact (width : Nat) : Decoder Nat := do
  let marker ← takeByte
  if marker < 251 then return marker.toNat
  else if marker = 251 ∧ 2 ≤ width then takeFixed 2
  else if marker = 252 ∧ 4 ≤ width then takeFixed 4
  else if marker = 253 ∧ 8 ≤ width then takeFixed 8
  else failure

/-! ### Signed -/

/-- Numbers from zero on become even ones, those below it odd ones. -/
def zigzag (i : Int) : Nat := if i < 0 then (-2 * i - 1).toNat else (2 * i).toNat

/-- The signed number that an unsigned one stands for. -/
def unzigzag (n : Nat) : Int := if n % 2 = 0 then n / 2 else -((n : Int) + 1) / 2

theorem unzigzag_zigzag (i : Int) : unzigzag (zigzag i) = i := by
  unfold zigzag unzigzag
  split <;> split <;> omega

end Appraisal.Binary
