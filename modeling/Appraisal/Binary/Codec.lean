import Appraisal.Binary.Integer
import Appraisal.Table

/-!
# Codecs

A codec writes values of a type as bytes and reads them back. Records are their members one after
the other, a list is its length and its items, a choice is a number and what belongs to it.
-/

namespace Appraisal

open Binary

/-- A way to write values as bytes and to read them back. -/
structure Codec (α : Type) where
  encode : α → List UInt8
  decode : Decoder α

namespace Codec

variable {α β : Type}

/-! ### Scalars -/

/-- A number below `2 ^ 64`. -/
def nat : Codec Nat := ⟨compact, takeCompact 8⟩

/-- A word of 64 bits. -/
def word : Codec UInt64 := ⟨fun w => compact w.toNat, return UInt64.ofNat (← takeCompact 8)⟩

/-- A signed integer of 64 bits. -/
def int64 : Codec Int64 :=
  ⟨fun i => compact (zigzag i.toInt), return Int64.ofInt (unzigzag (← takeCompact 8))⟩

/-- A signed integer of 32 bits. -/
def int32 : Codec Int32 :=
  ⟨fun i => compact (zigzag i.toInt), return Int32.ofInt (unzigzag (← takeCompact 4))⟩

/-- A float by its bits. -/
def float : Codec Float :=
  ⟨fun v => littleEndian 8 v.toBits.toNat, return Float.ofBits (UInt64.ofNat (← takeFixed 8))⟩

/-- A truth value. -/
def bool : Codec Bool where
  encode b := [if b then 1 else 0]
  decode := do
    match ← takeByte with
    | 0 => return false
    | 1 => return true
    | _ => failure

/-- A text in UTF-8, after the number of its bytes. -/
def string : Codec String where
  encode s := compact s.utf8ByteSize ++ s.toByteArray.toList
  decode := do
    let bytes ← takeBytes (← takeCompact 8)
    (String.fromUTF8? ⟨bytes.toArray⟩).elim failure pure

/-! ### Composition -/

/-- The same bytes for another type. -/
def via (c : Codec α) (make : α → β) (parts : β → α) : Codec β :=
  ⟨fun b => c.encode (parts b), make <$> c.decode⟩

/-- A value and then another one. -/
def pair (a : Codec α) (b : Codec β) : Codec (α × β) where
  encode v := a.encode v.1 ++ b.encode v.2
  decode := do
    let x ← a.decode
    let y ← b.decode
    return (x, y)

/-- A value, if there is one. -/
def option (c : Codec α) : Codec (Option α) where
  encode
    | none => [0]
    | some a => 1 :: c.encode a
  decode := do
    match ← takeByte with
    | 0 => return none
    | 1 => return some (← c.decode)
    | _ => failure

/-- Take a number of values. -/
def takeMany (item : Decoder α) : Nat → Decoder (List α)
  | 0 => return []
  | n + 1 => do
    let a ← item
    return a :: (← takeMany item n)

/-- A list. -/
def list (c : Codec α) : Codec (List α) where
  encode as := compact as.length ++ as.flatMap c.encode
  decode := do takeMany c.decode (← takeCompact 8)

/-- A table, in the order of its keys. -/
def table (c : Codec α) : Codec (Table α) := (string.pair c).list.via Table.ofList Table.entries

/-- Take the number of a case. -/
def takeCase : Decoder Nat := takeCompact 4

/-- One of a list of values, by its place. -/
def oneOf [BEq α] (values : List α) : Codec α where
  encode a := compact (values.idxOf a)
  decode := do (values[← takeCase]?).elim failure pure

end Codec

end Appraisal
