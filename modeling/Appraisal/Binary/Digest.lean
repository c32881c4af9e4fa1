/-!
# Digests

The BLAKE3 hash of a text of bytes. The bytes are cut into chunks, a chunk into blocks; every
block is mixed into a chaining value, and the chaining values of the chunks are the leaves of a
binary tree whose left branches are full. The hash is the last mixing, marked as the root.
-/

namespace Appraisal

/-- A hash of 32 bytes. -/
abbrev Digest := Vector UInt8 32

namespace Digest

/-- Eight words that stand for all that was mixed in before. -/
abbrev Chain := Vector UInt32 8

/-- The sixteen words of a block. -/
abbrev Block := Vector UInt32 16

/-- The chaining value that everything starts from. -/
def start : Chain := #v[
  0x6a09e667, 0xbb67ae85, 0x3c6ef372, 0xa54ff53a, 0x510e527f, 0x9b05688c, 0x1f83d9ab, 0x5be0cd19]

/-! ### Mixing -/

/-- Turn the bits of a word to the right. -/
def rotate (w : UInt32) (count : UInt32) : UInt32 := (w >>> count) ||| (w <<< (32 - count))

/-- Mix two words of a message into four of the state. -/
def mix (s : Block) (a b c d : Fin 16) (x y : UInt32) : Block :=
  let va := s[a] + s[b] + x
  let vd := rotate (s[d] ^^^ va) 16
  let vc := s[c] + vd
  let vb := rotate (s[b] ^^^ vc) 12
  let va := va + vb + y
  let vd := rotate (vd ^^^ va) 8
  let vc := vc + vd
  let vb := rotate (vb ^^^ vc) 7
  (((s.set a va).set b vb).set c vc).set d vd

/-- Mix a whole message in, first along the columns, then along the diagonals. -/
def round (s m : Block) : Block :=
  -- the columns
  let s := mix s 0 4 8 12 m[0] m[1]
  let s := mix s 1 5 9 13 m[2] m[3]
  let s := mix s 2 6 10 14 m[4] m[5]
  let s := mix s 3 7 11 15 m[6] m[7]
  -- the diagonals
  let s := mix s 0 5 10 15 m[8] m[9]
  let s := mix s 1 6 11 12 m[10] m[11]
  let s := mix s 2 7 8 13 m[12] m[13]
  mix s 3 4 9 14 m[14] m[15]

/-- The order of the words of a message in the next round. -/
def permute (m : Block) : Block := #v[
  m[2], m[6], m[3], m[10], m[7], m[0], m[4], m[13],
  m[1], m[11], m[12], m[5], m[9], m[14], m[15], m[8]]

/-- A number of rounds, with the message permuted between them. -/
def rounds : Nat → Block → Block → Block
  | 0, s, _ => s
  | n + 1, s, m => rounds n (round s m) (permute m)

/-- What a block is mixed with, beside its words. -/
structure Node where
  chain : Chain
  block : Block
  counter : UInt64
  /-- The number of bytes in the block. -/
  length : UInt32
  flags : UInt32

/-- The mark of the first block of a chunk. -/
def Node.chunkStart : UInt32 := 1

/-- The mark of the last block of a chunk. -/
def Node.chunkEnd : UInt32 := 2

/-- The mark of a node above others. -/
def Node.parent : UInt32 := 4

/-- The mark of the root. -/
def Node.root : UInt32 := 8

/-- The chaining value after a node. -/
def Node.compress (n : Node) : Chain :=
  let v := n.chain
  let s : Block := #v[
    v[0], v[1], v[2], v[3], v[4], v[5], v[6], v[7], start[0], start[1], start[2], start[3],
    n.counter.toUInt32, (n.counter >>> 32).toUInt32, n.length, n.flags]
  let s := rounds 7 s n.block
  #v[s[0] ^^^ s[8], s[1] ^^^ s[9], s[2] ^^^ s[10], s[3] ^^^ s[11],
    s[4] ^^^ s[12], s[5] ^^^ s[13], s[6] ^^^ s[14], s[7] ^^^ s[15]]

/-! ### Chunks -/

/-- The words of a block, which is filled up with zeros. -/
def wordsOf (bytes : List UInt8) : Block :=
  let bytes := bytes.toArray
  Vector.ofFn fun (i : Fin 16) =>
    (List.range 4).foldl
      (fun w j => w ||| (bytes.getD (4 * i.val + j) 0).toUInt32 <<< (8 * j).toUInt32) 0

/-- The last node of a chunk, when `bytes` are left of it. -/
def chunkFrom (counter : UInt64) (chain : Chain) (flags : UInt32) (bytes : List UInt8) : Node :=
  if _h : bytes.length ≤ 64 then
    { chain, block := wordsOf bytes, counter, length := bytes.length.toUInt32,
      flags := flags ||| Node.chunkEnd }
  else
    let node : Node := { chain, block := wordsOf (bytes.take 64), counter, length := 64, flags }
    chunkFrom counter node.compress 0 (bytes.drop 64)
  termination_by bytes.length
  decreasing_by
    simp only [List.length_drop]
    omega

/-- The last node of a chunk. -/
def chunk (counter : Nat) (bytes : List UInt8) : Node :=
  chunkFrom counter.toUInt64 start Node.chunkStart bytes

/-! ### The tree -/

/-- The number of bytes of a chunk. -/
def chunkSize : Nat := 1024

/-- The number of bytes in the left branch of a tree: the greatest power of two of chunks that
leaves something for the right branch. -/
def leftSize (length : Nat) : Nat := chunkSize <<< ((length - 1) / chunkSize).log2

theorem leftSize_lt {length : Nat} (h : chunkSize < length) : leftSize length < length := by
  have hne : (length - 1) / chunkSize ≠ 0 := by
    simp only [chunkSize] at *
    omega
  have hlog := Nat.log2_self_le hne
  have hmul := Nat.mul_div_le (length - 1) chunkSize
  have := Nat.mul_le_mul_left chunkSize hlog
  rw [leftSize, Nat.shiftLeft_eq]
  omega

theorem leftSize_pos (length : Nat) : 0 < leftSize length := by
  rw [leftSize, Nat.shiftLeft_eq]
  exact Nat.mul_pos (by decide) (Nat.two_pow_pos _)

/-- The node above all chunks of some bytes, the first of which has the number `first`. -/
def tree (first : Nat) (bytes : List UInt8) : Node :=
  if _h : bytes.length ≤ chunkSize then chunk first bytes
  else
    let size := leftSize bytes.length
    let left := (tree first (bytes.take size)).compress
    let right := (tree (first + size / chunkSize) (bytes.drop size)).compress
    { chain := start, block := left ++ right, counter := 0, length := 64, flags := Node.parent }
  termination_by bytes.length
  decreasing_by
    · have := leftSize_lt (Nat.lt_of_not_le _h)
      simp only [List.length_take]
      omega
    · have := leftSize_lt (Nat.lt_of_not_le _h)
      have := leftSize_pos bytes.length
      simp only [List.length_drop]
      omega

/-- The bytes of a chaining value, the low byte of each word first. -/
def bytesOf (v : Chain) : Digest :=
  Vector.ofFn fun (i : Fin 32) =>
    have : i.val / 4 < 8 := by omega
    (v[i.val / 4] >>> (8 * (i.val % 4)).toUInt32).toUInt8

/-- The hash of some bytes. -/
def hash (bytes : List UInt8) : Digest :=
  let node := tree 0 bytes
  bytesOf { node with flags := node.flags ||| Node.root }.compress

end Digest

end Appraisal
