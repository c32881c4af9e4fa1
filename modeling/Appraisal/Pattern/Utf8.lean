import Appraisal.CharSet.Basic

/-!
# Sets as blocks of bytes

An automaton reads the bytes of the encoding of a text. A run of code points falls into blocks,
each of them all the texts with a first byte from one range, a second byte from another one and so
on (`byteBlocks`); `ByteTree` gathers the blocks that begin alike.
-/

namespace Appraisal.Pattern

/-- The least and the greatest value that a byte may have. -/
abbrev ByteRange := Nat × Nat

/-- The bytes of the encoding of a character. -/
def utf8Bytes (c : Char) : List Nat := (String.utf8EncodeChar c).map UInt8.toNat

/-! ### Blocks -/

/-- A run in two parts, the first of them up to `bound`, if that lies inside. -/
def cutAfter (bound : Nat) (run : Nat × Nat) : List (Nat × Nat) :=
  if run.1 ≤ bound ∧ bound < run.2 then [(run.1, bound), (bound + 1, run.2)] else [run]

/-- A run in up to three parts, so that those which reach over several stretches of `size` code
points hold all of them. -/
def cutEvery (size : Nat) (run : Nat × Nat) : List (Nat × Nat) :=
  let (first, last) := run
  if first / size = last / size then [run]
  else
    let middle := if first % size = 0 then first else (first / size + 1) * size
    let head := if first < middle then [(first, middle - 1)] else []
    if middle / size = last / size ∨ last % size + 1 = size then head ++ [(middle, last)]
    else head ++ [(middle, last / size * size - 1), (last / size * size, last)]

/-- The blocks of a run of code points with encodings of one length. -/
def blocksOfWidth (run : Nat × Nat) : List (List ByteRange) :=
  let runs := if run.2 < 0x80 then [run]
    else [0x40, 0x1000, 0x40000].foldl (fun runs size => runs.flatMap (cutEvery size)) [run]
  runs.map fun r => (utf8Bytes (Char.ofNat r.1)).zip (utf8Bytes (Char.ofNat r.2))

/-- The blocks of a set, in ascending order. -/
def byteBlocks (s : CharSet) : List (List ByteRange) :=
  let runs := [0x7f, 0x7ff, 0xffff].foldl (fun runs bound => runs.flatMap (cutAfter bound)) s.runs
  runs.flatMap blocksOfWidth

/-! ### Blocks that begin alike -/

/-- Blocks by their first ranges; `below` an edge stand the further bytes of its blocks, `beside`
it the edges after it. -/
inductive ByteTree
  | leaf
  | edge (range : ByteRange) (below beside : ByteTree)
  deriving Inhabited

/-- Put a block in front of others. -/
def ByteTree.add : List ByteRange → ByteTree → ByteTree
  | [], tree => tree
  | range :: block, leaf => edge range (add block leaf) leaf
  | range :: block, edge r below beside =>
    if range = r then edge r (add block below) beside
    else edge range (add block leaf) (edge r below beside)

/-- The tree of a set. -/
def byteTree (s : CharSet) : ByteTree := (byteBlocks s).foldr ByteTree.add .leaf

end Appraisal.Pattern
