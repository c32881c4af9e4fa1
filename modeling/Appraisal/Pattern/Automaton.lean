import Appraisal.Pattern.Simplify
import Appraisal.Pattern.Utf8
import Std.Data.HashMap

/-!
# The automaton of a pattern

A pattern is matched by an automaton that reads bytes, or from the end of the text by one that
reads them backwards. Here no automaton is built: its states are counted, with the bytes that they
take, and a pattern whose automata would be too large is refused (`fitsAutomata`).

A state takes 32 bytes. One with several transitions takes 8 more for each of them, and a fork,
which goes on without reading, 4 more for each of its ways.
-/

namespace Appraisal.Pattern

/-- The bytes that an automaton may take. -/
def maxBytes : Nat := 10485760

/-- Which way an automaton reads. -/
inductive Direction
  | forward
  | backward
  deriving DecidableEq

/-- The states counted so far, and the bytes that they take. -/
structure Layout where
  states : Nat
  bytes : Nat

/-- A part of an automaton under construction, unless it has become too large. -/
abbrev Builder := StateT Layout Option

/-- The last state of a part, from which the next part goes on. -/
inductive Exit
  | plain
  | fork

namespace Builder

/-- The bytes of a state. -/
def stateBytes : Nat := 32

/-- The bytes of a transition of a state with several of them. -/
def transitionBytes : Nat := 8

/-- The bytes of a way of a fork. -/
def wayBytes : Nat := 4

/-- Take further bytes. -/
def spend (n : Nat) : Builder Unit := do
  let layout ← get
  guard (layout.bytes + n ≤ maxBytes)
  set { layout with bytes := layout.bytes + n }

/-- Add states. -/
def addStates (n : Nat) : Builder Unit := do
  spend (stateBytes * n)
  modify fun layout => { layout with states := layout.states + n }

/-- Add a state with several transitions, and tell its number. -/
def addState (transitions : Nat) : Builder Nat := do
  let number := (← get).states
  addStates 1
  spend (transitionBytes * transitions)
  return number

/-- Add ways to a fork. -/
def addWays (n : Nat) : Builder Unit := spend (wayBytes * n)

/-- Let a part go on to another; a fork has to get a way for that. -/
def link : Exit → Builder Unit
  | .plain => pure ()
  | .fork => addWays 1

/-- A part and then another. -/
def inTurn (first second : Builder Exit) : Builder Exit := do
  let exit ← first
  let last ← second
  link exit
  return last

/-! ### Repetition -/

/-- A part after `exit`, `n` times. -/
def copies (part : Builder Exit) : (n : Nat) → Exit → Builder Exit
  | 0, exit => pure exit
  | n + 1, exit => do
    let next ← part
    link exit
    copies part n next

/-- A part exactly `n` times. -/
def exactly (part : Builder Exit) : (n : Nat) → Builder Exit
  | 0 => do
    addStates 1
    return .plain
  | n + 1 => do copies part n (← part)

/-- A part after `exit` up to `n` times, where each time may be the last. -/
def optionalCopies (part : Builder Exit) : (n : Nat) → Exit → Builder Exit
  | 0, exit => pure exit
  | n + 1, exit => do
    addStates 1
    let next ← part
    link exit
    addWays 2
    optionalCopies part n next

/-- A part once or not at all. -/
def optional (part : Builder Exit) : Builder Exit := do
  addStates 1
  let exit ← part
  addStates 1
  addWays 2
  link exit
  return .plain

/-- A part that takes characters, any number of times. -/
def star (part : Builder Exit) : Builder Exit := do
  addStates 1
  let exit ← part
  addWays 1
  link exit
  return .fork

/-- A part that may take no characters, any number of times. -/
def starOfNullable (part : Builder Exit) : Builder Exit := do
  let exit ← part
  addStates 3
  link exit
  addWays 4
  return .plain

/-- A part at least once. -/
def plus (part : Builder Exit) : Builder Exit := do
  let exit ← part
  addStates 1
  link exit
  addWays 1
  return .fork

/-- A part at least `low` times and at most `high` times, if there is a bound. -/
def repetition (part : Builder Exit) (nullable : Bool) (low : Nat) (high : Option Nat) :
    Builder Exit := do
  match high, low with
  | none, 0 => if nullable then starOfNullable part else star part
  | none, 1 => plus part
  | none, low + 1 =>
    inTurn (exactly part low) (plus part)
  | some 1, 0 => optional part
  | some high, low =>
    let exit ← exactly part low
    if low = high then return exit
    addStates 1
    let last ← optionalCopies part (high - low) exit
    link last
    return .plain

/-! ### Choices -/

/-- A choice between parts. -/
def choice : List (Builder Exit) → Builder Exit
  | [] => do
    addStates 1
    return .plain
  | [part] => part
  | first :: second :: rest => do
    let a ← first
    let b ← second
    addStates 2
    addWays 2
    link a
    link b
    for part in rest do
      let exit ← part
      addWays 1
      link exit
    return .plain

/-- Texts by what comes next in each of them; a new chunk starts wherever a text ends. -/
def chunks : List (List Nat) → List (List (List Nat))
  | [] => [[]]
  | [] :: rest => [] :: chunks rest
  | text :: rest =>
    match chunks rest with
    | [] => [[text]]
    | chunk :: later => (text :: chunk) :: later

/-- Texts with the same first byte, without that byte. -/
def byFirstByte (texts : List (List Nat)) : List (List (List Nat)) :=
  let firsts := (texts.filterMap List.head?).eraseDups
  firsts.map fun byte => texts.filterMap fun text =>
    if text.head? = some byte then some text.tail else none

/-- A choice between texts: the states after all that the texts of a list have in common. The
same text at once again adds nothing where no text goes on. -/
def trie : (fuel : Nat) → List (List Nat) → Builder Unit
  | 0, _ => pure ()
  | fuel + 1, texts => do
    let (ended, further) := texts.span List.isEmpty
    if further.isEmpty then return
    let chunks := chunks (ended.take 1 ++ further)
    for chunk in chunks do
      let nexts := byFirstByte chunk
      if !nexts.isEmpty then
        let _ ← addState (if nexts.length = 1 then 0 else nexts.length)
        addWays 1
      for next in nexts do
        trie fuel next
    addStates 1
    addWays (chunks.length - 1)

/-- The bytes of a text in the order in which they are read. -/
def readBytes (direction : Direction) (text : List Char) : List Nat :=
  let bytes := text.flatMap utf8Bytes
  match direction with
  | .forward => bytes
  | .backward => bytes.reverse

/-- A choice between texts. -/
def choiceOfTexts (direction : Direction) (texts : List (List Char)) : Builder Exit := do
  let texts := texts.map (readBytes direction)
  addStates 1
  trie (texts.foldl (fun n text => max n text.length) 0 + 1) texts
  return .plain

/-! ### Sets -/

/-- Some of the numbers given for keys: each key has one slot, and the latest key of a slot stays
there. -/
structure SlotCache where
  slots : Nat
  entries : Std.HashMap Nat (List Nat × Nat) := {}

/-- Where a list of numbers belongs: each of them is mixed into a word of 64 bits by an exclusive or
and a multiplication. -/
def SlotCache.slot (cache : SlotCache) (key : List Nat) : Nat :=
  let hash := key.foldl (fun (h : UInt64) (n : Nat) => (h ^^^ n.toUInt64) * 1099511628211)
    14695981039346656037
  hash.toNat % cache.slots

/-- The number given for a key, if it is still known. -/
def SlotCache.find? (cache : SlotCache) (key : List Nat) : Option Nat := do
  let (k, number) ← cache.entries[cache.slot key]?
  if k = key then some number else none

/-- Remember the number of a key. -/
def SlotCache.insert (cache : SlotCache) (key : List Nat) (number : Nat) : SlotCache :=
  { cache with entries := cache.entries.insert (cache.slot key) (key, number) }

/-- The state with some transitions: an equal one that is still known, or a new one. -/
def sharedState (transitions : Nat) (key : List Nat) : StateT SlotCache Builder Nat := do
  match (← get).find? key with
  | some number => return number
  | none =>
    let number ← addState transitions
    modify (·.insert key number)
    return number

/-- The transitions of the edges of a tree, as triples in one list, and their count. Below the last
edge of a block stands the state `target`. -/
def edges (target : Nat) : ByteTree → StateT SlotCache Builder (List Nat × Nat)
  | .leaf => return ([], 0)
  | .edge range below beside => do
    let next ← match below with
      | .leaf => pure target
      | below => do
        let (key, count) ← edges target below
        sharedState count key
    let (key, count) ← edges target beside
    return (range.1 :: range.2 :: next :: key, count + 1)

/-- A character of a set that reaches beyond ASCII, by the tree of its blocks. -/
def setForward (tree : ByteTree) : Builder Exit := do
  let target := (← get).states
  addStates 1
  let build : StateT SlotCache Builder Nat := do
    let (key, count) ← edges target tree
    sharedState count key
  let _ ← build.run' { slots := 10000 }
  return .plain

/-- A character of a set that reaches beyond ASCII, read from its last byte by the blocks of the
set. -/
def setBackward (blocks : List (List ByteRange)) : Builder Exit := do
  addStates 1
  let start := (← get).states
  addStates 1
  let build : StateT SlotCache Builder Unit := do
    for block in blocks do
      let mut next := start
      for range in block do
        next ← sharedState 0 [next, range.1, range.2]
      addWays 1
  build.run' { slots := 1000 }
  return .plain

/-- A character of a set within ASCII. -/
def asciiSet (s : CharSet) : Builder Exit := do
  addStates 1
  let _ ← addState s.runs.length
  return .plain

/-- A character of a set. -/
def charSet (direction : Direction) (s : CharSet) : Builder Exit :=
  if s.runs.all fun run => run.2 < 0x80 then asciiSet s
  else
    match direction with
    | .forward => setForward (byteTree s)
    | .backward => setBackward (byteBlocks s)

end Builder

/-! ### Patterns -/

/-- How to build the automaton of a pattern: as a whole and, where the pattern continues a choice,
by its branches; `texts` are the branches if they are nothing but texts. -/
structure Plan where
  whole : Builder Exit
  branches : List (Builder Exit)
  texts : Option (List (List Char))

/-- The plan of a pattern that is no choice. -/
def Plan.ofWhole (whole : Builder Exit) : Plan := ⟨whole, [whole], none⟩

/-- The plan of a pattern. -/
def plan (direction : Direction) : Pattern → Plan
  | empty | assertion _ _ => .ofWhole do
    Builder.addStates 1
    return .plain
  | literal text =>
    let whole := do
      Builder.addStates (bytesOf text)
      return .plain
    ⟨whole, [whole], some [text]⟩
  | oneOf s => .ofWhole (Builder.charSet direction s)
  | group _ p =>
    let inner := (p.plan direction).whole
    match direction with
    | .forward => .ofWhole do
      Builder.addStates 1
      let exit ← inner
      Builder.addStates 1
      Builder.link exit
      return .plain
    | .backward => .ofWhole inner
  | times low high _ p =>
    .ofWhole (Builder.repetition (p.plan direction).whole (!p.takesSomething) low high)
  | seq p q =>
    let first := (p.plan direction).whole
    let second := (q.plan direction).whole
    .ofWhole <|
      match direction with
      | .forward => Builder.inTurn first second
      | .backward => Builder.inTurn second first
  | alt p q =>
    let first := p.plan direction
    let rest := q.plan direction
    let branches := first.whole :: rest.branches
    match first.texts, rest.texts with
    | some a, some b => ⟨Builder.choiceOfTexts direction (a ++ b), branches, some (a ++ b)⟩
    | _, _ => ⟨Builder.choice branches, branches, none⟩

/-- The whole automaton. One that may start anywhere passes over bytes first; one that reads
forward remembers where the match starts and ends. -/
def automaton (direction : Direction) (p : Pattern) : Builder Unit := do
  let anchored := match direction with
    | .forward => p.fromTextStart
    | .backward => p.toTextEnd
  if anchored then Builder.addStates 1
  else
    Builder.addStates 2
    let _ ← Builder.addState 1
    Builder.addWays 2
  let exit ← match direction with
    | .forward => (plan direction (group 0 p)).whole
    | .backward => (plan direction p).whole
  Builder.addStates 1
  Builder.link exit

/-- Whether the automata of a pattern are small enough. -/
def fitsAutomata (p : Pattern) : Bool :=
  [Direction.forward, .backward].all fun direction =>
    ((automaton direction p).run ⟨0, 0⟩).isSome

end Appraisal.Pattern
