import Appraisal.Proofs.Formula.Coverage

/-!
# The parser as a system of tasks

The functions of the parser call each other, each with one call less to make. A `Task` is one of
them with the data that it starts from, and `Task.run` is the function itself. What a task does
between its calls is said once, for calls of whatever kind (`Task.step`), so a property of all
functions is a property of one step (`Task.run_succ`).

Beside the calls there are two places where a step relies on the count of open levels: where it
closes levels, and where it goes on with the next item of a row. `Hooks` say what is done there. The
parser closes the levels and goes on; a parser under watch looks first whether that is right
(`Task.watched`). Under watch the cursor is looked at whenever a task begins, too. So a watched
parser does what the parser does, and answers with a breach as soon as anything is wrong:

* no call is left to make;
* a task begins behind the end token, or with more levels open than some limit;
* more levels are closed than are open;
* an item of a row begins with another number of open levels than the row.
-/

namespace Appraisal

/-- A function of the parser and what it starts from, its cursor apart. -/
inductive Task
  | expression
  | conditional
  | chain (level : ChainLevel)
  | chainTail (level : ChainLevel) (levels : Nat) (left : Phrase)
  | operand (level : ChainLevel)
  | negation
  | comparison
  | comparisonTail
  | signed
  | sign (op : UnaryOp)
  | power
  | primary
  | primaryTail (levels : Nat) (e : Phrase)
  | arguments (start : Nat)
  | argument
  | items (bracket : Bracket) (start : Nat)
  | atom

/-- What is done beside the calls. -/
structure Hooks where
  /-- Close levels. -/
  leave : Cursor → (levels : Nat) → Except ParseError Cursor
  /-- Go on with the next item of a row, whose first one stands at `first`. -/
  next : (first after : Cursor) → Except ParseError Cursor

namespace Hooks

/-- Close levels and go on. -/
def plain : Hooks where
  leave c levels := .ok (c.leave levels)
  next _ c := .ok c

/-- Close no more levels than are open, and go on with as many open levels as at first. -/
def watching (breach : ParseError) : Hooks where
  leave c levels := if levels ≤ c.depth then .ok (c.leave levels) else .error breach
  next first c := if c.depth = first.depth then .ok c else .error breach

end Hooks

namespace Task

/-- What a task yields. -/
abbrev Yield : Task → Type
  | comparisonTail => List (Comparison × Phrase)
  | arguments _ => List (Argument Phrase)
  | argument => Argument Phrase
  | items .. => List Phrase × Bool
  | _ => Phrase

/-- A run of a task from a cursor. -/
abbrev Run : Type := (t : Task) → Cursor → Except ParseError (t.Yield × Cursor)

/-- The functions of the parser with `fuel` calls to make. -/
def run (fuel : Nat) : Run
  | expression => Parser.expression fuel
  | conditional => Parser.conditional fuel
  | chain level => Parser.chain level fuel
  | chainTail level levels left => Parser.chainTail level fuel levels left
  | operand level => Parser.operand level fuel
  | negation => Parser.negation fuel
  | comparison => Parser.comparison fuel
  | comparisonTail => Parser.comparisonTail fuel
  | signed => Parser.signed fuel
  | sign op => Parser.sign op fuel
  | power => Parser.power fuel
  | primary => Parser.primary fuel
  | primaryTail levels e => Parser.primaryTail fuel levels e
  | arguments start => Parser.arguments start fuel
  | argument => Parser.argument fuel
  | items bracket start => Parser.items bracket start fuel
  | atom => Parser.atom fuel

/-- What a task does, whatever its calls do. -/
def step (hooks : Hooks) (call : Run) : Run
  | expression, c => do
    let (e, c) ← call .conditional (← c.enter)
    return (e, ← hooks.leave c 1)
  | conditional, c => do
    let (yes, c) ← call (.chain .disjunction) c
    if !c.atWord "if" then return (yes, c)
    let (test, c) ← call (.chain .disjunction) c.advance
    if !c.atWord "else" then throw (c.complain .missingElse)
    let (no, c) ← call .expression c.advance
    return (Phrase.conditional (Phrase.position yes) test yes no, c)
  | chain level, c => do
    let (left, c) ← call (.operand level) c
    call (.chainTail level 0 left) c
  | chainTail level levels left, c =>
    match c.peek with
    | .bitwise op =>
      if level.noticesBitwise then .error (c.complain (.bitwise op))
      else do return (left, ← hooks.leave c levels)
    | t =>
      match level.joiner? t with
      | none => do return (left, ← hooks.leave c levels)
      | some joiner => do
        let c ← c.enter
        let (right, c) ← call (.operand level) c.advance
        call (.chainTail level (levels + 1) (joiner.join left right)) c
  | operand .disjunction, c => call (.chain .conjunction) c
  | operand .conjunction, c => call .negation c
  | operand .sum, c => call (.chain .term) c
  | operand .term, c => call .signed c
  | negation, c =>
    if c.atWord "not" then do
      let start := c.position
      let c ← c.enter
      let (e, c) ← call .negation c.advance
      return (Phrase.unary start .not e, ← hooks.leave c 1)
    else call .comparison c
  | comparison, c => do
    let (first, c) ← call (.chain .sum) c
    let (links, c) ← call .comparisonTail c
    match links with
    | [] => return (first, c)
    | links => return (Phrase.comparison (Phrase.position first) first links, c)
  | comparisonTail, c =>
    match c.peek.comparison? with
    | some op => do
      let (e, c) ← call (.chain .sum) c.advance
      let (links, c) ← call .comparisonTail c
      return (List.cons (op, e) links, c)
    | none =>
      if c.atWord "in" || c.atWord "is" || (c.atWord "not" && c.peekSecond.isName "in") then
        .error (c.complain .membership)
      else .ok ([], c)
  | signed, c =>
    match c.peek with
    | .minus => call (.sign .neg) c
    | .plus => call (.sign .pos) c
    | .bitwise op => .error (c.complain (.bitwise op))
    | _ => call .power c
  | sign op, c => do
    let start := c.position
    let c ← c.enter
    let (e, c) ← call .signed c.advance
    return (Phrase.unary start op e, ← hooks.leave c 1)
  | power, c => do
    let (base, c) ← call .primary c
    match c.peek with
    | .doubleStar =>
      let c ← c.enter
      let (e, c) ← call .signed c.advance
      return (Phrase.arithmetic (Phrase.position base) .pow base e, ← hooks.leave c 1)
    | _ => return (base, c)
  | primary, c => do
    let (e, c) ← call .atom c
    call (.primaryTail 0 e) c
  | primaryTail levels e, c =>
    match c.peek with
    | .dot => do
      let c ← c.enter
      let c := c.advance
      match c.peek with
      | .name s => call (.primaryTail (levels + 1) (.member e.position e s)) c.advance
      | _ => throw (c.complain .missingAttribute)
    | .openParen => do
      let start := c.position
      let c ← c.enter
      let (given, c) ← call (.arguments start) c.advance
      call (.primaryTail (levels + 1) (.call e.position e given)) c
    | .openBracket => do
      let start := c.position
      let c ← c.enter
      let (index, c) ← call .expression c.advance
      let c ← c.close .square start
      call (.primaryTail (levels + 1) (.subscript e.position e index)) c
    | _ => do return (e, ← hooks.leave c levels)
  | arguments start, c => do
    if Bracket.round.isClosedBy c.peek then return ([], c.advance)
    let (a, after) ← call .argument c
    match after.peek with
    | .comma =>
      let (more, after) ← call (.arguments start) (← hooks.next c after.advance)
      return (List.cons a more, after)
    | _ => return ([a], ← after.close .round start)
  | argument, c =>
    match c.peek, c.peekSecond with
    | .star, _ | .doubleStar, _ => do
      let (_, after) ← call .expression c.advance
      return (Argument.unpacked c.position, after)
    | .name s, .assign => do
      let (_, after) ← call .expression c.advance.advance
      return (Argument.keyword s c.position, after)
    | _, _ => do
      let (e, c) ← call .expression c
      if c.atWord "for" then throw (c.complain .comprehension)
      return (Argument.positional e, c)
  | items bracket start, c => do
    if bracket.isClosedBy c.peek then return (([], false), c.advance)
    let (e, after) ← call .expression c
    if after.atWord "for" then throw (after.complain .comprehension)
    match after.peek with
    | .comma =>
      let ((more, _), after) ← call (.items bracket start) (← hooks.next c after.advance)
      return ((e :: more, true), after)
    | _ => return (([e], false), ← after.close bracket start)
  | atom, c =>
    match c.peek with
    | .int i => .ok (.literal c.position (.int i), c.advance)
    | .float v => .ok (.literal c.position (.float v), c.advance)
    | .string s => .ok (.literal c.position (.string s), c.advance)
    | .name s => Parser.word c s
    | .openParen => do
      let (contents, after) ← call (.items .round c.position) c.advance
      match contents with
      | ([e], false) => return (Phrase.startingAt c.position e, after)
      | (es, _) => return (Phrase.tuple c.position es, after)
    | .openBracket => do
      let ((es, _), after) ← call (.items .square c.position) c.advance
      return (Phrase.list c.position es, after)
    | .formatted => .error (c.complain .formattedString)
    | .openBrace => .error (c.complain .braces)
    | _ => .error c.operandError

/-- A function of the parser that may make no call complains. -/
theorem run_zero (t : Task) (c : Cursor) : run 0 t c = .error c.operandError := by
  cases t <;> rfl

/-- A function of the parser that may make a call makes a step. -/
theorem run_succ (fuel : Nat) (t : Task) (c : Cursor) :
    run (fuel + 1) t c = step .plain (run fuel) t c := by
  cases t with
  | operand level => cases level <;> rfl
  | atom =>
    rw [run, Parser.atom, step]
    cases c.peek with
    | openParen =>
      -- what stands in brackets is looked into before it is yielded
      rw [run]
      rcases Parser.items .round c.position fuel c.advance with _ | ⟨⟨es, comma⟩, after⟩
      · rfl
      · rcases es with _ | ⟨e, _ | _⟩ <;> cases comma <;> rfl
    | _ => rfl
  | _ => rfl

/-- The parser under watch. It answers with a breach when no call is left, when a task begins behind
the end token or with more than `limit` open levels, and when a hook finds something wrong. -/
def watched (breach : ParseError) (limit : Nat) : (fuel : Nat) → Run
  | 0, _, _ => .error breach
  | fuel + 1, t, c =>
    if c.rest ≠ [] ∧ c.depth ≤ limit then step (.watching breach) (watched breach limit fuel) t c
    else .error breach

end Task

end Appraisal
