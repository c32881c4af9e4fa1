import Appraisal.Formula.Complaint
import Appraisal.Formula.Phrase

/-!
# The phrase of a list of tokens

A recursive descent over the tokens. From the loosest to the tightest, the levels are: the
conditional, `or`, `and`, `not`, comparison chains, sums, terms, signs, powers, and a value with
its attributes, calls and subscripts.

The `Cursor` holds the tokens that are left and counts the levels that are open. Every step that
makes the tree higher is counted by `Cursor.enter`, which refuses to pass the maximum, and closed
by `Cursor.leave`; the tail of a chain closes its levels all at once. The numbers that the
functions descend on bound the calls in progress: between two tokens fewer than twenty calls
are made, so `parse` starts with enough of them for any list of tokens.
-/

namespace Appraisal

/-- A place in a list of tokens. -/
structure Cursor where
  /-- The token read last. -/
  before : Option Token
  /-- The tokens that are left. -/
  rest : List PlacedToken
  /-- The number of open levels. -/
  depth : Nat
  /-- The number of levels that may be open. -/
  maximum : Nat

namespace Cursor

/-- The next token. -/
def peek (c : Cursor) : Token :=
  match c.rest with
  | [] => .finish
  | t :: _ => t.token

/-- The token after the next one. -/
def peekSecond (c : Cursor) : Token :=
  match c.rest with
  | _ :: t :: _ => t.token
  | _ => .finish

/-- Where the next token stands. -/
def position (c : Cursor) : Nat :=
  match c.rest with
  | [] => 0
  | t :: _ => t.position

/-- Pass the next token. -/
def advance (c : Cursor) : Cursor :=
  match c.rest with
  | [] => c
  | t :: rest => { c with before := some t.token, rest := rest }

/-- A complaint about the next token. -/
def complain (c : Cursor) (complaint : Complaint) : ParseError := ⟨complaint, c.position⟩

/-- Open a level. -/
def enter (c : Cursor) : Except ParseError Cursor :=
  if c.maximum < c.depth + 1 then .error (c.complain (.nestedTooDeep c.maximum))
  else .ok { c with depth := c.depth + 1 }

/-- Close levels. -/
def leave (c : Cursor) (levels : Nat) : Cursor := { c with depth := c.depth - levels }

/-- Whether the next token is the given word. -/
def atWord (c : Cursor) (word : String) : Bool := c.peek.isName word

/-- The complaint about a token that cannot open an operand. -/
def operandError (c : Cursor) : ParseError :=
  c.complain <| match c.peek with
    | .finish => .endsEarly <| match c.before with
      | none => .nothing
      | some t =>
        if t.isBinaryOperator then .operator t
        else match t with
          | .openParen | .openBracket | .comma => .opening
          | _ => .other
    | .closeParen => .strayClosing .round
    | .bitwise op => .bitwise op
    | t => if t.isAssignment then .assignment t else .strayOperand t

/-- The complaint about a token that follows a complete formula. -/
def trailingError (c : Cursor) : ParseError :=
  c.complain <| match c.peek with
    | .semicolon => .severalStatements
    | .closeParen => .strayClosing .round
    | .closeBracket => .strayClosing .square
    | .colon => .strayColon
    | .name word =>
      if word = "in" ∨ word = "is" then .membership
      else if isStatementWord word then .statement word
      else .missingOperator (.name word)
    | t => if t.isAssignment then .assignment t else .missingOperator t

/-- Pass the token that closes a pair of brackets, whose opening half stands at `start`. -/
def close (c : Cursor) (bracket : Bracket) (start : Nat) : Except ParseError Cursor :=
  if bracket.isClosedBy c.peek then .ok c.advance
  else match c.peek with
    | .finish => .error ⟨.unclosed bracket start, start⟩
    | t =>
      .error <| c.complain <|
        if t.isAssignment then .assignment t
        else if t.isName "for" then .comprehension
        else if t.isName "in" || t.isName "is" then .membership
        else match t, bracket with
          | .colon, .square => .slice
          | _, _ => .wrongClosing bracket t

end Cursor

/-! ### Levels of chained operators -/

/-- The levels whose operators have two operands and group to the left. -/
inductive ChainLevel
  | disjunction
  | conjunction
  | sum
  | term
  deriving DecidableEq

/-- An operator that joins two phrases. -/
inductive Joiner
  | logical (op : LogicalOp)
  | arithmetic (op : ArithmeticOp)

/-- The operator of a level that a token stands for. -/
def ChainLevel.joiner? : ChainLevel → Token → Option Joiner
  | disjunction, .name "or" => some (.logical .or)
  | conjunction, .name "and" => some (.logical .and)
  | sum, .plus => some (.arithmetic .add)
  | sum, .minus => some (.arithmetic .sub)
  | term, .star => some (.arithmetic .mul)
  | term, .slash => some (.arithmetic .div)
  | term, .doubleSlash => some (.arithmetic .floorDiv)
  | term, .percent => some (.arithmetic .mod)
  | _, _ => none

/-- Whether a bitwise operator is noticed between the operands of a level. -/
def ChainLevel.noticesBitwise : ChainLevel → Bool
  | sum | term => true
  | _ => false

/-- Join two phrases; the result begins where the left one does. -/
def Joiner.join (left right : Phrase) : Joiner → Phrase
  | logical op => .logical left.position op left right
  | arithmetic op => .arithmetic left.position op left right

/-- The comparison operator that a token stands for. -/
def Token.comparison? : Token → Option Comparison
  | .comparison op => some op
  | _ => none

/-- The constant that a word stands for. -/
def literalWord? : String → Option Value
  | "True" | "true" => some (.bool true)
  | "False" | "false" => some (.bool false)
  | "None" | "null" => some .null
  | _ => none

namespace Parser

/-- A word that stands for a constant or a field. -/
def word (c : Cursor) (s : String) : Except ParseError (Phrase × Cursor) :=
  if isStatementWord s then .error (c.complain (.statement s))
  else if structuralWords.contains s then .error (c.complain (.leadingWord s))
  else .ok (match literalWord? s with
    | some v => .literal c.position v
    | none => .name c.position s, c.advance)

mutual

/-- A whole expression: a value, or a choice between two by a test. -/
def expression : Nat → Cursor → Except ParseError (Phrase × Cursor)
  | 0, c => .error c.operandError
  | fuel + 1, c => do
    let (e, c) ← conditional fuel (← c.enter)
    return (e, c.leave 1)
  termination_by structural fuel => fuel

/-- An expression whose level is open already. -/
def conditional : Nat → Cursor → Except ParseError (Phrase × Cursor)
  | 0, c => .error c.operandError
  | fuel + 1, c => do
    let (yes, c) ← chain .disjunction fuel c
    if !c.atWord "if" then return (yes, c)
    let (test, c) ← chain .disjunction fuel c.advance
    if !c.atWord "else" then throw (c.complain .missingElse)
    let (no, c) ← expression fuel c.advance
    return (.conditional yes.position test yes no, c)
  termination_by structural fuel => fuel

/-- Operands joined by the operators of a level, grouped to the left. -/
def chain (level : ChainLevel) : Nat → Cursor → Except ParseError (Phrase × Cursor)
  | 0, c => .error c.operandError
  | fuel + 1, c => do
    let (left, c) ← operand level fuel c
    chainTail level fuel 0 left c
  termination_by structural fuel => fuel

/-- The rest of a chain after `left`, with `levels` levels opened for it so far. -/
def chainTail (level : ChainLevel) :
    Nat → Nat → Phrase → Cursor → Except ParseError (Phrase × Cursor)
  | 0, _, _, c => .error c.operandError
  | fuel + 1, levels, left, c =>
    -- the levels stay open to the end of the chain, whose tree grows with every link
    match c.peek with
    | .bitwise op =>
      if level.noticesBitwise then .error (c.complain (.bitwise op))
      else .ok (left, c.leave levels)
    | t =>
      match level.joiner? t with
      | none => .ok (left, c.leave levels)
      | some joiner => do
        let c ← c.enter
        let (right, c) ← operand level fuel c.advance
        chainTail level fuel (levels + 1) (joiner.join left right) c
  termination_by structural fuel => fuel

/-- An operand of a level: a phrase of the next tighter one. -/
def operand (level : ChainLevel) : Nat → Cursor → Except ParseError (Phrase × Cursor)
  | 0, c => .error c.operandError
  | fuel + 1, c =>
    match level with
    | .disjunction => chain .conjunction fuel c
    | .conjunction => negation fuel c
    | .sum => chain .term fuel c
    | .term => signed fuel c
  termination_by structural fuel => fuel

/-- A comparison, denied any number of times. -/
def negation : Nat → Cursor → Except ParseError (Phrase × Cursor)
  | 0, c => .error c.operandError
  | fuel + 1, c =>
    if c.atWord "not" then do
      let start := c.position
      let c ← c.enter
      let (e, c) ← negation fuel c.advance
      return (.unary start .not e, c.leave 1)
    else comparison fuel c
  termination_by structural fuel => fuel

/-- Sums joined by comparison operators into one chain. -/
def comparison : Nat → Cursor → Except ParseError (Phrase × Cursor)
  | 0, c => .error c.operandError
  | fuel + 1, c => do
    let (first, c) ← chain .sum fuel c
    let (links, c) ← comparisonTail fuel c
    match links with
    | [] => return (first, c)
    | links => return (.comparison first.position first links, c)
  termination_by structural fuel => fuel

/-- The links of a comparison chain. -/
def comparisonTail : Nat → Cursor → Except ParseError (List (Comparison × Phrase) × Cursor)
  | 0, c => .error c.operandError
  | fuel + 1, c =>
    match c.peek.comparison? with
    | some op => do
      let (e, c) ← chain .sum fuel c.advance
      let (links, c) ← comparisonTail fuel c
      return ((op, e) :: links, c)
    | none =>
      if c.atWord "in" || c.atWord "is" || (c.atWord "not" && c.peekSecond.isName "in") then
        .error (c.complain .membership)
      else .ok ([], c)
  termination_by structural fuel => fuel

/-- A power with any number of signs before it. -/
def signed : Nat → Cursor → Except ParseError (Phrase × Cursor)
  | 0, c => .error c.operandError
  | fuel + 1, c =>
    match c.peek with
    | .minus => sign .neg fuel c
    | .plus => sign .pos fuel c
    | .bitwise op => .error (c.complain (.bitwise op))
    | _ => power fuel c
  termination_by structural fuel => fuel

/-- A sign and what it is applied to. -/
def sign (op : UnaryOp) : Nat → Cursor → Except ParseError (Phrase × Cursor)
  | 0, c => .error c.operandError
  | fuel + 1, c => do
    let start := c.position
    let c ← c.enter
    let (e, c) ← signed fuel c.advance
    return (.unary start op e, c.leave 1)
  termination_by structural fuel => fuel

/-- A value, raised to a power at most once; the exponent may have signs and powers of its
own. -/
def power : Nat → Cursor → Except ParseError (Phrase × Cursor)
  | 0, c => .error c.operandError
  | fuel + 1, c => do
    let (base, c) ← primary fuel c
    match c.peek with
    | .doubleStar =>
      let c ← c.enter
      let (e, c) ← signed fuel c.advance
      return (.arithmetic base.position .pow base e, c.leave 1)
    | _ => return (base, c)
  termination_by structural fuel => fuel

/-- A value with its attributes, calls and subscripts. -/
def primary : Nat → Cursor → Except ParseError (Phrase × Cursor)
  | 0, c => .error c.operandError
  | fuel + 1, c => do
    let (e, c) ← atom fuel c
    primaryTail fuel 0 e c
  termination_by structural fuel => fuel

/-- The attributes, calls and subscripts after `e`, with `levels` levels opened for them so
far. -/
def primaryTail : Nat → Nat → Phrase → Cursor → Except ParseError (Phrase × Cursor)
  | 0, _, _, c => .error c.operandError
  | fuel + 1, levels, e, c =>
    match c.peek with
    | .dot => do
      let c ← c.enter
      let c := c.advance
      match c.peek with
      | .name s => primaryTail fuel (levels + 1) (.member e.position e s) c.advance
      | _ => throw (c.complain .missingAttribute)
    | .openParen => do
      let start := c.position
      let c ← c.enter
      let (arguments, c) ← arguments start fuel c.advance
      primaryTail fuel (levels + 1) (.call e.position e arguments) c
    | .openBracket => do
      let start := c.position
      let c ← c.enter
      let (index, c) ← expression fuel c.advance
      let c ← c.close .square start
      primaryTail fuel (levels + 1) (.subscript e.position e index) c
    | _ => .ok (e, c.leave levels)
  termination_by structural fuel => fuel

/-- The arguments of a call up to its closing bracket. -/
def arguments (start : Nat) : Nat → Cursor → Except ParseError (List (Argument Phrase) × Cursor)
  | 0, c => .error c.operandError
  | fuel + 1, c => do
    if Bracket.round.isClosedBy c.peek then return ([], c.advance)
    let (a, c) ← argument fuel c
    match c.peek with
    | .comma =>
      let (more, c) ← arguments start fuel c.advance
      return (a :: more, c)
    | _ => return ([a], ← c.close .round start)
  termination_by structural fuel => fuel

/-- An argument of a call. -/
def argument : Nat → Cursor → Except ParseError (Argument Phrase × Cursor)
  | 0, c => .error c.operandError
  | fuel + 1, c =>
    match c.peek, c.peekSecond with
    | .star, _ | .doubleStar, _ => do
      let (_, after) ← expression fuel c.advance
      return (.unpacked c.position, after)
    | .name s, .assign => do
      let (_, after) ← expression fuel c.advance.advance
      return (.keyword s c.position, after)
    | _, _ => do
      let (e, c) ← expression fuel c
      if c.atWord "for" then throw (c.complain .comprehension)
      return (.positional e, c)
  termination_by structural fuel => fuel

/-- The items between brackets up to the closing one, and whether a comma stands among them. -/
def items (bracket : Bracket) (start : Nat) :
    Nat → Cursor → Except ParseError ((List Phrase × Bool) × Cursor)
  | 0, c => .error c.operandError
  | fuel + 1, c => do
    if bracket.isClosedBy c.peek then return (([], false), c.advance)
    let (e, c) ← expression fuel c
    if c.atWord "for" then throw (c.complain .comprehension)
    match c.peek with
    | .comma =>
      let ((more, _), c) ← items bracket start fuel c.advance
      return ((e :: more, true), c)
    | _ => return (([e], false), ← c.close bracket start)
  termination_by structural fuel => fuel

/-- A constant, a name, or a phrase in brackets. -/
def atom : Nat → Cursor → Except ParseError (Phrase × Cursor)
  | 0, c => .error c.operandError
  | fuel + 1, c =>
    match c.peek with
    | .int i => .ok (.literal c.position (.int i), c.advance)
    | .float v => .ok (.literal c.position (.float v), c.advance)
    | .string s => .ok (.literal c.position (.string s), c.advance)
    | .name s => word c s
    | .openParen => do
      let (contents, after) ← items .round c.position fuel c.advance
      match contents with
      -- one phrase without a comma is only bracketed
      | ([e], false) => return (e.startingAt c.position, after)
      | (es, _) => return (.tuple c.position es, after)
    | .openBracket => do
      let ((es, _), after) ← items .square c.position fuel c.advance
      return (.list c.position es, after)
    | .formatted => .error (c.complain .formattedString)
    | .openBrace => .error (c.complain .braces)
    | _ => .error c.operandError
  termination_by structural fuel => fuel

end

/-- The phrase that a list of tokens stands for, with no more than `maximum` open levels. -/
def parse (maximum : Nat) (tokens : List PlacedToken) : Except ParseError Phrase := do
  let c : Cursor := ⟨none, tokens, 0, maximum⟩
  match c.peek with
  | .finish => throw ⟨.empty, 0⟩
  | _ =>
    let (e, c) ← expression (20 * (tokens.length + 1)) c
    match c.peek with
    | .finish => return e
    | _ => throw c.trailingError

end Parser

end Appraisal
