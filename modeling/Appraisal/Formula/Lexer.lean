import Appraisal.Formula.Complaint
import Appraisal.Text.Numeral

/-!
# The words of a text

A formula is cut into tokens from left to right. Blanks and comments are passed over
(`skipBlanks`), then the longest word of the first kind that fits is taken (`token?`): a number, a
text in quotes, a name, or a symbol. Every step leaves fewer characters (`token?_length`), so
`tokenize` ends, either with the end token or at a character that opens no word. The place of a
token is a count that runs along: each step adds the characters that it went past (`passed`).
-/

namespace Appraisal.Lexer

/-! ### Blanks and comments -/

/-- What follows the body of a comment. A comment runs to a line ending or to the end of the
text; a carriage return that ends no line may not stand in it. -/
def afterComment? : List Char → Option (List Char)
  | [] => some []
  | '\n' :: rest => some ('\n' :: rest)
  | '\r' :: '\n' :: rest => some ('\r' :: '\n' :: rest)
  | '\r' :: _ => none
  | _ :: rest => afterComment? rest

theorem afterComment?_length {cs rest : List Char} (h : afterComment? cs = some rest) :
    rest.length ≤ cs.length := by
  fun_induction afterComment? cs <;> grind

/-- The text after the blanks and comments at its front. -/
def skipBlanks (cs : List Char) : List Char :=
  match cs with
  | [] => []
  | c :: rest =>
    if Text.isBlank c then skipBlanks rest
    else if c = '#' then
      match _h : afterComment? rest with
      | some rest => skipBlanks rest
      | none => cs
    else cs
  termination_by cs.length
  decreasing_by
    · simp
    · have := afterComment?_length _h
      simp only [List.length_cons]
      omega

theorem skipBlanks_length (cs : List Char) : (skipBlanks cs).length ≤ cs.length := by
  fun_induction skipBlanks cs with
  | case3 rest more h _ ih =>
    have := afterComment?_length h
    simp only [List.length_cons]
    omega
  | _ => grind

/-! ### Numbers -/

/-- The digits of a number: those before the point, those after it if there is a point, and the
exponent if there is one. -/
structure Numeral where
  whole : List Char
  fraction : Option (List Char)
  exponent : Option Int

/-- A whole number that fits 64 bits is an integer; any other number is a float. -/
def Numeral.token (n : Numeral) : Token :=
  let digits := Number.digitsValue (n.whole ++ n.fraction.getD [])
  let float := Token.float <|
    Number.ofDecimal digits (n.exponent.getD 0 - (n.fraction.getD []).length)
  match n.fraction, n.exponent with
  | none, none => match Number.int64? digits with
    | some i => .int i
    | none => float
  | _, _ => float

/-- The exponent at the front of a text. Without digits there is no exponent. -/
def exponent : List Char → Option Int × List Char
  | [] => (none, [])
  | c :: rest =>
    let (negative, more) := Number.splitSign rest
    let digits := more.takeWhile Char.isDigit
    if (c = 'e' ∨ c = 'E') ∧ digits ≠ [] then
      let n : Int := Number.digitsValue digits
      (some (if negative then -n else n), more.dropWhile Char.isDigit)
    else (none, c :: rest)

/-- The number at the front of a text: digits that a point may follow, or a point with digits
after it, and an exponent. -/
def number? (cs : List Char) : Option (Numeral × List Char) :=
  let whole := cs.takeWhile Char.isDigit
  let rest := cs.dropWhile Char.isDigit
  match rest with
  | '.' :: more =>
    let fraction := more.takeWhile Char.isDigit
    if whole = [] ∧ fraction = [] then none
    else
      let (e, rest) := exponent (more.dropWhile Char.isDigit)
      some (⟨whole, some fraction, e⟩, rest)
  | _ =>
    if whole = [] then none
    else
      let (e, rest) := exponent rest
      some (⟨whole, none, e⟩, rest)

/-! ### Texts in quotes -/

/-- What a backslash and a character stand for. A pair without a meaning stands for itself. -/
def unescape : Char → List Char
  | '"' => ['"']
  | '\'' => ['\'']
  | '\\' => ['\\']
  | 'n' => ['\n']
  | 't' => ['\t']
  | c => ['\\', c]

/-- The characters up to the closing quote, and what follows it. -/
def quotedBody (quote : Char) : List Char → Option (List Char × List Char)
  | [] => none
  | [c] => if c = quote then some ([], []) else none
  | c :: d :: rest =>
    if c = quote then some ([], d :: rest)
    else if c = '\\' then
      (quotedBody quote rest).map fun (body, rest) => (unescape d ++ body, rest)
    else
      (quotedBody quote (d :: rest)).map fun (body, rest) => (c :: body, rest)

/-- Whether a character opens a text in quotes. -/
def isQuote (c : Char) : Bool := c == '"' || c == '\''

/-- The text in quotes at the front. -/
def quoted? : List Char → Option (List Char × List Char)
  | [] => none
  | c :: rest => if isQuote c then quotedBody c rest else none

/-! ### Names -/

/-- Whether a character may open a name. -/
def opensName (c : Char) : Bool := Text.isAlphabetic c || c == '_'

/-- Whether a character may go on with a name. -/
def continuesName (c : Char) : Bool := Text.isAlphanumeric c || c == '_'

/-- Whether a word before a quote marks a text that is to be formatted: an f, alone or with
one more mark. -/
def marksFormatted (word : List Char) : Bool :=
  let lower := word.map Char.toLower
  word.length ≤ 2 && lower.contains 'f' && lower.all fun c => c == 'f' || c == 'r' || c == 'b'

/-- The name at the front of a text, or a text to be formatted. -/
def name? (cs : List Char) : Option (Token × List Char) :=
  match cs with
  | [] => none
  | c :: more =>
    if opensName c then
      let word := c :: more.takeWhile continuesName
      let rest := more.dropWhile continuesName
      -- what stands in the quotes does not matter, since the token is refused later
      if marksFormatted word && (rest.head?.any isQuote) then
        (quoted? rest).map fun (_, rest) => (.formatted, rest)
      else some (.name (String.ofList word), rest)
    else none

/-! ### Symbols -/

/-- The operators and punctuation marks; one that begins with another comes before it. -/
def symbols : List Token := [
  .update .power, .update .floorDivide, .update .shiftRight, .update .shiftLeft,
  .doubleStar, .doubleSlash, .comparison .eq, .comparison .ne, .comparison .le, .comparison .ge,
  .walrus, .bitwise .shiftLeft, .bitwise .shiftRight,
  .update .add, .update .subtract, .update .multiply, .update .divide, .update .modulo,
  .update .both, .update .either, .update .differ, .update .product,
  .plus, .minus, .star, .slash, .percent, .comparison .lt, .comparison .gt, .assign,
  .bitwise .both, .bitwise .either, .bitwise .differ, .bitwise .invert, .bitwise .product,
  .openParen, .closeParen, .openBracket, .closeBracket, .openBrace, .closeBrace,
  .comma, .dot, .colon, .semicolon]

/-- The symbol at the front of a text. -/
def symbol? (cs : List Char) : Option (Token × List Char) :=
  symbols.findSome? fun t => (Text.dropPrefix? t.text.toList cs).map (t, ·)

/-! ### Tokens -/

/-- The token at the front of a text, and what follows it. -/
def token? (cs : List Char) : Option (Token × List Char) :=
  match number? cs with
  | some (n, rest) => some (n.token, rest)
  | none =>
    match quoted? cs with
    | some (body, rest) => some (.string (String.ofList body), rest)
    | none => (name? cs).or (symbol? cs)

theorem exponent_length (cs : List Char) : (exponent cs).2.length ≤ cs.length := by
  unfold exponent
  split
  · simp
  · next c rest =>
    have : (Number.splitSign rest).2.length ≤ rest.length := by
      unfold Number.splitSign
      split <;> simp
    have := (List.dropWhile_sublist (l := (Number.splitSign rest).2) Char.isDigit).length_le
    dsimp only
    split <;> grind

theorem length_dropWhile_le (p : Char → Bool) (cs : List Char) :
    (cs.dropWhile p).length ≤ cs.length :=
  (List.dropWhile_sublist p).length_le

theorem length_dropWhile_lt {p : Char → Bool} {cs : List Char} (h : cs.takeWhile p ≠ []) :
    (cs.dropWhile p).length < cs.length := by
  have hlen := congrArg List.length (List.takeWhile_append_dropWhile (p := p) (l := cs))
  have := List.length_pos_iff.2 h
  rw [List.length_append] at hlen
  omega

theorem number?_length {cs rest : List Char} {n : Numeral} (h : number? cs = some (n, rest)) :
    rest.length < cs.length := by
  have hle := length_dropWhile_le Char.isDigit cs
  simp only [number?] at h
  split at h
  · next more hmore =>
    rw [hmore, List.length_cons] at hle
    have h1 := length_dropWhile_le Char.isDigit more
    have h2 := exponent_length (more.dropWhile Char.isDigit)
    grind
  · have h2 := exponent_length (cs.dropWhile Char.isDigit)
    split at h
    · simp at h
    · next hwhole =>
      have := length_dropWhile_lt hwhole
      grind

theorem quotedBody_length {quote : Char} {cs body rest : List Char}
    (h : quotedBody quote cs = some (body, rest)) : rest.length < cs.length := by
  fun_induction quotedBody quote cs generalizing body rest with
  | case5 d more _ ih =>
    obtain ⟨⟨b, r⟩, hb, he⟩ := Option.map_eq_some_iff.1 h
    have := ih hb
    grind
  | case6 c d more _ _ ih =>
    obtain ⟨⟨b, r⟩, hb, he⟩ := Option.map_eq_some_iff.1 h
    have := ih hb
    grind
  | _ => grind

theorem quoted?_length {cs body rest : List Char} (h : quoted? cs = some (body, rest)) :
    rest.length < cs.length := by
  unfold quoted? at h
  split at h
  · simp at h
  · split at h
    · have := quotedBody_length h
      simp only [List.length_cons]
      omega
    · simp at h

theorem name?_length {cs rest : List Char} {t : Token} (h : name? cs = some (t, rest)) :
    rest.length < cs.length := by
  unfold name? at h
  split at h
  · simp at h
  · next c more =>
    have hle := length_dropWhile_le continuesName more
    split at h
    · dsimp only at h
      split at h
      · obtain ⟨⟨b, r⟩, hb, he⟩ := Option.map_eq_some_iff.1 h
        have := quoted?_length hb
        grind
      · grind
    · simp at h

theorem symbols_nonempty : ∀ s ∈ symbols, 0 < s.text.toList.length := by
  simp [symbols, Token.text, UpdateOp.symbol, BitwiseOp.symbol, Comparison.symbol]

theorem symbol?_length {cs rest : List Char} {t : Token} (h : symbol? cs = some (t, rest)) :
    rest.length < cs.length := by
  obtain ⟨s, hs, ht⟩ := List.exists_of_findSome?_eq_some h
  obtain ⟨r, hr, he⟩ := Option.map_eq_some_iff.1 ht
  have hlen := congrArg List.length (Text.dropPrefix?_eq_some_iff.1 hr)
  have hpos : 0 < s.text.toList.length := symbols_nonempty s hs
  rw [List.length_append] at hlen
  grind

/-- Every token takes at least one character. -/
theorem token?_length {cs rest : List Char} {t : Token} (h : token? cs = some (t, rest)) :
    rest.length < cs.length := by
  unfold token? at h
  split at h
  · next n r hn =>
    have := number?_length hn
    grind
  · split at h
    · next b r hq =>
      have := quoted?_length hq
      grind
    · rcases Option.or_eq_some_iff.1 h with h | ⟨_, h⟩
      · exact name?_length h
      · exact symbol?_length h

/-! ### Whole formulas -/

/-- The complaint about a text whose first character opens no token. -/
def complaintAt : List Char → Complaint
  | [] => .endsEarly .nothing
  | '"' :: _ | '\'' :: _ => .unterminatedString
  | '!' :: _ => .strayBang
  | '\\' :: _ => .lineContinuation
  | c :: _ => .strayCharacter c

/-- How many characters of a text were gone past to reach the rest of it. -/
def passed (cs rest : List Char) : Nat := cs.length - rest.length

@[simp] theorem passed_self (cs : List Char) : passed cs cs = 0 :=
  Nat.sub_self _

@[simp] theorem passed_append (front rest : List Char) :
    passed (front ++ rest) rest = front.length := by
  rw [passed, List.length_append, Nat.add_sub_cancel]

theorem passed_add_length {cs rest : List Char} (h : rest.length ≤ cs.length) :
    passed cs rest + rest.length = cs.length :=
  Nat.sub_add_cancel h

/-- The tokens of the rest of a formula, with `place` characters in front of it. -/
def tokensFrom (place : Nat) (cs : List Char) : Except ParseError (List PlacedToken) :=
  match _hb : skipBlanks cs with
  | [] => .ok [⟨.finish, place + passed cs []⟩]
  | c :: more =>
    let position := place + passed cs (c :: more)
    match _ht : token? (c :: more) with
    | none => .error ⟨complaintAt (c :: more), position⟩
    | some (t, rest) =>
      (tokensFrom (position + passed (c :: more) rest) rest).map (⟨t, position⟩ :: ·)
  termination_by cs.length
  decreasing_by
    have := skipBlanks_length cs
    have := token?_length _ht
    grind

/-- One step: blanks are gone past, then the word behind them. -/
theorem tokensFrom_eq (place : Nat) (cs : List Char) :
    tokensFrom place cs = match skipBlanks cs with
      | [] => .ok [⟨.finish, place + passed cs []⟩]
      | c :: more => match token? (c :: more) with
        | none => .error ⟨complaintAt (c :: more), place + passed cs (c :: more)⟩
        | some (t, rest) =>
          (tokensFrom (place + passed cs (c :: more) + passed (c :: more) rest) rest).map
            (⟨t, place + passed cs (c :: more)⟩ :: ·) := by
  rw [tokensFrom]
  split
  · next hskip => rw [hskip]
  · next hskip =>
    rw [hskip]
    dsimp only
    split
    · next htoken => rw [htoken]
    · next htoken => rw [htoken]

/-- The tokens of a formula, the end token last. -/
def tokenize (source : List Char) : Except ParseError (List PlacedToken) :=
  tokensFrom 0 source

end Appraisal.Lexer
