import Appraisal.Proofs.Formula.Grammar
import Appraisal.Proofs.Outcome

/-!
# What is parsed is derived

When the parser yields a phrase, the tokens that it passed have a derivation, and the phrase says
what the derivation says (`Parser.says_of_parse`). The parser does not look beyond the end of a
formula.

* A run passes tokens with a property of what it yields (`Passes`); the tokens of consecutive runs
  join up (`Passes.bind`).
* Every function of the parser passes tokens of its category (`Parser.Derived`,
  `Parser.derived`), by induction on the calls that the functions may make.
-/

namespace Appraisal

open Grammar

variable {α β : Type}

/-! ### Tokens -/

theorem Token.isName_iff {word : String} {t : Token} : t.isName word = true ↔ t = .name word := by
  cases t <;> simp [isName]

/-- The token that closes a pair of brackets. -/
def Bracket.closer : Bracket → Token
  | round => .closeParen
  | square => .closeBracket

theorem Bracket.closer_ne_finish (bracket : Bracket) : bracket.closer ≠ .finish := by
  cases bracket <;> simp [closer]

theorem Bracket.isClosedBy_iff {bracket : Bracket} {t : Token} :
    bracket.isClosedBy t = true ↔ t = bracket.closer := by
  cases bracket <;> cases t <;> simp [isClosedBy, closer]

theorem Token.comparison?_eq_some_iff {t : Token} {op : Comparison} :
    t.comparison? = some op ↔ t = .comparison op := by
  cases t <;> simp [comparison?]

/-! ### Cursors -/

namespace Cursor

/-- The tokens that are left, without their places. -/
def tokens (c : Cursor) : List Token := c.rest.map PlacedToken.token

variable {c after : Cursor} {t : Token}

theorem tokens_of_peek (h : c.peek = t) (ht : t ≠ .finish) : c.tokens = t :: c.advance.tokens := by
  obtain ⟨_, rest, _, _⟩ := c
  cases rest with
  | nil => exact absurd h.symm ht
  | cons u rest =>
    subst h
    rfl

theorem peek_eq (c : Cursor) : c.peek = c.tokens.head?.getD .finish := by
  obtain ⟨_, _ | _, _, _⟩ := c <;> rfl

theorem peek_advance (c : Cursor) : c.advance.peek = c.peekSecond := by
  obtain ⟨_, _ | ⟨_, _ | _⟩, _, _⟩ := c <;> rfl

theorem peek_of_atWord {word : String} (h : c.atWord word = true) : c.peek = .name word :=
  Token.isName_iff.1 h

theorem rest_enter (h : c.enter = .ok after) : after.rest = c.rest := by
  rw [enter] at h
  split at h <;> cases h
  rfl

theorem peek_congr (h : after.rest = c.rest) : after.peek = c.peek := by
  rw [peek, peek, h]

theorem tokens_close {bracket : Bracket} {start : Nat} (h : c.close bracket start = .ok after) :
    c.tokens = bracket.closer :: after.tokens := by
  rw [close] at h
  split at h
  · next hclosed =>
    cases h
    exact tokens_of_peek (Bracket.isClosedBy_iff.1 hclosed) bracket.closer_ne_finish
  · split at h <;> cases h

end Cursor

/-! ### Runs that pass tokens -/

/-- If a run from `c` succeeds, it passes tokens that have `P` with what it yields. -/
def Passes (c : Cursor) (P : List Token → α → Prop) : Except ParseError (α × Cursor) → Prop
  | .ok (a, after) => ∃ ts, c.tokens = ts ++ after.tokens ∧ P ts a
  | .error _ => True

namespace Passes

variable {c : Cursor} {P : List Token → α → Prop} {Q : List Token → β → Prop}

theorem stay {a : α} {after : Cursor} (h : P [] a) (hafter : after.tokens = c.tokens) :
    Passes c P (.ok (a, after)) :=
  ⟨[], hafter.symm, h⟩

theorem prepend (ts : List Token) {after : Cursor} {x : Except ParseError (α × Cursor)}
    (hts : c.tokens = ts ++ after.tokens) (h : Passes after (fun us => P (ts ++ us)) x) :
    Passes c P x := by
  cases x with
  | error => trivial
  | ok y =>
    obtain ⟨us, hus, ha⟩ := h
    exact ⟨ts ++ us, by rw [hts, hus, List.append_assoc], ha⟩

theorem bind {x : Except ParseError (α × Cursor)}
    {f : α × Cursor → Except ParseError (β × Cursor)} (h : Passes c P x)
    (hf : ∀ ts a after, P ts a → Passes after (fun us => Q (ts ++ us)) (f (a, after))) :
    Passes c Q (x >>= f) := by
  cases x with
  | error => trivial
  | ok y =>
    obtain ⟨ts, hts, ha⟩ := h
    exact prepend ts hts (hf ts y.1 y.2 ha)

theorem mono {x : Except ParseError (α × Cursor)} {R : List Token → α → Prop} (h : Passes c P x)
    (hPR : ∀ ts a, P ts a → R ts a) : Passes c R x := by
  cases x with
  | error => trivial
  | ok y =>
    obtain ⟨ts, hts, ha⟩ := h
    exact ⟨ts, hts, hPR ts y.1 ha⟩

/-- Pass the next token. -/
theorem pass {t : Token} {x : Except ParseError (α × Cursor)} (ht : c.peek = t)
    (hfinish : t ≠ .finish) (h : Passes c.advance (fun us => P (t :: us)) x) : Passes c P x :=
  prepend [t] (Cursor.tokens_of_peek ht hfinish) h

theorem enter {f : Cursor → Except ParseError (α × Cursor)}
    (h : ∀ after, after.peek = c.peek → Passes after P (f after)) :
    Passes c P (c.enter >>= f) := by
  cases hc : c.enter with
  | error => trivial
  | ok after =>
    have hrest := Cursor.rest_enter hc
    have htokens : c.tokens = after.tokens := congrArg (List.map _) hrest.symm
    exact prepend [] htokens (h after (Cursor.peek_congr hrest))

theorem close {bracket : Bracket} {start : Nat} {f : Cursor → Except ParseError (α × Cursor)}
    (h : ∀ after, Passes after (fun us => P (bracket.closer :: us)) (f after)) :
    Passes c P (c.close bracket start >>= f) := by
  cases hc : c.close bracket start with
  | error => trivial
  | ok after => exact prepend [bracket.closer] (Cursor.tokens_close hc) (h after)

end Passes

/-! ### Chained operators -/

/-- What a joined phrase says. -/
def Joiner.read (left right : BarePhrase) : Joiner → BarePhrase
  | logical op => .logical op left right
  | arithmetic op => .arithmetic op left right

theorem Joiner.reading_join (left right : Phrase) (joiner : Joiner) :
    (joiner.join left right).reading = joiner.read left.reading right.reading := by
  cases joiner <;> simp only [join, read, Phrase.reading]

namespace ChainLevel

/-- The derivations of a level. -/
def Derives : ChainLevel → List Token → BarePhrase → Prop
  | disjunction => Grammar.Derives .disjunction
  | conjunction => Grammar.Derives .conjunction
  | sum => Grammar.Derives .sum
  | term => Grammar.Derives .term

/-- The derivations of the operands of a level. -/
def DerivesOperand : ChainLevel → List Token → BarePhrase → Prop
  | disjunction => Grammar.Derives .conjunction
  | conjunction => Grammar.Derives .negation
  | sum => Grammar.Derives .term
  | term => Grammar.Derives .signed

variable {level : ChainLevel} {ts us : List Token} {l r : BarePhrase}

theorem derives_operand (h : level.DerivesOperand ts r) : level.Derives ts r := by
  cases level with
  | disjunction => exact .conjunction h
  | conjunction => exact .negation h
  | sum => exact .term h
  | term => exact .signed h

theorem derives_join {t : Token} {joiner : Joiner} (ht : level.joiner? t = some joiner)
    (hl : level.Derives ts l) (hr : level.DerivesOperand us r) :
    level.Derives (ts ++ t :: us) (joiner.read l r) := by
  unfold joiner? at ht
  split at ht <;> cases ht
  · exact .or hl hr
  · exact .and hl hr
  · exact .add (by simp [sums]) hl hr
  · exact .add (by simp [sums]) hl hr
  · exact .multiply (by simp [products]) hl hr
  · exact .multiply (by simp [products]) hl hr
  · exact .multiply (by simp [products]) hl hr
  · exact .multiply (by simp [products]) hl hr

end ChainLevel

/-! ### Items -/

/-- What items between brackets say, and whether a comma stands among them. -/
inductive ItemsSay : List Token → List Phrase × Bool → Prop
  | none : ItemsSay [] ([], false)
  | one {ts e} (h : Derives .expression ts e.reading) : ItemsSay ts ([e], false)
  | several {ts us e more} (h : Derives .expression ts e.reading)
    (hmore : Derives .items us (Phrase.readingAll more)) :
    ItemsSay (ts ++ .comma :: us) (e :: more, true)

theorem ItemsSay.derives {ts : List Token} {x : List Phrase × Bool} (h : ItemsSay ts x) :
    Derives .items ts (Phrase.readingAll x.1) := by
  cases h with
  | none => exact .noItems
  | one h => exact .lastItem h
  | several h hmore => exact .moreItems h hmore

/-! ### The parser -/

namespace Parser

theorem literalWord?_eq_some_iff {s : String} {v : Value} :
    literalWord? s = some v ↔ (s, v) ∈ constants := by
  constructor
  · intro h
    unfold literalWord? at h
    split at h <;> cases h <;> simp [constants]
  · intro h
    simp only [constants, List.mem_cons, Prod.mk.injEq, List.not_mem_nil, or_false] at h
    rcases h with ⟨rfl, rfl⟩ | ⟨rfl, rfl⟩ | ⟨rfl, rfl⟩ | ⟨rfl, rfl⟩ | ⟨rfl, rfl⟩ | ⟨rfl, rfl⟩
    all_goals rfl

theorem literalWord?_eq_none_iff {s : String} :
    literalWord? s = none ↔ ∀ v, (s, v) ∉ constants := by
  simp only [Option.eq_none_iff_forall_ne_some, ne_eq, literalWord?_eq_some_iff]

/-- The tokens of a phrase are those of a category and say what the phrase says. -/
abbrev PassesPhrase (c : Cursor) (derives : List Token → BarePhrase → Prop) :
    Except ParseError (Phrase × Cursor) → Prop :=
  Passes c fun ts e => derives ts e.reading

/-- What the functions of the parser pass with `fuel` calls to make. -/
structure Derived (fuel : Nat) : Prop where
  expression {c} : PassesPhrase c (Derives .expression) (expression fuel c)
  conditional {c} : PassesPhrase c (Derives .expression) (conditional fuel c)
  chain (level : ChainLevel) {c} : PassesPhrase c level.Derives (chain level fuel c)
  chainTail (level : ChainLevel) (levels : Nat) {c ts left} (h : level.Derives ts left.reading) :
    PassesPhrase c (fun us => level.Derives (ts ++ us)) (chainTail level fuel levels left c)
  operand (level : ChainLevel) {c} : PassesPhrase c level.DerivesOperand (operand level fuel c)
  negation {c} : PassesPhrase c (Derives .negation) (negation fuel c)
  comparison {c} : PassesPhrase c (Derives .comparison) (comparison fuel c)
  comparisonTail {c} :
    Passes c (fun ts x => Derives .links ts (Phrase.readingLinks x)) (comparisonTail fuel c)
  signed {c} : PassesPhrase c (Derives .signed) (signed fuel c)
  sign {op c t} (h : (t, op) ∈ signs) (ht : c.peek = t) :
    PassesPhrase c (Derives .signed) (sign op fuel c)
  power {c} : PassesPhrase c (Derives .power) (power fuel c)
  primary {c} : PassesPhrase c (Derives .primary) (primary fuel c)
  primaryTail (levels : Nat) {c ts e} (h : Derives .primary ts e.reading) :
    PassesPhrase c (fun us => Derives .primary (ts ++ us)) (primaryTail fuel levels e c)
  arguments {start c} :
    Passes c (fun ts x => ∃ us, ts = us ++ [.closeParen] ∧
      Derives .arguments us (Phrase.readingArguments x)) (arguments start fuel c)
  argument {c} :
    Passes c (fun ts a => Derives .argument ts (Phrase.readingArgument a)) (argument fuel c)
  items {bracket start c} :
    Passes c (fun ts x => ∃ us, ts = us ++ [bracket.closer] ∧ ItemsSay us x)
      (items bracket start fuel c)
  atom {c} : PassesPhrase c (Derives .atom) (atom fuel c)

/-- Without a call to make every function complains. -/
theorem derived_zero : Derived 0 where
  expression := trivial
  conditional := trivial
  chain _ := trivial
  chainTail _ _ _ _ _ _ := trivial
  operand _ := trivial
  negation := trivial
  comparison := trivial
  comparisonTail := trivial
  signed := trivial
  sign _ _ := trivial
  power := trivial
  primary := trivial
  primaryTail _ _ _ _ _ := trivial
  arguments := trivial
  argument := trivial
  items := trivial
  atom := trivial

namespace Derived

variable {fuel : Nat} {c : Cursor}

theorem expression_succ (h : Derived fuel) :
    PassesPhrase c (Derives .expression) (Parser.expression (fuel + 1) c) := by
  rw [Parser.expression]
  refine .enter fun c _ => ?_
  refine h.conditional.bind fun ts e c he => ?_
  exact .stay (by simpa using he) rfl

theorem conditional_succ (h : Derived fuel) :
    PassesPhrase c (Derives .expression) (Parser.conditional (fuel + 1) c) := by
  rw [Parser.conditional]
  refine (h.chain .disjunction).bind fun ts yes c hyes => ?_
  dsimp only
  split
  · exact .stay (by simpa using .value hyes) rfl
  next hif =>
  refine .pass (Cursor.peek_of_atWord (by simpa using hif)) (by simp) ?_
  refine (h.chain .disjunction).bind fun us test c htest => ?_
  dsimp only
  split
  · trivial
  next helse =>
  refine .pass (Cursor.peek_of_atWord (by simpa using helse)) (by simp) ?_
  refine h.expression.bind fun vs no c hno => ?_
  have hchoice := Derives.choice hyes htest hno
  exact .stay (by simpa [Phrase.reading] using hchoice) rfl

theorem chain_succ (h : Derived fuel) (level : ChainLevel) :
    PassesPhrase c level.Derives (Parser.chain level (fuel + 1) c) := by
  rw [Parser.chain]
  refine (h.operand level).bind fun ts left c hleft => ?_
  exact h.chainTail level 0 (ChainLevel.derives_operand hleft)

theorem chainTail_succ (h : Derived fuel) (level : ChainLevel) (levels : Nat) {ts : List Token}
    {left : Phrase} (hl : level.Derives ts left.reading) :
    PassesPhrase c (fun us => level.Derives (ts ++ us))
      (Parser.chainTail level (fuel + 1) levels left c) := by
  rw [Parser.chainTail]
  split
  · split
    · trivial
    · exact .stay (by simpa using hl) rfl
  · split
    · exact .stay (by simpa using hl) rfl
    · next joiner hjoiner =>
      refine .enter fun after hpeek => ?_
      refine .pass hpeek ?_ ?_
      · intro hfinish
        rw [hfinish] at hjoiner
        cases level <;> cases hjoiner
      refine (h.operand level).bind fun us right c hright => ?_
      have hjoin := ChainLevel.derives_join hjoiner hl hright
      rw [← Joiner.reading_join] at hjoin
      simpa using h.chainTail level (levels + 1) (c := c) hjoin

theorem operand_succ (h : Derived fuel) (level : ChainLevel) :
    PassesPhrase c level.DerivesOperand (Parser.operand level (fuel + 1) c) := by
  cases level with
  | disjunction => exact h.chain .conjunction
  | conjunction => exact h.negation
  | sum => exact h.chain .term
  | term => exact h.signed

theorem negation_succ (h : Derived fuel) :
    PassesPhrase c (Derives .negation) (Parser.negation (fuel + 1) c) := by
  rw [Parser.negation]
  split
  · next hnot =>
    refine .enter fun after hpeek => ?_
    refine .pass (hpeek.trans (Cursor.peek_of_atWord hnot)) (by simp) ?_
    refine h.negation.bind fun ts e c he => ?_
    exact .stay (by simpa [Phrase.reading] using .not he) rfl
  · refine h.comparison.mono fun ts e he => ?_
    exact .comparison he

theorem comparison_succ (h : Derived fuel) :
    PassesPhrase c (Derives .comparison) (Parser.comparison (fuel + 1) c) := by
  rw [Parser.comparison]
  refine (h.chain .sum).bind fun ts first c hfirst => ?_
  refine h.comparisonTail.bind fun us links c hlinks => ?_
  obtain _ | ⟨⟨op, e⟩, links⟩ := links
  · cases hlinks
    exact .stay (by simpa using .sum hfirst) rfl
  · exact .stay (by simpa [Phrase.reading, Phrase.readingLinks] using .compare hfirst hlinks) rfl

theorem comparisonTail_succ (h : Derived fuel) :
    Passes c (fun ts x => Derives .links ts (Phrase.readingLinks x))
      (Parser.comparisonTail (fuel + 1) c) := by
  rw [Parser.comparisonTail]
  split
  · next op hop =>
    refine .pass (Token.comparison?_eq_some_iff.1 hop) (by simp) ?_
    refine (h.chain .sum).bind fun ts e c he => ?_
    refine h.comparisonTail.bind fun us links c hlinks => ?_
    exact .stay (by simpa [Phrase.readingLinks] using .link he hlinks) rfl
  · split
    · trivial
    · exact .stay .noLinks rfl

theorem signed_succ (h : Derived fuel) :
    PassesPhrase c (Derives .signed) (Parser.signed (fuel + 1) c) := by
  rw [Parser.signed]
  split
  · next hpeek => exact h.sign (by simp [signs]) hpeek
  · next hpeek => exact h.sign (by simp [signs]) hpeek
  · trivial
  · exact h.power.mono fun ts e he => .power he

theorem sign_succ (h : Derived fuel) {op : UnaryOp} {t : Token} (hop : (t, op) ∈ signs)
    (ht : c.peek = t) : PassesPhrase c (Derives .signed) (Parser.sign op (fuel + 1) c) := by
  rw [Parser.sign]
  refine .enter fun after hpeek => ?_
  refine .pass (hpeek.trans ht) ?_ ?_
  · rintro rfl
    simp [signs] at hop
  refine h.signed.bind fun ts e c he => ?_
  exact .stay (by simpa [Phrase.reading] using .sign hop he) rfl

theorem power_succ (h : Derived fuel) :
    PassesPhrase c (Derives .power) (Parser.power (fuel + 1) c) := by
  rw [Parser.power]
  refine h.primary.bind fun ts base c hbase => ?_
  dsimp only
  split
  · next hstar =>
    refine .enter fun after hpeek => ?_
    refine .pass (hpeek.trans hstar) (by simp) ?_
    refine h.signed.bind fun us e c he => ?_
    exact .stay (by simpa [Phrase.reading] using .raise hbase he) rfl
  · exact .stay (by simpa using .primary hbase) rfl

theorem primary_succ (h : Derived fuel) :
    PassesPhrase c (Derives .primary) (Parser.primary (fuel + 1) c) := by
  rw [Parser.primary]
  refine h.atom.bind fun ts e c he => ?_
  exact h.primaryTail 0 (.atom he)

theorem primaryTail_succ (h : Derived fuel) (levels : Nat) {ts : List Token} {e : Phrase}
    (he : Derives .primary ts e.reading) :
    PassesPhrase c (fun us => Derives .primary (ts ++ us))
      (Parser.primaryTail (fuel + 1) levels e c) := by
  rw [Parser.primaryTail]
  split
  · next hdot =>
    refine .enter fun after hpeek => ?_
    refine .pass (hpeek.trans hdot) (by simp) ?_
    dsimp only
    split
    · next s hname =>
      refine .pass hname (by simp) ?_
      have hmember : Derives .primary _ (Phrase.member e.position e s).reading := .member he
      simpa using h.primaryTail (levels + 1) hmember
    · trivial
  · next hopen =>
    refine .enter fun after hpeek => ?_
    refine .pass (hpeek.trans hopen) (by simp) ?_
    refine h.arguments.bind fun us given c hgiven => ?_
    obtain ⟨us, rfl, hgiven⟩ := hgiven
    have hcall : Derives .primary _ (Phrase.call e.position e given).reading := .call he hgiven
    simpa using h.primaryTail (levels + 1) (c := c) hcall
  · next hopen =>
    refine .enter fun after hpeek => ?_
    refine .pass (hpeek.trans hopen) (by simp) ?_
    refine h.expression.bind fun us index c hindex => ?_
    refine .close fun after => ?_
    have hsubscript : Derives .primary _ (Phrase.subscript e.position e index).reading :=
      .subscript he hindex
    simpa [Bracket.closer] using h.primaryTail (levels + 1) (c := after) hsubscript
  · exact .stay (by simpa using he) rfl

theorem arguments_succ (h : Derived fuel) {start : Nat} :
    Passes c (fun ts x => ∃ us, ts = us ++ [.closeParen] ∧
      Derives .arguments us (Phrase.readingArguments x))
      (Parser.arguments start (fuel + 1) c) := by
  rw [Parser.arguments]
  split
  · next hclosed =>
    refine .pass (Bracket.isClosedBy_iff.1 hclosed) Bracket.round.closer_ne_finish ?_
    exact .stay ⟨[], rfl, .noArguments⟩ rfl
  refine h.argument.bind fun ts a c ha => ?_
  dsimp only
  split
  · next hcomma =>
    refine .pass hcomma (by simp) ?_
    refine h.arguments.bind fun us more c hmore => ?_
    obtain ⟨us, rfl, hmore⟩ := hmore
    refine .stay ⟨ts ++ .comma :: us, by simp, ?_⟩ rfl
    simpa [Phrase.readingArguments_cons] using .moreArguments ha hmore
  · refine .close fun after => .stay ⟨ts, rfl, ?_⟩ rfl
    simpa [Phrase.readingArguments_cons] using .lastArgument ha

theorem argument_succ (h : Derived fuel) :
    Passes c (fun ts a => Derives .argument ts (Phrase.readingArgument a))
      (Parser.argument (fuel + 1) c) := by
  rw [Parser.argument]
  split
  · next hstar =>
    refine .pass hstar (by simp) ?_
    refine h.expression.bind fun ts e c he => ?_
    exact .stay (by simpa using .unpacked (by simp) he) rfl
  · next hstar =>
    refine .pass hstar (by simp) ?_
    refine h.expression.bind fun ts e c he => ?_
    exact .stay (by simpa using .unpacked (by simp) he) rfl
  · next s hname hassign =>
    refine .pass hname (by simp) ?_
    refine .pass (c.peek_advance.trans hassign) (by simp) ?_
    refine h.expression.bind fun ts e c he => ?_
    exact .stay (by simpa using .keyword he) rfl
  · refine h.expression.bind fun ts e c he => ?_
    dsimp only
    split
    · trivial
    · exact .stay (by simpa using .positional he) rfl

theorem items_succ (h : Derived fuel) {bracket : Bracket} {start : Nat} :
    Passes c (fun ts x => ∃ us, ts = us ++ [bracket.closer] ∧ ItemsSay us x)
      (Parser.items bracket start (fuel + 1) c) := by
  rw [Parser.items]
  split
  · next hclosed =>
    refine .pass (Bracket.isClosedBy_iff.1 hclosed) bracket.closer_ne_finish ?_
    exact .stay ⟨[], rfl, .none⟩ rfl
  refine h.expression.bind fun ts e c he => ?_
  dsimp only
  split
  · trivial
  split
  · next hcomma =>
    refine .pass hcomma (by simp) ?_
    refine h.items.bind fun us x c hx => ?_
    obtain ⟨us, rfl, hx⟩ := hx
    exact .stay ⟨ts ++ .comma :: us, by simp, .several he hx.derives⟩ rfl
  · exact .close fun after => .stay ⟨ts, rfl, .one he⟩ rfl

theorem word_passes (c : Cursor) {s : String} (hs : c.peek = .name s) :
    PassesPhrase c (Derives .atom) (word c s) := by
  rw [word]
  split
  · trivial
  next hstatement =>
  split
  · trivial
  next hstructural =>
  refine .pass hs (by simp) (.stay ?_ rfl)
  cases hv : literalWord? s with
  | some v => exact .constant (literalWord?_eq_some_iff.1 hv)
  | none =>
    have hname : IsFieldName s := ⟨by simpa using hstatement, by simpa using hstructural⟩
    exact .name hname (literalWord?_eq_none_iff.1 hv)

theorem atom_succ (h : Derived fuel) :
    PassesPhrase c (Derives .atom) (Parser.atom (fuel + 1) c) := by
  rw [Parser.atom]
  split
  · next hpeek => exact .pass hpeek (by simp) (.stay .int rfl)
  · next hpeek => exact .pass hpeek (by simp) (.stay .float rfl)
  · next hpeek => exact .pass hpeek (by simp) (.stay .string rfl)
  · next hpeek => exact word_passes c hpeek
  · next hopen =>
    refine .pass hopen (by simp) ?_
    refine h.items.bind fun us x c hx => ?_
    obtain ⟨us, rfl, hx⟩ := hx
    cases hx with
    | none => exact .stay .emptyTuple rfl
    | one he => exact .stay (by simpa [Bracket.closer] using .bracketed he) rfl
    | several he hmore =>
      dsimp only
      split
      · next heq => cases heq
      next heq =>
      cases heq
      refine .stay ?_ rfl
      simpa [Bracket.closer, Phrase.reading, Phrase.readingAll] using Derives.tuple he hmore
  · next hopen =>
    refine .pass hopen (by simp) ?_
    refine h.items.bind fun us x c hx => ?_
    obtain ⟨us, rfl, hx⟩ := hx
    exact .stay (by simpa [Bracket.closer, Phrase.reading] using .list hx.derives) rfl
  · trivial
  · trivial
  · trivial

end Derived

/-- Every function of the parser passes tokens of its category. -/
theorem derived (fuel : Nat) : Derived fuel := by
  -- every function calls the others with one unit of fuel less
  induction fuel with
  | zero => exact derived_zero
  | succ fuel ih => exact {
      expression := ih.expression_succ
      conditional := ih.conditional_succ
      chain := fun level _ => ih.chain_succ level
      chainTail := fun level levels _ _ _ => ih.chainTail_succ level levels
      operand := fun level _ => ih.operand_succ level
      negation := ih.negation_succ
      comparison := ih.comparison_succ
      comparisonTail := ih.comparisonTail_succ
      signed := ih.signed_succ
      sign := ih.sign_succ
      power := ih.power_succ
      primary := ih.primary_succ
      primaryTail := fun levels _ _ _ => ih.primaryTail_succ levels
      arguments := ih.arguments_succ
      argument := ih.argument_succ
      items := ih.items_succ
      atom := ih.atom_succ }

/-- A list of tokens that ends where the formula does. -/
def Complete (tokens : List Token) : Prop := ∃ ts, tokens = ts ++ [.finish] ∧ .finish ∉ ts

/-- What is derived from the front of a complete list and followed by the end is all of it. -/
theorem Complete.says_of_derives {tokens rest : List Token} (h : Complete tokens) {ts : List Token}
    {r : BarePhrase} (hts : tokens = ts ++ rest) (hr : Derives .expression ts r)
    (hrest : rest.head?.getD .finish = .finish) : Says tokens r := by
  obtain ⟨us, rfl, hus⟩ := h
  have hfinish := hr.finish_not_mem
  rcases List.append_eq_append_iff.1 hts with ⟨a, rfl, ha⟩ | ⟨b, rfl, rfl⟩
  · cases a with
    | nil => exact ⟨us, rfl, by simpa using hr⟩
    | cons t a =>
      obtain ⟨rfl, -⟩ := List.cons.inj ha
      simp at hfinish
  · cases b with
    | nil => exact ⟨ts, by simp, hr⟩
    | cons t b =>
      cases hrest
      simp at hus

/-- **What is parsed is derived.** -/
theorem says_of_parse {maximum : Nat} {tokens : List PlacedToken} {e : Phrase}
    (htokens : Complete (tokens.map PlacedToken.token)) (h : parse maximum tokens = .ok e) :
    Says (tokens.map PlacedToken.token) e.reading := by
  rw [parse] at h
  dsimp only at h
  split at h
  · cases h
  obtain ⟨⟨e, c⟩, he, h⟩ := except_bind_eq_ok_iff.1 h
  dsimp only at h
  split at h
  · next hfinish =>
    cases h
    let start : Cursor := ⟨none, tokens, 0, maximum⟩
    have hpasses := (derived (20 * (tokens.length + 1))).expression (c := start)
    rw [he] at hpasses
    obtain ⟨ts, hts, hr⟩ := hpasses
    exact htokens.says_of_derives hts hr (c.peek_eq.symm.trans hfinish)
  · cases h

end Parser

end Appraisal
