import Appraisal.Proofs.Formula.Coverage

/-!
# Formulas have one reading

What is derived is parsed (`Parser.parses`), by induction on the derivation, and what is parsed is
derived (`Parser.says_of_parse`). So the parser reads the grammar: from the tokens of a text it
yields the one phrase that they say, if there is one and enough levels may be open
(`Parser.parse_reads_grammar`).
-/

namespace Appraisal

open Grammar

namespace Parser

/-! ### Items and arguments -/

section Rows

variable {ts us : List Token} {r : BarePhrase} {bracket : Bracket}

theorem isClosedBy_of_tokens {c : Cursor} (h : c.tokens = bracket.closer :: ts) :
    bracket.isClosedBy c.peek = true :=
  Bracket.isClosedBy_iff.2 (Cursor.peek_of_tokens h)

theorem isClosedBy_eq_false {c : Cursor} (h : c.peek ≠ bracket.closer) :
    bracket.isClosedBy c.peek = false :=
  Bool.eq_false_iff.2 fun hclosed => h (Bracket.isClosedBy_iff.1 hclosed)

theorem opening_closer (bracket : Bracket) : opening bracket.closer = 3 := by
  cases bracket <;> rfl

theorem looseness_closer (bracket : Bracket) : bracket.closer.looseness = 8 := by
  cases bracket <;> rfl

/-- Nothing stands between the brackets. -/
theorem covers_noItems (start : Nat) :
    Covers (items bracket start) 17 0 0 [bracket.closer] fun x => x = ([], false) := by
  apply Covers.step
  intro fuel c rest htokens _ hfuel _
  refine ⟨([], false), c.advance, ?_, rfl, Cursor.reaches_advance htokens⟩
  rw [items, isClosedBy_of_tokens htokens]
  rfl

/-- What comes before the end of an item tells whether there are more. -/
theorem items_of_expression (h : Covers expression 16 8 ts.length ts fun e => e.reading = r)
    (hts : Begins 2 ts) {t : Token} (ht : t.looseness = 8) (start fuel : Nat) {c : Cursor}
    {rest : List Token} (htokens : c.tokens = ts ++ t :: rest)
    (hfuel : 20 * (ts.length + rest.length + 1) + 17 ≤ fuel + 1)
    (hdepth : c.depth + ts.length ≤ c.maximum) :
    ∃ e c₁, e.reading = r ∧ c.Reaches (t :: rest) 0 c₁ ∧
      items bracket start (fuel + 1) c = match c₁.peek with
        | .comma => (do
          let ((more, _), c) ← items bracket start fuel c₁.advance
          return ((e :: more, true), c))
        | _ => (do return (([e], false), ← c₁.close bracket start)) := by
  obtain ⟨e, c₁, hrun, he, hc₁⟩ := h fuel htokens (Nat.le_of_eq ht.symm)
    (by simp only [List.length_cons]; omega) hdepth
  refine ⟨e, c₁, he, hc₁, ?_⟩
  have hopen : bracket.isClosedBy c.peek = false := by
    refine isClosedBy_eq_false fun hclosed => ?_
    have hopening := opening_peek_le hts htokens
    rw [hclosed, opening_closer] at hopening
    exact absurd hopening (by decide)
  have hfor : c₁.atWord "for" = false := by
    refine atWord_eq_false fun hfor => ?_
    rw [Cursor.peek_eq, hc₁.tokens] at hfor
    cases hfor
    exact absurd ht (by decide)
  rw [items, hopen, if_neg Bool.false_ne_true]
  show (expression fuel c >>= _) = _
  rw [hrun]
  show (if c₁.atWord "for" then _ else _) = _
  rw [hfor]
  rfl

theorem covers_lastItem (h : Covers expression 16 8 ts.length ts fun e => e.reading = r)
    (hts : Begins 2 ts) (start : Nat) :
    Covers (items bracket start) 17 0 ts.length (ts ++ [bracket.closer])
      fun x => ∃ e : Phrase, x = ([e], false) ∧ e.reading = r := by
  apply Covers.step
  intro fuel c rest htokens _ hfuel hdepth
  simp only [List.length_append, List.length_cons, List.length_nil] at hfuel
  have htokens : c.tokens = ts ++ bracket.closer :: rest := by simpa using htokens
  obtain ⟨e, c₁, he, hc₁, hrun⟩ :=
    items_of_expression h hts (looseness_closer bracket) start fuel htokens (by omega) hdepth
  obtain ⟨c₂, hclose, hc₂⟩ := Cursor.exists_close start hc₁.tokens
  refine ⟨([e], false), c₂, ?_, ⟨e, rfl, he⟩, hc₁.trans hc₂⟩
  have hpeek : c₁.peek = bracket.closer := Cursor.peek_of_tokens hc₁.tokens
  rw [hrun, hpeek, hclose]
  cases bracket <;> rfl

theorem covers_moreItems {es : List BarePhrase}
    (h : Covers expression 16 8 ts.length ts fun e => e.reading = r) (hts : Begins 2 ts)
    (start : Nat) (hmore : Covers (items bracket start) 17 0 us.length (us ++ [bracket.closer])
      fun x => Phrase.readingAll x.1 = es) :
    Covers (items bracket start) 17 0 (ts ++ .comma :: us).length
      (ts ++ .comma :: us ++ [bracket.closer])
      fun x => ∃ e more, x = (e :: more, true) ∧ e.reading = r ∧ Phrase.readingAll more = es := by
  apply Covers.step
  intro fuel c rest htokens _ hfuel hdepth
  simp only [List.length_append, List.length_cons, List.length_nil] at hfuel hdepth
  have htokens : c.tokens = ts ++ .comma :: (us ++ [bracket.closer] ++ rest) := by
    simpa using htokens
  obtain ⟨e, c₁, he, hc₁, hrun⟩ := items_of_expression h hts rfl start fuel htokens
    (by simp only [List.length_append, List.length_cons, List.length_nil]; omega) (by omega)
  have hc₂ := hc₁.trans (Cursor.reaches_advance hc₁.tokens)
  obtain ⟨⟨more, comma⟩, c₃, hrun₂, hmore, hc₃⟩ := hmore fuel hc₂.tokens (Nat.zero_le _)
    (by simp only [List.length_append, List.length_cons, List.length_nil]; omega)
    (by rw [hc₂.depth, hc₂.maximum]; omega)
  refine ⟨(e :: more, true), c₃, ?_, ⟨e, more, rfl, he, hmore⟩, hc₂.trans hc₃⟩
  have hpeek : c₁.peek = .comma := Cursor.peek_of_tokens hc₁.tokens
  rw [hrun, hpeek]
  show (items bracket start fuel c₁.advance >>= _) = _
  rw [hrun₂]
  rfl

/-! ### Atoms -/

/-- A token that is an atom by itself. -/
theorem covers_token {t : Token}
    (h : ∀ (fuel : Nat) (c : Cursor), c.peek = t →
      ∃ e : Phrase, atom (fuel + 1) c = .ok (e, c.advance) ∧ e.reading = r) :
    Covers atom 1 0 0 [t] fun e => e.reading = r := by
  apply Covers.step
  intro fuel c rest htokens _ hfuel _
  obtain ⟨e, hrun, he⟩ := h fuel c (Cursor.peek_of_tokens htokens)
  exact ⟨e, c.advance, hrun, he, Cursor.reaches_advance htokens⟩

theorem covers_int (i : Int64) :
    Covers atom 1 0 0 [.int i] fun e => e.reading = .literal (.int i) :=
  covers_token fun fuel c hpeek => ⟨.literal c.position (.int i), by rw [atom, hpeek], rfl⟩

theorem covers_float (v : Float) :
    Covers atom 1 0 0 [.float v] fun e => e.reading = .literal (.float v) :=
  covers_token fun fuel c hpeek => ⟨.literal c.position (.float v), by rw [atom, hpeek], rfl⟩

theorem covers_string (s : String) :
    Covers atom 1 0 0 [.string s] fun e => e.reading = .literal (.string s) :=
  covers_token fun fuel c hpeek => ⟨.literal c.position (.string s), by rw [atom, hpeek], rfl⟩

theorem word_of_isFieldName {s : String} (h : IsFieldName s) (c : Cursor) :
    word c s =
      .ok ((literalWord? s).elim (.name c.position s) (.literal c.position), c.advance) := by
  have hstructural : structuralWords.contains s = false := by simpa using h.2
  rw [word, h.1, if_neg Bool.false_ne_true, hstructural, if_neg Bool.false_ne_true]
  cases literalWord? s <;> rfl

theorem isFieldName_of_mem_constants {s : String} {v : Value} (h : (s, v) ∈ constants) :
    IsFieldName s := by
  simp only [constants, List.mem_cons, Prod.mk.injEq, List.not_mem_nil, or_false] at h
  rcases h with ⟨rfl, -⟩ | ⟨rfl, -⟩ | ⟨rfl, -⟩ | ⟨rfl, -⟩ | ⟨rfl, -⟩ | ⟨rfl, -⟩ <;>
    exact ⟨by decide, by decide⟩

theorem covers_constant {s : String} {v : Value} (h : (s, v) ∈ constants) :
    Covers atom 1 0 0 [.name s] fun e => e.reading = .literal v := by
  refine covers_token fun fuel c hpeek => ⟨.literal c.position v, ?_, rfl⟩
  rw [atom, hpeek]
  show word c s = _
  rw [word_of_isFieldName (isFieldName_of_mem_constants h), literalWord?_eq_some_iff.2 h]
  rfl

theorem covers_name {s : String} (h : IsFieldName s) (hs : ∀ v, (s, v) ∉ constants) :
    Covers atom 1 0 0 [.name s] fun e => e.reading = .name s := by
  refine covers_token fun fuel c hpeek => ⟨.name c.position s, ?_, rfl⟩
  rw [atom, hpeek]
  show word c s = _
  rw [word_of_isFieldName h, literalWord?_eq_none_iff.2 hs]
  rfl

/-- What round brackets make of their contents. -/
def enclosed (position : Nat) : List Phrase × Bool → Phrase
  | ([e], false) => e.startingAt position
  | (es, _) => .tuple position es

theorem enclosed_of_comma (position : Nat) (es : List Phrase) :
    enclosed position (es, true) = .tuple position es := by
  obtain _ | ⟨_, _ | _⟩ := es <;> rfl

theorem covers_round {P : List Phrase × Bool → Prop}
    (h : ∀ start, Covers (items .round start) 17 0 us.length (us ++ [.closeParen]) P)
    (hP : ∀ position x, P x → (enclosed position x).reading = r) :
    Covers atom 1 0 ((.openParen :: us ++ [Token.closeParen]).length - 1)
      (.openParen :: us ++ [.closeParen]) fun e => e.reading = r := by
  apply Covers.step
  intro fuel c rest htokens _ hfuel hdepth
  simp only [List.length_append, List.length_cons, List.length_nil] at hfuel hdepth
  have htokens : c.tokens = .openParen :: (us ++ [.closeParen] ++ rest) := htokens
  have hc₁ := Cursor.reaches_advance htokens
  obtain ⟨x, c₂, hrun, hx, hc₂⟩ := h c.position fuel hc₁.tokens (Nat.zero_le _)
    (by simp only [List.length_append, List.length_cons, List.length_nil]; omega)
    (by rw [hc₁.depth, hc₁.maximum]; omega)
  refine ⟨enclosed c.position x, c₂, ?_, hP c.position x hx, hc₁.trans hc₂⟩
  have hpeek : c.peek = .openParen := Cursor.peek_of_tokens htokens
  rw [atom, hpeek]
  show (items .round c.position fuel c.advance >>= _) = _
  rw [hrun]
  obtain ⟨_ | ⟨e, _ | _⟩, _ | _⟩ := x <;> rfl

theorem covers_list {es : List BarePhrase}
    (h : ∀ start, Covers (items .square start) 17 0 us.length (us ++ [.closeBracket])
      fun x => Phrase.readingAll x.1 = es) :
    Covers atom 1 0 ((.openBracket :: us ++ [Token.closeBracket]).length - 1)
      (.openBracket :: us ++ [.closeBracket]) fun e => e.reading = .list es := by
  apply Covers.step
  intro fuel c rest htokens _ hfuel hdepth
  simp only [List.length_append, List.length_cons, List.length_nil] at hfuel hdepth
  have htokens : c.tokens = .openBracket :: (us ++ [.closeBracket] ++ rest) := htokens
  have hc₁ := Cursor.reaches_advance htokens
  obtain ⟨x, c₂, hrun, hx, hc₂⟩ := h c.position fuel hc₁.tokens (Nat.zero_le _)
    (by simp only [List.length_append, List.length_cons, List.length_nil]; omega)
    (by rw [hc₁.depth, hc₁.maximum]; omega)
  refine ⟨.list c.position x.1, c₂, ?_, by simp only [Phrase.reading, hx], hc₁.trans hc₂⟩
  have hpeek : c.peek = .openBracket := Cursor.peek_of_tokens htokens
  rw [atom, hpeek]
  show (items .square c.position fuel c.advance >>= _) = _
  rw [hrun]
  rfl

/-! ### Arguments -/

variable {a : Given BarePhrase}

/-- No assignment follows the first token of a value. -/
theorem peekSecond_ne_assign {kind : Nat} (hts : Begins kind ts) {c : Cursor} {rest : List Token}
    (htokens : c.tokens = ts ++ rest) (hrest : 8 ≤ (firstOf rest).looseness) :
    c.peekSecond ≠ .assign := by
  cases ts with
  | nil => exact hts.elim
  | cons t ts =>
    rw [← Cursor.peek_advance, Cursor.peek_eq, (Cursor.reaches_advance htokens).tokens]
    cases ts with
    | nil =>
      intro hassign
      rw [firstOf, show rest.head?.getD .finish = .assign from hassign] at hrest
      exact absurd hrest (by decide)
    | cons => exact fun hassign => hts.2 (congrArg some hassign)

theorem covers_positional (h : Covers expression 16 8 ts.length ts fun e => e.reading = r)
    (hts : Begins 2 ts) :
    Covers argument 17 8 ts.length ts fun x => Phrase.readingArgument x = .positional r := by
  apply Covers.step
  intro fuel c rest htokens hrest hfuel hdepth
  obtain ⟨e, c₁, hrun, he, hc₁⟩ := h fuel htokens hrest (by omega) hdepth
  refine ⟨.positional e, c₁, ?_, by simp only [Phrase.readingArgument, he], hc₁⟩
  have hopening := opening_peek_le hts htokens
  have hfor : c₁.atWord "for" = false := by
    refine atWord_eq_false fun hfor => ?_
    rw [Cursor.peek_eq, hc₁.tokens] at hfor
    rw [firstOf, hfor] at hrest
    exact absurd hrest (by decide)
  rw [argument]
  split
  · next hpeek =>
    rw [hpeek] at hopening
    exact absurd hopening (by decide)
  · next hpeek =>
    rw [hpeek] at hopening
    exact absurd hopening (by decide)
  · next hassign => exact absurd hassign (peekSecond_ne_assign hts htokens hrest)
  · show (expression fuel c >>= _) = _
    rw [hrun]
    show (if c₁.atWord "for" then _ else _) = _
    rw [hfor]
    rfl

theorem covers_keyword (h : Covers expression 16 8 ts.length ts fun e => e.reading = r)
    (s : String) :
    Covers argument 17 8 (.name s :: .assign :: ts).length (.name s :: .assign :: ts)
      fun x => Phrase.readingArgument x = .keyword s := by
  apply Covers.step
  intro fuel c rest htokens hrest hfuel hdepth
  simp only [List.length_cons] at hfuel hdepth
  have hc₁ := Cursor.reaches_advance htokens
  have hc₂ := hc₁.trans (Cursor.reaches_advance hc₁.tokens)
  obtain ⟨e, c₃, hrun, he, hc₃⟩ := h fuel hc₂.tokens hrest (by omega)
    (by rw [hc₂.depth, hc₂.maximum]; omega)
  refine ⟨.keyword s c.position, c₃, ?_, rfl, hc₂.trans hc₃⟩
  have hname : c.peek = .name s := Cursor.peek_of_tokens htokens
  have hassign : c.peekSecond = .assign := by
    rw [← Cursor.peek_advance, Cursor.peek_eq, hc₁.tokens]
    rfl
  rw [argument, hname, hassign]
  show (expression fuel c.advance.advance >>= _) = _
  rw [hrun]
  rfl

theorem covers_unpacked (h : Covers expression 16 8 ts.length ts fun e => e.reading = r)
    {t : Token} (ht : t ∈ [Token.star, .doubleStar]) :
    Covers argument 17 8 (t :: ts).length (t :: ts)
      fun x => Phrase.readingArgument x = .unpacked := by
  apply Covers.step
  intro fuel c rest htokens hrest hfuel hdepth
  simp only [List.length_cons] at hfuel hdepth
  have hc₁ := Cursor.reaches_advance htokens
  obtain ⟨e, c₂, hrun, he, hc₂⟩ := h fuel hc₁.tokens hrest (by omega)
    (by rw [hc₁.depth, hc₁.maximum]; omega)
  refine ⟨.unpacked c.position, c₂, ?_, rfl, hc₁.trans hc₂⟩
  have hargument : argument (fuel + 1) c =
      (expression fuel c.advance >>= fun x => .ok (.unpacked c.position, x.2)) := by
    have hpeek : c.peek = t := Cursor.peek_of_tokens htokens
    simp only [List.mem_cons, List.not_mem_nil, or_false] at ht
    rcases ht with rfl | rfl
    all_goals
      rw [argument, hpeek]
      rfl
  rw [hargument, hrun]
  rfl

theorem covers_noArguments (start : Nat) :
    Covers (arguments start) 18 0 0 [.closeParen] fun x => Phrase.readingArguments x = [] := by
  apply Covers.step
  intro fuel c rest htokens _ hfuel _
  refine ⟨[], c.advance, ?_, rfl, Cursor.reaches_advance htokens⟩
  have hclosed : Bracket.round.isClosedBy c.peek = true := isClosedBy_of_tokens htokens
  rw [arguments, hclosed]
  rfl

/-- What comes before the end of an argument tells whether there are more. -/
theorem arguments_of_argument
    (h : Covers argument 17 8 ts.length ts fun x => Phrase.readingArgument x = a)
    (hts : Category.argument.Starts ts) {t : Token} (ht : t.looseness = 8) (start fuel : Nat)
    {c : Cursor} {rest : List Token} (htokens : c.tokens = ts ++ t :: rest)
    (hfuel : 20 * (ts.length + rest.length + 1) + 18 ≤ fuel + 1)
    (hdepth : c.depth + ts.length ≤ c.maximum) :
    ∃ x c₁, Phrase.readingArgument x = a ∧ c.Reaches (t :: rest) 0 c₁ ∧
      arguments start (fuel + 1) c = match c₁.peek with
        | .comma => (do
          let (more, c) ← arguments start fuel c₁.advance
          return (x :: more, c))
        | _ => (do return ([x], ← c₁.close .round start)) := by
  obtain ⟨x, c₁, hrun, hx, hc₁⟩ := h fuel htokens (Nat.le_of_eq ht.symm)
    (by simp only [List.length_cons]; omega) hdepth
  refine ⟨x, c₁, hx, hc₁, ?_⟩
  have hopen : Bracket.round.isClosedBy c.peek = false := by
    refine isClosedBy_eq_false fun hclosed => ?_
    obtain ⟨hpos, hclose⟩ := hts
    rw [Cursor.peek_eq, htokens] at hclosed
    cases ts with
    | nil => exact absurd hpos (Nat.lt_irrefl 0)
    | cons => exact hclose (congrArg some hclosed)
  rw [arguments, hopen, if_neg Bool.false_ne_true]
  show (argument fuel c >>= _) = _
  rw [hrun]
  rfl

theorem covers_lastArgument
    (h : Covers argument 17 8 ts.length ts fun x => Phrase.readingArgument x = a)
    (hts : Category.argument.Starts ts) (start : Nat) :
    Covers (arguments start) 18 0 ts.length (ts ++ [.closeParen])
      fun x => Phrase.readingArguments x = [a] := by
  apply Covers.step
  intro fuel c rest htokens _ hfuel hdepth
  simp only [List.length_append, List.length_cons, List.length_nil] at hfuel
  have htokens : c.tokens = ts ++ Bracket.round.closer :: rest := by
    simpa [Bracket.closer] using htokens
  obtain ⟨x, c₁, hx, hc₁, hrun⟩ :=
    arguments_of_argument h hts rfl start fuel htokens (by omega) hdepth
  obtain ⟨c₂, hclose, hc₂⟩ := Cursor.exists_close start hc₁.tokens
  refine ⟨[x], c₂, ?_, by simp only [Phrase.readingArguments_cons, hx, Phrase.readingArguments],
    hc₁.trans hc₂⟩
  have hpeek : c₁.peek = .closeParen := Cursor.peek_of_tokens hc₁.tokens
  rw [hrun, hpeek, hclose]
  rfl

theorem covers_moreArguments {more : List (Given BarePhrase)}
    (h : Covers argument 17 8 ts.length ts fun x => Phrase.readingArgument x = a)
    (hts : Category.argument.Starts ts) (start : Nat)
    (hmore : Covers (arguments start) 18 0 us.length (us ++ [.closeParen])
      fun x => Phrase.readingArguments x = more) :
    Covers (arguments start) 18 0 (ts ++ .comma :: us).length (ts ++ .comma :: us ++ [.closeParen])
      fun x => Phrase.readingArguments x = a :: more := by
  apply Covers.step
  intro fuel c rest htokens _ hfuel hdepth
  simp only [List.length_append, List.length_cons, List.length_nil] at hfuel hdepth
  have htokens : c.tokens = ts ++ .comma :: (us ++ [.closeParen] ++ rest) := by
    simpa using htokens
  obtain ⟨x, c₁, hx, hc₁, hrun⟩ := arguments_of_argument h hts rfl start fuel htokens
    (by simp only [List.length_append, List.length_cons, List.length_nil]; omega) (by omega)
  have hc₂ := hc₁.trans (Cursor.reaches_advance hc₁.tokens)
  obtain ⟨xs, c₃, hrun₂, hxs, hc₃⟩ := hmore fuel hc₂.tokens (Nat.zero_le _)
    (by simp only [List.length_append, List.length_cons, List.length_nil]; omega)
    (by rw [hc₂.depth, hc₂.maximum]; omega)
  refine ⟨x :: xs, c₃, ?_, by simp only [Phrase.readingArguments_cons, hx, hxs],
    hc₂.trans hc₃⟩
  have hpeek : c₁.peek = .comma := Cursor.peek_of_tokens hc₁.tokens
  rw [hrun, hpeek]
  show (arguments start fuel c₁.advance >>= _) = _
  rw [hrun₂]
  rfl

end Rows

/-! ### Derivations -/

/-- What the parser does on tokens of a category that say `r`. -/
def Parses : (k : Category) → List Token → k.Meaning → Prop
  | .expression, ts, r => Covers expression 16 8 ts.length ts fun e => e.reading = r
  | .disjunction, ts, r => Chains .disjunction ts r
  | .conjunction, ts, r => Chains .conjunction ts r
  | .negation, ts, r => Covers negation 10 5 (ts.length - 1) ts fun e => e.reading = r
  | .comparison, ts, r => Covers comparison 9 5 (ts.length - 1) ts fun e => e.reading = r
  | .sum, ts, r => Chains .sum ts r
  | .term, ts, r => Chains .term ts r
  | .signed, ts, r => Covers signed 4 2 (ts.length - 1) ts fun e => e.reading = r
  | .power, ts, r => Covers power 3 2 (ts.length - 1) ts fun e => e.reading = r
  | .primary, ts, r => Extends ts r
  | .atom, ts, r => Covers atom 1 0 (ts.length - 1) ts fun e => e.reading = r
  | .links, ts, r =>
    Covers comparisonTail 1 5 (ts.length - 1) ts fun x => Phrase.readingLinks x = r
  | .items, ts, r => ∀ bracket start, Covers (items bracket start) 17 0 ts.length
      (ts ++ [bracket.closer]) fun x => Phrase.readingAll x.1 = r
  | .argument, ts, r => Covers argument 17 8 ts.length ts fun x => Phrase.readingArgument x = r
  | .arguments, ts, r => ∀ start, Covers (arguments start) 18 0 ts.length (ts ++ [.closeParen])
      fun x => Phrase.readingArguments x = r

theorem joiner?_of_sums {t : Token} {op : ArithmeticOp} (h : (t, op) ∈ sums) :
    ChainLevel.sum.joiner? t = some (.arithmetic op) := by
  simp only [sums, List.mem_cons, Prod.mk.injEq, List.not_mem_nil, or_false] at h
  rcases h with ⟨rfl, rfl⟩ | ⟨rfl, rfl⟩ <;> rfl

theorem joiner?_of_products {t : Token} {op : ArithmeticOp} (h : (t, op) ∈ products) :
    ChainLevel.term.joiner? t = some (.arithmetic op) := by
  simp only [products, List.mem_cons, Prod.mk.injEq, List.not_mem_nil, or_false] at h
  rcases h with ⟨rfl, rfl⟩ | ⟨rfl, rfl⟩ | ⟨rfl, rfl⟩ | ⟨rfl, rfl⟩ <;> rfl

/-- The parser reads derived tokens as they are derived. -/
theorem parses {k : Category} {ts : List Token} {r : k.Meaning} (h : Derives k ts r) :
    Parses k ts r := by
  induction h with
  | value h ih => exact covers_expression ih.covers_conditional h.starts.length_pos
  | choice h _ _ ihyes ihtest ihno =>
    refine covers_expression (covers_choice ihyes ihtest ihno) ?_
    exact ((h.starts.append (by simp)).append (by simp)).length_pos
  | conjunction h ih => exact (coversOperand_disjunction ih).chains h.starts.length_pos
  | or _ _ ihl ihr =>
    have hor : ChainLevel.disjunction.joiner? (.name "or") = some (.logical .or) := rfl
    exact ihl.join (coversOperand_disjunction ihr) hor
  | negation h ih => exact (coversOperand_conjunction ih).chains h.starts.length_pos
  | and _ _ ihl ihr =>
    have hand : ChainLevel.conjunction.joiner? (.name "and") = some (.logical .and) := rfl
    exact ihl.join (coversOperand_conjunction ihr) hand
  | not h ih => exact covers_not ih h.starts.length_pos
  | comparison h ih => exact covers_negation ih h.starts
  | sum _ ih => simpa [Parses, joinLinks] using covers_comparison ih covers_noLinks nofun
  | compare _ hlinks ih ihlinks => exact covers_comparison ih ihlinks hlinks.starts
  | noLinks => exact covers_noLinks
  | link _ hlinks ih ihlinks => exact covers_link ih ihlinks hlinks.starts
  | term h ih => exact (coversOperand_sum ih).chains h.starts.length_pos
  | add ht _ _ ihl ihr => exact ihl.join (coversOperand_sum ihr) (joiner?_of_sums ht)
  | signed h ih => exact (coversOperand_term ih).chains h.starts.length_pos
  | multiply ht _ _ ihl ihr => exact ihl.join (coversOperand_term ihr) (joiner?_of_products ht)
  | sign ht h ih => exact covers_sign ht ih h.starts.length_pos
  | power h ih => exact covers_signed ih h.starts
  | primary _ ih => exact covers_power ih
  | raise h _ ih ihe => exact covers_raise ih h.starts.length_pos ihe
  | atom h ih => exact extends_of_atom ih h.starts.length_pos
  | member _ ih => exact ih.member _
  | call _ _ ih ihgiven => exact ih.call ihgiven
  | subscript _ _ ih ihindex => exact ih.subscript ihindex
  | noArguments => exact covers_noArguments
  | lastArgument h ih => exact covers_lastArgument ih h.starts
  | moreArguments h _ ih ihmore =>
    exact fun start => covers_moreArguments ih h.starts start (ihmore start)
  | positional h ih => exact covers_positional ih h.starts
  | keyword _ ih => exact covers_keyword ih _
  | unpacked ht _ ih => exact covers_unpacked ih ht
  | noItems =>
    intro bracket start
    refine (covers_noItems start).mono (Nat.le_refl 0) ?_
    rintro _ rfl
    rfl
  | lastItem h ih =>
    intro bracket start
    refine (covers_lastItem ih h.starts start).mono (Nat.le_refl 0) ?_
    rintro _ ⟨e, rfl, he⟩
    simp only [Phrase.readingAll, he]
  | moreItems h _ ih ihmore =>
    intro bracket start
    refine (covers_moreItems ih h.starts start (ihmore bracket start)).mono (Nat.le_refl 0) ?_
    rintro _ ⟨e, more, rfl, he, hmore⟩
    simp only [Phrase.readingAll, he, hmore]
  | int => exact covers_int _
  | float => exact covers_float _
  | string => exact covers_string _
  | constant h => exact covers_constant h
  | name h hs => exact covers_name h hs
  | bracketed h ih =>
    refine covers_round (covers_lastItem ih h.starts) ?_
    rintro position _ ⟨e, rfl, he⟩
    exact (Phrase.reading_startingAt e position).trans he
  | emptyTuple =>
    have hitems (start : Nat) : Covers (items .round start) 17 0 ([] : List Token).length
        ([] ++ [.closeParen]) fun x => x = ([], false) := covers_noItems start
    refine covers_round hitems ?_
    rintro position _ rfl
    rfl
  | tuple h _ ih ihmore =>
    refine covers_round (fun start => covers_moreItems ih h.starts start (ihmore .round start)) ?_
    rintro position _ ⟨e, more, rfl, he, hmore⟩
    simp only [enclosed_of_comma, Phrase.reading, Phrase.readingAll, he, hmore]
  | list _ ih => exact covers_list (ih .square)

/-! ### Whole formulas -/

/-- Tokens that say something are parsed, and the phrase says it. -/
theorem parse_of_says {tokens : List PlacedToken} {r : BarePhrase}
    (h : Says (tokens.map PlacedToken.token) r) {maximum : Nat}
    (hmaximum : tokens.length ≤ maximum + 1) :
    ∃ e, parse maximum tokens = .ok e ∧ e.reading = r := by
  obtain ⟨ts, htokens, hr⟩ := h
  have hlength : tokens.length = ts.length + 1 := by
    simpa using congrArg List.length htokens
  let c : Cursor := ⟨none, tokens, 0, maximum⟩
  have hcovers : Covers expression 16 8 ts.length ts fun e => e.reading = r := parses hr
  obtain ⟨e, after, hrun, he, hafter⟩ := hcovers (20 * (tokens.length + 1)) (c := c)
    htokens (Nat.le_refl 8) (by simp only [List.length_cons, List.length_nil]; omega)
    (by show 0 + ts.length ≤ maximum; omega)
  refine ⟨e, ?_, he⟩
  have hopening : opening c.peek ≤ 2 := opening_peek_le hr.starts htokens
  rw [parse]
  dsimp only
  split
  · next hfinish =>
    rw [show c.peek = .finish from hfinish] at hopening
    exact absurd hopening (by decide)
  · show (expression (20 * (tokens.length + 1)) c >>= _) = _
    rw [hrun, except_ok_bind]
    dsimp only
    rw [Cursor.peek_of_tokens hafter.tokens]
    rfl

end Parser

/-! ### Tokens of a text -/

namespace Lexer

theorem ne_finish_of_token? {cs rest : List Char} {t : Token} (h : token? cs = some (t, rest)) :
    t ≠ .finish := by
  rw [token?] at h
  split at h
  · next n _ _ =>
    cases h
    unfold Numeral.token
    dsimp only
    split
    · split <;> simp
    · simp
  split at h
  · cases h
    simp
  rcases Option.or_eq_some_iff.1 h with h | ⟨-, h⟩
  · unfold name? at h
    split at h
    · cases h
    split at h
    · dsimp only at h
      split at h
      · obtain ⟨_, _, hformatted⟩ := Option.map_eq_some_iff.1 h
        cases hformatted
        simp
      · cases h
        simp
    · cases h
  · obtain ⟨s, hs, hsome⟩ := List.exists_of_findSome?_eq_some h
    obtain ⟨_, _, hsymbol⟩ := Option.map_eq_some_iff.1 hsome
    cases hsymbol
    rintro rfl
    simp [symbols] at hs

theorem exists_of_tokensFrom (place : Nat) (cs : List Char) :
    ∀ tokens, tokensFrom place cs = .ok tokens →
      ∃ ts, tokens.map PlacedToken.token = ts ++ [.finish] ∧
        ∀ t ∈ ts, ∃ cs rest, token? cs = some (t, rest) := by
  fun_induction tokensFrom place cs with
  | case1 =>
    rintro _ ⟨⟩
    exact ⟨[], rfl, List.forall_mem_nil _⟩
  | case2 =>
    intro tokens h
    cases h
  | case3 place cs c more _ position t rest ht ih =>
    intro tokens h
    obtain ⟨tokens, hrest, htokens⟩ := except_bind_eq_ok_iff.1 ((map_eq_pure_bind _ _).symm.trans h)
    cases htokens
    obtain ⟨ts, hts, hcut⟩ := ih tokens hrest
    refine ⟨t :: ts, by rw [List.map_cons, hts, List.cons_append], ?_⟩
    exact List.forall_mem_cons.2 ⟨⟨c :: more, rest, ht⟩, hcut⟩

/-- Every token of a text is cut from some text, save the end, which stands after the others. -/
theorem exists_of_tokenize {source : List Char} {tokens : List PlacedToken}
    (h : tokenize source = .ok tokens) : ∃ ts, tokens.map PlacedToken.token = ts ++ [.finish] ∧
      ∀ t ∈ ts, ∃ cs rest, token? cs = some (t, rest) :=
  exists_of_tokensFrom 0 source tokens h

theorem complete_of_tokenize {source : List Char} {tokens : List PlacedToken}
    (h : tokenize source = .ok tokens) : Parser.Complete (tokens.map PlacedToken.token) := by
  obtain ⟨ts, hts, hcut⟩ := exists_of_tokenize h
  refine ⟨ts, hts, fun hfinish => ?_⟩
  obtain ⟨_, _, hcut⟩ := hcut .finish hfinish
  exact ne_finish_of_token? hcut rfl

end Lexer

namespace Parser

/-- **The parser reads the grammar.** What it yields from the tokens of a text is what they say, and
if they say something then it yields that, so they say one thing at most. With one level for each
token before the end there is always room for it; a formula with fewer of them may be refused. -/
theorem parse_reads_grammar {source : List Char} {tokens : List PlacedToken}
    (h : Lexer.tokenize source = .ok tokens) :
    (∀ maximum e, parse maximum tokens = .ok e →
      Says (tokens.map PlacedToken.token) e.reading) ∧
    (∀ r, Says (tokens.map PlacedToken.token) r → ∀ maximum, tokens.length ≤ maximum + 1 →
      ∃ e, parse maximum tokens = .ok e ∧ e.reading = r) ∧
    ∀ r r', Says (tokens.map PlacedToken.token) r → Says (tokens.map PlacedToken.token) r' →
      r = r' := by
  refine ⟨fun maximum e he => says_of_parse (Lexer.complete_of_tokenize h) he,
    fun r hr maximum hmaximum => parse_of_says hr hmaximum, fun r r' hr hr' => ?_⟩
  have hroom : tokens.length ≤ tokens.length + 1 := Nat.le_succ _
  obtain ⟨e, he, hreading⟩ := parse_of_says hr hroom
  obtain ⟨e', he', hreading'⟩ := parse_of_says hr' hroom
  cases he.symm.trans he'
  exact hreading.symm.trans hreading'

/-- A formula with operators of many levels, a call and a tuple says one thing. -/
theorem parse_reads_grammar_levels :
    ∃ tokens e, Lexer.tokenize "-x ** 2 < f(a, *b, k=1)[0] if not p else (1,)".toList = .ok tokens ∧
      parse 64 tokens = .ok e ∧ Says (tokens.map PlacedToken.token) e.reading ∧
      ∀ r, Says (tokens.map PlacedToken.token) r → r = e.reading := by
  have h : (Lexer.tokenize "-x ** 2 < f(a, *b, k=1)[0] if not p else (1,)".toList >>=
    parse 64).isOk = true := by decide +kernel
  obtain ⟨e, he⟩ := isOk_iff.1 h
  obtain ⟨tokens, htokens, he⟩ := except_bind_eq_ok_iff.1 he
  obtain ⟨hreads, -, hone⟩ := parse_reads_grammar htokens
  exact ⟨tokens, e, htokens, he, hreads 64 e he, fun r hr => hone r e.reading hr (hreads 64 e he)⟩

end Parser

end Appraisal
