import Appraisal.Proofs.Formula.Derivation

/-!
# Runs of the parser along a derivation

What the parser does on the tokens of a value, if the parts of the value are read as they should
be (`Parser.Covers`). Three things decide whether it gets to the end of them:

* what stands behind them: a token that would make them a longer phrase may not follow
  (`Token.looseness`);
* how many levels may be open: one for each token is enough, and all are closed again at the end
  (`Cursor.Reaches`);
* how many calls are left: fewer than twenty are made between two tokens.

Chains of operators and rows of attributes, calls and subscripts are read by loops, whose state on
the way is told by `Parser.Chains` and `Parser.Extends`. There is one lemma for each way to derive
a value with operators; `Parser.parses` joins them up.
-/

namespace Appraisal

open Grammar

variable {α : Type}

/-! ### What may follow -/

/-- The loosest phrases that a token may follow, as a number that grows from atoms to whole
expressions. -/
def Token.looseness : Token → Nat
  | .finish | .closeParen | .closeBracket | .comma => 8
  | .name "if" | .name "else" => 7
  | .name "or" => 6
  | .name "and" => 5
  | .comparison _ => 4
  | .plus | .minus => 3
  | .star | .slash | .doubleSlash | .percent => 2
  | .doubleStar => 1
  | _ => 0

/-- The first of some tokens. -/
def firstOf (ts : List Token) : Token := ts.head?.getD .finish

namespace ChainLevel

/-- The looseness of what may follow an operand of a level. -/
def operandLooseness : ChainLevel → Nat
  | disjunction => 6
  | conjunction => 5
  | sum => 3
  | term => 2

/-- The calls that an operand of a level makes before it reads a token. -/
def operandRank : ChainLevel → Nat
  | disjunction => 13
  | conjunction => 11
  | sum => 7
  | term => 5

theorem operandRank_le (level : ChainLevel) : level.operandRank ≤ 20 := by
  cases level <;> decide

theorem looseness_of_joiner? {level : ChainLevel} {t : Token} {joiner : Joiner}
    (h : level.joiner? t = some joiner) : t.looseness = level.operandLooseness := by
  unfold joiner? at h
  split at h <;> cases h <;> rfl

/-- A token that may follow a chain is no operator of it. -/
theorem joiner?_eq_none {level : ChainLevel} {t : Token}
    (h : level.operandLooseness < t.looseness) : level.joiner? t = none := by
  cases hj : level.joiner? t with
  | none => rfl
  | some joiner => exact absurd (looseness_of_joiner? hj) (Nat.ne_of_gt h)

end ChainLevel

/-! ### Cursors -/

namespace Cursor

/-- `after` stands before `rest`, with `levels` more levels open than `c`. -/
structure Reaches (c : Cursor) (rest : List Token) (levels : Nat) (after : Cursor) : Prop where
  tokens : after.tokens = rest
  depth : after.depth = c.depth + levels
  maximum : after.maximum = c.maximum

variable {c after last : Cursor} {t : Token} {ts us : List Token} {m n : Nat}

theorem Reaches.trans (h : c.Reaches ts m after) (h' : after.Reaches us n last) :
    c.Reaches us (m + n) last where
  tokens := h'.tokens
  depth := by rw [h'.depth, h.depth, Nat.add_assoc]
  maximum := h'.maximum.trans h.maximum

theorem peek_of_tokens (h : c.tokens = t :: ts) : c.peek = t := by
  rw [peek_eq, h]
  rfl

theorem reaches_advance (h : c.tokens = t :: ts) : c.Reaches ts 0 c.advance := by
  obtain ⟨_, _ | _, _, _⟩ := c
  · cases h
  · exact ⟨(List.cons.inj h).2, rfl, rfl⟩

theorem Reaches.leave (h : c.Reaches ts n after) : c.Reaches ts 0 (after.leave n) where
  tokens := h.tokens
  depth := by rw [Cursor.leave, h.depth, Nat.add_sub_cancel, Nat.add_zero]
  maximum := h.maximum

theorem exists_enter (h : c.depth + 1 ≤ c.maximum) :
    ∃ after, c.enter = .ok after ∧ c.Reaches c.tokens 1 after :=
  ⟨_, if_neg (Nat.not_lt.2 h), rfl, rfl, rfl⟩

theorem exists_close {bracket : Bracket} (start : Nat) (h : c.tokens = bracket.closer :: ts) :
    ∃ after, c.close bracket start = .ok after ∧ c.Reaches ts 0 after :=
  ⟨c.advance, if_pos (Bracket.isClosedBy_iff.2 (peek_of_tokens h)), reaches_advance h⟩

end Cursor

/-! ### Runs that cover tokens -/

namespace Parser

/-- A function of the parser reads `ts` with a result that has `P`, whatever stands behind them that
may follow a phrase of the looseness. It needs room for `levels` more levels, and `rank` calls on
top of those for the tokens. A function has a greater rank than those it calls before it passes a
token: the ranks go from 1 for atoms up to 16 for expressions, 17 for items and 18 for arguments. -/
def Covers (run : Nat → Cursor → Except ParseError (α × Cursor)) (rank looseness levels : Nat)
    (ts : List Token) (P : α → Prop) : Prop :=
  ∀ (fuel : Nat) ⦃c : Cursor⦄ ⦃rest : List Token⦄, c.tokens = ts ++ rest →
    looseness ≤ (firstOf rest).looseness → 20 * (ts.length + rest.length) + rank ≤ fuel →
    c.depth + levels ≤ c.maximum →
    ∃ a after, run fuel c = .ok (a, after) ∧ P a ∧ c.Reaches rest 0 after

section Covers

variable {run run' : Nat → Cursor → Except ParseError (α × Cursor)}
  {rank looseness looseness' levels : Nat} {ts : List Token} {P Q : α → Prop}

theorem Covers.mono (h : Covers run rank looseness levels ts P) (hl : looseness ≤ looseness')
    (hPQ : ∀ a, P a → Q a) : Covers run rank looseness' levels ts Q := by
  intro fuel c rest hts hrest hfuel hdepth
  obtain ⟨a, after, hrun, ha, hafter⟩ := h fuel hts (Nat.le_trans hl hrest) hfuel hdepth
  exact ⟨a, after, hrun, hPQ a ha, hafter⟩

/-- Only runs that may make a call count. -/
theorem Covers.step (h : ∀ (fuel : Nat) (c : Cursor) (rest : List Token), c.tokens = ts ++ rest →
    looseness ≤ (firstOf rest).looseness → 20 * (ts.length + rest.length) + rank ≤ fuel →
    c.depth + levels ≤ c.maximum →
    ∃ a after, run (fuel + 1) c = .ok (a, after) ∧ P a ∧ c.Reaches rest 0 after) :
    Covers run (rank + 1) looseness levels ts P := by
  intro fuel c rest htokens hrest hfuel hdepth
  obtain ⟨fuel, rfl⟩ : ∃ n, fuel = n + 1 := Nat.exists_eq_succ_of_ne_zero (by omega)
  exact h fuel c rest htokens hrest (by omega) hdepth

/-- A function covers what it leaves to another one. -/
theorem Covers.call (h : Covers run rank looseness levels ts P)
    (heq : ∀ fuel c rest, c.tokens = ts ++ rest → run' (fuel + 1) c = run fuel c) :
    Covers run' (rank + 1) looseness levels ts P := by
  apply Covers.step
  intro fuel c rest hts hrest hfuel hdepth
  rw [heq fuel c rest hts]
  exact h fuel hts hrest hfuel hdepth

end Covers

/-! ### Chains -/

/-- An operand of a level covers `ts`, which say `r`. -/
abbrev CoversOperand (level : ChainLevel) (ts : List Token) (r : BarePhrase) : Prop :=
  Covers (operand level) level.operandRank level.operandLooseness (ts.length - 1) ts
    fun e => e.reading = r

/-- On its way through a chain, the parser comes to the end of `ts` with the reading `r`, whatever
stands behind them that may follow an operand. -/
def Chains (level : ChainLevel) (ts : List Token) (r : BarePhrase) : Prop :=
  ∀ (fuel : Nat) ⦃c : Cursor⦄ ⦃rest : List Token⦄, c.tokens = ts ++ rest →
    level.operandLooseness ≤ (firstOf rest).looseness →
    20 * (ts.length + rest.length) + (level.operandRank + 1) ≤ fuel →
    c.depth + (ts.length - 1) ≤ c.maximum →
    ∃ left after fuel' levels, chain level fuel c = chainTail level fuel' levels left after ∧
      left.reading = r ∧ c.Reaches rest levels after ∧ levels < ts.length ∧
      20 * rest.length < fuel'

section Chains

variable {level : ChainLevel} {ts us : List Token} {l r : BarePhrase}

theorem chainTail_of_joiner? {c : Cursor} {joiner : Joiner}
    (h : level.joiner? c.peek = some joiner) (fuel levels : Nat) (left : Phrase) :
    chainTail level (fuel + 1) levels left c = (do
      let c ← c.enter
      let (right, c) ← operand level fuel c.advance
      chainTail level fuel (levels + 1) (joiner.join left right) c) := by
  rw [chainTail]
  split
  · next hbitwise =>
    rw [hbitwise] at h
    cases level <;> cases h
  · split
    · next hnone => simp [h] at hnone
    · next hsome =>
      cases h.symm.trans hsome
      rfl

/-- A chain ends before a token that may follow it. -/
theorem chainTail_of_lt {c : Cursor} (h : level.operandLooseness < c.peek.looseness)
    (fuel levels : Nat) (left : Phrase) :
    chainTail level (fuel + 1) levels left c = .ok (left, c.leave levels) := by
  rw [chainTail]
  split
  · next hbitwise =>
    rw [hbitwise] at h
    exact absurd h (Nat.not_lt_zero _)
  · rw [ChainLevel.joiner?_eq_none h]

theorem CoversOperand.chains (h : CoversOperand level ts r) (hts : 0 < ts.length) :
    Chains level ts r := by
  intro fuel c rest htokens hrest hfuel hdepth
  obtain ⟨fuel, rfl⟩ : ∃ n, fuel = n + 1 := Nat.exists_eq_succ_of_ne_zero (by omega)
  obtain ⟨left, after, hrun, hleft, hafter⟩ := h fuel htokens hrest (by omega) hdepth
  refine ⟨left, after, fuel, 0, ?_, hleft, hafter, hts, by omega⟩
  rw [chain, hrun]
  rfl

/-- A link makes a chain longer. -/
theorem Chains.join (h : Chains level ts l) (hr : CoversOperand level us r) {t : Token}
    {joiner : Joiner} (ht : level.joiner? t = some joiner) :
    Chains level (ts ++ t :: us) (joiner.read l r) := by
  intro fuel c rest htokens hrest hfuel hdepth
  simp only [List.length_append, List.length_cons] at hfuel hdepth
  have hrank := level.operandRank_le
  have hfollow : level.operandLooseness ≤ (firstOf (t :: (us ++ rest))).looseness :=
    Nat.le_of_eq (ChainLevel.looseness_of_joiner? ht).symm
  obtain ⟨left, c₁, fuel', levels, hchain, hleft, hc₁, hlevels, hfuel'⟩ :=
    h fuel (htokens.trans (List.append_assoc ts (t :: us) rest)) hfollow (by simp; omega) (by omega)
  simp only [List.length_append, List.length_cons] at hfuel'
  obtain ⟨fuel', rfl⟩ : ∃ n, fuel' = n + 1 := Nat.exists_eq_succ_of_ne_zero (by omega)
  obtain ⟨c₂, henter, hc₂⟩ := c₁.exists_enter (by rw [hc₁.depth, hc₁.maximum]; omega)
  have hc₃ := (hc₁.trans hc₂).trans (Cursor.reaches_advance (hc₂.tokens.trans hc₁.tokens))
  obtain ⟨right, c₄, hright, hreads, hc₄⟩ :=
    hr fuel' hc₃.tokens hrest (by omega) (by rw [hc₃.depth, hc₃.maximum]; omega)
  refine ⟨joiner.join left right, c₄, fuel', levels + 1, ?_, ?_, hc₃.trans hc₄, ?_, by omega⟩
  · have hpeek : c₁.peek = t := Cursor.peek_of_tokens hc₁.tokens
    rw [hchain, chainTail_of_joiner? (hpeek ▸ ht), henter]
    show (operand level fuel' c₂.advance >>= _) = _
    rw [hright]
    rfl
  · rw [Joiner.reading_join, hleft, hreads]
  · simp only [List.length_append, List.length_cons]
    omega

/-- A chain covers its tokens if nothing behind them makes it longer. -/
theorem Chains.covers (h : Chains level ts r) :
    Covers (chain level) (level.operandRank + 1) (level.operandLooseness + 1) (ts.length - 1) ts
      fun e => e.reading = r := by
  intro fuel c rest htokens hrest hfuel hdepth
  obtain ⟨left, after, fuel', levels, hchain, hleft, hafter, -, hfuel'⟩ :=
    h fuel htokens (by omega) hfuel hdepth
  obtain ⟨fuel', rfl⟩ : ∃ n, fuel' = n + 1 := Nat.exists_eq_succ_of_ne_zero (by omega)
  refine ⟨left, after.leave levels, ?_, hleft, hafter.leave⟩
  rw [hchain]
  refine chainTail_of_lt ?_ fuel' levels left
  rw [Cursor.peek_eq, hafter.tokens]
  exact hrest

end Chains

/-! ### Values with attributes, calls and subscripts -/

/-- On its way through a primary value, the parser comes to the end of `ts` with the reading `r`. -/
def Extends (ts : List Token) (r : BarePhrase) : Prop :=
  ∀ (fuel : Nat) ⦃c : Cursor⦄ ⦃rest : List Token⦄, c.tokens = ts ++ rest →
    20 * (ts.length + rest.length) + 2 ≤ fuel → c.depth + (ts.length - 1) ≤ c.maximum →
    ∃ e after fuel' levels, primary fuel c = primaryTail fuel' levels e after ∧
      e.reading = r ∧ c.Reaches rest levels after ∧ levels < ts.length ∧
      20 * rest.length < fuel'

section Extends

variable {ts us : List Token} {r i : BarePhrase} {given : List (Given BarePhrase)}

theorem extends_of_atom (h : Covers atom 1 0 (ts.length - 1) ts fun e => e.reading = r)
    (hts : 0 < ts.length) : Extends ts r := by
  intro fuel c rest htokens hfuel hdepth
  obtain ⟨fuel, rfl⟩ : ∃ n, fuel = n + 1 := Nat.exists_eq_succ_of_ne_zero (by omega)
  obtain ⟨e, after, hrun, he, hafter⟩ := h fuel htokens (Nat.zero_le _) (by omega) hdepth
  refine ⟨e, after, fuel, 0, ?_, he, hafter, hts, by omega⟩
  rw [primary, hrun]
  rfl

/-- One more part of a primary value opens one more level, behind the token that tells its kind. -/
theorem Extends.enter (h : Extends ts r) (fuel : Nat) {t : Token} {rest : List Token} {c : Cursor}
    (htokens : c.tokens = ts ++ t :: rest) (hfuel : 20 * (ts.length + rest.length + 1) + 2 ≤ fuel)
    (hdepth : c.depth + ts.length ≤ c.maximum) :
    ∃ e c₁ c₂ fuel' levels, primary fuel c = primaryTail (fuel' + 1) levels e c₁ ∧
      c₁.peek = t ∧ c₁.enter = .ok c₂ ∧ e.reading = r ∧ c.Reaches rest (levels + 1) c₂.advance ∧
      levels < ts.length ∧ 20 * (rest.length + 1) ≤ fuel' := by
  obtain ⟨e, c₁, fuel', levels, hrun, he, hc₁, hlevels, hfuel'⟩ :=
    h fuel htokens (by simp only [List.length_cons]; omega) (by omega)
  simp only [List.length_cons] at hfuel'
  obtain ⟨fuel', rfl⟩ : ∃ n, fuel' = n + 1 := Nat.exists_eq_succ_of_ne_zero (by omega)
  obtain ⟨c₂, henter, hc₂⟩ := c₁.exists_enter (by rw [hc₁.depth, hc₁.maximum]; omega)
  have hc₃ := (hc₁.trans hc₂).trans (Cursor.reaches_advance (hc₂.tokens.trans hc₁.tokens))
  refine ⟨e, c₁, c₂, fuel', levels, hrun, ?_, henter, he, hc₃, hlevels, by omega⟩
  rw [Cursor.peek_eq, hc₁.tokens]
  rfl

theorem Extends.member (h : Extends ts r) (s : String) :
    Extends (ts ++ [.dot, .name s]) (.member r s) := by
  intro fuel c rest htokens hfuel hdepth
  simp only [List.length_append, List.length_cons, List.length_nil] at hfuel hdepth
  have htokens : c.tokens = ts ++ .dot :: (.name s :: rest) := by simpa using htokens
  obtain ⟨e, c₁, c₂, fuel', levels, hrun, hpeek, henter, he, hc₂, hlevels, hfuel'⟩ :=
    h.enter fuel htokens (by simp only [List.length_cons]; omega) (by omega)
  have hname : c₂.advance.peek = .name s := Cursor.peek_of_tokens hc₂.tokens
  have hc₃ := hc₂.trans (Cursor.reaches_advance hc₂.tokens)
  simp only [List.length_cons] at hfuel'
  refine ⟨.member e.position e s, c₂.advance.advance, fuel', levels + 1, ?_, ?_, hc₃, ?_, by omega⟩
  · rw [hrun, primaryTail, hpeek, henter]
    rw [except_ok_bind]
    dsimp only
    rw [hname]
  · rw [Phrase.reading, he]
  · simp only [List.length_append, List.length_cons, List.length_nil]
    omega

theorem Extends.call (h : Extends ts r)
    (hgiven : ∀ start, Covers (arguments start) 18 0 us.length (us ++ [.closeParen])
      fun x => Phrase.readingArguments x = given) :
    Extends (ts ++ .openParen :: us ++ [.closeParen]) (.call r given) := by
  intro fuel c rest htokens hfuel hdepth
  simp only [List.length_append, List.length_cons, List.length_nil] at hfuel hdepth
  have htokens : c.tokens = ts ++ .openParen :: (us ++ [.closeParen] ++ rest) := by
    simpa using htokens
  obtain ⟨e, c₁, c₂, fuel', levels, hrun, hpeek, henter, he, hc₂, hlevels, hfuel'⟩ :=
    h.enter fuel htokens
      (by simp only [List.length_append, List.length_cons, List.length_nil]; omega) (by omega)
  simp only [List.length_append, List.length_cons, List.length_nil] at hfuel'
  obtain ⟨x, c₃, hrun', hx, hc₃⟩ := hgiven c₁.position fuel' hc₂.tokens (Nat.zero_le _)
    (by simp only [List.length_append, List.length_cons, List.length_nil]; omega)
    (by rw [hc₂.depth, hc₂.maximum]; omega)
  refine ⟨.call e.position e x, c₃, fuel', levels + 1, ?_, ?_, hc₂.trans hc₃, ?_, by omega⟩
  · rw [hrun, primaryTail, hpeek, henter]
    show (arguments c₁.position fuel' c₂.advance >>= _) = _
    rw [hrun']
    rfl
  · rw [Phrase.reading, he, hx]
  · simp only [List.length_append, List.length_cons, List.length_nil]
    omega

theorem Extends.subscript (h : Extends ts r)
    (hindex : Covers expression 16 8 us.length us fun e => e.reading = i) :
    Extends (ts ++ .openBracket :: us ++ [.closeBracket]) (.subscript r i) := by
  intro fuel c rest htokens hfuel hdepth
  simp only [List.length_append, List.length_cons, List.length_nil] at hfuel hdepth
  have htokens : c.tokens = ts ++ .openBracket :: (us ++ (Bracket.square.closer :: rest)) := by
    simpa [Bracket.closer] using htokens
  obtain ⟨e, c₁, c₂, fuel', levels, hrun, hpeek, henter, he, hc₂, hlevels, hfuel'⟩ :=
    h.enter fuel htokens (by simp only [List.length_append, List.length_cons]; omega) (by omega)
  simp only [List.length_append, List.length_cons] at hfuel'
  obtain ⟨x, c₃, hrun', hx, hc₃⟩ := hindex fuel' hc₂.tokens (Nat.le_refl _)
    (by simp only [List.length_cons]; omega) (by rw [hc₂.depth, hc₂.maximum]; omega)
  obtain ⟨c₄, hclose, hc₄⟩ := Cursor.exists_close c₁.position hc₃.tokens
  refine ⟨.subscript e.position e x, c₄, fuel', levels + 1, ?_, ?_, (hc₂.trans hc₃).trans hc₄, ?_,
    by omega⟩
  · rw [hrun, primaryTail, hpeek, henter]
    show (expression fuel' c₂.advance >>= _) = _
    rw [hrun']
    show (c₃.close .square c₁.position >>= _) = _
    rw [hclose]
    rfl
  · rw [Phrase.reading, he, hx]
  · simp only [List.length_append, List.length_cons, List.length_nil]
    omega

/-- A primary value ends before a token that may follow it. -/
theorem primaryTail_of_lt {c : Cursor} (h : 0 < c.peek.looseness) (fuel levels : Nat)
    (e : Phrase) : primaryTail (fuel + 1) levels e c = .ok (e, c.leave levels) := by
  rw [primaryTail]
  split
  · next hpeek =>
    rw [hpeek] at h
    cases h
  · next hpeek =>
    rw [hpeek] at h
    cases h
  · next hpeek =>
    rw [hpeek] at h
    cases h
  · rfl

theorem Extends.covers (h : Extends ts r) :
    Covers primary 2 1 (ts.length - 1) ts fun e => e.reading = r := by
  intro fuel c rest htokens hrest hfuel hdepth
  obtain ⟨e, after, fuel', levels, hrun, he, hafter, -, hfuel'⟩ := h fuel htokens hfuel hdepth
  obtain ⟨fuel', rfl⟩ : ∃ n, fuel' = n + 1 := Nat.exists_eq_succ_of_ne_zero (by omega)
  refine ⟨e, after.leave levels, ?_, he, hafter.leave⟩
  rw [hrun]
  refine primaryTail_of_lt ?_ fuel' levels e
  rw [Cursor.peek_eq, hafter.tokens]
  exact hrest

end Extends

/-! ### Expressions -/

section Expressions

variable {ts us vs : List Token} {r l yes test no : BarePhrase}

theorem atWord_eq_false {c : Cursor} {word : String} (h : c.peek ≠ .name word) :
    c.atWord word = false :=
  Bool.eq_false_iff.2 fun hword => h (Cursor.peek_of_atWord hword)

theorem atWord_of_tokens {c : Cursor} {word : String} (h : c.tokens = .name word :: ts) :
    c.atWord word = true :=
  Token.isName_iff.2 (Cursor.peek_of_tokens h)

theorem Chains.covers_conditional (h : Chains .disjunction ts r) :
    Covers conditional 15 8 (ts.length - 1) ts fun e => e.reading = r := by
  apply Covers.step
  intro fuel c rest htokens hrest hfuel hdepth
  obtain ⟨e, after, hrun, he, hafter⟩ :=
    h.covers fuel htokens (Nat.le_of_lt hrest) hfuel hdepth
  refine ⟨e, after, ?_, he, hafter⟩
  have hpeek : after.atWord "if" = false := by
    refine atWord_eq_false fun hif => ?_
    rw [Cursor.peek_eq, hafter.tokens] at hif
    rw [firstOf, hif] at hrest
    exact absurd hrest (by decide)
  rw [conditional, hrun]
  show (if !after.atWord "if" then _ else _) = _
  rw [hpeek]
  rfl

theorem covers_choice (hyes : Chains .disjunction ts yes) (htest : Chains .disjunction us test)
    (hno : Covers expression 16 8 vs.length vs fun e => e.reading = no) :
    Covers conditional 15 8 ((ts ++ .name "if" :: us ++ .name "else" :: vs).length - 1)
      (ts ++ .name "if" :: us ++ .name "else" :: vs)
      fun e => e.reading = .conditional test yes no := by
  apply Covers.step
  intro fuel c rest htokens hrest hfuel hdepth
  simp only [List.length_append, List.length_cons] at hfuel hdepth
  have htokens : c.tokens = ts ++ .name "if" :: (us ++ .name "else" :: (vs ++ rest)) := by
    simpa using htokens
  obtain ⟨e₁, c₁, hrun₁, he₁, hc₁⟩ := hyes.covers fuel htokens (Nat.le_refl 7)
    (by simp only [List.length_append, List.length_cons, ChainLevel.operandRank]; omega) (by omega)
  have hc₂ := hc₁.trans (Cursor.reaches_advance hc₁.tokens)
  obtain ⟨e₂, c₃, hrun₂, he₂, hc₃⟩ := htest.covers fuel hc₂.tokens (Nat.le_refl 7)
    (by simp only [List.length_append, List.length_cons, ChainLevel.operandRank]; omega)
    (by rw [hc₂.depth, hc₂.maximum]; omega)
  have hc₄ := (hc₂.trans hc₃).trans (Cursor.reaches_advance hc₃.tokens)
  obtain ⟨e₃, c₅, hrun₃, he₃, hc₅⟩ := hno fuel hc₄.tokens hrest (by omega)
    (by rw [hc₄.depth, hc₄.maximum]; omega)
  refine ⟨.conditional e₁.position e₂ e₁ e₃, c₅, ?_, by simp only [Phrase.reading, he₁, he₂, he₃],
    hc₄.trans hc₅⟩
  rw [conditional, hrun₁]
  show (if !c₁.atWord "if" then _ else _) = _
  rw [atWord_of_tokens hc₁.tokens]
  show (chain .disjunction fuel c₁.advance >>= _) = _
  rw [hrun₂]
  show (if !c₃.atWord "else" then _ else _) = _
  rw [atWord_of_tokens hc₃.tokens]
  show (expression fuel c₃.advance >>= _) = _
  rw [hrun₃]
  rfl

/-- An expression opens a level of its own. -/
theorem covers_expression (h : Covers conditional 15 8 (ts.length - 1) ts fun e => e.reading = r)
    (hts : 0 < ts.length) : Covers expression 16 8 ts.length ts fun e => e.reading = r := by
  apply Covers.step
  intro fuel c rest htokens hrest hfuel hdepth
  obtain ⟨c₁, henter, hc₁⟩ := c.exists_enter (by omega)
  obtain ⟨e, c₂, hrun, he, hc₂⟩ := h fuel (hc₁.tokens.trans htokens) hrest (by omega)
    (by rw [hc₁.depth, hc₁.maximum]; omega)
  refine ⟨e, c₂.leave 1, ?_, he, (hc₁.trans hc₂).leave⟩
  rw [expression, henter]
  show (conditional fuel c₁ >>= _) = _
  rw [hrun]
  rfl

end Expressions

/-! ### Operands -/

section Operands

variable {ts us : List Token} {r : BarePhrase}

theorem coversOperand_disjunction (h : Chains .conjunction ts r) :
    CoversOperand .disjunction ts r :=
  h.covers.call fun _ _ _ _ => rfl

theorem coversOperand_conjunction
    (h : Covers negation 10 5 (ts.length - 1) ts fun e => e.reading = r) :
    CoversOperand .conjunction ts r :=
  h.call fun _ _ _ _ => rfl

theorem coversOperand_sum (h : Chains .term ts r) : CoversOperand .sum ts r :=
  h.covers.call fun _ _ _ _ => rfl

theorem coversOperand_term (h : Covers signed 4 2 (ts.length - 1) ts fun e => e.reading = r) :
    CoversOperand .term ts r :=
  h.call fun _ _ _ _ => rfl

theorem opening_peek_le {kind : Nat} (h : Begins kind ts) {c : Cursor} {rest : List Token}
    (htokens : c.tokens = ts ++ rest) : opening c.peek ≤ kind := by
  cases ts with
  | nil => exact h.elim
  | cons t ts =>
    rw [Cursor.peek_eq, htokens]
    exact h.1

theorem covers_negation (h : Covers comparison 9 5 (ts.length - 1) ts fun e => e.reading = r)
    (hts : Begins 1 ts) : Covers negation 10 5 (ts.length - 1) ts fun e => e.reading = r := by
  refine h.call fun fuel c rest htokens => ?_
  have hnot : c.atWord "not" = false := by
    refine atWord_eq_false fun hnot => ?_
    have hopening := opening_peek_le hts htokens
    rw [hnot] at hopening
    exact absurd hopening (by decide)
  rw [negation, hnot]
  rfl

theorem covers_not (h : Covers negation 10 5 (ts.length - 1) ts fun e => e.reading = r)
    (hts : 0 < ts.length) :
    Covers negation 10 5 ts.length (.name "not" :: ts) fun e => e.reading = .unary .not r := by
  apply Covers.step
  intro fuel c rest htokens hrest hfuel hdepth
  simp only [List.length_cons] at hfuel
  obtain ⟨c₁, henter, hc₁⟩ := c.exists_enter (by omega)
  have hc₂ := hc₁.trans (Cursor.reaches_advance (hc₁.tokens.trans htokens))
  obtain ⟨e, c₃, hrun, he, hc₃⟩ := h fuel hc₂.tokens hrest (by omega)
    (by rw [hc₂.depth, hc₂.maximum]; omega)
  refine ⟨.unary c.position .not e, c₃.leave 1, ?_, by simp only [Phrase.reading, he],
    (hc₂.trans hc₃).leave⟩
  rw [negation, atWord_of_tokens htokens, if_pos rfl, henter]
  show (negation fuel c₁.advance >>= _) = _
  rw [hrun]
  rfl

/-! ### Comparison chains -/

/-- What the links of a chain say together with its first operand. -/
def joinLinks (first : BarePhrase) : List (Comparison × BarePhrase) → BarePhrase
  | [] => first
  | link :: more => .comparison first (link :: more)

theorem looseness_links {rest : List Token} (hus : Category.links.Starts us)
    (hrest : 5 ≤ (firstOf rest).looseness) : 4 ≤ (firstOf (us ++ rest)).looseness := by
  cases us with
  | nil => exact Nat.le_of_succ_le hrest
  | cons t us =>
    obtain ⟨op, rfl⟩ := hus t rfl
    exact Nat.le_refl 4

/-- Only comparison operators and words continue a comparison. -/
theorem comparisonTail_of_le {c : Cursor} (h : 5 ≤ c.peek.looseness) (fuel : Nat) :
    comparisonTail (fuel + 1) c = .ok ([], c) := by
  have hword (word : String) (hw : (Token.name word).looseness < 5) : c.atWord word = false :=
    atWord_eq_false fun hpeek => Nat.not_le.2 hw (hpeek ▸ h)
  rw [comparisonTail]
  split
  · next op hop =>
    rw [Token.comparison?_eq_some_iff.1 hop] at h
    exact absurd h (Nat.not_succ_le_self 4)
  · rw [hword "in" (by decide), hword "is" (by decide), hword "not" (by decide)]
    rfl

theorem covers_noLinks :
    Covers comparisonTail 1 5 0 [] fun x => Phrase.readingLinks x = [] := by
  apply Covers.step
  intro fuel c rest htokens hrest hfuel _
  refine ⟨[], c, comparisonTail_of_le ?_ fuel, rfl, htokens, rfl, rfl⟩
  rw [Cursor.peek_eq, htokens]
  exact hrest

variable {links : List (Comparison × BarePhrase)}

theorem covers_link {op : Comparison} (h : Chains .sum ts r)
    (hlinks : Covers comparisonTail 1 5 (us.length - 1) us fun x => Phrase.readingLinks x = links)
    (hus : Category.links.Starts us) :
    Covers comparisonTail 1 5 ((.comparison op :: ts ++ us).length - 1) (.comparison op :: ts ++ us)
      fun x => Phrase.readingLinks x = (op, r) :: links := by
  apply Covers.step
  intro fuel c rest htokens hrest hfuel hdepth
  simp only [List.length_append, List.length_cons] at hfuel hdepth
  have htokens : c.tokens = .comparison op :: (ts ++ (us ++ rest)) := by simpa using htokens
  have hc₁ := Cursor.reaches_advance htokens
  obtain ⟨e, c₂, hrun₁, he, hc₂⟩ := h.covers fuel hc₁.tokens (looseness_links hus hrest)
    (by simp only [List.length_append, ChainLevel.operandRank]; omega)
    (by rw [hc₁.depth, hc₁.maximum]; omega)
  have hc₃ := hc₁.trans hc₂
  obtain ⟨x, c₄, hrun₂, hx, hc₄⟩ := hlinks fuel hc₃.tokens hrest (by omega)
    (by rw [hc₃.depth, hc₃.maximum]; omega)
  refine ⟨(op, e) :: x, c₄, ?_, by simp only [Phrase.readingLinks, he, hx], hc₃.trans hc₄⟩
  have hpeek : c.peek.comparison? = some op :=
    Token.comparison?_eq_some_iff.2 (Cursor.peek_of_tokens htokens)
  rw [comparisonTail, hpeek]
  show (chain .sum fuel c.advance >>= _) = _
  rw [hrun₁]
  show (comparisonTail fuel c₂ >>= _) = _
  rw [hrun₂]
  rfl

theorem covers_comparison (h : Chains .sum ts r)
    (hlinks : Covers comparisonTail 1 5 (us.length - 1) us fun x => Phrase.readingLinks x = links)
    (hus : Category.links.Starts us) :
    Covers comparison 9 5 ((ts ++ us).length - 1) (ts ++ us) fun e =>
      e.reading = joinLinks r links := by
  apply Covers.step
  intro fuel c rest htokens hrest hfuel hdepth
  simp only [List.length_append] at hfuel hdepth
  obtain ⟨e, c₁, hrun₁, he, hc₁⟩ := h.covers fuel (htokens.trans (List.append_assoc ts us rest))
    (looseness_links hus hrest) (by simp only [List.length_append, ChainLevel.operandRank]; omega)
    (by omega)
  obtain ⟨x, c₂, hrun₂, hx, hc₂⟩ := hlinks fuel hc₁.tokens hrest (by omega)
    (by rw [hc₁.depth, hc₁.maximum]; omega)
  have hafter := hc₁.trans hc₂
  cases x with
  | nil =>
    cases hx
    refine ⟨e, c₂, ?_, he, hafter⟩
    rw [comparison, hrun₁]
    show (comparisonTail fuel c₁ >>= _) = _
    rw [hrun₂]
    rfl
  | cons link more =>
    cases hx
    refine ⟨.comparison e.position e (link :: more), c₂, ?_, ?_, hafter⟩
    · rw [comparison, hrun₁]
      show (comparisonTail fuel c₁ >>= _) = _
      rw [hrun₂]
      rfl
    · simp only [Phrase.reading, he]
      rfl

/-! ### Signs and powers -/

theorem covers_signed (h : Covers power 3 2 (ts.length - 1) ts fun e => e.reading = r)
    (hts : Begins 0 ts) : Covers signed 4 2 (ts.length - 1) ts fun e => e.reading = r := by
  refine h.call fun fuel c rest htokens => ?_
  have hopening := opening_peek_le hts htokens
  rw [signed]
  split
  · next hpeek =>
    rw [hpeek] at hopening
    cases hopening
  · next hpeek =>
    rw [hpeek] at hopening
    cases hopening
  · next hpeek =>
    rw [hpeek] at hopening
    cases hopening
  · rfl

theorem covers_sign {t : Token} {op : UnaryOp} (ht : (t, op) ∈ signs)
    (h : Covers signed 4 2 (ts.length - 1) ts fun e => e.reading = r) (hts : 0 < ts.length) :
    Covers signed 4 2 ts.length (t :: ts) fun e => e.reading = .unary op r := by
  intro fuel c rest htokens hrest hfuel hdepth
  simp only [List.length_cons] at hfuel
  obtain ⟨fuel, rfl⟩ : ∃ n, fuel = n + 1 + 1 := ⟨fuel - 2, by omega⟩
  obtain ⟨c₁, henter, hc₁⟩ := c.exists_enter (by omega)
  have hc₂ := hc₁.trans (Cursor.reaches_advance (hc₁.tokens.trans htokens))
  obtain ⟨e, c₃, hrun, he, hc₃⟩ := h fuel hc₂.tokens hrest (by omega)
    (by rw [hc₂.depth, hc₂.maximum]; omega)
  refine ⟨.unary c.position op e, c₃.leave 1, ?_, by simp only [Phrase.reading, he],
    (hc₂.trans hc₃).leave⟩
  have hsign : signed (fuel + 1 + 1) c = sign op (fuel + 1) c := by
    have hpeek : c.peek = t := Cursor.peek_of_tokens htokens
    simp only [signs, List.mem_cons, Prod.mk.injEq, List.not_mem_nil, or_false] at ht
    rcases ht with ⟨rfl, rfl⟩ | ⟨rfl, rfl⟩ <;> rw [signed, hpeek]
  rw [hsign, sign, henter]
  show (signed fuel c₁.advance >>= _) = _
  rw [hrun]
  rfl

theorem covers_power (h : Extends ts r) :
    Covers power 3 2 (ts.length - 1) ts fun e => e.reading = r := by
  apply Covers.step
  intro fuel c rest htokens hrest hfuel hdepth
  obtain ⟨e, after, hrun, he, hafter⟩ :=
    h.covers fuel htokens (Nat.le_of_succ_le hrest) hfuel hdepth
  refine ⟨e, after, ?_, he, hafter⟩
  rw [power, hrun, except_ok_bind]
  dsimp only
  split
  · next hstar =>
    rw [Cursor.peek_eq, hafter.tokens] at hstar
    rw [firstOf, hstar] at hrest
    exact absurd hrest (by decide)
  · rfl

theorem covers_raise {e : BarePhrase} (h : Extends ts r) (hts : 0 < ts.length)
    (he : Covers signed 4 2 (us.length - 1) us fun x => x.reading = e) :
    Covers power 3 2 ((ts ++ .doubleStar :: us).length - 1) (ts ++ .doubleStar :: us)
      fun x => x.reading = .arithmetic .pow r e := by
  apply Covers.step
  intro fuel c rest htokens hrest hfuel hdepth
  simp only [List.length_append, List.length_cons] at hfuel hdepth
  have htokens : c.tokens = ts ++ .doubleStar :: (us ++ rest) := by simpa using htokens
  obtain ⟨base, c₁, hrun₁, hbase, hc₁⟩ := h.covers fuel htokens (Nat.le_refl 1)
    (by simp only [List.length_append, List.length_cons]; omega) (by omega)
  obtain ⟨c₂, henter, hc₂⟩ := c₁.exists_enter (by rw [hc₁.depth, hc₁.maximum]; omega)
  have hc₃ := (hc₁.trans hc₂).trans (Cursor.reaches_advance (hc₂.tokens.trans hc₁.tokens))
  obtain ⟨x, c₄, hrun₂, hx, hc₄⟩ := he fuel hc₃.tokens hrest (by omega)
    (by rw [hc₃.depth, hc₃.maximum]; omega)
  refine ⟨.arithmetic base.position .pow base x, c₄.leave 1, ?_,
    by simp only [Phrase.reading, hbase, hx], (hc₃.trans hc₄).leave⟩
  have hpeek : c₁.peek = .doubleStar := Cursor.peek_of_tokens hc₁.tokens
  rw [power, hrun₁, except_ok_bind]
  dsimp only
  rw [hpeek]
  show (c₁.enter >>= _) = _
  rw [henter]
  show (signed fuel c₂.advance >>= _) = _
  rw [hrun₂]
  rfl

end Operands

end Parser

end Appraisal
