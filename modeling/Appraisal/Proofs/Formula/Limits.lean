import Appraisal.Proofs.Formula.FieldReads

/-!
# Limits are guards

A limit refuses a formula or leaves it alone; it never changes what the formula is or what it is
worth.

* Every function of the parser that succeeds does so with more levels as well, with the same
  result and as many open levels (`Parser.guarded`), so a source that is read under some limits is
  read alike under wider ones (`Expr.parse_mono`).
* An evaluator never opens more levels than the formula is high. So all evaluators that admit its
  height agree on it, whatever the depth at which they find it (`Expr.eval_of_fits`).

The two facts together are `Expr.limits_only_guard`.
-/

namespace Appraisal

/-! ### Cursors with more levels -/

namespace Cursor

/-- The same place, where `n` more levels may be open. -/
def widen (n : Nat) (c : Cursor) : Cursor := { c with maximum := c.maximum + n }

variable (n : Nat) (c : Cursor)

@[simp] theorem peek_widen : (c.widen n).peek = c.peek := rfl

@[simp] theorem peekSecond_widen : (c.widen n).peekSecond = c.peekSecond := rfl

@[simp] theorem position_widen : (c.widen n).position = c.position := rfl

@[simp] theorem atWord_widen (word : String) : (c.widen n).atWord word = c.atWord word := rfl

@[simp] theorem advance_widen : (c.widen n).advance = c.advance.widen n := by
  obtain ⟨_, _ | _, _, _⟩ := c <;> rfl

end Cursor

/-! ### Runs that more levels do not change -/

section Guards

variable {ε α β γ : Type}

/-- If the first run succeeds then so does the second, with the image of the result. -/
def Guards (g : α → β) (x : Except ε α) (y : Except ε β) : Prop := ∀ a, x = .ok a → y = .ok (g a)

/-- A result of the parser, where `n` more levels may be open from there on. -/
def widened (n : Nat) (x : α × Cursor) : α × Cursor := (x.1, x.2.widen n)

theorem guards_ok {g : α → β} (a : α) : Guards (ε := ε) g (.ok a) (.ok (g a)) := by
  rintro _ ⟨⟩
  rfl

theorem guards_error {g : α → β} (e : ε) (y : Except ε β) : Guards g (.error e) y := nofun

theorem Guards.bind {δ : Type} {g : α → β} {h : γ → δ} {x : Except ε α} {y : Except ε β}
    {f : α → Except ε γ} {f' : β → Except ε δ} (hx : Guards g x y)
    (hf : ∀ a, Guards h (f a) (f' (g a))) : Guards h (x >>= f) (y >>= f') := by
  intro c hc
  obtain ⟨a, ha, hc⟩ := except_bind_eq_ok_iff.1 hc
  rw [hx a ha]
  exact hf a c hc

theorem Guards.ite {g : α → β} {x x' : Except ε α} {y y' : Except ε β} {p : Prop} [Decidable p]
    (h : p → Guards g x y) (h' : ¬ p → Guards g x' y') :
    Guards g (if p then x else x') (if p then y else y') := by
  split
  · next hp => exact h hp
  · next hp => exact h' hp

theorem Cursor.guards_enter (n : Nat) (c : Cursor) :
    Guards (Cursor.widen n) c.enter (c.widen n).enter := by
  rw [Cursor.enter, Cursor.enter]
  split
  · exact guards_error _ _
  · next hroom =>
    rw [if_neg]
    · exact guards_ok _
    · simp only [Cursor.widen]
      omega

theorem Cursor.guards_close (n : Nat) (c : Cursor) (bracket : Bracket) (start : Nat) :
    Guards (Cursor.widen n) (c.close bracket start) ((c.widen n).close bracket start) := by
  rw [Cursor.close, Cursor.close, Cursor.peek_widen, Cursor.advance_widen]
  split
  · exact guards_ok _
  · split <;> exact guards_error _ _

end Guards

/-! ### The parser -/

namespace Parser

variable {n : Nat}

theorem guards_word (n : Nat) (c : Cursor) (s : String) :
    Guards (widened n) (word c s) (word (c.widen n) s) := by
  rw [word, word, Cursor.advance_widen, Cursor.position_widen]
  split
  · exact guards_error _ _
  split
  · exact guards_error _ _
  · exact guards_ok _

/-- What the functions of the parser yield with `fuel` calls to make they yield with `n` more levels
as well. -/
structure Guarded (n fuel : Nat) : Prop where
  expression (c) : Guards (widened n) (expression fuel c) (expression fuel (c.widen n))
  conditional (c) : Guards (widened n) (conditional fuel c) (conditional fuel (c.widen n))
  chain (level : ChainLevel) (c) :
    Guards (widened n) (chain level fuel c) (chain level fuel (c.widen n))
  chainTail (level : ChainLevel) (levels : Nat) (left c) : Guards (widened n)
    (chainTail level fuel levels left c) (chainTail level fuel levels left (c.widen n))
  operand (level : ChainLevel) (c) :
    Guards (widened n) (operand level fuel c) (operand level fuel (c.widen n))
  negation (c) : Guards (widened n) (negation fuel c) (negation fuel (c.widen n))
  comparison (c) : Guards (widened n) (comparison fuel c) (comparison fuel (c.widen n))
  comparisonTail (c) :
    Guards (widened n) (comparisonTail fuel c) (comparisonTail fuel (c.widen n))
  signed (c) : Guards (widened n) (signed fuel c) (signed fuel (c.widen n))
  sign (op : UnaryOp) (c) : Guards (widened n) (sign op fuel c) (sign op fuel (c.widen n))
  power (c) : Guards (widened n) (power fuel c) (power fuel (c.widen n))
  primary (c) : Guards (widened n) (primary fuel c) (primary fuel (c.widen n))
  primaryTail (levels : Nat) (e c) : Guards (widened n)
    (primaryTail fuel levels e c) (primaryTail fuel levels e (c.widen n))
  arguments (start : Nat) (c) :
    Guards (widened n) (arguments start fuel c) (arguments start fuel (c.widen n))
  argument (c) : Guards (widened n) (argument fuel c) (argument fuel (c.widen n))
  items (bracket : Bracket) (start : Nat) (c) :
    Guards (widened n) (items bracket start fuel c) (items bracket start fuel (c.widen n))
  atom (c) : Guards (widened n) (atom fuel c) (atom fuel (c.widen n))

/-- Without a call to make no function succeeds. -/
theorem guarded_zero (n : Nat) : Guarded n 0 where
  expression _ := guards_error _ _
  conditional _ := guards_error _ _
  chain _ _ := guards_error _ _
  chainTail _ _ _ _ := guards_error _ _
  operand _ _ := guards_error _ _
  negation _ := guards_error _ _
  comparison _ := guards_error _ _
  comparisonTail _ := guards_error _ _
  signed _ := guards_error _ _
  sign _ _ := guards_error _ _
  power _ := guards_error _ _
  primary _ := guards_error _ _
  primaryTail _ _ _ := guards_error _ _
  arguments _ _ := guards_error _ _
  argument _ := guards_error _ _
  items _ _ _ := guards_error _ _
  atom _ := guards_error _ _

namespace Guarded

variable {fuel : Nat} (h : Guarded n fuel) (c : Cursor)
include h

theorem expression_succ :
    Guards (widened n) (Parser.expression (fuel + 1) c)
      (Parser.expression (fuel + 1) (c.widen n)) := by
  rw [Parser.expression, Parser.expression]
  refine (c.guards_enter n).bind fun c => ?_
  refine (h.conditional c).bind ?_
  rintro ⟨e, c⟩
  exact guards_ok _

theorem conditional_succ :
    Guards (widened n) (Parser.conditional (fuel + 1) c)
      (Parser.conditional (fuel + 1) (c.widen n)) := by
  rw [Parser.conditional, Parser.conditional]
  refine (h.chain .disjunction c).bind ?_
  rintro ⟨yes, c⟩
  simp only [widened, Cursor.atWord_widen, Cursor.advance_widen]
  split
  · exact guards_ok _
  refine (h.chain .disjunction c.advance).bind ?_
  rintro ⟨test, c⟩
  simp only [widened, Cursor.atWord_widen, Cursor.advance_widen]
  split
  · exact guards_error _ _
  refine (h.expression c.advance).bind ?_
  rintro ⟨no, c⟩
  exact guards_ok _

theorem chain_succ (level : ChainLevel) :
    Guards (widened n) (Parser.chain level (fuel + 1) c)
      (Parser.chain level (fuel + 1) (c.widen n)) := by
  rw [Parser.chain, Parser.chain]
  refine (h.operand level c).bind ?_
  rintro ⟨left, c⟩
  exact h.chainTail level 0 left c

theorem chainTail_succ (level : ChainLevel) (levels : Nat) (left : Phrase) :
    Guards (widened n) (Parser.chainTail level (fuel + 1) levels left c)
      (Parser.chainTail level (fuel + 1) levels left (c.widen n)) := by
  rw [Parser.chainTail, Parser.chainTail, Cursor.peek_widen]
  split
  · split
    · exact guards_error _ _
    · exact guards_ok _
  · split
    · exact guards_ok _
    · next joiner _ =>
      refine (c.guards_enter n).bind fun c => ?_
      rw [Cursor.advance_widen]
      refine (h.operand level c.advance).bind ?_
      rintro ⟨right, c⟩
      exact h.chainTail level (levels + 1) (joiner.join left right) c

theorem operand_succ (level : ChainLevel) :
    Guards (widened n) (Parser.operand level (fuel + 1) c)
      (Parser.operand level (fuel + 1) (c.widen n)) := by
  cases level with
  | disjunction => exact h.chain .conjunction c
  | conjunction => exact h.negation c
  | sum => exact h.chain .term c
  | term => exact h.signed c

theorem negation_succ :
    Guards (widened n) (Parser.negation (fuel + 1) c)
      (Parser.negation (fuel + 1) (c.widen n)) := by
  rw [Parser.negation, Parser.negation, Cursor.atWord_widen, Cursor.position_widen]
  split
  · refine (c.guards_enter n).bind fun c => ?_
    rw [Cursor.advance_widen]
    refine (h.negation c.advance).bind ?_
    rintro ⟨e, c⟩
    exact guards_ok _
  · exact h.comparison c

theorem comparison_succ :
    Guards (widened n) (Parser.comparison (fuel + 1) c)
      (Parser.comparison (fuel + 1) (c.widen n)) := by
  rw [Parser.comparison, Parser.comparison]
  refine (h.chain .sum c).bind ?_
  rintro ⟨first, c⟩
  refine (h.comparisonTail c).bind ?_
  rintro ⟨links, c⟩
  cases links <;> exact guards_ok _

theorem comparisonTail_succ :
    Guards (widened n) (Parser.comparisonTail (fuel + 1) c)
      (Parser.comparisonTail (fuel + 1) (c.widen n)) := by
  rw [Parser.comparisonTail, Parser.comparisonTail, Cursor.peek_widen, Cursor.advance_widen]
  split
  · refine (h.chain .sum c.advance).bind ?_
    rintro ⟨e, c⟩
    refine (h.comparisonTail c).bind ?_
    rintro ⟨links, c⟩
    exact guards_ok _
  · exact .ite (fun _ => guards_error _ _) fun _ => guards_ok _

theorem signed_succ :
    Guards (widened n) (Parser.signed (fuel + 1) c) (Parser.signed (fuel + 1) (c.widen n)) := by
  rw [Parser.signed, Parser.signed, Cursor.peek_widen]
  split
  · exact h.sign .neg c
  · exact h.sign .pos c
  · exact guards_error _ _
  · exact h.power c

theorem sign_succ (op : UnaryOp) :
    Guards (widened n) (Parser.sign op (fuel + 1) c) (Parser.sign op (fuel + 1) (c.widen n)) := by
  rw [Parser.sign, Parser.sign, Cursor.position_widen]
  refine (c.guards_enter n).bind fun c => ?_
  rw [Cursor.advance_widen]
  refine (h.signed c.advance).bind ?_
  rintro ⟨e, c⟩
  exact guards_ok _

theorem power_succ :
    Guards (widened n) (Parser.power (fuel + 1) c) (Parser.power (fuel + 1) (c.widen n)) := by
  rw [Parser.power, Parser.power]
  refine (h.primary c).bind ?_
  rintro ⟨base, c⟩
  simp only [widened, Cursor.peek_widen]
  split
  · refine (c.guards_enter n).bind fun c => ?_
    rw [Cursor.advance_widen]
    refine (h.signed c.advance).bind ?_
    rintro ⟨e, c⟩
    exact guards_ok _
  · exact guards_ok _

theorem primary_succ :
    Guards (widened n) (Parser.primary (fuel + 1) c)
      (Parser.primary (fuel + 1) (c.widen n)) := by
  rw [Parser.primary, Parser.primary]
  refine (h.atom c).bind ?_
  rintro ⟨e, c⟩
  exact h.primaryTail 0 e c

theorem primaryTail_succ (levels : Nat) (e : Phrase) :
    Guards (widened n) (Parser.primaryTail (fuel + 1) levels e c)
      (Parser.primaryTail (fuel + 1) levels e (c.widen n)) := by
  rw [Parser.primaryTail, Parser.primaryTail, Cursor.peek_widen, Cursor.position_widen]
  split
  · refine (c.guards_enter n).bind fun c => ?_
    simp only [Cursor.advance_widen, Cursor.peek_widen]
    split
    · next s _ => exact h.primaryTail (levels + 1) (.member e.position e s) c.advance.advance
    · exact guards_error _ _
  · refine (c.guards_enter n).bind fun c => ?_
    rw [Cursor.advance_widen]
    refine (h.arguments _ c.advance).bind ?_
    rintro ⟨arguments, c⟩
    exact h.primaryTail (levels + 1) (.call e.position e arguments) c
  · refine (c.guards_enter n).bind fun c => ?_
    rw [Cursor.advance_widen]
    refine (h.expression c.advance).bind ?_
    rintro ⟨index, c⟩
    refine (c.guards_close n .square _).bind fun c => ?_
    exact h.primaryTail (levels + 1) (.subscript e.position e index) c
  · exact guards_ok _

theorem arguments_succ (start : Nat) :
    Guards (widened n) (Parser.arguments start (fuel + 1) c)
      (Parser.arguments start (fuel + 1) (c.widen n)) := by
  rw [Parser.arguments, Parser.arguments, Cursor.peek_widen, Cursor.advance_widen]
  split
  · exact guards_ok _
  refine (h.argument c).bind ?_
  rintro ⟨a, c⟩
  simp only [widened, Cursor.peek_widen, Cursor.advance_widen]
  split
  · refine (h.arguments start c.advance).bind ?_
    rintro ⟨more, c⟩
    exact guards_ok _
  · refine (c.guards_close n .round start).bind fun c => ?_
    exact guards_ok _

theorem argument_succ :
    Guards (widened n) (Parser.argument (fuel + 1) c)
      (Parser.argument (fuel + 1) (c.widen n)) := by
  rw [Parser.argument, Parser.argument, Cursor.peek_widen, Cursor.peekSecond_widen,
    Cursor.position_widen, Cursor.advance_widen, Cursor.advance_widen]
  split
  · refine (h.expression c.advance).bind ?_
    rintro ⟨_, c⟩
    exact guards_ok _
  · refine (h.expression c.advance).bind ?_
    rintro ⟨_, c⟩
    exact guards_ok _
  · refine (h.expression c.advance.advance).bind ?_
    rintro ⟨_, c⟩
    exact guards_ok _
  · refine (h.expression c).bind ?_
    rintro ⟨e, c⟩
    exact .ite (fun _ => guards_error _ _) fun _ => guards_ok _

theorem items_succ (bracket : Bracket) (start : Nat) :
    Guards (widened n) (Parser.items bracket start (fuel + 1) c)
      (Parser.items bracket start (fuel + 1) (c.widen n)) := by
  rw [Parser.items, Parser.items, Cursor.peek_widen, Cursor.advance_widen]
  split
  · exact guards_ok _
  refine (h.expression c).bind ?_
  rintro ⟨e, c⟩
  simp only [widened, Cursor.atWord_widen, Cursor.peek_widen, Cursor.advance_widen]
  split
  · exact guards_error _ _
  split
  · refine (h.items bracket start c.advance).bind ?_
    rintro ⟨⟨more, _⟩, c⟩
    exact guards_ok _
  · refine (c.guards_close n bracket start).bind fun c => ?_
    exact guards_ok _

theorem atom_succ :
    Guards (widened n) (Parser.atom (fuel + 1) c) (Parser.atom (fuel + 1) (c.widen n)) := by
  rw [Parser.atom, Parser.atom, Cursor.peek_widen, Cursor.position_widen, Cursor.advance_widen]
  split
  · exact guards_ok _
  · exact guards_ok _
  · exact guards_ok _
  · exact guards_word n c _
  · refine (h.items .round c.position c.advance).bind ?_
    rintro ⟨contents, after⟩
    simp only [widened]
    split <;> exact guards_ok _
  · refine (h.items .square c.position c.advance).bind ?_
    rintro ⟨⟨es, _⟩, after⟩
    exact guards_ok _
  · exact guards_error _ _
  · exact guards_error _ _
  · exact guards_error _ _

end Guarded

/-- No function of the parser yields something else with more levels. -/
theorem guarded (n fuel : Nat) : Guarded n fuel := by
  -- every function calls the others with one unit of fuel less
  induction fuel with
  | zero => exact guarded_zero n
  | succ fuel ih => exact {
      expression := ih.expression_succ
      conditional := ih.conditional_succ
      chain := fun level c => ih.chain_succ c level
      chainTail := fun level levels left c => ih.chainTail_succ c level levels left
      operand := fun level c => ih.operand_succ c level
      negation := ih.negation_succ
      comparison := ih.comparison_succ
      comparisonTail := ih.comparisonTail_succ
      signed := ih.signed_succ
      sign := fun op c => ih.sign_succ c op
      power := ih.power_succ
      primary := ih.primary_succ
      primaryTail := fun levels e c => ih.primaryTail_succ c levels e
      arguments := fun start c => ih.arguments_succ c start
      argument := ih.argument_succ
      items := fun bracket start c => ih.items_succ c bracket start
      atom := ih.atom_succ }

/-- Tokens that are parsed are parsed alike with more levels. -/
theorem guards_parse (maximum n : Nat) (tokens : List PlacedToken) :
    Guards id (parse maximum tokens) (parse (maximum + n) tokens) := by
  have hwiden : (⟨none, tokens, 0, maximum + n⟩ : Cursor) =
      (⟨none, tokens, 0, maximum⟩ : Cursor).widen n := rfl
  rw [parse, parse, hwiden]
  generalize (⟨none, tokens, 0, maximum⟩ : Cursor) = c
  simp only [Cursor.peek_widen]
  split
  · exact guards_error _ _
  refine ((guarded n _).expression c).bind ?_
  rintro ⟨e, c⟩
  simp only [widened, Cursor.peek_widen]
  split
  · exact guards_ok _
  · exact guards_error _ _

end Parser

/-! ### Sources -/

namespace Expr

/-- A source that is read under some limits is read alike under wider ones. -/
theorem parse_mono {limits wider : Limits} {source : String} {e : Expr}
    (hlength : limits.maxLength ≤ wider.maxLength) (hdepth : limits.maxDepth ≤ wider.maxDepth)
    (h : parse limits source = .ok e) : parse wider source = .ok e := by
  obtain ⟨n, hn⟩ := Nat.exists_eq_add_of_le hdepth
  rw [parse, guarded_eq_ok_iff] at h ⊢
  obtain ⟨hlong, h⟩ := h
  refine ⟨fun hlonger => hlong (Nat.lt_of_le_of_lt hlength hlonger), ?_⟩
  obtain ⟨tokens, htokens, h⟩ := except_bind_eq_ok_iff.1 h
  obtain ⟨phrase, hphrase, h⟩ := except_bind_eq_ok_iff.1 h
  obtain ⟨e', he', h⟩ := except_bind_eq_ok_iff.1 h
  obtain ⟨hheight, h⟩ := guarded_eq_ok_iff.1 h
  have hwider : Parser.parse wider.maxDepth tokens = .ok phrase := by
    rw [hn]
    exact Parser.guards_parse limits.maxDepth n tokens phrase hphrase
  refine except_bind_eq_ok_iff.2 ⟨tokens, htokens, ?_⟩
  refine except_bind_eq_ok_iff.2 ⟨phrase, hwider, ?_⟩
  refine except_bind_eq_ok_iff.2 ⟨e', he', ?_⟩
  exact guarded_eq_ok_iff.2 ⟨fun hhigher => hheight (Nat.lt_of_le_of_lt hdepth hhigher), h⟩

/-! ### Evaluators -/

variable {m n : Nat} {context : Context}

mutual

/-- Two evaluators that admit the height of a formula agree on it, wherever they find it. -/
theorem eval_of_fits : (e : Expr) → (i j : Nat) → i + e.depth ≤ m + 1 → j + e.depth ≤ n + 1 →
    e.eval m context i = e.eval n context j
  | .literal _, i, j, hi, hj | .variable _, i, j, hi, hj | .member _ _, i, j, hi, hj => by
    rw [eval, eval, if_neg (not_tooDeep hi), if_neg (not_tooDeep hj)]
  | .arithmetic op left right, i, j, hi, hj => by
    rw [eval, eval, if_neg (not_tooDeep hi), if_neg (not_tooDeep hj)]
    rw [Expr.depth] at hi hj
    rw [eval_of_fits left (i + 1) (j + 1) (by omega) (by omega),
      eval_of_fits right (i + 1) (j + 1) (by omega) (by omega)]
  | .unary op operand, i, j, hi, hj => by
    rw [eval, eval, if_neg (not_tooDeep hi), if_neg (not_tooDeep hj)]
    rw [Expr.depth] at hi hj
    rw [eval_of_fits operand (i + 1) (j + 1) (by omega) (by omega)]
  | .comparison first links, i, j, hi, hj => by
    rw [eval, eval, if_neg (not_tooDeep hi), if_neg (not_tooDeep hj)]
    rw [Expr.depth] at hi hj
    rw [eval_of_fits first (i + 1) (j + 1) (by omega) (by omega)]
    simp only [evalLinks_of_fits links (i + 1) (j + 1) (by omega) (by omega)]
  | .logical op left right, i, j, hi, hj => by
    rw [eval, eval, if_neg (not_tooDeep hi), if_neg (not_tooDeep hj)]
    rw [Expr.depth] at hi hj
    rw [eval_of_fits left (i + 1) (j + 1) (by omega) (by omega),
      eval_of_fits right (i + 1) (j + 1) (by omega) (by omega)]
  | .call function arguments, i, j, hi, hj => by
    rw [eval, eval, if_neg (not_tooDeep hi), if_neg (not_tooDeep hj)]
    rw [Expr.depth] at hi hj
    rw [evalAll_of_fits arguments (i + 1) (j + 1) (by omega) (by omega)]
  | .conditional test yes no, i, j, hi, hj => by
    rw [eval, eval, if_neg (not_tooDeep hi), if_neg (not_tooDeep hj)]
    rw [Expr.depth] at hi hj
    rw [eval_of_fits test (i + 1) (j + 1) (by omega) (by omega),
      eval_of_fits yes (i + 1) (j + 1) (by omega) (by omega),
      eval_of_fits no (i + 1) (j + 1) (by omega) (by omega)]
  | .list items, i, j, hi, hj | .tuple items, i, j, hi, hj => by
    rw [eval, eval, if_neg (not_tooDeep hi), if_neg (not_tooDeep hj)]
    rw [Expr.depth] at hi hj
    rw [evalAll_of_fits items (i + 1) (j + 1) (by omega) (by omega)]
  | .subscript object index, i, j, hi, hj => by
    rw [eval, eval, if_neg (not_tooDeep hi), if_neg (not_tooDeep hj)]
    rw [Expr.depth] at hi hj
    rw [eval_of_fits object (i + 1) (j + 1) (by omega) (by omega),
      eval_of_fits index (i + 1) (j + 1) (by omega) (by omega)]

theorem evalAll_of_fits : (items : List Expr) → (i j : Nat) → i + depthAll items ≤ m + 1 →
    j + depthAll items ≤ n + 1 → evalAll m context i items = evalAll n context j items
  | [], _, _, _, _ => rfl
  | e :: rest, i, j, hi, hj => by
    rw [depthAll] at hi hj
    rw [evalAll, evalAll, eval_of_fits e i j (by omega) (by omega),
      evalAll_of_fits rest i j (by omega) (by omega)]

theorem evalLinks_of_fits : (links : List (Comparison × Expr)) → (i j : Nat) →
    i + depthLinks links ≤ m + 1 → j + depthLinks links ≤ n + 1 →
    ∀ left, evalLinks m context i left links = evalLinks n context j left links
  | [], _, _, _, _ => fun _ => rfl
  | (op, e) :: rest, i, j, hi, hj => by
    intro left
    rw [depthLinks] at hi hj
    have ih := evalLinks_of_fits rest i j (by omega) (by omega)
    rw [evalLinks, evalLinks, eval_of_fits e i j (by omega) (by omega)]
    simp only [ih]

end

/-- **Limits only guard.** A formula that is read under some limits is read alike under all wider
ones; and all evaluators that admit the height of a formula, whoever built it, come to the same end
with it, which is never that it is too high. -/
theorem limits_only_guard :
    (∀ (limits wider : Limits) (source : String) (e : Expr),
      limits.maxLength ≤ wider.maxLength → limits.maxDepth ≤ wider.maxDepth →
      parse limits source = .ok e → parse wider source = .ok e) ∧
    ∀ (e : Expr) (context : Context) (m n : Nat), e.depth ≤ m → e.depth ≤ n →
      e.value m context = e.value n context ∧
      ∀ limit, e.value m context ≠ .error (.tooDeep limit) := by
  refine ⟨fun limits wider source e hlength hdepth h => parse_mono hlength hdepth h, ?_⟩
  intro e context m n hm hn
  exact ⟨eval_of_fits e 1 1 (by omega) (by omega), eval_ne_tooDeep (by omega)⟩

/-- A formula that just fits under the narrower of two limits. -/
theorem limits_only_guard_offer :
    ∃ e, parse ⟨45, 4⟩ "round(ram_gb * 2.5, 1) if sold else prices[0]" = .ok e ∧
      parse {} "round(ram_gb * 2.5, 1) if sold else prices[0]" = .ok e ∧ ∀ context : Context,
      e.value 4 context = e.value 64 context ∧
        ∀ limit, e.value 4 context ≠ .error (.tooDeep limit) := by
  have h : (parse ⟨45, 4⟩ "round(ram_gb * 2.5, 1) if sold else prices[0]").isOk = true := by
    decide +kernel
  obtain ⟨e, he⟩ := isOk_iff.1 h
  obtain ⟨hparse, hvalue⟩ := limits_only_guard
  have hreads := reads_parse ⟨45, 4⟩ "round(ram_gb * 2.5, 1) if sold else prices[0]"
  rw [he] at hreads
  have hdepth : e.depth ≤ 4 := hreads.2
  exact ⟨e, he, hparse ⟨45, 4⟩ {} _ e (by decide) (by decide) he,
    fun context => hvalue e context 4 64 hdepth (by omega)⟩

end Expr

end Appraisal
