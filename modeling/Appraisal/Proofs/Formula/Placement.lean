import Appraisal.Formula.Parse

/-!
# Phrases of a source

What the parser makes of a source stays inside it: every place in a phrase and every place in a
complaint is at most the number of characters (`Phrase.Sound`, `Reads`). Names in a phrase are
no words of the grammar and constants are no lists.

* Every function of the parser yields sound phrases from tokens inside the source, and complains
  about places inside it (`Parser.Sound`, `Parser.sound`). The proof is by induction on the calls
  that the functions may make.
* The tokens of a source lie inside it (`Lexer.reads_tokenize`), and so do the phrases that
  are parsed from them (`Parser.reads_parse`).
-/

namespace Appraisal

variable {n : Nat} {α β : Type}

/-! ### Readings -/

/-- A reading yields what satisfies `P`, or a complaint about a place up to `n`. -/
def Reads (n : Nat) (P : α → Prop) : Except ParseError α → Prop
  | .ok a => P a
  | .error e => e.position ≤ n

theorem Reads.bind {P : α → Prop} {Q : β → Prop} {x : Except ParseError α}
    {f : α → Except ParseError β} (h : Reads n P x) (hf : ∀ a, P a → Reads n Q (f a)) :
    Reads n Q (x >>= f) := by
  cases x with
  | ok a => exact hf a h
  | error e => exact h

/-! ### Phrases -/

/-- A name that is no word of the grammar and so may stand for a field. -/
def IsFieldName (name : String) : Prop := isStatementWord name = false ∧ name ∉ structuralWords

namespace Phrase

variable (n : Nat)

mutual

/-- Every place in a phrase is at most `n`, its names may stand for fields, and its constants are
no lists. -/
def Sound : Phrase → Prop
  | .literal p v => p ≤ n ∧ ∀ items, v ≠ .list items
  | .name p s => p ≤ n ∧ IsFieldName s
  | .member p object _ => p ≤ n ∧ object.Sound
  | .arithmetic p _ left right | .logical p _ left right => p ≤ n ∧ left.Sound ∧ right.Sound
  | .unary p _ operand => p ≤ n ∧ operand.Sound
  | .comparison p first links => p ≤ n ∧ first.Sound ∧ SoundLinks links
  | .call p callee arguments => p ≤ n ∧ callee.Sound ∧ SoundArguments arguments
  | .conditional p test yes no => p ≤ n ∧ test.Sound ∧ yes.Sound ∧ no.Sound
  | .list p items | .tuple p items => p ≤ n ∧ SoundAll items
  | .subscript p object index => p ≤ n ∧ object.Sound ∧ index.Sound

/-- Several phrases are sound. -/
def SoundAll : List Phrase → Prop
  | [] => True
  | e :: rest => e.Sound ∧ SoundAll rest

/-- The operands of a comparison chain are sound. -/
def SoundLinks : List (Comparison × Phrase) → Prop
  | [] => True
  | (_, e) :: rest => e.Sound ∧ SoundLinks rest

/-- The arguments of a call are sound. -/
def SoundArguments : List (Argument Phrase) → Prop
  | [] => True
  | .positional e :: rest => e.Sound ∧ SoundArguments rest
  | .keyword _ p :: rest | .unpacked p :: rest => p ≤ n ∧ SoundArguments rest

end

variable {n}

theorem Sound.position_le {e : Phrase} (h : e.Sound n) : e.position ≤ n := by
  cases e <;> exact h.1

theorem Sound.startingAt {e : Phrase} (h : e.Sound n) {p : Nat} (hp : p ≤ n) :
    (e.startingAt p).Sound n := by
  cases e <;> exact ⟨hp, h.2⟩

theorem Sound.join {left right : Phrase} (hl : left.Sound n) (hr : right.Sound n)
    (joiner : Joiner) : (joiner.join left right).Sound n := by
  cases joiner <;> exact ⟨hl.position_le, hl, hr⟩

end Phrase

/-! ### Cursors -/

namespace Cursor

/-- The tokens left to a cursor stand at places up to `n`. -/
def Within (n : Nat) (c : Cursor) : Prop := ∀ t ∈ c.rest, t.position ≤ n

variable {c : Cursor}

theorem Within.position_le (h : c.Within n) : c.position ≤ n := by
  obtain ⟨_, rest, _, _⟩ := c
  cases rest with
  | nil => exact Nat.zero_le n
  | cons t rest => exact h t List.mem_cons_self

theorem Within.advance (h : c.Within n) : c.advance.Within n := by
  obtain ⟨_, rest, _, _⟩ := c
  cases rest with
  | nil => exact h
  | cons t rest => exact fun u hu => h u (List.mem_cons_of_mem _ hu)

theorem Within.leave (h : c.Within n) (levels : Nat) : (c.leave levels).Within n := h

theorem Within.enter (h : c.Within n) : Reads n (Within n) c.enter := by
  rw [Cursor.enter]
  split
  · exact h.position_le
  · exact h

theorem Within.close (h : c.Within n) (bracket : Bracket) {start : Nat} (hs : start ≤ n) :
    Reads n (Within n) (c.close bracket start) := by
  rw [Cursor.close]
  split
  · exact h.advance
  · split
    · exact hs
    · exact h.position_le

end Cursor

/-! ### The parser -/

namespace Parser

/-- A result that satisfies `P`, with the cursor after it. -/
def Leaves (n : Nat) (P : α → Prop) (x : α × Cursor) : Prop := P x.1 ∧ x.2.Within n

theorem literalWord?_ne_list {s : String} {v : Value} (h : literalWord? s = some v)
    (items : List Value) : v ≠ .list items := by
  unfold literalWord? at h
  split at h <;> cases h <;> intro hv <;> cases hv

/-- A word that is read names a field or stands for a constant. -/
theorem reads_word {c : Cursor} (hc : c.Within n) (s : String) :
    Reads n (Leaves n (Phrase.Sound n)) (word c s) := by
  rw [word]
  split
  · exact hc.position_le
  · next hstatement =>
    split
    · exact hc.position_le
    · next hstructural =>
      refine ⟨?_, hc.advance⟩
      cases hv : literalWord? s with
      | some v => exact ⟨hc.position_le, literalWord?_ne_list hv⟩
      | none =>
        refine ⟨hc.position_le, by simpa using hstatement, ?_⟩
        simpa using hstructural

/-- What the functions of the parser do on tokens up to `n` with `fuel` calls to make. -/
structure Sound (n fuel : Nat) : Prop where
  expression {c} (hc : c.Within n) : Reads n (Leaves n (Phrase.Sound n)) (expression fuel c)
  conditional {c} (hc : c.Within n) : Reads n (Leaves n (Phrase.Sound n)) (conditional fuel c)
  chain (level : ChainLevel) {c} (hc : c.Within n) :
    Reads n (Leaves n (Phrase.Sound n)) (chain level fuel c)
  chainTail (level : ChainLevel) (levels : Nat) {left c} (hl : left.Sound n) (hc : c.Within n) :
    Reads n (Leaves n (Phrase.Sound n)) (chainTail level fuel levels left c)
  operand (level : ChainLevel) {c} (hc : c.Within n) :
    Reads n (Leaves n (Phrase.Sound n)) (operand level fuel c)
  negation {c} (hc : c.Within n) : Reads n (Leaves n (Phrase.Sound n)) (negation fuel c)
  comparison {c} (hc : c.Within n) : Reads n (Leaves n (Phrase.Sound n)) (comparison fuel c)
  comparisonTail {c} (hc : c.Within n) :
    Reads n (Leaves n (Phrase.SoundLinks n)) (comparisonTail fuel c)
  signed {c} (hc : c.Within n) : Reads n (Leaves n (Phrase.Sound n)) (signed fuel c)
  sign (op : UnaryOp) {c} (hc : c.Within n) :
    Reads n (Leaves n (Phrase.Sound n)) (sign op fuel c)
  power {c} (hc : c.Within n) : Reads n (Leaves n (Phrase.Sound n)) (power fuel c)
  primary {c} (hc : c.Within n) : Reads n (Leaves n (Phrase.Sound n)) (primary fuel c)
  primaryTail (levels : Nat) {e c} (he : e.Sound n) (hc : c.Within n) :
    Reads n (Leaves n (Phrase.Sound n)) (primaryTail fuel levels e c)
  arguments {start : Nat} (hs : start ≤ n) {c} (hc : c.Within n) :
    Reads n (Leaves n (Phrase.SoundArguments n)) (arguments start fuel c)
  argument {c} (hc : c.Within n) :
    Reads n (Leaves n fun a => Phrase.SoundArguments n [a]) (argument fuel c)
  items (bracket : Bracket) {start : Nat} (hs : start ≤ n) {c} (hc : c.Within n) :
    Reads n (Leaves n fun x => Phrase.SoundAll n x.1) (items bracket start fuel c)
  atom {c} (hc : c.Within n) : Reads n (Leaves n (Phrase.Sound n)) (atom fuel c)

/-- Without a call to make every function complains about the next token. -/
theorem sound_zero (n : Nat) : Sound n 0 where
  expression hc := hc.position_le
  conditional hc := hc.position_le
  chain _ _ hc := hc.position_le
  chainTail _ _ _ _ _ hc := hc.position_le
  operand _ _ hc := hc.position_le
  negation hc := hc.position_le
  comparison hc := hc.position_le
  comparisonTail hc := hc.position_le
  signed hc := hc.position_le
  sign _ _ hc := hc.position_le
  power hc := hc.position_le
  primary hc := hc.position_le
  primaryTail _ _ _ _ hc := hc.position_le
  arguments _ _ hc := hc.position_le
  argument hc := hc.position_le
  items _ _ _ _ hc := hc.position_le
  atom hc := hc.position_le

namespace Sound

variable {fuel : Nat} {c : Cursor}

theorem expression_succ (h : Sound n fuel) (hc : c.Within n) :
    Reads n (Leaves n (Phrase.Sound n)) (Parser.expression (fuel + 1) c) := by
  rw [Parser.expression]
  refine hc.enter.bind fun c hc => ?_
  refine (h.conditional hc).bind fun (e, c) ⟨he, hc⟩ => ?_
  exact ⟨he, hc.leave 1⟩

theorem conditional_succ (h : Sound n fuel) (hc : c.Within n) :
    Reads n (Leaves n (Phrase.Sound n)) (Parser.conditional (fuel + 1) c) := by
  rw [Parser.conditional]
  refine (h.chain .disjunction hc).bind fun (yes, c) ⟨hyes, hc⟩ => ?_
  dsimp only
  split
  · exact ⟨hyes, hc⟩
  refine (h.chain .disjunction hc.advance).bind fun (test, c) ⟨htest, hc⟩ => ?_
  dsimp only
  split
  · exact hc.position_le
  refine (h.expression hc.advance).bind fun (no, c) ⟨hno, hc⟩ => ?_
  exact ⟨⟨hyes.position_le, htest, hyes, hno⟩, hc⟩

theorem chain_succ (h : Sound n fuel) (level : ChainLevel) (hc : c.Within n) :
    Reads n (Leaves n (Phrase.Sound n)) (Parser.chain level (fuel + 1) c) := by
  rw [Parser.chain]
  refine (h.operand level hc).bind fun (left, c) ⟨hleft, hc⟩ => ?_
  exact h.chainTail level 0 hleft hc

theorem chainTail_succ (h : Sound n fuel) (level : ChainLevel) (levels : Nat) {left : Phrase}
    (hl : left.Sound n) (hc : c.Within n) :
    Reads n (Leaves n (Phrase.Sound n)) (Parser.chainTail level (fuel + 1) levels left c) := by
  rw [Parser.chainTail]
  split
  · split
    · exact hc.position_le
    · exact ⟨hl, hc.leave levels⟩
  · split
    · exact ⟨hl, hc.leave levels⟩
    · next joiner _ =>
      refine hc.enter.bind fun c hc => ?_
      refine (h.operand level hc.advance).bind fun (right, c) ⟨hright, hc⟩ => ?_
      exact h.chainTail level (levels + 1) (hl.join hright joiner) hc

theorem operand_succ (h : Sound n fuel) (level : ChainLevel) (hc : c.Within n) :
    Reads n (Leaves n (Phrase.Sound n)) (Parser.operand level (fuel + 1) c) := by
  cases level with
  | disjunction => exact h.chain .conjunction hc
  | conjunction => exact h.negation hc
  | sum => exact h.chain .term hc
  | term => exact h.signed hc

theorem negation_succ (h : Sound n fuel) (hc : c.Within n) :
    Reads n (Leaves n (Phrase.Sound n)) (Parser.negation (fuel + 1) c) := by
  rw [Parser.negation]
  split
  · have hstart := hc.position_le
    refine hc.enter.bind fun c hc => ?_
    refine (h.negation hc.advance).bind fun (e, c) ⟨he, hc⟩ => ?_
    exact ⟨⟨hstart, he⟩, hc.leave 1⟩
  · exact h.comparison hc

theorem comparison_succ (h : Sound n fuel) (hc : c.Within n) :
    Reads n (Leaves n (Phrase.Sound n)) (Parser.comparison (fuel + 1) c) := by
  rw [Parser.comparison]
  refine (h.chain .sum hc).bind fun (first, c) ⟨hfirst, hc⟩ => ?_
  refine (h.comparisonTail hc).bind fun (links, c) ⟨hlinks, hc⟩ => ?_
  dsimp only
  split
  · exact ⟨hfirst, hc⟩
  · exact ⟨⟨hfirst.position_le, hfirst, hlinks⟩, hc⟩

theorem comparisonTail_succ (h : Sound n fuel) (hc : c.Within n) :
    Reads n (Leaves n (Phrase.SoundLinks n)) (Parser.comparisonTail (fuel + 1) c) := by
  rw [Parser.comparisonTail]
  split
  · refine (h.chain .sum hc.advance).bind fun (e, c) ⟨he, hc⟩ => ?_
    refine (h.comparisonTail hc).bind fun (links, c) ⟨hlinks, hc⟩ => ?_
    exact ⟨⟨he, hlinks⟩, hc⟩
  · split
    · exact hc.position_le
    · exact ⟨trivial, hc⟩

theorem signed_succ (h : Sound n fuel) (hc : c.Within n) :
    Reads n (Leaves n (Phrase.Sound n)) (Parser.signed (fuel + 1) c) := by
  rw [Parser.signed]
  split
  · exact h.sign .neg hc
  · exact h.sign .pos hc
  · exact hc.position_le
  · exact h.power hc

theorem sign_succ (h : Sound n fuel) (op : UnaryOp) (hc : c.Within n) :
    Reads n (Leaves n (Phrase.Sound n)) (Parser.sign op (fuel + 1) c) := by
  rw [Parser.sign]
  have hstart := hc.position_le
  refine hc.enter.bind fun c hc => ?_
  refine (h.signed hc.advance).bind fun (e, c) ⟨he, hc⟩ => ?_
  exact ⟨⟨hstart, he⟩, hc.leave 1⟩

theorem power_succ (h : Sound n fuel) (hc : c.Within n) :
    Reads n (Leaves n (Phrase.Sound n)) (Parser.power (fuel + 1) c) := by
  rw [Parser.power]
  refine (h.primary hc).bind fun (base, c) ⟨hbase, hc⟩ => ?_
  dsimp only
  split
  · refine hc.enter.bind fun c hc => ?_
    refine (h.signed hc.advance).bind fun (e, c) ⟨he, hc⟩ => ?_
    exact ⟨⟨hbase.position_le, hbase, he⟩, hc.leave 1⟩
  · exact ⟨hbase, hc⟩

theorem primary_succ (h : Sound n fuel) (hc : c.Within n) :
    Reads n (Leaves n (Phrase.Sound n)) (Parser.primary (fuel + 1) c) := by
  rw [Parser.primary]
  refine (h.atom hc).bind fun (e, c) ⟨he, hc⟩ => ?_
  exact h.primaryTail 0 he hc

theorem primaryTail_succ (h : Sound n fuel) (levels : Nat) {e : Phrase} (he : e.Sound n)
    (hc : c.Within n) :
    Reads n (Leaves n (Phrase.Sound n)) (Parser.primaryTail (fuel + 1) levels e c) := by
  have hstart := hc.position_le
  rw [Parser.primaryTail]
  split
  · refine hc.enter.bind fun c hc => ?_
    dsimp only
    split
    · exact h.primaryTail (levels + 1) ⟨he.position_le, he⟩ hc.advance.advance
    · exact hc.advance.position_le
  · refine hc.enter.bind fun c hc => ?_
    refine (h.arguments hstart hc.advance).bind fun (arguments, c) ⟨harguments, hc⟩ => ?_
    exact h.primaryTail (levels + 1) ⟨he.position_le, he, harguments⟩ hc
  · refine hc.enter.bind fun c hc => ?_
    refine (h.expression hc.advance).bind fun (index, c) ⟨hindex, hc⟩ => ?_
    refine (hc.close .square hstart).bind fun c hc => ?_
    exact h.primaryTail (levels + 1) ⟨he.position_le, he, hindex⟩ hc
  · exact ⟨he, hc.leave levels⟩

theorem arguments_succ (h : Sound n fuel) {start : Nat} (hs : start ≤ n) (hc : c.Within n) :
    Reads n (Leaves n (Phrase.SoundArguments n)) (Parser.arguments start (fuel + 1) c) := by
  rw [Parser.arguments]
  split
  · exact ⟨trivial, hc.advance⟩
  refine (h.argument hc).bind fun (a, c) ⟨ha, hc⟩ => ?_
  dsimp only
  split
  · refine (h.arguments hs hc.advance).bind fun (more, c) ⟨hmore, hc⟩ => ?_
    refine ⟨?_, hc⟩
    cases a <;> exact ⟨ha.1, hmore⟩
  · refine (hc.close .round hs).bind fun c hc => ?_
    exact ⟨ha, hc⟩

theorem argument_succ (h : Sound n fuel) (hc : c.Within n) :
    Reads n (Leaves n fun a => Phrase.SoundArguments n [a]) (Parser.argument (fuel + 1) c) := by
  have hstart := hc.position_le
  rw [Parser.argument]
  split
  · refine (h.expression hc.advance).bind fun (_, c) ⟨_, hc⟩ => ?_
    exact ⟨⟨hstart, trivial⟩, hc⟩
  · refine (h.expression hc.advance).bind fun (_, c) ⟨_, hc⟩ => ?_
    exact ⟨⟨hstart, trivial⟩, hc⟩
  · refine (h.expression hc.advance.advance).bind fun (_, c) ⟨_, hc⟩ => ?_
    exact ⟨⟨hstart, trivial⟩, hc⟩
  · refine (h.expression hc).bind fun (e, c) ⟨he, hc⟩ => ?_
    dsimp only
    split
    · exact hc.position_le
    · exact ⟨⟨he, trivial⟩, hc⟩

theorem items_succ (h : Sound n fuel) (bracket : Bracket) {start : Nat} (hs : start ≤ n)
    (hc : c.Within n) :
    Reads n (Leaves n fun x => Phrase.SoundAll n x.1)
      (Parser.items bracket start (fuel + 1) c) := by
  rw [Parser.items]
  split
  · exact ⟨trivial, hc.advance⟩
  refine (h.expression hc).bind fun (e, c) ⟨he, hc⟩ => ?_
  dsimp only
  split
  · exact hc.position_le
  split
  · refine (h.items bracket hs hc.advance).bind fun ((more, _), c) ⟨hmore, hc⟩ => ?_
    exact ⟨⟨he, hmore⟩, hc⟩
  · refine (hc.close bracket hs).bind fun c hc => ?_
    exact ⟨⟨he, trivial⟩, hc⟩

theorem atom_succ (h : Sound n fuel) (hc : c.Within n) :
    Reads n (Leaves n (Phrase.Sound n)) (Parser.atom (fuel + 1) c) := by
  have hstart := hc.position_le
  rw [Parser.atom]
  split
  · exact ⟨⟨hstart, fun items => nofun⟩, hc.advance⟩
  · exact ⟨⟨hstart, fun items => nofun⟩, hc.advance⟩
  · exact ⟨⟨hstart, fun items => nofun⟩, hc.advance⟩
  · exact reads_word hc _
  · refine (h.items .round hstart hc.advance).bind fun (contents, after) ⟨hes, hafter⟩ => ?_
    dsimp only
    split
    · exact ⟨hes.1.startingAt hstart, hafter⟩
    · exact ⟨⟨hstart, hes⟩, hafter⟩
  · refine (h.items .square hstart hc.advance).bind fun ((es, _), after) ⟨hes, hafter⟩ => ?_
    exact ⟨⟨hstart, hes⟩, hafter⟩
  · exact hstart
  · exact hstart
  · exact hstart

end Sound

/-- Every function of the parser stays inside the source. -/
theorem sound (n fuel : Nat) : Sound n fuel := by
  -- every function calls the others with one unit of fuel less
  induction fuel with
  | zero => exact sound_zero n
  | succ fuel ih => exact {
      expression := ih.expression_succ
      conditional := ih.conditional_succ
      chain := fun level _ => ih.chain_succ level
      chainTail := fun level levels _ _ => ih.chainTail_succ level levels
      operand := fun level _ => ih.operand_succ level
      negation := ih.negation_succ
      comparison := ih.comparison_succ
      comparisonTail := ih.comparisonTail_succ
      signed := ih.signed_succ
      sign := fun op _ => ih.sign_succ op
      power := ih.power_succ
      primary := ih.primary_succ
      primaryTail := fun levels _ _ => ih.primaryTail_succ levels
      arguments := fun hs _ => ih.arguments_succ hs
      argument := ih.argument_succ
      items := fun bracket _ hs _ => ih.items_succ bracket hs
      atom := ih.atom_succ }

/-- Parsing yields a sound phrase. -/
theorem reads_parse (maximum : Nat) {tokens : List PlacedToken}
    (h : ∀ t ∈ tokens, t.position ≤ n) : Reads n (Phrase.Sound n) (parse maximum tokens) := by
  have hc : Cursor.Within n ⟨none, tokens, 0, maximum⟩ := h
  rw [parse]
  dsimp only
  split
  · exact Nat.zero_le n
  refine ((sound n _).expression hc).bind fun (e, c) ⟨he, hc⟩ => ?_
  dsimp only
  split
  · exact he
  · exact hc.position_le

end Parser

/-! ### The lexer -/

namespace Lexer

/-- The place of a token runs along with the text, so it stays within any bound on both. -/
theorem reads_tokensFrom (place : Nat) (cs : List Char) (h : place + cs.length ≤ n) :
    Reads n (fun tokens => ∀ t ∈ tokens, t.position ≤ n) (tokensFrom place cs) := by
  fun_induction tokensFrom place cs with
  | case1 place cs =>
    refine List.forall_mem_singleton.2 ?_
    exact Nat.le_trans (Nat.add_le_add_left (Nat.sub_le ..) _) h
  | case2 place cs => exact Nat.le_trans (Nat.add_le_add_left (Nat.sub_le ..) _) h
  | case3 place cs c more hskip position t rest htoken ih =>
    have hblanks := passed_add_length (hskip ▸ skipBlanks_length cs)
    have hword := passed_add_length (Nat.le_of_lt (token?_length htoken))
    have hposition : position = place + passed cs (c :: more) := rfl
    have ih := ih (by omega)
    cases htokens : tokensFrom (position + passed (c :: more) rest) rest with
    | error e =>
      rw [htokens] at ih
      exact ih
    | ok tokens =>
      rw [htokens] at ih
      exact List.forall_mem_cons.2 ⟨by dsimp only; omega, ih⟩

/-- The tokens of a source lie inside it. -/
theorem reads_tokenize (source : List Char) :
    Reads source.length (fun tokens => ∀ t ∈ tokens, t.position ≤ source.length)
      (tokenize source) :=
  reads_tokensFrom 0 source (Nat.le_of_eq (Nat.zero_add _))

end Lexer

end Appraisal
