import Appraisal.Proofs.Formula.Tasks

/-!
# The count of open levels

The parser counts the levels that are open and opens no more than a maximum. Most of its functions
close what they open. The tails of chains and of rows of attributes open a level for each link and
close all of them at the end. So at the end of a function as many levels are open as at its
beginning, but for those that were open for it (`Task.levels`, `Task.Settles`).

* One step: from calls that settle, every task settles, and what the hooks look for is never wrong.
  This is said of two ways to make the step, with different hooks and calls, that come to the same
  (`Task.Alike.stepAgrees`), so it serves runs that are watched and runs that are not.
* Whole runs: a task that succeeds settles, however many calls it may make
  (`Task.settles_of_run`). With twenty calls for each token that is left, and twenty more, the
  parser under watch does what the parser does (`Task.watched_agrees`), since between two tokens
  tasks only call tasks of a smaller rank.
* The count is kept, the end token is not passed, and no loop goes on for ever
  (`Task.count_kept`). The parser is given as many calls as are said there to be enough.
-/

namespace Appraisal

variable {α β : Type}

/-! ### Runs that agree -/

/-- Two runs come to the same, and to what has `P` if they succeed. -/
def Agree (P : α → Prop) (x y : Except ParseError α) : Prop := x = y ∧ ∀ a, x = .ok a → P a

theorem agree_ok {P : α → Prop} {a : α} (h : P a) : Agree P (.ok a) (.ok a) := by
  refine ⟨rfl, ?_⟩
  rintro _ ⟨⟩
  exact h

theorem agree_error {P : α → Prop} (e : ParseError) : Agree P (.error e) (.error e) :=
  ⟨rfl, nofun⟩

theorem Agree.bind {P : α → Prop} {Q : β → Prop} {x y : Except ParseError α}
    {f g : α → Except ParseError β} (h : Agree P x y) (hf : ∀ a, P a → Agree Q (f a) (g a)) :
    Agree Q (x >>= f) (y >>= g) := by
  obtain ⟨rfl, hP⟩ := h
  cases x with
  | error e => exact agree_error e
  | ok a => exact hf a (hP a rfl)

theorem Agree.mono {P Q : α → Prop} {x y : Except ParseError α} (h : Agree P x y)
    (hPQ : ∀ a, P a → Q a) : Agree Q x y :=
  ⟨h.1, fun a ha => hPQ a (h.2 a ha)⟩

/-! ### Tasks -/

namespace Task

/-- The levels that are open for a task when it begins and closed when it ends. Only the tails of
chains and of rows of attributes have any. -/
@[simp] def levels : Task → Nat
  | chainTail _ levels _ | primaryTail levels _ => levels
  | _ => 0

/-- The least number of tokens that a task passes. -/
@[simp] def least : Task → Nat
  | chainTail .. | comparisonTail | primaryTail .. => 0
  | _ => 1

/-- Whether a task passes the token that it begins at without a look. Only a sign does, which is
called where its token has been seen. -/
def isBlind : Task → Bool
  | sign _ => true
  | _ => false

/-- A task has a greater rank than those that it calls before a token is passed. -/
@[simp] def rank : Task → Nat
  | atom | sign _ | chainTail .. | comparisonTail | primaryTail .. => 1
  | primary => 2
  | power => 3
  | signed => 4
  | operand level => level.operandRank
  | chain level => level.operandRank + 1
  | comparison => 9
  | negation => 10
  | conditional => 15
  | expression => 16
  | items .. | argument => 17
  | arguments _ => 18

theorem rank_pos (t : Task) : 0 < t.rank := by
  cases t with
  | operand level | chain level => cases level <;> simp [rank, ChainLevel.operandRank]
  | _ => simp [rank]

theorem rank_le (t : Task) : t.rank ≤ 20 := by
  cases t with
  | operand level | chain level => cases level <;> simp [rank, ChainLevel.operandRank]
  | _ => simp [rank]

end Task

/-! ### Cursors on their way -/

theorem Bracket.ne_finish_of_isClosedBy (b : Bracket) {t : Token} (h : b.isClosedBy t = true) :
    t ≠ .finish :=
  Bracket.isClosedBy_iff.1 h ▸ b.closer_ne_finish

namespace Cursor

/-- The tokens that are left to a cursor go up to the end token. -/
def Ends (c : Cursor) : Prop := ∃ front place, c.rest = front ++ [⟨.finish, place⟩]

/-- Between two cursors stand at least `n` tokens, none of them the end token. -/
def Passed (first : Cursor) (n : Nat) (c : Cursor) : Prop :=
  ∃ front, first.rest = front ++ c.rest ∧ (∀ t ∈ front, t.token ≠ .finish) ∧ n ≤ front.length

variable {first c after : Cursor} {m n : Nat}

theorem passed_self (c : Cursor) : c.Passed 0 c := ⟨[], rfl, nofun, Nat.le_refl 0⟩

namespace Passed

theorem trans (h : first.Passed m c) (h' : c.Passed n after) : first.Passed (m + n) after := by
  obtain ⟨front, hfront, hno, hm⟩ := h
  obtain ⟨more, hmore, hnomore, hn⟩ := h'
  refine ⟨front ++ more, ?_, List.forall_mem_append.2 ⟨hno, hnomore⟩, ?_⟩
  · rw [hfront, hmore, List.append_assoc]
  · rw [List.length_append]
    omega

theorem mono (h : first.Passed m c) (hn : n ≤ m) : first.Passed n c := by
  obtain ⟨front, hfront, hno, hm⟩ := h
  exact ⟨front, hfront, hno, Nat.le_trans hn hm⟩

theorem length_le (h : first.Passed n c) : c.rest.length + n ≤ first.rest.length := by
  obtain ⟨front, hfront, -, hn⟩ := h
  rw [hfront, List.length_append]
  omega

/-- The end token is not passed, so it is still there. -/
theorem ends (h : first.Passed n c) (hfirst : first.Ends) : c.Ends := by
  obtain ⟨front, hfront, hno, -⟩ := h
  obtain ⟨others, place, hothers⟩ := hfirst
  rw [hothers] at hfront
  rcases List.eq_nil_or_concat' c.rest with hnil | ⟨rest, u, hrest⟩
  · -- nothing is left, so the end token is one of those between
    rw [hnil, List.append_nil] at hfront
    have hmem : ⟨.finish, place⟩ ∈ front := hfront ▸ List.mem_append_right _ List.mem_cons_self
    exact absurd rfl (hno _ hmem)
  · rw [hrest, ← List.append_assoc] at hfront
    obtain ⟨-, hu⟩ := List.append_inj' hfront rfl
    exact ⟨rest, place, by rw [hrest, ← hu]⟩

end Passed

theorem passed_advance (h : c.peek ≠ .finish) : c.Passed 1 c.advance := by
  obtain ⟨_, rest, _, _⟩ := c
  cases rest with
  | nil => exact absurd rfl h
  | cons u rest => exact ⟨[u], rfl, List.forall_mem_singleton.2 h, Nat.le_refl 1⟩

end Cursor

/-- From `first`, a task has come to `c`: it has passed at least `passed` tokens and opened `opened`
levels, so that no more than `limit` are open. -/
structure Cursor.Stands (limit : Nat) (first : Cursor) (passed opened : Nat) (c : Cursor) :
    Prop where
  tokens : first.Passed passed c
  depth : c.depth = first.depth + opened
  maximum : c.maximum = first.maximum
  room : c.depth ≤ limit

/-- A task that began at `first` has ended at `c`: it has passed tokens, and as many levels are open
as before, but for those that were open for the task. -/
structure Task.Settles (t : Task) (first c : Cursor) : Prop where
  tokens : first.Passed t.least c
  depth : c.depth + t.levels = first.depth
  maximum : c.maximum = first.maximum

namespace Cursor

variable {limit passed opened : Nat} {first c after : Cursor} {t u : Task}

theorem stands_self (h : c.depth ≤ limit) : Stands limit c 0 0 c :=
  ⟨passed_self c, rfl, rfl, h⟩

namespace Stands

variable (h : Stands limit first passed opened c)
include h

theorem advance (hpeek : c.peek ≠ .finish) : Stands limit first (passed + 1) opened c.advance := by
  have htokens := h.tokens.trans (passed_advance hpeek)
  obtain ⟨_, _ | _, _, _⟩ := c
  · exact absurd rfl hpeek
  · exact ⟨htokens, h.depth, h.maximum, h.room⟩

/-- After a task for which no level was open, as many levels are open as before it. -/
theorem call (hsettles : t.Settles c after) (hlevels : t.levels = 0) :
    Stands limit first (passed + t.least) opened after := by
  have hdepth := hsettles.depth
  rw [hlevels, Nat.add_zero] at hdepth
  exact ⟨h.tokens.trans hsettles.tokens, hdepth.trans h.depth, hsettles.maximum.trans h.maximum,
    hdepth ▸ h.room⟩

/-- A task ends where the last one that it calls does. -/
theorem settles_of_settles (hsettles : t.Settles c after) (hlevels : t.levels = u.levels + opened)
    (hleast : u.least ≤ passed + t.least) : u.Settles first after := by
  refine ⟨(h.tokens.trans hsettles.tokens).mono hleast, ?_, hsettles.maximum.trans h.maximum⟩
  have hdepth := hsettles.depth
  rw [hlevels, ← Nat.add_assoc, h.depth] at hdepth
  exact Nat.add_right_cancel hdepth

/-- A task ends by closing its levels, which are open. -/
theorem settles_leave {levels : Nat} (hlevels : levels = u.levels + opened)
    (hleast : u.least ≤ passed) (hopen : levels ≤ c.depth) :
    u.Settles first (c.leave levels) := by
  refine ⟨h.tokens.mono hleast, ?_, h.maximum⟩
  have hdepth := h.depth
  show c.depth - levels + u.levels = first.depth
  omega

omit h

/-- A task ends with no level to close. -/
theorem yields {u : Task} (h : Stands limit first passed 0 c) (a : α) (hlevels : u.levels = 0)
    (hleast : u.least ≤ passed) :
    Agree (fun x : α × Cursor => u.Settles first x.2) (.ok (a, c)) (.ok (a, c)) := by
  have hsettles : u.Settles first (c.leave 0) :=
    h.settles_leave (by rw [hlevels]) hleast (Nat.zero_le _)
  exact agree_ok hsettles

theorem close (h : Stands limit first passed opened c) (bracket : Bracket) (start : Nat) :
    Agree (Stands limit first (passed + 1) opened) (c.close bracket start)
      (c.close bracket start) := by
  rw [Cursor.close]
  split
  · next hclosed => exact agree_ok (h.advance (bracket.ne_finish_of_isClosedBy hclosed))
  · split <;> exact agree_error _

end Stands

end Cursor

/-! ### One step -/

/-- Where a task may begin: the levels that it closes are open, and a token that it passes without a
look is not the end token. -/
structure Task.Begins (t : Task) (c : Cursor) : Prop where
  levels : t.levels ≤ c.depth
  peek : t.isBlind = false ∨ c.peek ≠ .finish

/-- Hooks that do what the parser does, wherever nothing is wrong. -/
structure Hooks.Sound (hooks : Hooks) : Prop where
  leave {c levels} (h : levels ≤ c.depth) : hooks.leave c levels = .ok (c.leave levels)
  next {first c} (h : c.depth = first.depth) : hooks.next first c = .ok c

theorem Hooks.sound_plain : Hooks.plain.Sound := ⟨fun _ => rfl, fun _ => rfl⟩

theorem Hooks.sound_watching (breach : ParseError) : (Hooks.watching breach).Sound :=
  ⟨fun h => if_pos h, fun h => if_pos h⟩

namespace Task

/-- Two ways to make a step of `t` from `first`, with hooks that are sound and with calls that
agree, as long as they are calls that a step may make: before a token is passed, only tasks of a
smaller rank are called. -/
structure Alike (limit : Nat) (hooks hooks' : Hooks) (call call' : Run) (t : Task)
    (first : Cursor) : Prop where
  hooks : hooks.Sound
  hooks' : hooks'.Sound
  begins : t.Begins first
  room : first.depth ≤ limit
  maximum : first.maximum ≤ limit
  call {u passed opened c} (h : Cursor.Stands limit first passed opened c) (hu : u.Begins c)
    (hrank : u.rank < 20 * passed + t.rank) :
    Agree (fun x => u.Settles c x.2) (call u c) (call' u c)

namespace Alike

variable {limit passed opened : Nat} {hooks hooks' : Hooks} {call call' : Run} {t : Task}
  {first c : Cursor} (h : Alike limit hooks hooks' call call' t first)
include h

theorem start : Cursor.Stands limit first 0 0 first := Cursor.stands_self h.room

/-- A call in the midst of a task. -/
theorem inner (u : Task) (hc : Cursor.Stands limit first passed opened c) (hlevels : u.levels = 0)
    (hblind : u.isBlind = false) (hrank : u.rank < 20 * passed + t.rank) :
    Agree (fun x => Cursor.Stands limit first (passed + u.least) opened x.2) (call u c)
      (call' u c) := by
  have hu : u.Begins c := ⟨hlevels ▸ Nat.zero_le _, .inl hblind⟩
  exact (h.call hc hu hrank).mono fun _ hx => hc.call hx hlevels

/-- A call that a task ends with. -/
theorem last (u : Task) (hc : Cursor.Stands limit first passed opened c)
    (hlevels : u.levels = t.levels + opened) (hpeek : u.isBlind = false ∨ c.peek ≠ .finish)
    (hrank : u.rank < 20 * passed + t.rank) (hleast : t.least ≤ passed + u.least) :
    Agree (fun x => t.Settles first x.2) (call u c) (call' u c) := by
  have hopen : u.levels ≤ c.depth := by
    rw [hlevels, hc.depth]
    exact Nat.add_le_add_right h.begins.levels opened
  refine (h.call hc ⟨hopen, hpeek⟩ hrank).mono fun _ hx => ?_
  exact hc.settles_of_settles hx hlevels hleast

/-- A task that ends by closing its levels. -/
theorem leaves (a : α) (hc : Cursor.Stands limit first passed opened c) {levels : Nat}
    (hlevels : levels = t.levels + opened) (hleast : t.least ≤ passed) :
    Agree (fun x : α × Cursor => t.Settles first x.2) (do return (a, ← hooks.leave c levels))
      (do return (a, ← hooks'.leave c levels)) := by
  have hopen : levels ≤ c.depth := by
    rw [hlevels, hc.depth]
    exact Nat.add_le_add_right h.begins.levels opened
  rw [h.hooks.leave hopen, h.hooks'.leave hopen]
  exact agree_ok (hc.settles_leave hlevels hleast hopen)

theorem enter (hc : Cursor.Stands limit first passed 0 c) :
    Agree (fun after => Cursor.Stands limit first passed 1 after ∧ after.peek = c.peek) c.enter
      c.enter := by
  rw [Cursor.enter]
  split
  · exact agree_error _
  · next hroom =>
    refine agree_ok ⟨⟨hc.tokens, ?_, hc.maximum, ?_⟩, rfl⟩
    · show c.depth + 1 = first.depth + 1
      rw [hc.depth]
    · have hmaximum := h.maximum
      rw [← hc.maximum] at hmaximum
      exact Nat.le_trans (Nat.not_lt.1 hroom) hmaximum

/-- The next item of a row begins with as many open levels as the row. -/
theorem next (hc : Cursor.Stands limit first passed 0 c) :
    Agree (Cursor.Stands limit first passed 0) (hooks.next first c) (hooks'.next first c) := by
  rw [h.hooks.next hc.depth, h.hooks'.next hc.depth]
  exact agree_ok hc

end Alike

/-- Both ways to make the step come to the same, and so that the task settles. -/
abbrev StepAgrees (hooks hooks' : Hooks) (call call' : Run) (t : Task) (first : Cursor) : Prop :=
  Agree (fun x => t.Settles first x.2) (step hooks call t first) (step hooks' call' t first)

namespace Alike

variable {limit : Nat} {hooks hooks' : Hooks} {call call' : Run} {first : Cursor}

theorem expression (h : Alike limit hooks hooks' call call' .expression first) :
    StepAgrees hooks hooks' call call' .expression first := by
  refine (h.enter h.start).bind ?_
  rintro c ⟨hc, _⟩
  refine (h.inner .conditional hc rfl rfl (by decide)).bind ?_
  rintro ⟨e, c⟩ hc
  exact h.leaves e hc rfl (by decide)

theorem conditional (h : Alike limit hooks hooks' call call' .conditional first) :
    StepAgrees hooks hooks' call call' .conditional first := by
  refine (h.inner (.chain .disjunction) h.start rfl rfl (by decide)).bind ?_
  rintro ⟨yes, c⟩ hc
  dsimp only at hc ⊢
  split
  · exact hc.yields yes rfl (by decide)
  next hif =>
  have hword : c.peek = .name "if" := Cursor.peek_of_atWord (by simpa using hif)
  have hc := hc.advance (by simp [hword])
  refine (h.inner (.chain .disjunction) hc rfl rfl (by decide)).bind ?_
  rintro ⟨test, c⟩ hc
  dsimp only at hc ⊢
  split
  · exact agree_error _
  next helse =>
  have hword : c.peek = .name "else" := Cursor.peek_of_atWord (by simpa using helse)
  have hc := hc.advance (by simp [hword])
  refine (h.inner .expression hc rfl rfl (by decide)).bind ?_
  rintro ⟨no, c⟩ hc
  exact hc.yields _ rfl (by decide)

theorem chain {level : ChainLevel} (h : Alike limit hooks hooks' call call' (.chain level) first) :
    StepAgrees hooks hooks' call call' (.chain level) first := by
  refine (h.inner (.operand level) h.start rfl rfl (by simp)).bind ?_
  rintro ⟨left, c⟩ hc
  refine h.last (.chainTail level 0 left) hc rfl (.inl rfl) ?_ (by simp)
  simp only [rank, least]
  omega

theorem chainTail {level : ChainLevel} {levels : Nat} {left : Phrase}
    (h : Alike limit hooks hooks' call call' (.chainTail level levels left) first) :
    StepAgrees hooks hooks' call call' (.chainTail level levels left) first := by
  rw [StepAgrees, step, step]
  split
  · split
    · exact agree_error _
    · exact h.leaves left h.start rfl (by simp)
  · split
    · exact h.leaves left h.start rfl (by simp)
    next joiner hjoiner =>
    have hpeek : first.peek ≠ .finish := by
      -- at the end there is nothing that joins
      intro hfinish
      rw [hfinish] at hjoiner
      cases level <;> cases hjoiner
    refine (h.enter h.start).bind ?_
    rintro c ⟨hc, hsame⟩
    have hc := hc.advance (by rwa [hsame])
    have hrank := level.operandRank_le
    refine (h.inner (.operand level) hc rfl rfl (by simp only [rank]; omega)).bind ?_
    rintro ⟨right, c⟩ hc
    exact h.last (.chainTail level (levels + 1) (joiner.join left right)) hc rfl (.inl rfl)
      (by simp) (by simp)

theorem operand {level : ChainLevel}
    (h : Alike limit hooks hooks' call call' (.operand level) first) :
    StepAgrees hooks hooks' call call' (.operand level) first := by
  cases level with
  | disjunction =>
    exact h.last (.chain .conjunction) h.start rfl (.inl rfl) (by decide) (by decide)
  | conjunction => exact h.last .negation h.start rfl (.inl rfl) (by decide) (by decide)
  | sum => exact h.last (.chain .term) h.start rfl (.inl rfl) (by decide) (by decide)
  | term => exact h.last .signed h.start rfl (.inl rfl) (by decide) (by decide)

theorem negation (h : Alike limit hooks hooks' call call' .negation first) :
    StepAgrees hooks hooks' call call' .negation first := by
  rw [StepAgrees, step, step]
  split
  · next hnot =>
    refine (h.enter h.start).bind ?_
    rintro c ⟨hc, hsame⟩
    have hc := hc.advance (by simp [hsame, Cursor.peek_of_atWord hnot])
    refine (h.inner .negation hc rfl rfl (by decide)).bind ?_
    rintro ⟨e, c⟩ hc
    exact h.leaves _ hc rfl (by decide)
  · exact h.last .comparison h.start rfl (.inl rfl) (by decide) (by decide)

theorem comparison (h : Alike limit hooks hooks' call call' .comparison first) :
    StepAgrees hooks hooks' call call' .comparison first := by
  refine (h.inner (.chain .sum) h.start rfl rfl (by decide)).bind ?_
  rintro ⟨e, c⟩ hc
  refine (h.inner .comparisonTail hc rfl rfl (by decide)).bind ?_
  rintro ⟨links, c⟩ hc
  dsimp only
  split <;> exact hc.yields _ rfl (by decide)

theorem comparisonTail (h : Alike limit hooks hooks' call call' .comparisonTail first) :
    StepAgrees hooks hooks' call call' .comparisonTail first := by
  rw [StepAgrees, step, step]
  split
  · next op hop =>
    have hc := h.start.advance (by simp [Token.comparison?_eq_some_iff.1 hop])
    refine (h.inner (.chain .sum) hc rfl rfl (by decide)).bind ?_
    rintro ⟨e, c⟩ hc
    refine (h.inner .comparisonTail hc rfl rfl (by decide)).bind ?_
    rintro ⟨links, c⟩ hc
    exact hc.yields _ rfl (by decide)
  · split
    · exact agree_error _
    · exact h.start.yields _ rfl (by decide)

theorem signed (h : Alike limit hooks hooks' call call' .signed first) :
    StepAgrees hooks hooks' call call' .signed first := by
  rw [StepAgrees, step, step]
  split
  · next hminus =>
    have hfirst : first.peek ≠ .finish := by simp [hminus]
    exact h.last (.sign .neg) h.start rfl (.inr hfirst) (by decide) (by decide)
  · next hplus =>
    have hfirst : first.peek ≠ .finish := by simp [hplus]
    exact h.last (.sign .pos) h.start rfl (.inr hfirst) (by decide) (by decide)
  · exact agree_error _
  · exact h.last .power h.start rfl (.inl rfl) (by decide) (by decide)

theorem sign {op : UnaryOp} (h : Alike limit hooks hooks' call call' (.sign op) first) :
    StepAgrees hooks hooks' call call' (.sign op) first := by
  refine (h.enter h.start).bind ?_
  rintro c ⟨hc, hsame⟩
  have hc := hc.advance (by rw [hsame]; exact h.begins.peek.resolve_left Bool.noConfusion)
  refine (h.inner .signed hc rfl rfl (by simp)).bind ?_
  rintro ⟨e, c⟩ hc
  exact h.leaves _ hc rfl (by simp)

theorem power (h : Alike limit hooks hooks' call call' .power first) :
    StepAgrees hooks hooks' call call' .power first := by
  refine (h.inner .primary h.start rfl rfl (by decide)).bind ?_
  rintro ⟨base, c⟩ hc
  dsimp only at hc ⊢
  split
  · next hpeek =>
    refine (h.enter hc).bind ?_
    rintro c ⟨hc, hsame⟩
    have hc := hc.advance (by simp [hsame, hpeek])
    refine (h.inner .signed hc rfl rfl (by decide)).bind ?_
    rintro ⟨e, c⟩ hc
    exact h.leaves _ hc rfl (by decide)
  · exact hc.yields _ rfl (by decide)

theorem primary (h : Alike limit hooks hooks' call call' .primary first) :
    StepAgrees hooks hooks' call call' .primary first := by
  refine (h.inner .atom h.start rfl rfl (by decide)).bind ?_
  rintro ⟨e, c⟩ hc
  exact h.last (.primaryTail 0 e) hc rfl (.inl rfl) (by simp) (by simp)

theorem primaryTail {levels : Nat} {e : Phrase}
    (h : Alike limit hooks hooks' call call' (.primaryTail levels e) first) :
    StepAgrees hooks hooks' call call' (.primaryTail levels e) first := by
  rw [StepAgrees, step, step]
  split
  · next hdot =>
    refine (h.enter h.start).bind ?_
    rintro c ⟨hc, hsame⟩
    have hc := hc.advance (by simp [hsame, hdot])
    dsimp only
    split
    · next s hname =>
      have hc := hc.advance (by simp [hname])
      exact h.last (.primaryTail (levels + 1) (.member e.position e s)) hc rfl (.inl rfl)
        (by simp) (by simp)
    · exact agree_error _
  · next hopen =>
    refine (h.enter h.start).bind ?_
    rintro c ⟨hc, hsame⟩
    have hc := hc.advance (by simp [hsame, hopen])
    refine (h.inner (.arguments first.position) hc rfl rfl (by simp)).bind ?_
    rintro ⟨given, c⟩ hc
    exact h.last (.primaryTail (levels + 1) (.call e.position e given)) hc rfl (.inl rfl)
      (by simp) (by simp)
  · next hopen =>
    refine (h.enter h.start).bind ?_
    rintro c ⟨hc, hsame⟩
    have hc := hc.advance (by simp [hsame, hopen])
    refine (h.inner .expression hc rfl rfl (by simp)).bind ?_
    rintro ⟨index, c⟩ hc
    refine (hc.close .square _).bind fun c hc => ?_
    exact h.last (.primaryTail (levels + 1) (.subscript e.position e index)) hc rfl (.inl rfl)
      (by simp) (by simp)
  · exact h.leaves e h.start rfl (by simp)

theorem arguments {start : Nat} (h : Alike limit hooks hooks' call call' (.arguments start) first) :
    StepAgrees hooks hooks' call call' (.arguments start) first := by
  rw [StepAgrees, step, step]
  split
  · next hclosed =>
    have hc := h.start.advance (Bracket.round.ne_finish_of_isClosedBy hclosed)
    exact hc.yields _ rfl (by simp)
  refine (h.inner .argument h.start rfl rfl (by simp)).bind ?_
  rintro ⟨a, c⟩ hc
  dsimp only at hc ⊢
  split
  · next hcomma =>
    have hc := hc.advance (by simp [hcomma])
    refine (h.next hc).bind fun c hc => ?_
    refine (h.inner (.arguments start) hc rfl rfl (by simp)).bind ?_
    rintro ⟨more, c⟩ hc
    exact hc.yields _ rfl (by simp)
  · refine (hc.close .round start).bind fun c hc => ?_
    exact hc.yields _ rfl (by simp)

theorem argument (h : Alike limit hooks hooks' call call' .argument first) :
    StepAgrees hooks hooks' call call' .argument first := by
  rw [StepAgrees, step, step]
  split
  · next _ _ hstar =>
    have hc := h.start.advance (by simp [hstar])
    refine (h.inner .expression hc rfl rfl (by decide)).bind ?_
    rintro ⟨_, c⟩ hc
    exact hc.yields _ rfl (by decide)
  · next _ _ hstar =>
    have hc := h.start.advance (by simp [hstar])
    refine (h.inner .expression hc rfl rfl (by decide)).bind ?_
    rintro ⟨_, c⟩ hc
    exact hc.yields _ rfl (by decide)
  · next s hname hassign =>
    have hc := h.start.advance (by simp [hname])
    have hc := hc.advance (by simp [Cursor.peek_advance, hassign])
    refine (h.inner .expression hc rfl rfl (by decide)).bind ?_
    rintro ⟨_, c⟩ hc
    exact hc.yields _ rfl (by decide)
  · refine (h.inner .expression h.start rfl rfl (by decide)).bind ?_
    rintro ⟨e, c⟩ hc
    dsimp only at hc ⊢
    split
    · exact agree_error _
    · exact hc.yields _ rfl (by decide)

theorem items {bracket : Bracket} {start : Nat}
    (h : Alike limit hooks hooks' call call' (.items bracket start) first) :
    StepAgrees hooks hooks' call call' (.items bracket start) first := by
  rw [StepAgrees, step, step]
  split
  · next hclosed =>
    have hc := h.start.advance (bracket.ne_finish_of_isClosedBy hclosed)
    exact hc.yields _ rfl (by simp)
  refine (h.inner .expression h.start rfl rfl (by simp)).bind ?_
  rintro ⟨e, c⟩ hc
  dsimp only at hc ⊢
  split
  · exact agree_error _
  split
  · next hcomma =>
    have hc := hc.advance (by simp [hcomma])
    refine (h.next hc).bind fun c hc => ?_
    refine (h.inner (.items bracket start) hc rfl rfl (by simp)).bind ?_
    rintro ⟨⟨more, _⟩, c⟩ hc
    exact hc.yields _ rfl (by simp)
  · refine (hc.close bracket start).bind fun c hc => ?_
    exact hc.yields _ rfl (by simp)

theorem atom (h : Alike limit hooks hooks' call call' .atom first) :
    StepAgrees hooks hooks' call call' .atom first := by
  rw [StepAgrees, step, step]
  split
  · next htoken => exact (h.start.advance (by simp [htoken])).yields _ rfl (by decide)
  · next htoken => exact (h.start.advance (by simp [htoken])).yields _ rfl (by decide)
  · next htoken => exact (h.start.advance (by simp [htoken])).yields _ rfl (by decide)
  · next s htoken =>
    rw [Parser.word]
    split
    · exact agree_error _
    split
    · exact agree_error _
    · exact (h.start.advance (by simp [htoken])).yields _ rfl (by decide)
  · next htoken =>
    have hc := h.start.advance (by simp [htoken])
    refine (h.inner (.items .round _) hc rfl rfl (by simp)).bind ?_
    rintro ⟨contents, c⟩ hc
    dsimp only at hc ⊢
    split <;> exact hc.yields _ rfl (by simp)
  · next htoken =>
    have hc := h.start.advance (by simp [htoken])
    refine (h.inner (.items .square _) hc rfl rfl (by simp)).bind ?_
    rintro ⟨⟨es, _⟩, c⟩ hc
    exact hc.yields _ rfl (by simp)
  · exact agree_error _
  · exact agree_error _
  · exact agree_error _

/-- A step of any task. -/
theorem stepAgrees {t : Task} (h : Alike limit hooks hooks' call call' t first) :
    StepAgrees hooks hooks' call call' t first := by
  cases t with
  | expression => exact h.expression
  | conditional => exact h.conditional
  | chain => exact h.chain
  | chainTail => exact h.chainTail
  | operand => exact h.operand
  | negation => exact h.negation
  | comparison => exact h.comparison
  | comparisonTail => exact h.comparisonTail
  | signed => exact h.signed
  | sign => exact h.sign
  | power => exact h.power
  | primary => exact h.primary
  | primaryTail => exact h.primaryTail
  | arguments => exact h.arguments
  | argument => exact h.argument
  | items => exact h.items
  | atom => exact h.atom

end Alike

/-! ### Whole runs -/

variable {limit : Nat} {t : Task} {c : Cursor}

/-- With enough calls to make, the parser under watch does what the parser does. By induction on
the calls, which every step that passes no token takes to a task of a smaller rank. -/
theorem watched_agrees (breach : ParseError) {fuel fuel' : Nat} (hends : c.Ends)
    (hbegins : t.Begins c) (hroom : c.depth ≤ limit) (hmaximum : c.maximum ≤ limit)
    (hfuel : 20 * c.rest.length + t.rank ≤ fuel) (hfuel' : 20 * c.rest.length + t.rank ≤ fuel') :
    Agree (fun x => t.Settles c x.2) (watched breach limit fuel t c) (run fuel' t c) := by
  have hrank := t.rank_pos
  induction fuel generalizing fuel' t c with
  | zero => omega
  | succ fuel ih =>
    obtain ⟨fuel', rfl⟩ : ∃ n, fuel' = n + 1 := Nat.exists_eq_succ_of_ne_zero (by omega)
    have hleft : c.rest ≠ [] := by
      obtain ⟨front, place, hrest⟩ := hends
      simp [hrest]
    rw [watched, if_pos ⟨hleft, hroom⟩, run_succ]
    have halike : Alike limit (.watching breach) .plain (watched breach limit fuel) (run fuel') t
        c := by
      refine ⟨Hooks.sound_watching breach, Hooks.sound_plain, hbegins, hroom, hmaximum, ?_⟩
      intro u _ _ after h hu hless
      -- the rank is smaller, or a token is passed, which pays for any rank
      have hlength := h.tokens.length_le
      exact ih (h.tokens.ends hends) hu h.room (h.maximum ▸ hmaximum) (by omega) (by omega)
        u.rank_pos
    exact halike.stepAgrees

/-- The same run twice, which needs no calls to spare. -/
theorem run_agrees (fuel : Nat) (hbegins : t.Begins c) (hroom : c.depth ≤ limit)
    (hmaximum : c.maximum ≤ limit) :
    Agree (fun x => t.Settles c x.2) (run fuel t c) (run fuel t c) := by
  induction fuel generalizing t c with
  | zero =>
    rw [run_zero]
    exact agree_error _
  | succ fuel ih =>
    rw [run_succ]
    have halike : Alike limit .plain .plain (run fuel) (run fuel) t c :=
      ⟨Hooks.sound_plain, Hooks.sound_plain, hbegins, hroom, hmaximum,
        fun h hu _ => ih hu h.room (h.maximum ▸ hmaximum)⟩
    exact halike.stepAgrees

/-- However many calls may be made, a task that succeeds settles. -/
theorem settles_of_run {fuel : Nat} (hbegins : t.Begins c) {y : t.Yield} {after : Cursor}
    (h : run fuel t c = .ok (y, after)) : t.Settles c after :=
  (run_agrees fuel hbegins (Nat.le_max_left ..) (Nat.le_max_right ..)).2 (y, after) h

/-- Whether a task reads a whole phrase, argument or row. The others go on with what was begun: the
tails of chains and rows of attributes, and a sign. -/
def isWhole : Task → Bool
  | chainTail .. | comparisonTail | sign _ | primaryTail .. => false
  | _ => true

theorem levels_of_isWhole (ht : t.isWhole = true) : t.levels = 0 := by
  cases t with
  | chainTail | primaryTail => cases ht
  | _ => rfl

theorem least_of_isWhole (ht : t.isWhole = true) : t.least = 1 := by
  cases t with
  | chainTail | comparisonTail | primaryTail => cases ht
  | _ => rfl

theorem begins_of_isWhole (ht : t.isWhole = true) (c : Cursor) : t.Begins c := by
  refine ⟨levels_of_isWhole ht ▸ Nat.zero_le _, .inl ?_⟩
  cases t with
  | sign => cases ht
  | _ => rfl

/-- **The count of open levels is kept.** Suppose that a function of the parser starts with the
tokens left up to the end token, whatever the number of levels that are open and that may be open.

If it succeeds, as many levels are open as before, it has passed at least one token, and it has not
passed the end token. Twenty calls for each token are always enough: more calls make no difference,
and a parser under watch does the same and never finds anything wrong. So the loops come to an end,
no more levels are ever closed than are open, no task begins with more open levels than the maximum
(or than there were at first), and each item of a row begins with as many as the row, whatever the
items before it were. -/
theorem count_kept (ht : t.isWhole = true) (hc : c.Ends) :
    (∀ fuel y after, run fuel t c = .ok (y, after) →
      after.depth = c.depth ∧ after.maximum = c.maximum ∧ after.Ends ∧
        ∃ passed, passed ≠ [] ∧ c.rest = passed ++ after.rest ∧
          ∀ u ∈ passed, u.token ≠ .finish) ∧
    ∀ fuel, 20 * (c.rest.length + 1) ≤ fuel →
      run fuel t c = run (20 * (c.rest.length + 1)) t c ∧
        ∀ breach, watched breach (max c.depth c.maximum) fuel t c = run fuel t c := by
  have hbegins := begins_of_isWhole ht c
  refine ⟨fun fuel y after h => ?_, fun fuel hfuel => ?_⟩
  · have hsettles := settles_of_run hbegins h
    have hdepth := hsettles.depth
    rw [levels_of_isWhole ht] at hdepth
    obtain ⟨passed, hrest, hno, hleast⟩ := hsettles.tokens
    rw [least_of_isWhole ht] at hleast
    exact ⟨hdepth, hsettles.maximum, hsettles.tokens.ends hc, passed, List.length_pos_iff.1 hleast,
      hrest, hno⟩
  · have hrank := t.rank_le
    have hwatched (breach : ParseError) {fuel' : Nat} (hfuel' : 20 * (c.rest.length + 1) ≤ fuel') :
        watched breach (max c.depth c.maximum) fuel t c = run fuel' t c :=
      (watched_agrees breach hc hbegins (Nat.le_max_left ..) (Nat.le_max_right ..) (by omega)
        (by omega)).1
    refine ⟨?_, fun breach => hwatched breach hfuel⟩
    exact (hwatched c.operandError hfuel).symm.trans (hwatched c.operandError (Nat.le_refl _))

/-- Both items of a list need all three levels that may be open. -/
theorem count_kept_pair :
    let tokens : List PlacedToken := [⟨.openBracket, 0⟩, ⟨.minus, 1⟩, ⟨.openParen, 2⟩, ⟨.int 1, 3⟩,
      ⟨.closeParen, 4⟩, ⟨.comma, 5⟩, ⟨.minus, 6⟩, ⟨.openParen, 7⟩, ⟨.int 2, 8⟩, ⟨.closeParen, 9⟩,
      ⟨.closeBracket, 10⟩, ⟨.finish, 11⟩]
    let c : Cursor := ⟨none, tokens, 0, 3⟩
    ∃ y after, run 260 .atom c = .ok (y, after) ∧ after.depth = 0 ∧ after.Ends ∧
      ∀ breach, watched breach 3 260 .atom c = run 260 .atom c := by
  intro tokens c
  have hends : c.Ends := ⟨tokens.dropLast, 11, rfl⟩
  obtain ⟨hkept, hwatched⟩ := count_kept (t := .atom) rfl hends
  have hok : (run 260 .atom c).isOk = true := by decide +kernel
  obtain ⟨⟨y, after⟩, hrun⟩ := isOk_iff.1 hok
  obtain ⟨hdepth, -, hafter, -⟩ := hkept 260 y after hrun
  exact ⟨y, after, hrun, hdepth, hafter, (hwatched 260 (Nat.le_refl _)).2⟩

end Task

end Appraisal
