import Appraisal.Proofs.Formula.Cutting

/-!
# Tokens written one by one

A row of tokens can be written down: each token by itself, with a blank between every two. A text
stands in double quotes, with a backslash before every quote and every backslash in it; all other
tokens are written as messages show them. What is written so is cut back into the same tokens,
whatever they are and in whatever order (`Lexer.tokenize_written`). Floats and the end of a formula
are left aside: the first are written in many ways, the second in none.

Each kind of token is cut off in front of a blank or at the end (`Lexer.cuts_written`). A symbol is
the longest one that fits, a point belongs to no number, and what stands in quotes comes back
(`Lexer.quotedBody_escaped`).
-/

namespace Appraisal

/-! ### Tokens in writing -/

/-- A text as it stands between double quotes. -/
def escaped (cs : List Char) : List Char :=
  cs.flatMap fun c => if c = '"' ∨ c = '\\' then ['\\', c] else [c]

namespace Token

/-- The characters for a token. What is to be formatted is empty. -/
def written : Token → List Char
  | string s => '"' :: escaped s.toList ++ ['"']
  | formatted => ['f', '"', '"']
  | t => t.text.toList

/-- A token that can be written: numbers without a sign, words as names, and everything else but
floats and the end. -/
def Writable : Token → Prop
  | int i => 0 ≤ i.toInt
  | name s => Lexer.IsWord s
  | float _ | finish => False
  | _ => True

end Token

namespace Lexer

/-! ### Each token by itself -/

/-- What is escaped stands for itself. -/
theorem quotedBody_escaped (cs rest : List Char) :
    quotedBody '"' (escaped cs ++ '"' :: rest) = some (cs, rest) := by
  induction cs with
  | nil => exact quotedBody_quote rest
  | cons c cs ih =>
    rw [escaped, List.flatMap_cons, List.append_assoc]
    by_cases hc : c = '"' ∨ c = '\\'
    · have hself : unescape c = [c] := by rcases hc with rfl | rfl <;> rfl
      rw [if_pos hc, List.cons_append, List.cons_append, quotedBody_backslash, List.nil_append]
      rw [← escaped, ih, Option.map_some, hself]
      rfl
    · rw [not_or] at hc
      rw [if_neg (by simp [hc]), List.cons_append, List.nil_append, quotedBody_cons hc.1 hc.2]
      rw [← escaped, ih]
      rfl

/-- The text goes on with a blank, if at all. -/
def Apart (cs : List Char) : Prop := cs = [] ∨ ∃ more, cs = ' ' :: more

theorem Apart.breaks {cs : List Char} (h : Apart cs) : Breaks cs := by
  rcases h with rfl | ⟨more, rfl⟩
  · exact breaks_nil
  · exact breaks_cons (by decide) more

theorem cuts_string (s : String) (rest : List Char) :
    Cuts ((Token.string s).written ++ rest) (.string s) rest := by
  have htext : (Token.string s).written ++ rest = '"' :: (escaped s.toList ++ '"' :: rest) := by
    simp [Token.written]
  rw [htext]
  refine .mk_cons rfl (by decide) ?_
  rw [token?_quote, quotedBody_escaped, Option.map_some, String.ofList_toList]

/-- A mark in front of two quotes is a text to be formatted. -/
theorem cuts_formatted (rest : List Char) :
    Cuts (Token.formatted.written ++ rest) .formatted rest := by
  show Cuts ('f' :: '"' :: '"' :: rest) .formatted rest
  have hopens : opensName 'f' = true := opensName_of_ascii (by decide)
  have hquote : ¬ continuesName '"' = true := by
    rw [continuesName_of_ascii (by decide)]
    decide
  have hname : name? ('f' :: '"' :: '"' :: rest) = some (.formatted, rest) := by
    rw [name?, if_pos hopens, List.takeWhile_cons_of_neg hquote, List.dropWhile_cons_of_neg hquote]
    show (quotedBody '"' ('"' :: rest)).map _ = _
    rw [quotedBody_quote]
    rfl
  refine .mk_cons rfl (by decide) ?_
  rw [token?, number?_eq_none rfl (by decide), hname]
  rfl

/-- A token that can be written is cut off whole. -/
theorem cuts_written {t : Token} (h : t.Writable) {rest : List Char} (hrest : Apart rest) :
    Cuts (t.written ++ rest) t rest := by
  -- by the kind of the token; a symbol is taken by the two ways in which the text can go on
  cases t with
  | int i => exact cuts_int h hrest.breaks
  | float v => exact h.elim
  | string s => exact cuts_string s rest
  | formatted => exact cuts_formatted rest
  | name s => exact cuts_name h hrest.breaks.endsName
  | comparison op =>
    rcases hrest with rfl | ⟨_, rfl⟩ <;> cases op <;> exact .mk_cons rfl (by decide) rfl
  | update op =>
    rcases hrest with rfl | ⟨_, rfl⟩ <;> cases op <;> exact .mk_cons rfl (by decide) rfl
  | bitwise op =>
    rcases hrest with rfl | ⟨_, rfl⟩ <;> cases op <;> exact .mk_cons rfl (by decide) rfl
  | finish => exact h.elim
  | _ => rcases hrest with rfl | ⟨_, rfl⟩ <;> exact .mk_cons rfl (by decide) rfl

/-! ### Rows of tokens -/

/-- Tokens with a blank between every two. -/
def writtenRow (tokens : List Token) : List Char := [' '].intercalate (tokens.map Token.written)

/-- A token and what the row goes on with. -/
theorem exists_writtenRow_cons (t : Token) (tokens : List Token) :
    ∃ rest, writtenRow (t :: tokens) = t.written ++ rest ∧ Apart rest ∧
      ∀ place, ∃ place', tokensFrom place rest = tokensFrom place' (writtenRow tokens) := by
  cases tokens with
  | nil =>
    refine ⟨[], ?_, .inl rfl, fun place => ⟨place, rfl⟩⟩
    rw [writtenRow, List.map_singleton, List.intercalate_singleton, List.append_nil]
  | cons u tokens =>
    refine ⟨' ' :: writtenRow (u :: tokens), ?_, .inr ⟨_, rfl⟩, fun place => ?_⟩
    · rw [writtenRow, List.map_cons, List.map_cons, List.intercalate_cons_cons, List.append_assoc]
      rfl
    · exact ⟨place + 1, tokensFrom_blank place _⟩

/-- **Cutting undoes writing.** Tokens that are written one after the other, with a blank between
every two, are cut back into the same tokens and the end: whole numbers without a sign, names, texts
with any characters in quotes, texts to be formatted and every symbol, in whatever order. -/
theorem tokenize_written (tokens : List Token) (h : ∀ t ∈ tokens, t.Writable) :
    ∃ placed, tokenize (writtenRow tokens) = .ok placed ∧
      placed.map PlacedToken.token = tokens ++ [.finish] := by
  rw [tokenize]
  -- each token is cut at another place, so the induction is over rows that stand anywhere
  generalize 0 = place
  induction tokens generalizing place with
  | nil => exact ⟨_, tokensFrom_nil place, rfl⟩
  | cons t tokens ih =>
    obtain ⟨ht, htokens⟩ := List.forall_mem_cons.1 h
    obtain ⟨rest, hrow, hrest, hfrom⟩ := exists_writtenRow_cons t tokens
    obtain ⟨place', hfrom⟩ := hfrom (place + passed (t.written ++ rest) rest)
    obtain ⟨placed, hplaced, hkinds⟩ := ih htokens place'
    refine ⟨⟨t, place⟩ :: placed, ?_, ?_⟩
    · rw [hrow, (cuts_written ht hrest).tokensFrom_eq place, hfrom, hplaced]
      rfl
    · rw [List.map_cons, hkinds, List.cons_append]

/-- Marks and numbers that would be another token if they stood together, and a text with quotes, a
backslash, a comment mark and a line break. -/
theorem tokenize_written_apart :
    ∃ placed, tokenize "f \"a\\\"\\\\#\n\" 1 . 5 f\"\" * ** **= < <=".toList = .ok placed ∧
      placed.map PlacedToken.token = [.name "f", .string "a\"\\#\n", .int 1, .dot, .int 5,
        .formatted, .star, .doubleStar, .update .power, .comparison .lt, .comparison .le,
        .finish] := by
  have hname : IsWord "f" := isWord_of_isAlpha (by decide) (by decide)
  refine tokenize_written [.name "f", .string "a\"\\#\n", .int 1, .dot, .int 5,
    .formatted, .star, .doubleStar, .update .power, .comparison .lt, .comparison .le] ?_
  simp only [List.forall_mem_cons, Token.Writable]
  refine ⟨hname, trivial, by decide, trivial, by decide, trivial, trivial, trivial, trivial,
    trivial, trivial, nofun⟩

end Lexer

end Appraisal
