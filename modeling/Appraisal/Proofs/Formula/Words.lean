import Appraisal.Proofs.Formula.Completeness
import Appraisal.Proofs.Number.Decimal

/-!
# The words of texts

What a token that is cut from a text may hold (`Lexer.Lexed`): integers and floats come without a
sign, which is a token of its own, and names consist of letters, digits and underscores
(`Lexer.IsWord`).
-/

namespace Appraisal.Lexer

/-- A name as a text can hold it. -/
def IsWord (name : String) : Prop :=
  ∃ c more, name.toList = c :: more ∧ opensName c = true ∧ ∀ d ∈ more, continuesName d = true

/-- A token as it may be cut from a text. -/
def Lexed : Token → Prop
  | .int i => 0 ≤ i.toInt
  | .float v => Number.Unsigned v.toModel.unpack
  | .name s => IsWord s
  | _ => True

theorem lexed_of_numeral (n : Numeral) : Lexed n.token := by
  unfold Numeral.token
  dsimp only
  split
  · split
    · next i hi =>
      show 0 ≤ i.toInt
      rw [Number.toInt_of_int64? hi]
      exact Int.natCast_nonneg _
    · exact Number.unsigned_ofDecimal _ _
  · exact Number.unsigned_ofDecimal _ _

theorem lexed_of_name? {cs rest : List Char} {t : Token} (h : name? cs = some (t, rest)) :
    Lexed t := by
  unfold name? at h
  split at h
  · cases h
  next c more =>
  split at h
  · next hopens =>
    dsimp only at h
    split at h
    · obtain ⟨_, _, hformatted⟩ := Option.map_eq_some_iff.1 h
      cases hformatted
      trivial
    · cases h
      refine ⟨c, more.takeWhile continuesName, String.toList_ofList, hopens, ?_⟩
      intro d hd
      exact List.mem_takeWhile_imp hd
  · cases h

theorem lexed_of_symbol? {cs rest : List Char} {t : Token} (h : symbol? cs = some (t, rest)) :
    Lexed t := by
  obtain ⟨s, hs, hsome⟩ := List.exists_of_findSome?_eq_some h
  obtain ⟨_, _, hsymbol⟩ := Option.map_eq_some_iff.1 hsome
  cases hsymbol
  have hall : ∀ s ∈ symbols, Lexed s := by simp [symbols, Lexed]
  exact hall t hs

/-- A token that is cut from a text is one that a text can hold. -/
theorem lexed_of_token? {cs rest : List Char} {t : Token} (h : token? cs = some (t, rest)) :
    Lexed t := by
  rw [token?] at h
  split at h
  · cases h
    exact lexed_of_numeral _
  split at h
  · cases h
    trivial
  rcases Option.or_eq_some_iff.1 h with h | ⟨-, h⟩
  · exact lexed_of_name? h
  · exact lexed_of_symbol? h

end Appraisal.Lexer
