import Appraisal.Outcome
import Mathlib.Data.List.Forall2

/-!
# Taking runs apart

A sequence of runs ends in a value, an error or not at all for one of two reasons each: the
first run did, or it had a value and what followed did (`Outcome.bind_eq_ok_iff`,
`Outcome.bind_eq_abort_iff`). A whole list of runs succeeds if each of them does
(`mapM_eq_ok_iff`).
-/

namespace Appraisal

variable {ε δ α β : Type}

/-! ### Results -/

theorem except_ok_bind (a : α) (f : α → Except ε β) : (.ok a >>= f) = f a := rfl

theorem except_bind_eq_ok_iff {x : Except ε α} {f : α → Except ε β} {b : β} :
    (x >>= f) = .ok b ↔ ∃ a, x = .ok a ∧ f a = .ok b := by
  cases x <;> simp [bind, Except.bind]

theorem except_bind_eq_error_iff {x : Except ε α} {f : α → Except ε β} {e : ε} :
    (x >>= f) = .error e ↔ x = .error e ∨ ∃ a, x = .ok a ∧ f a = .error e := by
  cases x <;> simp [bind, Except.bind]

theorem toOption_eq_some_iff {x : Except ε α} {a : α} : x.toOption = some a ↔ x = .ok a := by
  cases x <;> simp [Except.toOption]

theorem mapError_eq_ok_iff {x : Except ε α} {f : ε → δ} {a : α} :
    x.mapError f = .ok a ↔ x = .ok a := by
  cases x <;> simp [Except.mapError]

/-- A run that is stopped by a test has a value only if the test does not stop it. -/
theorem guarded_eq_ok_iff {c : Prop} [Decidable c] {γ : Type} {e : ε} {f : γ → Except ε α}
    {x : Except ε α} {a : α} :
    (if c then (throw e >>= f) else x) = .ok a ↔ ¬ c ∧ x = .ok a := by
  by_cases hc : c
  · simp [hc, throw, throwThe, MonadExceptOf.throw, bind, Except.bind]
  · simp [hc]

/-- Runs whose values have the same image go on to runs whose values have the same image. -/
theorem except_map_bind_congr {γ ζ : Type} {x y : Except ε α} {f h : α → Except ε β} {g : α → γ}
    {k : β → ζ} (hx : x.map g = y.map g) (hf : ∀ a b, g a = g b → (f a).map k = (h b).map k) :
    (x >>= f).map k = (y >>= h).map k := by
  cases x with
  | error e =>
    cases y with
    | error _ =>
      cases hx
      rfl
    | ok b => cases hx
  | ok a =>
    cases y with
    | error _ => cases hx
    | ok b => exact hf a b (Except.ok.inj hx)

theorem mapM_eq_ok_iff {f : α → Except ε β} {as : List α} {bs : List β} :
    as.mapM f = .ok bs ↔ List.Forall₂ (fun a b => f a = .ok b) as bs := by
  induction as generalizing bs with
  | nil => simp [pure, Except.pure, eq_comm]
  | cons a as ih =>
    rw [List.mapM_cons, except_bind_eq_ok_iff, List.forall₂_cons_left_iff]
    constructor
    · rintro ⟨b, hb, h⟩
      obtain ⟨rest, hrest, h⟩ := except_bind_eq_ok_iff.1 h
      cases h
      exact ⟨b, rest, hb, ih.1 hrest, rfl⟩
    · rintro ⟨b, rest, hb, hrest, rfl⟩
      exact ⟨b, hb, except_bind_eq_ok_iff.2 ⟨rest, ih.2 hrest, rfl⟩⟩

theorem exists_of_forall₂_mem {R : α → β → Prop} {as : List α} {bs : List β}
    (h : List.Forall₂ R as bs) {b : β} (hb : b ∈ bs) : ∃ a ∈ as, R a b := by
  induction h with
  | nil => cases hb
  | cons hab _ ih =>
    rcases List.mem_cons.1 hb with rfl | hb
    · exact ⟨_, List.mem_cons_self, hab⟩
    · obtain ⟨a, ha, hab⟩ := ih hb
      exact ⟨a, List.mem_cons_of_mem _ ha, hab⟩

theorem isOk_iff {x : Except ε α} : x.isOk = true ↔ ∃ a, x = .ok a := by
  cases x <;> simp [Except.isOk, Except.toBool]

theorem isOk_bind_iff {x : Except ε α} {f : α → Except ε β} :
    (x >>= f).isOk = true ↔ ∃ a, x = .ok a ∧ (f a).isOk = true := by
  cases x <;> simp [bind, Except.bind, Except.isOk, Except.toBool]

theorem isOk_bind_ok_iff {x : Except ε α} {f : α → β} :
    (x >>= fun a => .ok (f a)).isOk = true ↔ x.isOk = true := by
  cases x <;> simp [bind, Except.bind, Except.isOk, Except.toBool]

theorem isOk_mapM_iff {f : α → Except ε β} {as : List α} :
    (as.mapM f).isOk = true ↔ ∀ a ∈ as, (f a).isOk = true := by
  induction as with
  | nil => simp [pure, Except.pure, isOk_iff]
  | cons a as ih =>
    rw [List.mapM_cons, List.forall_mem_cons, ← ih, isOk_bind_iff, isOk_iff]
    constructor
    · rintro ⟨b, hb, h⟩
      obtain ⟨bs, hbs, -⟩ := isOk_bind_iff.1 h
      exact ⟨⟨b, hb⟩, isOk_iff.2 ⟨bs, hbs⟩⟩
    · rintro ⟨⟨b, hb⟩, h⟩
      obtain ⟨bs, hbs⟩ := isOk_iff.1 h
      exact ⟨b, hb, isOk_bind_iff.2 ⟨bs, hbs, rfl⟩⟩

/-! ### Outcomes -/

namespace Outcome

variable {x : Outcome ε α} {f : α → Outcome ε β}

theorem bind_eq_ok_iff {b : β} : (x >>= f) = ok b ↔ ∃ a, x = ok a ∧ f a = ok b := by
  cases x <;> simp

theorem bind_eq_error_iff {e : ε} :
    (x >>= f) = error e ↔ x = error e ∨ ∃ a, x = ok a ∧ f a = error e := by
  cases x <;> simp

theorem bind_eq_abort_iff {r : Abort} :
    (x >>= f) = abort r ↔ x = abort r ∨ ∃ a, x = ok a ∧ f a = abort r := by
  cases x <;> simp

@[simp] theorem ofExcept_ok (a : α) : (ofExcept (.ok a) : Outcome ε α) = ok a := rfl

@[simp] theorem ofExcept_error (e : ε) : (ofExcept (.error e) : Outcome ε α) = error e := rfl

@[simp] theorem ofExcept_ne_abort {x : Except ε α} {r : Abort} : ofExcept x ≠ abort r := by
  cases x <;> simp

theorem ofExcept_eq_ok_iff {x : Except ε α} {a : α} : ofExcept x = ok a ↔ x = .ok a := by
  cases x <;> simp

theorem ofExcept_eq_error_iff {x : Except ε α} {e : ε} : ofExcept x = error e ↔ x = .error e := by
  cases x <;> simp

theorem ofExcept_bind (x : Except ε α) (f : α → Except ε β) :
    ofExcept (x >>= f) = ofExcept x >>= fun a => ofExcept (f a) := by
  cases x <;> rfl

theorem ofExcept_map (x : Except ε α) (f : α → β) :
    ofExcept (x.map f) = ofExcept x >>= fun a => ok (f a) := by
  cases x <;> rfl

theorem mapError_eq_abort_iff {g : ε → δ} {r : Abort} :
    x.mapError g = abort r ↔ x = abort r := by
  cases x <;> simp [mapError]

/-- A run without a value: an error ends it, or it is broken off. -/
def failed (s : ε ⊕ Abort) : Outcome ε α := s.elim error abort

@[simp] theorem failed_bind (s : ε ⊕ Abort) : (failed s >>= f) = failed s := by
  cases s <;> rfl

theorem bind_eq_failed_iff {s : ε ⊕ Abort} :
    (x >>= f) = failed s ↔ x = failed s ∨ ∃ a, x = ok a ∧ f a = failed s := by
  cases s
  · exact bind_eq_error_iff
  · exact bind_eq_abort_iff

theorem ok_ne_failed {a : α} {s : ε ⊕ Abort} : ok a ≠ failed s := by
  cases s <;> nofun

/-- Why a run is broken off, if it is. -/
def abort? : Outcome ε α → Option Abort
  | abort r => some r
  | _ => none

theorem abort?_eq_some_iff {r : Abort} : x.abort? = some r ↔ x = abort r := by
  cases x <;> simp [abort?]

theorem caught_eq_error_iff {r : Abort} : x.caught = .error r ↔ x = abort r := by
  cases x <;> simp [caught]

theorem caught_eq_ok_iff {y : Except ε α} : x.caught = .ok y ↔ x = ofExcept y := by
  cases x <;> cases y <;> simp [caught]

end Outcome

end Appraisal
