/-!
# Outcomes

A run ends in one of three ways: with a value, with an error that concerns one formula or one
action and that the run survives, or without any answer, when it is broken off.
-/

namespace Appraisal

/-- Why a run is broken off. -/
inductive Abort
  /-- A whole number was to be kept between bounds that stand in the wrong order. -/
  | crossedBounds (low high : Int64)
  /-- A step on whole numbers has no result of 64 bits. -/
  | overflow
  /-- An item was to be taken from outside a row. -/
  | outOfRange (place length : Nat)
  deriving DecidableEq

/-- How a run ends. -/
inductive Outcome (ε α : Type)
  | ok (value : α)
  | error (e : ε)
  | abort (reason : Abort)

namespace Outcome

variable {ε δ α β : Type}

/-- Go on with the value of a run. -/
def bind : Outcome ε α → (α → Outcome ε β) → Outcome ε β
  | ok a, f => f a
  | error e, _ => error e
  | abort r, _ => abort r

instance : Monad (Outcome ε) where
  pure := ok
  bind := bind

@[simp] theorem pure_eq (a : α) : (pure a : Outcome ε α) = ok a := rfl

@[simp] theorem ok_bind (a : α) (f : α → Outcome ε β) : (ok a >>= f) = f a := rfl

@[simp] theorem error_bind (e : ε) (f : α → Outcome ε β) : (error e >>= f) = error e := rfl

@[simp] theorem abort_bind (r : Abort) (f : α → Outcome ε β) : (abort r >>= f) = abort r := rfl

/-- The outcome of a run that is never broken off. -/
def ofExcept : Except ε α → Outcome ε α
  | .ok a => ok a
  | .error e => error e

/-- Change the error of a run. -/
def mapError (f : ε → δ) : Outcome ε α → Outcome δ α
  | ok a => ok a
  | error e => error (f e)
  | abort r => abort r

/-- The item at a place of a row. There has to be one. -/
def itemAt (items : List α) (place : Nat) : Outcome ε α :=
  match items[place]? with
  | some a => ok a
  | none => abort (.outOfRange place items.length)

/-- Make the error of a run, if it has one, a part of its answer. -/
def caught : Outcome ε α → Except Abort (Except ε α)
  | ok a => .ok (.ok a)
  | error e => .ok (.error e)
  | abort r => .error r

end Outcome

end Appraisal
