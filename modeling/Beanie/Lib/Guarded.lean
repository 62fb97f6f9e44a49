/-
# `Beanie.Lib.Guarded` — computations that return an error or panic

Rust returns errors and panics.  A computation with both is one with an error
type that tells them apart; an ordinary computation is lifted into it and never
panics, and a chain panics at its first link or after it.

    panics_bind      where a chain panics
    forget_bind      reading a panic as an error is a map of computations
-/
import Beanie.Lib.Except

namespace Beanie

/-- An error, or a panic with its text. -/
inductive Failure (ε : Type)
  | err (e : ε)
  | panic (msg : String)
deriving DecidableEq

abbrev Guarded (ε α : Type) := Except (Failure ε) α

namespace Guarded
variable {ε α β : Type}

/-- A computation without panics. -/
def lift : Except ε α → Guarded ε α
  | .ok a => .ok a
  | .error e => .error (.err e)

def panic (msg : String) : Guarded ε α := .error (.panic msg)

/-- The computation panics. -/
def Panics (x : Guarded ε α) : Prop := ∃ msg, x = .error (.panic msg)

/-- The panic read as an error. -/
def forget (text : String → ε) : Guarded ε α → Except ε α
  | .ok a => .ok a
  | .error (.err e) => .error e
  | .error (.panic msg) => .error (text msg)

/-- `.context(msg)`: errors get it, panics do not. -/
def context (msg : String) (x : Guarded Trace α) : Guarded Trace α :=
  match x with
  | .error (.err e) => .error (.err (msg :: e))
  | x => x

/-! ## Panics -/

@[simp] theorem not_panics_ok (a : α) : ¬ Panics (.ok a : Guarded ε α) := by
  rintro ⟨msg, h⟩
  cases h

@[simp] theorem not_panics_err (e : ε) : ¬ Panics (.error (.err e) : Guarded ε α) := by
  rintro ⟨msg, h⟩
  cases h

@[simp] theorem panics_panic (msg : String) : Panics (panic msg : Guarded ε α) := ⟨msg, rfl⟩

@[simp] theorem not_panics_lift (x : Except ε α) : ¬ Panics (lift x) := by
  cases x with
  | ok a => exact not_panics_ok a
  | error e => exact not_panics_err e

@[simp] theorem lift_ok {x : Except ε α} {a : α} : (lift x : Guarded ε α) = .ok a ↔ x = .ok a := by
  cases x with
  | ok b => simp [lift]
  | error e => simp [lift]

/-- A chain panics at its first link, or after it. -/
theorem panics_bind {x : Guarded ε α} {f : α → Guarded ε β} :
    Panics (x >>= f) ↔ Panics x ∨ ∃ a, x = .ok a ∧ Panics (f a) := by
  cases x with
  | ok a =>
      rw [ok_bind]
      constructor
      · exact fun h => .inr ⟨a, rfl, h⟩
      · rintro (h | ⟨b, hb, h⟩)
        · exact absurd h (not_panics_ok a)
        · cases hb
          exact h
  | error e =>
      rw [error_bind]
      constructor
      · rintro ⟨msg, h⟩
        cases h
        exact .inl ⟨msg, rfl⟩
      · rintro (⟨msg, h⟩ | ⟨b, hb, -⟩)
        · cases h
          exact ⟨msg, rfl⟩
        · cases hb

theorem not_panics_bind {x : Guarded ε α} {f : α → Guarded ε β} (hx : ¬ Panics x)
    (hf : ∀ a, x = .ok a → ¬ Panics (f a)) : ¬ Panics (x >>= f) := by
  rw [panics_bind]
  rintro (h | ⟨a, ha, h⟩)
  · exact hx h
  · exact hf a ha h

/-- After a lifted link, only the rest of the chain can panic. -/
theorem panics_lift_bind {x : Except ε α} {f : α → Guarded ε β} :
    Panics (lift x >>= f) ↔ ∃ a, x = .ok a ∧ Panics (f a) := by
  simp only [panics_bind, not_panics_lift, false_or, lift_ok]

@[simp] theorem panics_context {msg : String} {x : Guarded Trace α} :
    Panics (context msg x) ↔ Panics x := by
  rcases x with (e | m) | a
  · simp [context]
  · simp [context]
  · simp [context]

@[simp] theorem context_ok {msg : String} {x : Guarded Trace α} {a : α} :
    context msg x = .ok a ↔ x = .ok a := by
  rcases x with (e | m) | b
  · simp [context]
  · simp [context]
  · simp [context]

/-! ## Lifted chains -/

@[simp] theorem context_lift (msg : String) (x : Except Trace α) :
    context msg (lift x) = lift (Beanie.context msg x) := by
  cases x <;> rfl

/-- A chain whose links are lifted is lifted. -/
theorem lift_bind_congr {x : Except ε α} {f : α → Guarded ε β} {g : α → Except ε β}
    (h : ∀ a, x = .ok a → f a = lift (g a)) : (lift x >>= f) = lift (x >>= g) := by
  cases x with
  | ok a => exact h a rfl
  | error e => rfl

/-! ## Forgetting panics -/

section
variable {text : String → ε}

@[simp] theorem forget_ok (a : α) : forget text (.ok a) = .ok a := rfl

@[simp] theorem forget_err (e : ε) : (forget text (.error (.err e)) : Except ε α) = .error e := rfl

@[simp] theorem forget_panic (msg : String) :
    (forget text (panic msg) : Except ε α) = .error (text msg) := rfl

@[simp] theorem forget_lift (x : Except ε α) : forget text (lift x) = x := by
  cases x <;> rfl

/-- A lifted link is itself once the panics after it are read as errors. -/
theorem forget_lift_bind_congr {x : Except ε α} {f : α → Guarded ε β} {g : α → Except ε β}
    (h : ∀ a, x = .ok a → forget text (f a) = g a) : forget text (lift x >>= f) = (x >>= g) := by
  cases x with
  | ok a => exact h a rfl
  | error e => rfl

theorem forget_bind (x : Guarded ε α) (f : α → Guarded ε β) :
    forget text (x >>= f) = (forget text x >>= fun a => forget text (f a)) := by
  rcases x with (e | msg) | a <;> rfl

end

end Guarded

end Beanie
