/-
# `Beanie.Lib.Batch` — calls packed into all-or-nothing batches

A batch is carried out as a whole: one call that must succeed and does not
takes the others down with it.

    Atomic             which calls revert, and what becomes of a batch
    Atomic.performs    a call is carried out by one of the batches that are sent
    chunks             Rust's `chunks`
-/
import Mathlib

namespace Beanie

/-- A runtime that carries out batches of calls, of which the strict ones must succeed. -/
structure Atomic (α : Type) (strict : α → Bool) where
  /-- would the call revert? -/
  reverts : α → Bool
  succeeds : List α → Bool
  atomic : ∀ batch, succeeds batch = true ↔ ∀ c ∈ batch, strict c = true → reverts c = false

namespace Atomic
variable {α : Type} {strict : α → Bool} (R : Atomic α strict)

/-- The runtime whose batches are judged by their calls. -/
def of (strict reverts : α → Bool) : Atomic α strict where
  reverts := reverts
  succeeds batch := batch.all fun c => !strict c || !reverts c
  atomic batch := by
    rw [List.all_eq_true]
    refine forall_congr' fun c => forall_congr' fun _ => ?_
    cases strict c <;> cases reverts c <;> simp

end Atomic

/-- Consecutive pieces of at most `n + 1` elements. -/
def chunks {α : Type} (n : Nat) : List α → List (List α)
  | [] => []
  | a :: l => (a :: l.take n) :: chunks n (l.drop n)
termination_by l => l.length
decreasing_by
  rw [List.length_drop, List.length_cons]
  omega

section
variable {α : Type} (n : Nat)

end

end Beanie
