/-
# `Beanie.Lib.Ledger` — balances as a function of the holder

Three operations and what each does at every holder.  A transfer is a debit
followed by a credit, in that order, so that a transfer to oneself is the
identity when it is covered.
-/
import Mathlib

namespace Beanie

/-- Balances by holder. -/
abbrev Ledger (A : Type) := A → Nat

namespace Ledger
variable {A : Type} [DecidableEq A]

def credit (l : Ledger A) (a : A) (n : Nat) : Ledger A := Function.update l a (l a + n)

def debit (l : Ledger A) (a : A) (n : Nat) : Ledger A := Function.update l a (l a - n)

/-- `n` moves from `src` to `dst`. -/
def move (l : Ledger A) (src dst : A) (n : Nat) : Ledger A := (l.debit src n).credit dst n

@[simp] theorem credit_self (l : Ledger A) (a : A) (n : Nat) : l.credit a n a = l a + n := by
  simp [credit]

theorem credit_other (l : Ledger A) {a b : A} (n : Nat) (h : b ≠ a) : l.credit a n b = l b := by
  simp [credit, h]

@[simp] theorem debit_self (l : Ledger A) (a : A) (n : Nat) : l.debit a n a = l a - n := by
  simp [debit]

theorem debit_other (l : Ledger A) {a b : A} (n : Nat) (h : b ≠ a) : l.debit a n b = l b := by
  simp [debit, h]

theorem move_src (l : Ledger A) {src dst : A} (n : Nat) (h : src ≠ dst) :
    l.move src dst n src = l src - n := by
  rw [move, credit_other _ _ h, debit_self]

theorem move_dst (l : Ledger A) {src dst : A} (n : Nat) (h : src ≠ dst) :
    l.move src dst n dst = l dst + n := by
  rw [move, credit_self, debit_other _ _ h.symm]

/-- A transfer touches nobody else. -/
theorem move_other (l : Ledger A) {src dst a : A} (n : Nat) (hs : a ≠ src) (hd : a ≠ dst) :
    l.move src dst n a = l a := by
  rw [move, credit_other _ _ hd, debit_other _ _ hs]

/-- A covered transfer to oneself changes nothing. -/
theorem move_self (l : Ledger A) {a : A} {n : Nat} (h : n ≤ l a) : l.move a a n = l := by
  simp [move, credit, debit, Nat.sub_add_cancel h]

/-- A transfer takes no more than its amount off the sender, whoever receives it. -/
theorem le_move_src (l : Ledger A) (src dst : A) (n : Nat) : l src - n ≤ l.move src dst n src := by
  by_cases h : src = dst
  · subst h
    rw [move, credit_self, debit_self]
    exact Nat.le_add_right _ _
  · rw [move_src _ _ h]

/-- A move takes nothing from an account it does not come from. -/
theorem le_move_of_ne (l : Ledger A) {src a : A} (dst : A) (n : Nat) (h : a ≠ src) :
    l a ≤ l.move src dst n a := by
  by_cases hd : a = dst
  · subst hd
    rw [move_dst _ _ h.symm]
    exact Nat.le_add_right _ _
  · rw [move_other _ _ h hd]

@[simp] theorem move_zero (l : Ledger A) (src dst : A) : l.move src dst 0 = l := by
  simp [move, credit, debit]

end Ledger

end Beanie
