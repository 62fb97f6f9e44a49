/-
# `Beanie.Lib.ExpiringMap` — maps that are pruned by the clock

A map from keys to what they hold.  Pruning reads the clock at every entry and
keeps the entries that satisfy a predicate of the reading; the readings of one
pass lie between the clock before it and the clock after it.

    shrinks_retain         pruning adds nothing
    retain_eq_some         an entry is kept, if its reading satisfies the predicate
-/
import Mathlib

namespace Beanie

/-- `Duration::from_secs`, in nanoseconds. -/
def secs (n : Nat) : Nat := n * 1000000000

section
variable {κ υ : Type}

/-- The readings of a pass. -/
def Scans (r now : Nat) (scan : κ → Nat) : Prop := ∀ key, r ≤ scan key ∧ scan key ≤ now

theorem scans_const {r now : Nat} (h : r ≤ now) : Scans r now fun _ : κ => now :=
  fun _ => ⟨h, Nat.le_refl now⟩

/-- `HashMap::retain`, with the clock's reading at each key. -/
def retain (p : Nat → υ → Bool) (scan : κ → Nat) (m : κ → Option υ) : κ → Option υ :=
  fun key => (m key).filter (p (scan key))

theorem retain_eq_some {p : Nat → υ → Bool} {scan : κ → Nat} {m : κ → Option υ} {key : κ} {v : υ} :
    retain p scan m key = some v ↔ m key = some v ∧ p (scan key) v = true :=
  Option.filter_eq_some_iff

theorem retain_eq_none {p : Nat → υ → Bool} {scan : κ → Nat} {m : κ → Option υ} {key : κ}
    (h : m key = none) : retain p scan m key = none := by
  rw [retain, h, Option.filter_none]

/-- What is left is what was there. -/
def Shrinks (m' m : κ → Option υ) : Prop := ∀ key v, m' key = some v → m key = some v

theorem Shrinks.refl (m : κ → Option υ) : Shrinks m m := fun _ _ h => h

theorem shrinks_retain (p : Nat → υ → Bool) (scan : κ → Nat) (m : κ → Option υ) :
    Shrinks (retain p scan m) m :=
  fun _ _ h => (retain_eq_some.mp h).1

variable [DecidableEq κ]

theorem shrinks_remove {m' m : κ → Option υ} (h : Shrinks m' m) (token : κ) :
    Shrinks (Function.update m' token none) m := by
  intro key v hv
  by_cases hkey : key = token
  · rw [hkey, Function.update_self] at hv
    cases hv
  · rw [Function.update_of_ne hkey] at hv
    exact h key v hv

/-- A map that shrank and was written at one key, elsewhere. -/
theorem shrinks_of_update {m' m : κ → Option υ} (h : Shrinks m' m) {token : κ} {x : Option υ}
    {key : κ} {v : υ} (hkey : key ≠ token) (hv : Function.update m' token x key = some v) :
    m key = some v := by
  rw [Function.update_of_ne hkey] at hv
  exact h key v hv

end

end Beanie
