/-
# `Beanie.Lib.Custody` — an account that pays itself out by a fee schedule

The abstract machine behind every receiver: deposits accumulate, and a sweep
empties the account, splitting what it held by a fee schedule.  `Custody` is
the account with its books; the books are kept by the machine, so the law

    received = settled + toTreasury + toCallers + held
    swept + held = received
    fees ≤ the fee of `swept` charged at once

is an invariant of its steps (`Custody.Step.balanced`).  A concrete receiver
is related to this machine by showing that each of its transactions, observed
through the token's balances, is a step of it.
-/
import Beanie.Lib.FeeSchedule
import Mathlib

namespace Beanie

/-- The account and its running totals. -/
structure Custody where
  held : Nat
  received : Nat
  /-- paid to the beneficiary -/
  settled : Nat
  toTreasury : Nat
  toCallers : Nat
  /-- the fees charged so far -/
  fees : Nat
  /-- the gross amounts swept so far -/
  swept : Nat
deriving DecidableEq

namespace Custody

/-- An account opened with what it already holds. -/
def opened (n : Nat) : Custody := ⟨n, n, 0, 0, 0, 0, 0⟩

/-- Deposit `n`. -/
def receive (c : Custody) (n : Nat) : Custody :=
  { c with held := c.held + n, received := c.received + n }

/-- Pay out everything held. -/
def sweep (r : FeeRates) (c : Custody) : Custody :=
  { held := 0
    received := c.received
    settled := c.settled + r.net c.held
    toTreasury := c.toTreasury + r.treasuryCut c.held
    toCallers := c.toCallers + r.callerCut c.held
    fees := c.fees + r.fee c.held
    swept := c.swept + c.held }

inductive Step (r : FeeRates) : Custody → Custody → Prop
  | idle (c : Custody) : Step r c c
  | receive (c : Custody) (n : Nat) : Step r c (c.receive n)
  | sweep (c : Custody) : Step r c (c.sweep r)

/-- The books balance. -/
structure Balanced (r : FeeRates) (c : Custody) : Prop where
  conserved : c.received = c.settled + c.toTreasury + c.toCallers + c.held
  accounted : c.swept + c.held = c.received
  feeBound : c.fees ≤ r.fee c.swept

theorem balanced_opened (r : FeeRates) (n : Nat) : Balanced r (opened n) where
  conserved := by simp [opened]
  accounted := by simp [opened]
  feeBound := by simp [opened]

theorem Step.balanced {r : FeeRates} {c c' : Custody} (h : Step r c c') (hb : Balanced r c) :
    Balanced r c' := by
  cases h with
  | idle => exact hb
  | receive n =>
      obtain ⟨h₁, h₂, h₃⟩ := hb
      refine ⟨?_, ?_, h₃⟩
      · show c.received + n = c.settled + c.toTreasury + c.toCallers + (c.held + n)
        omega
      · show c.swept + (c.held + n) = c.received + n
        omega
  | sweep =>
      obtain ⟨h₁, h₂, h₃⟩ := hb
      have hsplit := r.split_sum c.held
      refine ⟨?_, ?_, ?_⟩
      · show c.received = (c.settled + r.net c.held) + (c.toTreasury + r.treasuryCut c.held)
          + (c.toCallers + r.callerCut c.held) + 0
        omega
      · show c.swept + c.held + 0 = c.received
        omega
      · show c.fees + r.fee c.held ≤ r.fee (c.swept + c.held)
        exact (Nat.add_le_add_right h₃ _).trans (r.fee_add_le _ _)

/-- The books balance along every run of the machine. -/
theorem Balanced.run {r : FeeRates} {c c' : Custody} (hb : Balanced r c)
    (h : Relation.ReflTransGen (Step r) c c') : Balanced r c' := by
  induction h with
  | refl => exact hb
  | tail _ hs ih => exact hs.balanced ih

/-- The fee charged so far never exceeds the fee of everything received, charged at once. -/
theorem Balanced.fees_le {r : FeeRates} {c : Custody} (h : Balanced r c) :
    c.fees ≤ r.fee c.received :=
  h.feeBound.trans (r.fee_mono (h.accounted ▸ Nat.le_add_right _ _))

end Custody

end Beanie
