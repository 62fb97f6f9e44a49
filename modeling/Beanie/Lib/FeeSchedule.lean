/-
# `Beanie.Lib.FeeSchedule` — splitting a gross amount by basis points

A gross amount is split in two roundings: the fee is a share of the gross
rounded down, and the caller's cut is a share of the fee rounded down.  What
the first rounding drops goes to the beneficiary, what the second drops goes
to the treasury, so nothing is lost:

    net + callerCut + treasuryCut = gross          (`FeeRates.split_sum`)

Rounding down is superadditive (`FeeRates.fee_add_le`), so charging an amount
in pieces never costs more than charging it at once.
-/
import Mathlib

namespace Beanie

/-- The two rates of a schedule over a common denominator; neither exceeds it. -/
structure FeeRates where
  feeBps : Nat
  callerShareBps : Nat
  denom : Nat
  denom_pos : 0 < denom
  feeBps_lt : feeBps < denom
  callerShareBps_le : callerShareBps ≤ denom

namespace FeeRates
variable (r : FeeRates)

/-- The protocol fee of a gross amount, rounded down. -/
def fee (gross : Nat) : Nat := gross * r.feeBps / r.denom

/-- The caller's share of the fee, rounded down. -/
def callerCut (gross : Nat) : Nat := r.fee gross * r.callerShareBps / r.denom

/-- The rest of the fee. -/
def treasuryCut (gross : Nat) : Nat := r.fee gross - r.callerCut gross

/-- What is left for the beneficiary. -/
def net (gross : Nat) : Nat := gross - r.fee gross

theorem fee_le (g : Nat) : r.fee g ≤ g := by
  unfold fee
  apply Nat.div_le_of_le_mul
  rw [Nat.mul_comm]
  exact Nat.mul_le_mul_right g r.feeBps_lt.le

theorem callerCut_le_fee (g : Nat) : r.callerCut g ≤ r.fee g := by
  unfold callerCut
  apply Nat.div_le_of_le_mul
  rw [Nat.mul_comm]
  exact Nat.mul_le_mul_right _ r.callerShareBps_le

/-- The caller's cut is at most its share of the fee, without rounding. -/
theorem callerCut_mul_denom_le (g : Nat) :
    r.callerCut g * r.denom ≤ r.fee g * r.callerShareBps :=
  Nat.div_mul_le_self _ _

@[simp] theorem fee_zero : r.fee 0 = 0 := by simp [fee]

@[simp] theorem net_zero : r.net 0 = 0 := by simp [net]

@[simp] theorem callerCut_zero : r.callerCut 0 = 0 := by simp [callerCut]

@[simp] theorem treasuryCut_zero : r.treasuryCut 0 = 0 := by simp [treasuryCut]

theorem net_add_fee (g : Nat) : r.net g + r.fee g = g :=
  Nat.sub_add_cancel (r.fee_le g)

theorem callerCut_add_treasuryCut (g : Nat) : r.callerCut g + r.treasuryCut g = r.fee g :=
  Nat.add_sub_cancel' (r.callerCut_le_fee g)

/-- The split is exact. -/
theorem split_sum (g : Nat) : r.net g + r.callerCut g + r.treasuryCut g = g := by
  have h₁ := r.net_add_fee g
  have h₂ := r.callerCut_add_treasuryCut g
  omega

/-- A positive gross amount leaves a positive net amount. -/
theorem net_pos {g : Nat} (hg : 0 < g) : 0 < r.net g := by
  have hlt : r.fee g < g := by
    unfold fee
    rw [Nat.div_lt_iff_lt_mul r.denom_pos]
    exact Nat.mul_lt_mul_of_pos_left r.feeBps_lt hg
  exact Nat.sub_pos_of_lt hlt

/-- Two floors never exceed the floor of the sum. -/
theorem fee_add_le (a b : Nat) : r.fee a + r.fee b ≤ r.fee (a + b) := by
  unfold fee
  rw [Nat.add_mul]
  exact Nat.div_add_div_le_add_div

theorem fee_mono {a b : Nat} (h : a ≤ b) : r.fee a ≤ r.fee b :=
  Nat.div_le_div_right (Nat.mul_le_mul_right _ h)

/-- Charging an amount in pieces never costs more than charging it at once. -/
theorem fee_sum_le (gs : List Nat) : (gs.map r.fee).sum ≤ r.fee gs.sum := by
  induction gs with
  | nil => simp
  | cons g gs ih =>
      simp only [List.map_cons, List.sum_cons]
      calc r.fee g + (gs.map r.fee).sum
          ≤ r.fee g + r.fee gs.sum := Nat.add_le_add_left ih _
        _ ≤ r.fee (g + gs.sum) := r.fee_add_le _ _

end FeeRates

end Beanie
