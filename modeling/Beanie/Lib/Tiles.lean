/-
# `Beanie.Lib.Tiles` — a range laid out in pieces

A piece is a first and a last number.  Pieces tile a range if each starts where
the one before it ends and none is longer than the width; then they are in order,
disjoint, and hold just the numbers of the range.

    Tiles.covers       what lies in a piece
    Tiles.ordered      the pieces are disjoint, and in order
    Tiles.contiguous   with no gap
-/
import Mathlib.Data.List.Chain

namespace Beanie

/-- The pieces of the numbers from `start` up to, and without, `stop`. -/
inductive Tiles (width : Nat) : Nat → Nat → List (Nat × Nat) → Prop
  | nil (n : Nat) : Tiles width n n []
  | cons {s e stop : Nat} {cs : List (Nat × Nat)} :
      s ≤ e → e < s + width → Tiles width (e + 1) stop cs → Tiles width s stop ((s, e) :: cs)

namespace Tiles

variable {width start stop : Nat} {cs : List (Nat × Nat)}

theorem le (h : Tiles width start stop cs) : start ≤ stop := by
  induction h with
  | nil => exact Nat.le_refl _
  | cons hle _ _ ih => omega

/-- A piece lies in the range, and is not too long. -/
theorem bounds (h : Tiles width start stop cs) {c : Nat × Nat} (hc : c ∈ cs) :
    start ≤ c.1 ∧ c.1 ≤ c.2 ∧ c.2 < c.1 + width ∧ c.2 < stop := by
  induction h with
  | nil => exact absurd hc List.not_mem_nil
  | cons hle hlt htail ih =>
      rcases List.mem_cons.mp hc with rfl | hc
      · exact ⟨Nat.le_refl _, hle, hlt, htail.le⟩
      · obtain ⟨hstart, hrest⟩ := ih hc
        exact ⟨by omega, hrest⟩

theorem covers (h : Tiles width start stop cs) (n : Nat) :
    (∃ c ∈ cs, c.1 ≤ n ∧ n ≤ c.2) ↔ start ≤ n ∧ n < stop := by
  constructor
  · rintro ⟨c, hc, hfirst, hlast⟩
    obtain ⟨hstart, -, -, hstop⟩ := h.bounds hc
    omega
  · induction h with
    | nil =>
        intro hn
        omega
    | @cons s e stop cs hle hlt htail ih =>
        rintro ⟨hstart, hstop⟩
        by_cases hin : n ≤ e
        · exact ⟨(s, e), List.mem_cons_self, hstart, hin⟩
        · obtain ⟨c, hc, hcovers⟩ := ih ⟨by omega, hstop⟩
          exact ⟨c, List.mem_cons_of_mem _ hc, hcovers⟩

theorem ordered (h : Tiles width start stop cs) : cs.Pairwise fun c d => c.2 < d.1 := by
  induction h with
  | nil => exact .nil
  | cons hle hlt htail ih =>
      refine List.pairwise_cons.mpr ⟨?_, ih⟩
      intro d hd
      have hstart := (htail.bounds hd).1
      exact hstart

theorem contiguous (h : Tiles width start stop cs) : cs.IsChain fun c d => d.1 = c.2 + 1 := by
  induction h with
  | nil => exact .nil
  | cons hle hlt htail ih =>
      cases htail with
      | nil => exact .singleton _
      | cons hle' hlt' htail' => exact .cons_cons rfl ih

/-- Where a piece before the first number is asked for, there is none. -/
theorem eq_nil (h : Tiles width start start cs) : cs = [] := by
  cases h with
  | nil => rfl
  | cons hle hlt htail =>
      have hbound := htail.le
      omega

end Tiles

end Beanie
