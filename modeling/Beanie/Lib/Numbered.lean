/-
# `Beanie.Lib.Numbered` — occurrences told apart by counting

A list may hold what looks the same several times.  Each element is given its
key and the number of elements before it that have the same key, so that the
pairs are distinct.  Two lists without a common key are numbered one after the
other as they are alone.
-/
import Mathlib

namespace Beanie

section
variable {α κ : Type} [DecidableEq κ] (key : α → κ)

/-- The elements' keys, each with its number, where `seen` counts the keys already met. -/
def numbered (seen : κ → Nat) : List α → List (κ × Nat)
  | [] => []
  | a :: as =>
      (key a, seen (key a)) :: numbered (Function.update seen (key a) (seen (key a) + 1)) as

variable {key}

theorem numbered_congr {seen seen' : κ → Nat} {as : List α}
    (h : ∀ a ∈ as, seen (key a) = seen' (key a)) : numbered key seen as = numbered key seen' as := by
  induction as generalizing seen seen' with
  | nil => rfl
  | cons a as ih =>
      rw [numbered, numbered, h a List.mem_cons_self]
      refine congrArg _ (ih fun b hb => ?_)
      by_cases hkey : key b = key a
      · rw [hkey, Function.update_self, Function.update_self]
      · rw [Function.update_of_ne hkey, Function.update_of_ne hkey]
        exact h b (List.mem_cons_of_mem _ hb)

theorem le_of_mem_numbered {seen : κ → Nat} {as : List α} {k : κ} {n : Nat}
    (h : (k, n) ∈ numbered key seen as) : seen k ≤ n ∧ ∃ a ∈ as, key a = k := by
  induction as generalizing seen with
  | nil => cases h
  | cons a as ih =>
      rcases List.mem_cons.mp h with heq | h
      · obtain ⟨rfl, rfl⟩ := Prod.mk.inj heq
        exact ⟨le_refl _, a, List.mem_cons_self, rfl⟩
      · obtain ⟨hle, b, hb, rfl⟩ := ih h
        refine ⟨?_, b, List.mem_cons_of_mem _ hb, rfl⟩
        by_cases hkey : key b = key a
        · rw [hkey, Function.update_self] at hle
          rw [hkey]
          omega
        · rwa [Function.update_of_ne hkey] at hle

/-- **No pair occurs twice.** -/
theorem numbered_nodup (seen : κ → Nat) (as : List α) : (numbered key seen as).Nodup := by
  induction as generalizing seen with
  | nil => exact List.nodup_nil
  | cons a as ih =>
      refine List.nodup_cons.mpr ⟨fun h => ?_, ih _⟩
      have hle := (le_of_mem_numbered h).1
      rw [Function.update_self] at hle
      omega

/-- **Lists without a common key are numbered apart.** -/
theorem numbered_append {seen : κ → Nat} {as bs : List α}
    (h : ∀ a ∈ as, ∀ b ∈ bs, key a ≠ key b) :
    numbered key seen (as ++ bs) = numbered key seen as ++ numbered key seen bs := by
  induction as generalizing seen with
  | nil => rfl
  | cons a as ih =>
      rw [List.cons_append, numbered, numbered, List.cons_append,
        ih fun a' ha' => h a' (List.mem_cons_of_mem _ ha')]
      refine congrArg _ (congrArg _ (numbered_congr fun b hb => ?_))
      rw [Function.update_of_ne (h a List.mem_cons_self b hb).symm]

theorem length_numbered (seen : κ → Nat) (as : List α) :
    (numbered key seen as).length = as.length := by
  induction as generalizing seen with
  | nil => rfl
  | cons a as ih => rw [numbered, List.length_cons, ih, List.length_cons]

end

end Beanie
