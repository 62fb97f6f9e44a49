/-
# `Beanie.Lib.FixedWindow` — counting in fixed windows

A counter takes hits.  The first hit that comes more than `width` after a
window began opens the next window, and a window takes no more than `limit`.
The log of the hits taken says of each one when its window began.

    Counted.again, Counted.hit     what a counter may do
    Windowed.interval              an interval of one width takes at most two windows' hits
-/
import Mathlib

namespace Beanie

/-- A hit, and when its window began. -/
structure Hit where
  start : Nat
  time : Nat
deriving DecidableEq

/-- Each hit lies in its window, windows are apart, and none takes more than `limit`. -/
structure Windowed (width limit : Nat) (log : List Hit) : Prop where
  inside : ∀ h ∈ log, h.start ≤ h.time ∧ h.time ≤ h.start + width
  apart : ∀ h ∈ log, ∀ k ∈ log,
    h.start = k.start ∨ h.start + width < k.start ∨ k.start + width < h.start
  window : ∀ start, log.countP (·.start = start) ≤ limit

/-- The log of a counter whose last window began at `start` and took `hits`. -/
structure Counted (width limit start hits : Nat) (log : List Hit) : Prop
    extends Windowed width limit log where
  count : log.countP (·.start = start) = hits
  latest : ∀ h ∈ log, h.start = start ∨ h.start + width < start

section
variable {width limit start hits now : Nat} {log : List Hit}

theorem Windowed.nil : Windowed width limit [] where
  inside _ h := absurd h List.not_mem_nil
  apart _ h := absurd h List.not_mem_nil
  window _ := Nat.zero_le _

theorem Counted.fresh : Counted width limit now 0 [] where
  toWindowed := .nil
  count := rfl
  latest _ h := absurd h List.not_mem_nil

/-- The window is over: the next one begins. -/
theorem Counted.again (h : Counted width limit start hits log) (hover : start + width < now) :
    Counted width limit now 0 log where
  toWindowed := h.toWindowed
  count := by
    rw [List.countP_eq_zero]
    intro k hk
    have hlast := h.latest k hk
    simp only [decide_eq_true_eq]
    omega
  latest k hk := by
    have hlast := h.latest k hk
    omega

/-- The window is open and has room. -/
theorem Counted.hit (h : Counted width limit start hits log) (hstart : start ≤ now)
    (hopen : now ≤ start + width) (hroom : hits < limit) :
    Counted width limit start (hits + 1) (log ++ [⟨start, now⟩]) where
  inside := by
    intro k hk
    rcases List.mem_append.mp hk with hold | hnew
    · exact h.inside k hold
    · rw [List.mem_singleton.mp hnew]
      exact ⟨hstart, hopen⟩
  apart := by
    intro k hk m hm
    rcases List.mem_append.mp hk with hk | hk <;> rcases List.mem_append.mp hm with hm | hm
    · exact h.apart k hk m hm
    · rw [List.mem_singleton.mp hm]
      have hlast := h.latest k hk
      dsimp only
      omega
    · rw [List.mem_singleton.mp hk]
      have hlast := h.latest m hm
      dsimp only
      omega
    · rw [List.mem_singleton.mp hk, List.mem_singleton.mp hm]
      exact .inl rfl
  window := by
    intro s
    have hs := h.window s
    rw [List.countP_append, List.countP_singleton]
    by_cases heq : start = s
    · have hcount := h.count
      subst heq
      simp only [decide_true, if_true]
      omega
    · simp only [heq, decide_false, Bool.false_eq_true, if_false]
      omega
  count := by
    rw [List.countP_append, List.countP_singleton, h.count]
    simp
  latest := by
    intro k hk
    rcases List.mem_append.mp hk with hold | hnew
    · exact h.latest k hold
    · rw [List.mem_singleton.mp hnew]
      exact .inl rfl

theorem countP_or_le {α : Type} (p q : α → Bool) (l : List α) :
    l.countP (fun a => p a || q a) ≤ l.countP p + l.countP q := by
  induction l with
  | nil => exact Nat.zero_le _
  | cons a l ih =>
      rw [List.countP_cons, List.countP_cons, List.countP_cons]
      cases p a <;> cases q a <;> simp <;> omega

/-- The hits of an interval of one width lie in two windows: a third would begin after it. -/
theorem Windowed.two_starts (h : Windowed width limit log) (t : Nat) :
    ∃ a b, ∀ k ∈ log, t ≤ k.time ∧ k.time ≤ t + width → k.start = a ∨ k.start = b := by
  by_cases hsome : ∃ k ∈ log, t ≤ k.time ∧ k.time ≤ t + width
  · obtain ⟨k, hk, htk⟩ := hsome
    by_cases hother : ∃ m ∈ log, (t ≤ m.time ∧ m.time ≤ t + width) ∧ m.start ≠ k.start
    · obtain ⟨m, hm, htm, hne⟩ := hother
      refine ⟨k.start, m.start, ?_⟩
      intro n hn htn
      have hk₁ := h.inside k hk
      have hm₁ := h.inside m hm
      have hn₁ := h.inside n hn
      have hkm := h.apart k hk m hm
      have hkn := h.apart k hk n hn
      have hmn := h.apart m hm n hn
      omega
    · refine ⟨k.start, k.start, ?_⟩
      intro n hn htn
      by_contra hne
      exact hother ⟨n, hn, htn, fun heq => hne (.inl heq)⟩
  · refine ⟨0, 0, ?_⟩
    intro k hk htk
    exact absurd ⟨k, hk, htk⟩ hsome

theorem Windowed.interval (h : Windowed width limit log) (t : Nat) :
    log.countP (fun k => t ≤ k.time ∧ k.time ≤ t + width) ≤ 2 * limit := by
  obtain ⟨a, b, hab⟩ := h.two_starts t
  calc log.countP (fun k => t ≤ k.time ∧ k.time ≤ t + width)
      ≤ log.countP (fun k => decide (k.start = a) || decide (k.start = b)) := by
        refine List.countP_mono_left ?_
        intro k hk htk
        have hstart := hab k hk (of_decide_eq_true htk)
        simpa using hstart
    _ ≤ log.countP (·.start = a) + log.countP (·.start = b) := countP_or_le _ _ _
    _ ≤ 2 * limit := by
        have ha := h.window a
        have hb := h.window b
        omega

end

end Beanie
