/-
# `Beanie.Lib.Run` — labelled runs and the two rules used on them

A system is a labelled step relation.  A run keeps every transition it took,
so a property of "each step of the run" and a property of "the state reached"
are both statements about one object.

    Steps step s tr s'      the run from `s` to `s'`, with its transitions `tr`
    Steps.invariant         what one step preserves, a run preserves
    Steps.invariant_iff     what holds after a step iff the step is of a kind, over a run
    Steps.history_invariant the same for what is known of a state and the run that led to it
    Steps.mem_split         a transition of a run splits the run at that point
    Steps.simulation        what is observed of each step is a step of an abstract machine
-/
import Mathlib

namespace Beanie

/-- One transition: the state before, the label, the state after. -/
structure Transition (σ α : Type) where
  pre : σ
  act : α
  post : σ

/-- Runs of a labelled step relation, with the transitions taken. -/
inductive Steps {σ α : Type} (step : σ → α → σ → Prop) :
    σ → List (Transition σ α) → σ → Prop
  | refl (s : σ) : Steps step s [] s
  | step {s s' s'' : σ} {a : α} {tr : List (Transition σ α)} :
      step s a s' → Steps step s' tr s'' → Steps step s (⟨s, a, s'⟩ :: tr) s''

section
variable {σ α : Type} {step : σ → α → σ → Prop}

/-- The invariant rule.  `P` is what the run's transitions are known to satisfy;
`I` holds at the start and survives every step that satisfies `P`. -/
theorem Steps.invariant {I : σ → Prop} {P : Transition σ α → Prop} {s s' : σ}
    {tr : List (Transition σ α)} (h : Steps step s tr s')
    (hstep : ∀ s a s', step s a s' → P ⟨s, a, s'⟩ → I s → I s')
    (hP : ∀ t ∈ tr, P t) (hI : I s) : I s' := by
  induction h with
  | refl s => exact hI
  | step hs _ ih =>
      have hhead := hP _ List.mem_cons_self
      exact ih (fun t ht => hP t (List.mem_cons_of_mem _ ht)) (hstep _ _ _ hs hhead hI)

/-- Every transition of a run is a step, taken from a state the run reaches. -/
theorem Steps.mem_split {s s' : σ} {tr : List (Transition σ α)} (h : Steps step s tr s')
    {t : Transition σ α} (ht : t ∈ tr) :
    step t.pre t.act t.post ∧
      ∃ l r, tr = l ++ t :: r ∧ Steps step s l t.pre ∧ Steps step t.post r s' := by
  induction h with
  | refl s => exact absurd ht List.not_mem_nil
  | @step s₁ s₂ s₃ a tr hs hrest ih =>
      rcases List.mem_cons.mp ht with rfl | hmem
      · exact ⟨hs, [], tr, rfl, .refl _, hrest⟩
      · obtain ⟨hstep, l, r, rfl, hl, hr⟩ := ih hmem
        exact ⟨hstep, ⟨s₁, a, s₂⟩ :: l, r, rfl, .step hs hl, hr⟩

theorem Steps.append {s s' s'' : σ} {tr tr' : List (Transition σ α)}
    (h : Steps step s tr s') (h' : Steps step s' tr' s'') :
    Steps step s (tr ++ tr') s'' := by
  induction h with
  | refl _ => exact h'
  | step hs _ ih => exact .step hs (ih h')

/-- The invariant rule, read at each transition: `I` holds before every step of the run. -/
theorem Steps.invariant_pre {I : σ → Prop} {P : Transition σ α → Prop} {s s' : σ}
    {tr : List (Transition σ α)} (h : Steps step s tr s')
    (hstep : ∀ s a s', step s a s' → P ⟨s, a, s'⟩ → I s → I s')
    (hP : ∀ t ∈ tr, P t) (hI : I s) : ∀ t ∈ tr, I t.pre := by
  intro t ht
  obtain ⟨-, l, r, rfl, hl, -⟩ := h.mem_split ht
  exact hl.invariant hstep (fun u hu => hP u (List.mem_append_left _ hu)) hI

/-- The invariant rule with an exact condition: where a step keeps `I` iff it satisfies `P`, a run
keeps it iff all of its steps do.  `J` is kept by every step. -/
theorem Steps.invariant_iff {I J : σ → Prop} {P : Transition σ α → Prop} {s s' : σ}
    {tr : List (Transition σ α)} (h : Steps step s tr s')
    (hkept : ∀ s a s', step s a s' → J s → J s')
    (hstep : ∀ s a s', step s a s' → J s → I s → (I s' ↔ P ⟨s, a, s'⟩)) (hJ : J s) (hI : I s) :
    (∀ t ∈ tr, I t.post) ↔ ∀ t ∈ tr, P t := by
  induction h with
  | refl s =>
      exact ⟨fun _ _ ht => absurd ht List.not_mem_nil, fun _ _ ht => absurd ht List.not_mem_nil⟩
  | step hs _ ih =>
      have hhead := hstep _ _ _ hs hJ hI
      have hJ' := hkept _ _ _ hs hJ
      rw [List.forall_mem_cons, List.forall_mem_cons]
      constructor
      · rintro ⟨hpost, hrest⟩
        exact ⟨hhead.mp hpost, (ih hJ' hpost).mp hrest⟩
      · rintro ⟨hP, hrest⟩
        have hpost := hhead.mpr hP
        exact ⟨hpost, (ih hJ' hpost).mpr hrest⟩

/-- A run cut at any point is two runs. -/
theorem Steps.split {s s' : σ} {l r : List (Transition σ α)} (h : Steps step s (l ++ r) s') :
    ∃ m, Steps step s l m ∧ Steps step m r s' := by
  induction l generalizing s with
  | nil => exact ⟨s, .refl s, h⟩
  | cons t l ih =>
      cases h with
      | step hs hrest =>
          obtain ⟨m, hl, hr⟩ := ih hrest
          exact ⟨m, .step hs hl, hr⟩

/-- A run cut at one of its transitions. -/
theorem Steps.cut {s s' : σ} {l r : List (Transition σ α)} {t : Transition σ α}
    (h : Steps step s (l ++ t :: r) s') :
    Steps step s l t.pre ∧ step t.pre t.act t.post ∧ Steps step t.post r s' := by
  obtain ⟨m, hl, hr⟩ := h.split
  cases hr with
  | step hs hrest => exact ⟨hl, hs, hrest⟩

/-- The invariant rule over the history: `I` relates the state to the run that led to it. -/
theorem Steps.history_invariant {s₀ : σ} {I : List (Transition σ α) → σ → Prop}
    {P : Transition σ α → Prop}
    (hstep : ∀ l s a s', Steps step s₀ l s → step s a s' → P ⟨s, a, s'⟩ → I l s →
      I (l ++ [⟨s, a, s'⟩]) s')
    {s : σ} {tr : List (Transition σ α)} (h : Steps step s₀ tr s) (hP : ∀ t ∈ tr, P t)
    (h₀ : I [] s₀) : I tr s := by
  induction tr using List.reverseRecOn generalizing s with
  | nil =>
      cases h with
      | refl => exact h₀
  | append_singleton l t ih =>
      obtain ⟨m, hl, hlast⟩ := h.split
      cases hlast with
      | step hs hnil =>
          cases hnil with
          | refl =>
              have hI := ih hl (fun u hu => hP u (List.mem_append_left _ hu))
              exact hstep l m _ _ hl hs (hP _ (List.mem_append_right _ List.mem_cons_self)) hI

/-- The same where an assumption is about the whole history, and so about every earlier one. -/
theorem Steps.history_invariant_of {s₀ : σ} {I : List (Transition σ α) → σ → Prop}
    {Q : List (Transition σ α) → Prop} (hQ : ∀ l t, Q (l ++ [t]) → Q l)
    (hstep : ∀ l s a s', Steps step s₀ l s → step s a s' → Q (l ++ [⟨s, a, s'⟩]) → I l s →
      I (l ++ [⟨s, a, s'⟩]) s')
    {s : σ} {tr : List (Transition σ α)} (h : Steps step s₀ tr s) (hq : Q tr)
    (h₀ : I [] s₀) : I tr s := by
  induction tr using List.reverseRecOn generalizing s with
  | nil =>
      cases h with
      | refl => exact h₀
  | append_singleton l t ih =>
      obtain ⟨m, hl, hlast⟩ := h.split
      cases hlast with
      | step hs hnil =>
          cases hnil with
          | refl => exact hstep l m _ _ hl hs hq (ih hl (hQ l _ hq))

/-- The rule for observed state: `observe` reads each transition into books `t`, and `R` relates
the system's state to the books. -/
theorem Steps.fold_invariant {τ : Type} {observe : τ → Transition σ α → τ} {R : σ → τ → Prop}
    {P : Transition σ α → Prop}
    (hstep : ∀ s a s' t, step s a s' → P ⟨s, a, s'⟩ → R s t → R s' (observe t ⟨s, a, s'⟩))
    {s s' : σ} {tr : List (Transition σ α)} (h : Steps step s tr s') (hP : ∀ t ∈ tr, P t)
    {t : τ} (hR : R s t) : R s' (tr.foldl observe t) := by
  induction h generalizing t with
  | refl s => exact hR
  | step hs _ ih =>
      have hR' := hstep _ _ _ t hs (hP _ List.mem_cons_self) hR
      exact ih (fun u hu => hP u (List.mem_cons_of_mem _ hu)) hR'

/-- The simulation rule: where every step, so observed, is a step of an abstract machine and keeps
`R`, a whole run is a run of the machine and ends in related states. -/
theorem Steps.simulation {τ : Type} {abs : τ → τ → Prop} {observe : τ → Transition σ α → τ}
    {R : σ → τ → Prop} {P : Transition σ α → Prop}
    (hstep : ∀ s a s' t, step s a s' → P ⟨s, a, s'⟩ → R s t →
      abs t (observe t ⟨s, a, s'⟩) ∧ R s' (observe t ⟨s, a, s'⟩))
    {s s' : σ} {tr : List (Transition σ α)} (h : Steps step s tr s') (hP : ∀ t ∈ tr, P t)
    {t : τ} (hR : R s t) :
    Relation.ReflTransGen abs t (tr.foldl observe t) ∧ R s' (tr.foldl observe t) :=
  h.fold_invariant (R := fun s u => Relation.ReflTransGen abs t u ∧ R s u) (P := P)
    (fun s a s' u hs hp hu =>
      have hnext := hstep s a s' u hs hp hu.2
      ⟨hu.1.tail hnext.1, hnext.2⟩)
    hP ⟨.refl, hR⟩

end

end Beanie
