/-
# `Beanie.Lib.Except` — reading a successful computation backwards

A contract entry point is a chain of guards and calls in `Except`.  These
lemmas take a result `.ok` of the chain apart, one link at a time, so that a
spec lemma for an entry point never unfolds what it calls.
-/
import Mathlib

namespace Beanie

/-- Solidity's `require`, Cairo's `assert`, the program's `require!`. -/
def require {ε : Type} (p : Prop) [Decidable p] (e : ε) : Except ε Unit :=
  if p then .ok () else .error e

section
variable {ε α β : Type}

theorem require_ok {p : Prop} {_ : Decidable p} {e : ε} {u : Unit} :
    require p e = .ok u ↔ p := by
  by_cases h : p <;> simp [require, h]

@[simp] theorem require_of {p : Prop} {_ : Decidable p} (e : ε) (h : p) :
    require p e = .ok () := by simp [require, h]

theorem require_of_not {p : Prop} {_ : Decidable p} (e : ε) (h : ¬ p) :
    require p e = .error e := by simp [require, h]

/-- The link rule: a chain that succeeds succeeded at its first link. -/
theorem bind_ok {x : Except ε α} {f : α → Except ε β} {b : β} :
    (x >>= f) = .ok b ↔ ∃ a, x = .ok a ∧ f a = .ok b := by
  cases x with
  | error e => simp [bind, Except.bind]
  | ok a => simp [bind, Except.bind]

/-- The link rule for errors: the first link failed so, or the rest of the chain did. -/
theorem bind_error {x : Except ε α} {f : α → Except ε β} {e : ε} :
    (x >>= f) = .error e ↔ x = .error e ∨ ∃ a, x = .ok a ∧ f a = .error e := by
  cases x with
  | error e => simp [bind, Except.bind]
  | ok a => simp [bind, Except.bind]

/-- A guard that fails fails with its own error. -/
theorem require_error {p : Prop} {_ : Decidable p} {e e' : ε} :
    require p e = .error e' ↔ ¬ p ∧ e = e' := by
  by_cases h : p <;> simp [require, h]

theorem pure_ok {a b : α} : (pure a : Except ε α) = .ok b ↔ a = b := by
  simp [pure, Except.pure]

@[simp] theorem ok_bind (a : α) (f : α → Except ε β) : (Except.ok a >>= f) = f a := rfl

@[simp] theorem error_bind (e : ε) (f : α → Except ε β) :
    (Except.error e >>= f) = .error e := rfl

theorem require_bind_of {p : Prop} {_ : Decidable p} {e : ε} {f : Unit → Except ε β} (h : p) :
    (require p e >>= f) = f () := by
  rw [require_of e h, ok_bind]

/-- The computation returns. -/
def Succeeds (x : Except ε α) : Prop := ∃ a, x = .ok a

@[simp] theorem succeeds_ok (a : α) : Succeeds (.ok a : Except ε α) := ⟨a, rfl⟩

@[simp] theorem not_succeeds_error (e : ε) : ¬ Succeeds (.error e : Except ε α) := nofun

/-- The link rule for success. -/
theorem succeeds_bind {x : Except ε α} {f : α → Except ε β} :
    Succeeds (x >>= f) ↔ ∃ a, x = .ok a ∧ Succeeds (f a) := by
  constructor
  · rintro ⟨b, h⟩
    obtain ⟨a, hx, hf⟩ := bind_ok.mp h
    exact ⟨a, hx, b, hf⟩
  · rintro ⟨a, hx, b, hf⟩
    exact ⟨b, bind_ok.mpr ⟨a, hx, hf⟩⟩

/-- A guard at the head of a chain. -/
theorem succeeds_require_bind {p : Prop} {_ : Decidable p} {e : ε} {f : Unit → Except ε β} :
    Succeeds (require p e >>= f) ↔ p ∧ Succeeds (f ()) := by
  by_cases h : p <;> simp [require, h]

/-- `ok_or_else`: an absent value is an error. -/
def okOr (o : Option α) (e : ε) : Except ε α :=
  match o with
  | some a => .ok a
  | none => .error e

theorem okOr_ok {o : Option α} {e : ε} {a : α} : okOr o e = .ok a ↔ o = some a := by
  cases o <;> simp [okOr]

theorem okOr_error {o : Option α} {e e' : ε} : okOr o e = .error e' ↔ o = none ∧ e = e' := by
  cases o <;> simp [okOr]

@[simp] theorem okOr_some (a : α) (e : ε) : okOr (some a) e = .ok a := rfl

theorem toOption_eq_some {x : Except ε α} {a : α} : x.toOption = some a ↔ x = .ok a := by
  cases x <;> simp [Except.toOption]

/-- `anyhow`'s errors: what was being done, outermost first. -/
abbrev Trace := List String

/-- `.context(msg)` on a result. -/
def context (msg : String) (x : Except Trace α) : Except Trace α :=
  match x with
  | .ok a => .ok a
  | .error e => .error (msg :: e)

@[simp] theorem context_ok {msg : String} {x : Except Trace α} {a : α} :
    context msg x = .ok a ↔ x = .ok a := by
  cases x <;> simp [context]

/-! ## Lists of results -/

/-- A loop over `enumerate` that collects its results and stops at the first error. -/
def collect (f : Nat → α → Except ε β) : Nat → List α → Except ε (List β)
  | _, [] => .ok []
  | i, a :: as => do
      let b ← f i a
      let bs ← collect f (i + 1) as
      .ok (b :: bs)

theorem collect_ok {f : Nat → α → Except ε β} {i : Nat} {as : List α} {bs : List β}
    (h : collect f i as = .ok bs) : List.Forall₂ (fun a b => ∃ i, f i a = .ok b) as bs := by
  induction as generalizing i bs with
  | nil =>
      obtain rfl := Except.ok.inj h
      exact .nil
  | cons a as ih =>
      obtain ⟨b, hb, h⟩ := bind_ok.mp h
      obtain ⟨bs', hbs, h⟩ := bind_ok.mp h
      obtain rfl := Except.ok.inj h
      exact .cons ⟨i, hb⟩ (ih hbs)

theorem forall₂_of_mapM_some {f : α → Option β} {as : List α} {bs : List β}
    (h : as.mapM f = some bs) : List.Forall₂ (fun a b => f a = some b) as bs := by
  induction as generalizing bs with
  | nil =>
      obtain rfl := Option.some.inj h
      exact .nil
  | cons a as ih =>
      simp only [List.mapM_cons, Option.bind_eq_bind, Option.bind_eq_some_iff] at h
      obtain ⟨b, hb, bs', hbs, h⟩ := h
      obtain rfl := Option.some.inj h
      exact .cons hb (ih hbs)

theorem exists_of_forall₂_mem {R : α → β → Prop} {as : List α} {bs : List β}
    (h : List.Forall₂ R as bs) {b : β} (hb : b ∈ bs) : ∃ a ∈ as, R a b := by
  induction h with
  | nil => exact nomatch hb
  | cons hab _ ih =>
      rcases List.mem_cons.mp hb with rfl | hb
      · exact ⟨_, List.mem_cons_self, hab⟩
      · obtain ⟨a, ha, hr⟩ := ih hb
        exact ⟨a, List.mem_cons_of_mem _ ha, hr⟩

end

end Beanie
