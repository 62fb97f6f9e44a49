/-
# `Beanie.Lib.Journal` — computations that keep a journal and may stop

A worker does things as it goes along, and what it has done stays done when it
stops.  It stops for one of two reasons: it gives the task up, and goes on with
the next one, or it panics, and there is no next one.

    panics_bind        a chain panics at its first link or after it
    survives_iff       a loop gets through its queue iff no task of it panics
    loop_log           and has then done everything its tasks do
-/
import Mathlib

namespace Beanie

inductive Stop
  | skip
  | panic
deriving DecidableEq

/-- What was done, in order, and how it ended. -/
structure Journal (ω α : Type) where
  log : List ω
  result : Except Stop α

namespace Journal
variable {ω α β τ : Type}

instance : Monad (Journal ω) where
  pure a := ⟨[], .ok a⟩
  bind x f :=
    match x.result with
    | .ok a => ⟨x.log ++ (f a).log, (f a).result⟩
    | .error e => ⟨x.log, .error e⟩

def tell (w : ω) : Journal ω Unit := ⟨[w], .ok ()⟩

/-- Rust's `continue`, after a warning. -/
def skip : Journal ω α := ⟨[], .error .skip⟩

def panic : Journal ω α := ⟨[], .error .panic⟩

/-- `Option::unwrap`, `Result::unwrap` and `expect`. -/
def unwrap : Option α → Journal ω α
  | some a => pure a
  | none => panic

/-- `let Some(a) = x else { warn!(..); continue }`. -/
def orSkip : Option α → Journal ω α
  | some a => pure a
  | none => skip

/-- Each element unwrapped, in turn. -/
def unwrapAll (f : α → Option β) : List α → Journal ω (List β)
  | [] => pure []
  | a :: as => do
      let b ← unwrap (f a)
      let bs ← unwrapAll f as
      pure (b :: bs)

def Panics (x : Journal ω α) : Prop := x.result = .error .panic

instance (x : Journal ω α) : Decidable x.Panics :=
  match h : x.result with
  | .ok _ => isFalse (fun hp => nomatch h.symm.trans hp)
  | .error .skip => isFalse (fun hp => nomatch h.symm.trans hp)
  | .error .panic => isTrue h

@[simp] theorem result_pure (a : α) : (pure a : Journal ω α).result = .ok a := rfl
@[simp] theorem log_pure (a : α) : (pure a : Journal ω α).log = [] := rfl
@[simp] theorem result_tell (w : ω) : (tell w).result = .ok () := rfl
@[simp] theorem log_tell (w : ω) : (tell w).log = [w] := rfl
@[simp] theorem not_panics_pure (a : α) : ¬ (pure a : Journal ω α).Panics := nofun
@[simp] theorem not_panics_tell (w : ω) : ¬ (tell w).Panics := nofun
@[simp] theorem not_panics_skip : ¬ (skip : Journal ω α).Panics := nofun

@[simp] theorem panics_unwrap {o : Option α} : (unwrap o : Journal ω α).Panics ↔ o = none := by
  cases o with
  | none => exact iff_of_true rfl rfl
  | some a => exact iff_of_false nofun nofun

@[simp] theorem not_panics_orSkip (o : Option α) : ¬ (orSkip o : Journal ω α).Panics := by
  cases o <;> exact nofun

@[simp] theorem result_unwrap {o : Option α} {a : α} :
    (unwrap o : Journal ω α).result = .ok a ↔ o = some a := by
  cases o with
  | none => exact iff_of_false nofun nofun
  | some b => simp [unwrap]

@[simp] theorem result_orSkip {o : Option α} {a : α} :
    (orSkip o : Journal ω α).result = .ok a ↔ o = some a := by
  cases o with
  | none => exact iff_of_false nofun nofun
  | some b => simp [orSkip]

@[simp] theorem log_unwrap (o : Option α) : (unwrap o : Journal ω α).log = [] := by
  cases o <;> rfl

@[simp] theorem log_orSkip (o : Option α) : (orSkip o : Journal ω α).log = [] := by
  cases o <;> rfl

/-- A chain panics at its first link or after it. -/
theorem panics_bind {x : Journal ω α} {f : α → Journal ω β} :
    (x >>= f).Panics ↔ x.Panics ∨ ∃ a, x.result = .ok a ∧ (f a).Panics := by
  obtain ⟨log, result⟩ := x
  cases result with
  | ok a => simp [bind, Panics]
  | error e => simp [bind, Panics]

theorem log_bind_eq_nil {x : Journal ω α} {f : α → Journal ω β} (hx : x.log = [])
    (hf : ∀ a, (f a).log = []) : (x >>= f).log = [] := by
  obtain ⟨log, result⟩ := x
  cases result with
  | ok a =>
      show log ++ (f a).log = []
      rw [show log = [] from hx, hf, List.append_nil]
  | error e => exact hx

theorem result_bind {x : Journal ω α} {f : α → Journal ω β} {b : β} :
    (x >>= f).result = .ok b ↔ ∃ a, x.result = .ok a ∧ (f a).result = .ok b := by
  obtain ⟨log, result⟩ := x
  cases result with
  | ok a => simp [bind]
  | error e => simp [bind]

/-- What a chain did, its first link did or the rest did. -/
theorem mem_log_bind {x : Journal ω α} {f : α → Journal ω β} {w : ω} :
    w ∈ (x >>= f).log ↔ w ∈ x.log ∨ ∃ a, x.result = .ok a ∧ w ∈ (f a).log := by
  obtain ⟨log, result⟩ := x
  cases result with
  | ok a => simp [bind]
  | error e => simp [bind]

/-- A silent first link ends the chain, or leaves everything to the rest. -/
theorem log_bind_cases {x : Journal ω α} (hx : x.log = []) (f : α → Journal ω β) :
    (x >>= f).log = [] ∨ ∃ a, x.result = .ok a ∧ (x >>= f).log = (f a).log := by
  obtain ⟨log, result⟩ := x
  obtain rfl : log = [] := hx
  cases result with
  | ok a => exact .inr ⟨a, rfl, List.nil_append _⟩
  | error e => exact .inl rfl

/-! ### Chains that never give up -/

def Skips (x : Journal ω α) : Prop := x.result = .error .skip

theorem skips_bind {x : Journal ω α} {f : α → Journal ω β} :
    (x >>= f).Skips ↔ x.Skips ∨ ∃ a, x.result = .ok a ∧ (f a).Skips := by
  obtain ⟨log, result⟩ := x
  cases result with
  | ok a => simp [bind, Skips]
  | error e => simp [bind, Skips]

@[simp] theorem not_skips_pure (a : α) : ¬ (pure a : Journal ω α).Skips := nofun

@[simp] theorem not_skips_unwrap (o : Option α) : ¬ (unwrap o : Journal ω α).Skips := by
  cases o <;> exact nofun

@[simp] theorem not_skips_unwrapAll (f : α → Option β) (as : List α) :
    ¬ (unwrapAll f as : Journal ω (List β)).Skips := by
  induction as with
  | nil => simp [unwrapAll]
  | cons a as ih => simp [unwrapAll, skips_bind, ih]

/-- A chain that never gives up panics unless it has a result. -/
theorem panics_iff_of_not_skips {x : Journal ω α} (h : ¬ x.Skips) :
    x.Panics ↔ ¬ ∃ a, x.result = .ok a := by
  obtain ⟨log, result⟩ := x
  cases result with
  | ok a => simp [Panics]
  | error e =>
      cases e with
      | skip => exact absurd rfl h
      | panic => simp [Panics]

theorem panics_unwrapAll {f : α → Option β} {as : List α} :
    (unwrapAll f as : Journal ω (List β)).Panics ↔ ∃ a ∈ as, f a = none := by
  induction as with
  | nil => simp [unwrapAll]
  | cons a as ih =>
      simp only [unwrapAll, panics_bind, panics_unwrap, result_unwrap, ih, not_panics_pure,
        and_false, exists_false, or_false, List.exists_mem_cons_iff]
      cases f a with
      | none => simp
      | some b => simp

theorem result_unwrapAll {f : α → Option β} {as : List α} {bs : List β} :
    (unwrapAll f as : Journal ω (List β)).result = .ok bs ↔
      List.Forall₂ (fun a b => f a = some b) as bs := by
  induction as generalizing bs with
  | nil => simp [unwrapAll, eq_comm, List.forall₂_nil_left_iff]
  | cons a as ih =>
      simp only [unwrapAll, result_bind, result_unwrap, ih, result_pure, Except.ok.injEq,
        List.forall₂_cons_left_iff]
      constructor
      · rintro ⟨b, hb, bs', hbs, rfl⟩
        exact ⟨b, bs', hb, hbs, rfl⟩
      · rintro ⟨b, bs', hb, hbs, rfl⟩
        exact ⟨b, hb, bs', hbs, rfl⟩

/-- Everything unwraps. -/
theorem exists_forall₂_some {f : α → Option β} {as : List α} :
    (∃ bs, List.Forall₂ (fun a b => f a = some b) as bs) ↔ ∀ a ∈ as, (f a).isSome := by
  induction as with
  | nil => simp [List.forall₂_nil_left_iff]
  | cons a as ih =>
      rw [List.forall_mem_cons, ← ih, Option.isSome_iff_exists]
      simp only [List.forall₂_cons_left_iff]
      constructor
      · rintro ⟨_, b, bs, hb, hbs, rfl⟩
        exact ⟨⟨b, hb⟩, bs, hbs⟩
      · rintro ⟨⟨b, hb⟩, bs, hbs⟩
        exact ⟨b :: bs, b, bs, hb, hbs, rfl⟩

@[simp] theorem log_unwrapAll (f : α → Option β) (as : List α) :
    (unwrapAll f as : Journal ω (List β)).log = [] := by
  have h : ∀ w, w ∉ (unwrapAll f as : Journal ω (List β)).log := by
    induction as with
    | nil => simp [unwrapAll]
    | cons a as ih => simp [unwrapAll, mem_log_bind, ih]
  exact List.eq_nil_iff_forall_not_mem.mpr h

/-! ## A loop over a queue -/

/-- `while let Some(task) = rx.recv().await`: a task given up is followed by the next one, a panic
by nothing. -/
def loop (process : τ → Journal ω Unit) : List τ → Journal ω Unit
  | [] => pure ()
  | t :: ts =>
      if (process t).Panics then process t
      else ⟨(process t).log ++ (loop process ts).log, (loop process ts).result⟩

variable {process : τ → Journal ω Unit} {queue : List τ}

/-- A loop gets through its queue exactly when no task of it panics. -/
theorem survives_iff : ¬ (loop process queue).Panics ↔ ∀ t ∈ queue, ¬ (process t).Panics := by
  induction queue with
  | nil => simp [loop]
  | cons t ts ih =>
      rw [List.forall_mem_cons, ← ih, loop]
      by_cases h : (process t).Panics
      · simp [h]
      · rw [if_neg h]
        exact (and_iff_right h).symm

/-- A loop that got through its queue did everything its tasks do. -/
theorem loop_log (h : ¬ (loop process queue).Panics) :
    (loop process queue).log = queue.flatMap fun t => (process t).log := by
  induction queue with
  | nil => rfl
  | cons t ts ih =>
      have hall := survives_iff.mp h
      have ht := hall t List.mem_cons_self
      have hts := survives_iff.mpr fun u hu => hall u (List.mem_cons_of_mem _ hu)
      rw [loop, if_neg ht, List.flatMap_cons, ← ih hts]

/-- A task that panics is the last one: what is queued behind it is never looked at. -/
theorem loop_stops {t : τ} {ts : List τ} (h : (process t).Panics)
    (hqueue : ∀ u ∈ queue, ¬ (process u).Panics) :
    loop process (queue ++ t :: ts) = loop process (queue ++ [t]) := by
  induction queue with
  | nil => simp [loop, h]
  | cons u us ih =>
      have hu := hqueue u List.mem_cons_self
      simp only [List.cons_append, loop, if_neg hu]
      rw [ih fun v hv => hqueue v (List.mem_cons_of_mem _ hv)]

end Journal

end Beanie
