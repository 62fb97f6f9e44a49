/-
# `Beanie.Lib.Async` — asynchronous calls over one store

A call runs from one await to the next without a break; between two of its awaits
any other call may run.  It waits for the answer to a question, or for a flight:
an operation of which a group of calls has at most one under way, and whose
outcome goes to every call of the group that waited for it.

    Async            the code of a call
    Runs             what it does up to its next await
    CallsStep        one step of any of the calls
    Async.Safe       what the code does, whatever happens between its awaits
    calls_guarantee  where the code of every call is safe, every step keeps the
                     guarantee and every result is as promised
-/
import Beanie.Lib.Run

namespace Beanie

/-- The code of a call: a question `q` is answered in `A q`, the store is a `σ`, a flight ends with
a `ρ` or fails.  A write may be refused, and the code goes on. -/
inductive Async (Q : Type) (A : Q → Type) (σ ρ α : Type)
  | done (a : α)
  | fail
  | read (k : σ → Async Q A σ ρ α)
  | write (f : σ → σ) (k : Async Q A σ ρ α)
  | ask (q : Q) (k : A q → Async Q A σ ρ α)
  | join (k : Option ρ → Async Q A σ ρ α)

namespace Async

section
variable {Q : Type} {A : Q → Type} {σ ρ α β : Type}

protected def bind : Async Q A σ ρ α → (α → Async Q A σ ρ β) → Async Q A σ ρ β
  | .done a, f => f a
  | .fail, _ => .fail
  | .read k, f => .read fun s => (k s).bind f
  | .write g k, f => .write g (k.bind f)
  | .ask q k, f => .ask q fun a => (k a).bind f
  | .join k, f => .join fun r => (k r).bind f

instance : Monad (Async Q A σ ρ) where
  pure := .done
  bind := Async.bind

def get : Async Q A σ ρ σ := .read .done

def modify (f : σ → σ) : Async Q A σ ρ Unit := .write f (.done ())

/-- Waits for the flight of the group, and starts it where none is under way. -/
def flight : Async Q A σ ρ ρ :=
  .join fun
    | some r => .done r
    | none => .fail

end

/-- What is known of the world: the answers it may give, the outcomes a flight may have, and what a
flight that ends well writes. -/
structure World (Q : Type) (A : Q → Type) (σ ρ : Type) where
  answers : (q : Q) → A q → Prop
  lands : ρ → Prop
  keep : ρ → σ → σ

/-- The code run in a store up to its next await, with the store and the code it leaves. -/
inductive Runs {Q : Type} {A : Q → Type} {σ ρ α : Type} :
    σ → Async Q A σ ρ α → σ → Async Q A σ ρ α → Prop
  | done (s : σ) (a : α) : Runs s (.done a) s (.done a)
  | fail (s : σ) : Runs s .fail s .fail
  | ask (s : σ) (q : Q) (k : A q → Async Q A σ ρ α) : Runs s (.ask q k) s (.ask q k)
  | join (s : σ) (k : Option ρ → Async Q A σ ρ α) : Runs s (.join k) s (.join k)
  | read {s s' : σ} {k : σ → Async Q A σ ρ α} {c : Async Q A σ ρ α} :
      Runs s (k s) s' c → Runs s (.read k) s' c
  | taken {s s' : σ} {f : σ → σ} {k c : Async Q A σ ρ α} :
      Runs (f s) k s' c → Runs s (.write f k) s' c
  | refused {s s' : σ} {f : σ → σ} {k c : Async Q A σ ρ α} :
      Runs s k s' c → Runs s (.write f k) s' c

/-! ## All calls -/

/-- Where a call is: at an await or its end, or told the outcome of its flight and not yet gone
on. -/
inductive Progress (Q : Type) (A : Q → Type) (σ ρ α : Type)
  | rests (c : Async Q A σ ρ α)
  | landed (r : Option ρ) (k : Option ρ → Async Q A σ ρ α)

/-- A call made for `request` in `group`. -/
structure Call (Q : Type) (A : Q → Type) (σ ρ κ τ α : Type) where
  request : κ
  group : τ
  progress : Progress Q A σ ρ α

structure Calls (Q : Type) (A : Q → Type) (σ ρ κ τ α : Type) where
  store : σ
  calls : Nat → Option (Call Q A σ ρ κ τ α)
  inFlight : τ → Bool

inductive CallsAct (Q : Type) (A : Q → Type) (ρ κ τ : Type)
  | begin (i : Nat) (group : τ) (request : κ)
  | answer (i : Nat) (q : Q) (a : A q)
  | land (group : τ) (r : Option ρ) (taken : Bool)
  | resume (i : Nat)

section
variable {Q : Type} {A : Q → Type} {σ ρ κ τ α : Type} [DecidableEq τ]

def Calls.start (store : σ) : Calls Q A σ ρ κ τ α := ⟨store, fun _ => none, fun _ => false⟩

def joins : Async Q A σ ρ α → Bool
  | .join _ => true
  | _ => false

/-- Call `i` has run to `c` and left `store`. -/
def Calls.settle (s : Calls Q A σ ρ κ τ α) (i : Nat) (group : τ) (request : κ) (store : σ)
    (c : Async Q A σ ρ α) : Calls Q A σ ρ κ τ α where
  store := store
  calls := Function.update s.calls i (some ⟨request, group, .rests c⟩)
  inFlight := if c.joins then Function.update s.inFlight group true else s.inFlight

/-- A call of the group that waits for its flight is told the outcome. -/
def Call.told (group : τ) (r : Option ρ) (c : Call Q A σ ρ κ τ α) : Call Q A σ ρ κ τ α :=
  match c.progress with
  | .rests (.join k) => if c.group = group then { c with progress := .landed r k } else c
  | _ => c

def World.kept (w : World Q A σ ρ) (r : Option ρ) (taken : Bool) (store : σ) : σ :=
  match r with
  | some x => if taken then w.keep x store else store
  | none => store

def Calls.land (w : World Q A σ ρ) (s : Calls Q A σ ρ κ τ α) (group : τ) (r : Option ρ)
    (taken : Bool) : Calls Q A σ ρ κ τ α where
  store := w.kept r taken s.store
  calls i := (s.calls i).map (Call.told group r)
  inFlight := Function.update s.inFlight group false

/-- `code` is the code of each request. -/
inductive CallsStep (code : κ → Async Q A σ ρ α) (w : World Q A σ ρ) :
    Calls Q A σ ρ κ τ α → CallsAct Q A ρ κ τ → Calls Q A σ ρ κ τ α → Prop
  | begin {s : Calls Q A σ ρ κ τ α} {i : Nat} {group : τ} {request : κ} {store : σ}
      {c : Async Q A σ ρ α} : s.calls i = none → Runs s.store (code request) store c →
      CallsStep code w s (.begin i group request) (s.settle i group request store c)
  | answer {s : Calls Q A σ ρ κ τ α} {i : Nat} {group : τ} {request : κ} {q : Q} {a : A q}
      {k : A q → Async Q A σ ρ α} {store : σ} {c : Async Q A σ ρ α} :
      s.calls i = some ⟨request, group, .rests (.ask q k)⟩ → w.answers q a →
      Runs s.store (k a) store c →
      CallsStep code w s (.answer i q a) (s.settle i group request store c)
  | land {s : Calls Q A σ ρ κ τ α} {group : τ} {r : Option ρ} {taken : Bool} :
      s.inFlight group = true → (∀ x ∈ r, w.lands x) →
      CallsStep code w s (.land group r taken) (s.land w group r taken)
  | resume {s : Calls Q A σ ρ κ τ α} {i : Nat} {group : τ} {request : κ} {r : Option ρ}
      {k : Option ρ → Async Q A σ ρ α} {store : σ} {c : Async Q A σ ρ α} :
      s.calls i = some ⟨request, group, .landed r k⟩ → Runs s.store (k r) store c →
      CallsStep code w s (.resume i) (s.settle i group request store c)

end

/-! ## What the code may do -/

section
variable {Q : Type} {A : Q → Type} {σ ρ α β : Type} (G : σ → σ → Prop) (w : World Q A σ ρ)

/-- Run in `s`, every write of the code is a `G` step, and it ends with what `post` says: whatever
`G` allows while it waits, and whatever the world answers. -/
def Safe (post : σ → α → Prop) : Async Q A σ ρ α → σ → Prop
  | .done a, s => post s a
  | .fail, _ => True
  | .read k, s => (k s).Safe post s
  | .write f k, s => G s (f s) ∧ k.Safe post (f s) ∧ k.Safe post s
  | .ask q k, s => ∀ s', G s s' → ∀ a, w.answers q a → (k a).Safe post s'
  | .join k, s => ∀ s', G s s' → ∀ r, (∀ x ∈ r, w.lands x) → (k r).Safe post s'

variable {G w}

/-- The sequencing rule. -/
theorem Safe.bind {mid : σ → α → Prop} {post : σ → β → Prop} {c : Async Q A σ ρ α}
    {f : α → Async Q A σ ρ β} {s : σ} (h : c.Safe G w mid s)
    (hf : ∀ s' a, mid s' a → (f a).Safe G w post s') : (c.bind f).Safe G w post s := by
  induction c generalizing s with
  | done a => exact hf s a h
  | fail => trivial
  | read k ih => exact ih s h
  | write g k ih => exact ⟨h.1, ih h.2.1, ih h.2.2⟩
  | ask q k ih => exact fun s' hs a ha => ih a (h s' hs a ha)
  | join k ih => exact fun s' hs r hr => ih r (h s' hs r hr)

theorem Safe.weaken {post post' : σ → α → Prop} {c : Async Q A σ ρ α} {s : σ}
    (h : c.Safe G w post s) (hpost : ∀ s a, post s a → post' s a) : c.Safe G w post' s := by
  induction c generalizing s with
  | done a => exact hpost s a h
  | fail => trivial
  | read k ih => exact ih s h
  | write g k ih => exact ⟨h.1, ih h.2.1, ih h.2.2⟩
  | ask q k ih => exact fun s' hs a ha => ih a (h s' hs a ha)
  | join k ih => exact fun s' hs r hr => ih r (h s' hs r hr)

variable {post : σ → α → Prop}

/-- A stretch of safe code up to its next await. -/
theorem Safe.runs (hrefl : ∀ s, G s s) (htrans : ∀ s t u, G s t → G t u → G s u)
    {c c' : Async Q A σ ρ α} {s s' : σ} (hruns : Runs s c s' c') (h : c.Safe G w post s) :
    G s s' ∧ c'.Safe G w post s' := by
  induction hruns with
  | done s a => exact ⟨hrefl s, h⟩
  | fail s => exact ⟨hrefl s, h⟩
  | ask s q k => exact ⟨hrefl s, h⟩
  | join s k => exact ⟨hrefl s, h⟩
  | read _ ih => exact ih h
  | taken _ ih =>
      obtain ⟨hg, hsafe⟩ := ih h.2.1
      exact ⟨htrans _ _ _ h.1 hg, hsafe⟩
  | refused _ ih => exact ih h.2.2

/-- Code that rests, as against code that is running. -/
inductive Rests : Async Q A σ ρ α → Prop
  | done (a : α) : Rests (.done a)
  | fail : Rests .fail
  | ask (q : Q) (k : A q → Async Q A σ ρ α) : Rests (.ask q k)
  | join (k : Option ρ → Async Q A σ ρ α) : Rests (.join k)

theorem Runs.rests {c c' : Async Q A σ ρ α} {s s' : σ} (h : Runs s c s' c') : Rests c' := by
  induction h with
  | done s a => exact .done a
  | fail s => exact .fail
  | ask s q k => exact .ask q k
  | join s k => exact .join k
  | read _ ih => exact ih
  | taken _ ih => exact ih
  | refused _ ih => exact ih

/-- Code that rests stays safe while others run. -/
theorem Safe.later (htrans : ∀ s t u, G s t → G t u → G s u)
    (hstable : ∀ s t a, G s t → post s a → post t a) {c : Async Q A σ ρ α} (hrests : Rests c)
    {s s' : σ} (hg : G s s') (h : c.Safe G w post s) : c.Safe G w post s' := by
  cases hrests with
  | done a => exact hstable _ _ a hg h
  | fail => trivial
  | ask q k => exact fun t ht => h t (htrans _ _ _ hg ht)
  | join k => exact fun t ht => h t (htrans _ _ _ hg ht)

end

/-! ## The rule for all calls -/

section
variable {Q : Type} {A : Q → Type} {σ ρ κ τ α : Type}

/-- `G` is what a step may do to the store, `post` what a call made for a request ends with, and
`s₀` the store it all begins in. -/
structure Disciplined (G : σ → σ → Prop) (w : World Q A σ ρ) (post : κ → σ → α → Prop)
    (code : κ → Async Q A σ ρ α) (s₀ : σ) : Prop where
  refl : ∀ s, G s s
  trans : ∀ s t u, G s t → G t u → G s u
  stable : ∀ κ s t a, G s t → post κ s a → post κ t a
  code : ∀ κ s, G s₀ s → (code κ).Safe G w (post κ) s
  keep : ∀ r s, w.lands r → G s₀ s → G s (w.keep r s)

/-- The call goes on safely from where it is. -/
def Call.Good (G : σ → σ → Prop) (w : World Q A σ ρ) (post : κ → σ → α → Prop)
    (c : Call Q A σ ρ κ τ α) (s : σ) : Prop :=
  match c.progress with
  | .rests p => Rests p ∧ p.Safe G w (post c.request) s
  | .landed r k => ∀ s', G s s' → (k r).Safe G w (post c.request) s'

/-- What holds of every state. -/
structure Calls.Sound (G : σ → σ → Prop) (w : World Q A σ ρ) (post : κ → σ → α → Prop) (s₀ : σ)
    (s : Calls Q A σ ρ κ τ α) : Prop where
  store : G s₀ s.store
  calls : ∀ i c, s.calls i = some c → c.Good G w post s.store

variable [DecidableEq τ] {G : σ → σ → Prop} {w : World Q A σ ρ} {post : κ → σ → α → Prop}
variable {code : κ → Async Q A σ ρ α} {s₀ : σ}

omit [DecidableEq τ] in
theorem Call.Good.later (D : Disciplined G w post code s₀) {c : Call Q A σ ρ κ τ α} {s s' : σ}
    (hg : G s s') (h : c.Good G w post s) : c.Good G w post s' := by
  obtain ⟨request, group, progress⟩ := c
  cases progress with
  | rests p => exact ⟨h.1, Safe.later D.trans (D.stable request) h.1 hg h.2⟩
  | landed r k => exact fun t ht => h t (D.trans _ _ _ hg ht)

theorem Call.Good.told {c : Call Q A σ ρ κ τ α} {s : σ} (group : τ) {r : Option ρ}
    (hr : ∀ x ∈ r, w.lands x) (h : c.Good G w post s) : (c.told group r).Good G w post s := by
  obtain ⟨request, own, progress⟩ := c
  cases progress with
  | landed r' k => exact h
  | rests p =>
      cases p with
      | join k =>
          dsimp only [Call.told]
          split
          · exact fun t ht => h.2 t ht r hr
          · exact h
      | _ => exact h

theorem Calls.Sound.settle (D : Disciplined G w post code s₀) {s : Calls Q A σ ρ κ τ α}
    (h : s.Sound G w post s₀) {i : Nat} {group : τ} {request : κ} {store : σ}
    {c : Async Q A σ ρ α} (hg : G s.store store) (hrests : Rests c)
    (hsafe : c.Safe G w (post request) store) :
    (s.settle i group request store c).Sound G w post s₀ where
  store := D.trans _ _ _ h.store hg
  calls j d hd := by
    change Function.update s.calls i _ j = some d at hd
    by_cases hj : j = i
    · rw [hj, Function.update_self] at hd
      obtain rfl := Option.some.inj hd
      exact ⟨hrests, hsafe⟩
    · rw [Function.update_of_ne hj] at hd
      exact (h.calls j d hd).later D hg

/-- One step of any call, or of a flight. -/
theorem CallsStep.sound (D : Disciplined G w post code s₀) {s s' : Calls Q A σ ρ κ τ α}
    {e : CallsAct Q A ρ κ τ} (hstep : CallsStep code w s e s') (h : s.Sound G w post s₀) :
    G s.store s'.store ∧ s'.Sound G w post s₀ := by
  cases hstep with
  | begin hnone hruns =>
      obtain ⟨hg, hsafe⟩ := Safe.runs D.refl D.trans hruns (D.code _ _ h.store)
      exact ⟨hg, h.settle D hg hruns.rests hsafe⟩
  | answer hcall hans hruns =>
      have hgood := (h.calls _ _ hcall).2 _ (D.refl _) _ hans
      obtain ⟨hg, hsafe⟩ := Safe.runs D.refl D.trans hruns hgood
      exact ⟨hg, h.settle D hg hruns.rests hsafe⟩
  | @land group r taken hflight hlands =>
      have hg : G s.store (w.kept r taken s.store) := by
        cases r with
        | none => exact D.refl _
        | some x =>
            cases taken with
            | false => exact D.refl _
            | true => exact D.keep x _ (hlands x rfl) h.store
      refine ⟨hg, D.trans _ _ _ h.store hg, fun i c hc => ?_⟩
      obtain ⟨d, hd, rfl⟩ := Option.map_eq_some_iff.mp hc
      exact ((h.calls i d hd).later D hg).told group hlands
  | resume hcall hruns =>
      have hgood := h.calls _ _ hcall _ (D.refl _)
      obtain ⟨hg, hsafe⟩ := Safe.runs D.refl D.trans hruns hgood
      exact ⟨hg, h.settle D hg hruns.rests hsafe⟩

theorem Calls.Sound.onward (D : Disciplined G w post code s₀) {s s' : Calls Q A σ ρ κ τ α}
    {tr : List (Transition (Calls Q A σ ρ κ τ α) (CallsAct Q A ρ κ τ))}
    (hrun : Steps (CallsStep code w) s tr s') (h : s.Sound G w post s₀) :
    G s.store s'.store ∧ s'.Sound G w post s₀ := by
  induction hrun with
  | refl s => exact ⟨D.refl _, h⟩
  | step hstep _ ih =>
      obtain ⟨hg, hnext⟩ := hstep.sound D h
      obtain ⟨hon, hlast⟩ := ih hnext
      exact ⟨D.trans _ _ _ hg hon, hlast⟩

/-- The rule: in any run, from before and after every step to the end the store changes as `G` says,
and every call that has ended has ended with what its request was promised. -/
theorem calls_guarantee (D : Disciplined G w post code s₀) {s : Calls Q A σ ρ κ τ α}
    {tr : List (Transition (Calls Q A σ ρ κ τ α) (CallsAct Q A ρ κ τ))}
    (h : Steps (CallsStep code w) (Calls.start s₀) tr s) :
    G s₀ s.store ∧ (∀ t ∈ tr, G t.pre.store s.store ∧ G t.post.store s.store) ∧
    ∀ i request group a, s.calls i = some ⟨request, group, .rests (.done a)⟩ →
      post request s.store a := by
  have hstart : (Calls.start s₀ : Calls Q A σ ρ κ τ α).Sound G w post s₀ :=
    ⟨D.refl s₀, fun _ _ hc => by cases hc⟩
  obtain ⟨-, hend⟩ := hstart.onward D h
  refine ⟨hend.store, fun t ht => ?_, fun i request group a hcall => (hend.calls i _ hcall).2⟩
  obtain ⟨hstep, l, r, rfl, hl, hr⟩ := h.mem_split ht
  obtain ⟨hg, hpost⟩ := hstep.sound D (hstart.onward D hl).2
  have hlast := (hpost.onward D hr).1
  exact ⟨D.trans _ _ _ hg hlast, hlast⟩

end

end Async

end Beanie
