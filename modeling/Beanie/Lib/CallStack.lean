/-
# `Beanie.Lib.CallStack` — what one contract does inside a transaction

A transaction is a stack of frames.  One contract's code is known: its caller and
the data it is handed decide which calls it makes.  All other code calls whom it
likes with what it likes, and may call the contract again before an earlier call
of it has returned.

    Reaches     what a call of the contract leads it to call, through calls of
                itself as well
    made_from   every call the contract makes is reached from a call of it by
                somebody else
-/
import Beanie.Lib.Run

namespace Beanie.CallStack

structure Call (A D : Type) where
  target : A
  value : Nat
  data : D
deriving DecidableEq

/-- The contract that is looked at.  By caller and data, the calls it makes one after the other while
none of them fails; `none` where it reverts at once. -/
structure Contract (A D : Type) where
  address : A
  calls : A → D → Option (List (Call A D))

/-- A call that has not returned.  Of the contract's own frames, what they still have to call; `none`
where they have to revert. -/
structure Frame (A D : Type) where
  caller : A
  target : A
  data : D
  left : Option (List (Call A D))

inductive Event (A D : Type)
  | call (caller : A) (c : Call A D)
  | returned (ok : Bool)

section
variable {A D : Type} [DecidableEq A] (k : Contract A D) (allowed : A → D → Prop)

def Contract.enter (caller : A) (c : Call A D) : Frame A D :=
  ⟨caller, c.target, c.data, if c.target = k.address then k.calls caller c.data else some []⟩

/-- What a failed call leaves of its caller's frame: the contract reverts, others may go on. -/
def Contract.afterFailure : List (Frame A D) → List (Frame A D)
  | [] => []
  | f :: fs => (if f.target = k.address then { f with left := none } else f) :: fs

/-- `allowed` is what is known of the calls of the contract by others. -/
inductive StackStep : List (Frame A D) → Event A D → List (Frame A D) → Prop
  | other {f : Frame A D} {fs : List (Frame A D)} {c : Call A D} : f.target ≠ k.address →
      (c.target = k.address → allowed f.target c.data) →
      StackStep (f :: fs) (.call f.target c) (k.enter f.target c :: f :: fs)
  | own {f : Frame A D} {fs : List (Frame A D)} {c : Call A D} {cs : List (Call A D)} :
      f.target = k.address → f.left = some (c :: cs) →
      StackStep (f :: fs) (.call k.address c)
        (k.enter k.address c :: { f with left := some cs } :: fs)
  | succeeded {f : Frame A D} {fs : List (Frame A D)} :
      (f.target = k.address → f.left = some []) → StackStep (f :: fs) (.returned true) fs
  | failed {f : Frame A D} {fs : List (Frame A D)} :
      StackStep (f :: fs) (.returned false) (k.afterFailure fs)

/-- What a call of the contract leads it to call. -/
inductive Reaches (caller : A) (data : D) : Call A D → Prop
  | direct {c : Call A D} {cs : List (Call A D)} : k.calls caller data = some cs → c ∈ cs →
      Reaches caller data c
  | through {c' c : Call A D} {cs : List (Call A D)} : Reaches caller data c' →
      c'.target = k.address → k.calls k.address c'.data = some cs → c ∈ cs → Reaches caller data c

/-- A call that goes back to a call of the contract by somebody else. -/
def FromOutside (c : Call A D) : Prop :=
  ∃ caller data, caller ≠ k.address ∧ allowed caller data ∧ Reaches k caller data c

/-- All that a frame of the contract has left goes back to a call by somebody else. -/
def FrameSound (f : Frame A D) : Prop :=
  f.target = k.address → ∀ cs, f.left = some cs → ∀ c ∈ cs, FromOutside k allowed c

end

section
variable {A D : Type} [DecidableEq A] {k : Contract A D} {allowed : A → D → Prop}

/-- How the contract is entered. -/
theorem Contract.enter_of_target {caller : A} {c : Call A D} {left : Option (List (Call A D))}
    (h : c.target = k.address) (hcalls : k.calls caller c.data = left) :
    k.enter caller c = ⟨caller, c.target, c.data, left⟩ := by
  rw [Contract.enter, if_pos h, hcalls]

/-- A frame that somebody else has opened. -/
theorem frameSound_enter_other {caller : A} {c : Call A D} (hcaller : caller ≠ k.address)
    (hallowed : c.target = k.address → allowed caller c.data) :
    FrameSound k allowed (k.enter caller c) := by
  intro htarget cs hleft d hd
  have hcalls : k.calls caller c.data = some cs := (if_pos htarget).symm.trans hleft
  exact ⟨caller, c.data, hcaller, hallowed htarget, .direct hcalls hd⟩

/-- A frame that the contract has opened of itself. -/
theorem frameSound_enter_own {c : Call A D} (h : FromOutside k allowed c) :
    FrameSound k allowed (k.enter k.address c) := by
  intro htarget cs hleft d hd
  have hcalls : k.calls k.address c.data = some cs := (if_pos htarget).symm.trans hleft
  obtain ⟨caller, data, hcaller, hallowed, hreaches⟩ := h
  exact ⟨caller, data, hcaller, hallowed, .through hreaches htarget hcalls hd⟩

theorem frameSound_afterFailure {fs : List (Frame A D)} (h : ∀ f ∈ fs, FrameSound k allowed f) :
    ∀ f ∈ k.afterFailure fs, FrameSound k allowed f := by
  cases fs with
  | nil => exact h
  | cons g fs =>
      intro f hf
      rcases List.mem_cons.mp hf with rfl | hf
      · by_cases hown : g.target = k.address
        · rw [if_pos hown]
          intro htarget cs hleft
          cases hleft
        · rw [if_neg hown]
          exact h g List.mem_cons_self
      · exact h f (List.mem_cons_of_mem _ hf)

theorem StackStep.left_mem {s s' : List (Frame A D)} {c : Call A D}
    (h : StackStep k allowed s (.call k.address c) s') (hs : ∀ f ∈ s, FrameSound k allowed f) :
    FromOutside k allowed c := by
  generalize he : Event.call k.address c = e at h
  cases h with
  | other hother hallowed =>
      obtain ⟨hcaller, -⟩ := Event.call.inj he
      exact absurd hcaller.symm hother
  | own hown hleft =>
      obtain ⟨-, rfl⟩ := Event.call.inj he
      exact hs _ List.mem_cons_self hown _ hleft _ List.mem_cons_self
  | succeeded => cases he
  | failed => cases he

/-- **The step lemma.** -/
theorem StackStep.sound {s s' : List (Frame A D)} {e : Event A D} (h : StackStep k allowed s e s')
    (hs : ∀ f ∈ s, FrameSound k allowed f) : ∀ f ∈ s', FrameSound k allowed f := by
  cases h with
  | other hother hallowed =>
      rw [List.forall_mem_cons]
      exact ⟨frameSound_enter_other hother hallowed, hs⟩
  | @own f fs c cs hown hleft =>
      have hf := hs f List.mem_cons_self hown _ hleft
      rw [List.forall_mem_cons, List.forall_mem_cons]
      refine ⟨frameSound_enter_own (hf c List.mem_cons_self), ?_,
        fun g hg => hs g (List.mem_cons_of_mem _ hg)⟩
      intro _ cs' hcs d hd
      cases hcs
      exact hf d (List.mem_cons_of_mem _ hd)
  | succeeded hdone => exact fun f hf => hs f (List.mem_cons_of_mem _ hf)
  | failed => exact frameSound_afterFailure fun f hf => hs f (List.mem_cons_of_mem _ hf)

/-- **Every call the contract makes is reached from a call of it by somebody else.** -/
theorem made_from {origin : A} {c₀ : Call A D} {s : List (Frame A D)}
    {tr : List (Transition (List (Frame A D)) (Event A D))} (horigin : origin ≠ k.address)
    (hallowed : c₀.target = k.address → allowed origin c₀.data)
    (h : Steps (StackStep k allowed) [k.enter origin c₀] tr s) :
    ∀ t ∈ tr, ∀ c, t.act = .call k.address c → FromOutside k allowed c := by
  have hstart : ∀ f ∈ [k.enter origin c₀], FrameSound k allowed f := by
    intro f hf
    rw [List.mem_singleton.mp hf]
    exact frameSound_enter_other horigin hallowed
  have hpre := h.invariant_pre (I := fun s => ∀ f ∈ s, FrameSound k allowed f) (P := fun _ => True)
    (fun _ _ _ hstep _ hs => hstep.sound hs) (fun _ _ => trivial) hstart
  intro t ht c hact
  have hstep := (h.mem_split ht).1
  rw [hact] at hstep
  exact hstep.left_mem (hpre t ht)

end

end Beanie.CallStack
