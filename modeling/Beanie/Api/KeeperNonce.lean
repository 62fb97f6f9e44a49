/-
# `Beanie.Api.KeeperNonce` — four senders and one account nonce on Starknet

The announce, the payment and the transfer worker and the stealth rounds send
from one keeper account.  `execute_v3(..).send()` asks the node for the nonce
and then sends; the transfer worker keeps `next_nonce` from one tick to the
next; the stealth rounds hold a lock that the others do not take.  A nonce that
is held while somebody else's transaction is accepted is stale.

    Undisturbed            reads see every accepted transaction, and nothing is
                           accepted while another sender holds a nonce
    nonces_never_collide   the held nonces are current in every state exactly in
                           the undisturbed runs, and then every transaction goes
                           out with the account's next nonce
-/
import Beanie.Lib.Run

namespace Beanie.Api.KeeperNonce

inductive Sender
  | announce
  | payment
  | transfer
  | stealth (i : Nat)
deriving DecidableEq

/-- The keeper's account, and what its senders hold. -/
structure State where
  /-- The next unused nonce: one more than the last accepted. -/
  next : Nat
  /-- What `get_nonce` answers in the pre-confirmed block, and in the latest one. -/
  preConfirmed : Nat
  latest : Nat
  /-- A nonce that has been read and not been used; the transfer worker's is `next_nonce`. -/
  held : Sender → Option Nat
  /-- `nonce_lock`. -/
  lock : Option Nat
  /-- The nonces of the accepted transactions. -/
  sent : List Nat

def State.hold (s : State) (w : Sender) (n : Option Nat) : State :=
  { s with held := Function.update s.held w n }

def State.accept (s : State) (n : Nat) : State :=
  { s with next := s.next + 1, sent := s.sent ++ [n] }

def State.setLock (s : State) (lock : Option Nat) : State := { s with lock := lock }

/-- What a sender holds after its transaction with nonce `n` has been accepted. -/
def Sender.afterSend : Sender → Nat → Option Nat
  | .transfer, n => some (n + 1)
  | _, _ => none

inductive Act
  | read (w : Sender)
  | readCache
  | readFails
  | acquire (i : Nat)
  | release (i : Nat)
  | send (w : Sender) (n : Nat)
  | reject (w : Sender) (n : Nat)
  | fail (w : Sender) (n : Nat)
  | preConfirm (n : Nat)
  | close (n : Nat)
deriving DecidableEq

/-- A read, a call of the node, or a block.  The node accepts the next nonce and rejects every
other; a call can also fail for another reason. -/
inductive Step : State → Act → State → Prop
  | read {s : State} {w : Sender} (htransfer : w ≠ .transfer)
      (hlock : ∀ i, w = .stealth i → s.lock = some i) (h : s.held w = none) :
      Step s (.read w) (s.hold w (some s.latest))
  | readCache {s : State} (h : s.held .transfer = none) :
      Step s .readCache (s.hold .transfer (some s.preConfirmed))
  /-- `unwrap_or(Felt::ZERO)` -/
  | readFails {s : State} (h : s.held .transfer = none) :
      Step s .readFails (s.hold .transfer (some 0))
  | acquire {s : State} {i : Nat} (h : s.lock = none) : Step s (.acquire i) (s.setLock (some i))
  | release {s : State} {i : Nat} (h : s.lock = some i) :
      Step s (.release i) ((s.setLock none).hold (.stealth i) none)
  | send {s : State} {w : Sender} {n : Nat} (h : s.held w = some n) (hnext : n = s.next) :
      Step s (.send w n) ((s.accept n).hold w (w.afterSend n))
  | reject {s : State} {w : Sender} {n : Nat} (h : s.held w = some n) (hstale : n ≠ s.next) :
      Step s (.reject w n) (s.hold w none)
  | fail {s : State} {w : Sender} {n : Nat} (h : s.held w = some n) :
      Step s (.fail w n) (s.hold w none)
  | preConfirm {s : State} {n : Nat} (h : s.preConfirmed ≤ n ∧ n ≤ s.next) :
      Step s (.preConfirm n) { s with preConfirmed := n }
  | close {s : State} {n : Nat} (h : s.latest ≤ n ∧ n ≤ s.preConfirmed) :
      Step s (.close n) { s with latest := n }

/-- A read answers the next nonce, and at an acceptance nobody else holds one. -/
def Undisturbed (t : Transition State Act) : Prop :=
  match t.act with
  | .read _ => t.pre.latest = t.pre.next
  | .readCache => t.pre.preConfirmed = t.pre.next
  | .readFails => t.pre.next = 0
  | .send w _ => ∀ w', w' ≠ w → t.pre.held w' = none
  | _ => True

/-- Every nonce that is held is the next one. -/
def Current (s : State) : Prop := ∀ w n, s.held w = some n → n = s.next

/-- What is sent carries the next nonce, and nothing is rejected for its nonce. -/
def SentWithNext (t : Transition State Act) : Prop :=
  ∀ w n, (t.act = .send w n ∨ t.act = .fail w n → n = t.pre.next) ∧ t.act ≠ .reject w n

/-- The accepted nonces are below the next one, and differ. -/
structure SentOnce (s : State) : Prop where
  below : ∀ n ∈ s.sent, n < s.next
  nodup : s.sent.Nodup

section
variable {s s' : State} {a : Act}

theorem held_hold (w w' : Sender) (n : Option Nat) :
    (s.hold w n).held w' = if w' = w then n else s.held w' := by
  by_cases h : w' = w
  · rw [h, if_pos rfl]
    exact Function.update_self ..
  · rw [if_neg h]
    exact Function.update_of_ne h ..

/-- A sender that takes up `m` keeps the nonces current exactly if `m` is the next one. -/
theorem current_hold_some (hs : Current s) {w : Sender} {m : Nat} :
    Current (s.hold w (some m)) ↔ m = s.next := by
  constructor
  · exact fun h => h w m (by rw [held_hold, if_pos rfl])
  · intro hm w' n hn
    rw [held_hold] at hn
    by_cases hw : w' = w
    · rw [if_pos hw] at hn
      exact (Option.some.inj hn).symm.trans hm
    · rw [if_neg hw] at hn
      exact hs w' n hn

theorem current_hold_none (hs : Current s) {w : Sender} : Current (s.hold w none) := by
  intro w' n hn
  rw [held_hold] at hn
  by_cases hw : w' = w
  · rw [if_pos hw] at hn
    cases hn
  · rw [if_neg hw] at hn
    exact hs w' n hn

/-- An acceptance makes every other held nonce stale. -/
theorem current_send (hs : Current s) {w : Sender} {n : Nat} (hnext : n = s.next) :
    Current ((s.accept n).hold w (w.afterSend n)) ↔ ∀ w', w' ≠ w → s.held w' = none := by
  constructor
  · intro h w' hw
    cases hheld : s.held w' with
    | none => rfl
    | some m =>
        have hafter := h w' m (by rw [held_hold, if_neg hw]; exact hheld)
        have hbefore := hs w' m hheld
        have hafter : m = s.next + 1 := hafter
        omega
  · intro h w' m hm
    rw [held_hold] at hm
    by_cases hw : w' = w
    · rw [if_pos hw] at hm
      show m = s.next + 1
      cases w with
      | transfer =>
          cases hm
          rw [hnext]
      | announce | payment | stealth _ => cases hm
    · rw [if_neg hw] at hm
      have hnone := h w' hw
      have hm : s.held w' = some m := hm
      rw [hnone] at hm
      cases hm

/-- The step lemma: current nonces stay current exactly at an undisturbed step. -/
theorem Step.current_iff (h : Step s a s') (hs : Current s) :
    Current s' ↔ Undisturbed ⟨s, a, s'⟩ := by
  cases h with
  | read => exact current_hold_some hs
  | readCache => exact current_hold_some hs
  | readFails => exact (current_hold_some hs).trans eq_comm
  | send _ hnext => exact current_send hs hnext
  | reject | fail => exact iff_of_true (current_hold_none hs) trivial
  | @release i _ =>
      exact iff_of_true (@current_hold_none (s.setLock none) hs (.stealth i)) trivial
  | acquire | preConfirm | close => exact iff_of_true hs trivial

theorem Step.sentWithNext (h : Step s a s') (hs : Current s) : SentWithNext ⟨s, a, s'⟩ := by
  intro w n
  cases h with
  | send _ hnext =>
      refine ⟨?_, by simp⟩
      rintro (heq | heq)
      · cases heq
        exact hnext
      · cases heq
  | fail hheld =>
      refine ⟨?_, by simp⟩
      rintro (heq | heq)
      · cases heq
      · cases heq
        exact hs _ _ hheld
  | reject hheld hstale => exact absurd (hs _ _ hheld) hstale
  | _ => simp

theorem Step.sentOnce (h : Step s a s') (hs : SentOnce s) : SentOnce s' := by
  cases h with
  | @send w n hheld hnext =>
      have hnotin : n ∉ s.sent := fun hin => by
        have := hs.below n hin
        omega
      constructor
      · intro m hm
        show m < s.next + 1
        rcases List.mem_append.mp hm with hm | hm
        · have := hs.below m hm
          omega
        · rw [List.mem_singleton.mp hm]
          omega
      · exact List.nodup_append.mpr ⟨hs.nodup, List.nodup_singleton n, fun m hm k hk heq => by
          rw [heq, List.mem_singleton.mp hk] at hm
          exact hnotin hm⟩
  | _ => exact ⟨hs.below, hs.nodup⟩

/-- **When the nonces never collide.**  In a run in which the senders start without nonces, the
nonces they hold are the account's next one in every state if and only if every step is
undisturbed; and then every transaction is sent with the next nonce, none is rejected for its
nonce, and no two accepted ones carry the same. -/
theorem nonces_never_collide {tr : List (Transition State Act)} (hrun : Steps Step s tr s')
    (hstart : ∀ w, s.held w = none) (hsent : s.sent = []) :
    ((∀ t ∈ tr, Current t.post) ↔ ∀ t ∈ tr, Undisturbed t) ∧
    ((∀ t ∈ tr, Undisturbed t) → (∀ t ∈ tr, SentWithNext t) ∧ s'.sent.Nodup) := by
  have hcurrent : Current s := fun w n hn => by
    rw [hstart w] at hn
    cases hn
  refine ⟨hrun.invariant_iff (J := fun _ => True) (fun _ _ _ _ _ => trivial)
    (fun _ _ _ hstep _ hs => hstep.current_iff hs) trivial hcurrent, fun hundisturbed => ⟨?_, ?_⟩⟩
  · intro t ht
    have hbefore := hrun.invariant_pre (I := Current) (P := Undisturbed)
      (fun _ _ _ hstep hP hs => (hstep.current_iff hs).mpr hP) hundisturbed hcurrent t ht
    exact (hrun.mem_split ht).1.sentWithNext hbefore
  · have honce : SentOnce s := ⟨by rw [hsent]; simp, by rw [hsent]; exact List.nodup_nil⟩
    have hafter := hrun.invariant (I := SentOnce) (P := fun _ => True)
      (fun _ _ _ hstep _ hs => hstep.sentOnce hs) (fun _ _ => trivial) honce
    exact hafter.nodup

end

/-! ## A payment between two sweeps -/

namespace Sample

/-- Five transactions are in the latest block. -/
def start : State where
  next := 5
  preConfirmed := 5
  latest := 5
  held _ := none
  lock := none
  sent := []

end Sample

open Sample in
/-- The announce worker's transaction is in a block before the payment worker reads. -/
theorem nonces_never_collide_turns : ∃ tr s', Steps Step start tr s' ∧ s'.next = 7 ∧
    (∀ t ∈ tr, SentWithNext t) ∧ s'.sent.Nodup := by
  have hrun : Steps Step start _ _ :=
    .step (.read (w := .announce) (by decide) (fun _ h => by cases h) rfl)
      (.step (.send (w := .announce) (n := 5) rfl rfl)
        (.step (.preConfirm (n := 6) (by decide)) (.step (.close (n := 6) (by decide))
          (.step (.read (w := .payment) (by decide) (fun _ h => by cases h) rfl)
            (.step (.send (w := .payment) (n := 6) rfl rfl) (.refl _))))))
  refine ⟨_, _, hrun, rfl, (nonces_never_collide hrun (fun _ => rfl) rfl).2 ?_⟩
  intro t ht
  simp only [List.mem_cons, List.not_mem_nil, or_false] at ht
  rcases ht with rfl | rfl | rfl | rfl | rfl | rfl
  · rfl
  · intro w hw
    exact (held_hold .announce w _).trans (if_neg hw)
  · trivial
  · trivial
  · rfl
  · intro w hw
    by_cases hannounce : w = .announce
    · rw [hannounce]
      rfl
    · exact (held_hold .payment w _).trans ((if_neg hw).trans
        ((held_hold .announce w _).trans ((if_neg hannounce).trans
          ((held_hold .announce w _).trans (if_neg hannounce)))))

open Sample in
/-- The transfer worker sweeps and keeps the nonce 6; a payment takes it; the next sweep is
rejected. -/
theorem cached_nonce_rejected :
    ∃ tr s s', Steps Step start tr s ∧ Step s (.reject .transfer 6) s' ∧ s.next = 7 := by
  have hrun : Steps Step start _ _ :=
    .step (.readCache rfl) (.step (.send (w := .transfer) (n := 5) rfl rfl)
      (.step (.preConfirm (n := 6) (by decide)) (.step (.close (n := 6) (by decide))
        (.step (.read (w := .payment) (by decide) (fun _ h => by cases h) rfl)
          (.step (.send (w := .payment) (n := 6) rfl rfl) (.refl _))))))
  exact ⟨_, _, _, hrun, .reject rfl (by decide), rfl⟩

end Beanie.Api.KeeperNonce
