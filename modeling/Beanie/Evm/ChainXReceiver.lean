/-
# `Beanie.Evm.ChainXReceiver` — `initialize` and `sweep`

`ChainXReceiver.sol`, function by function.  A call that reverts changes
nothing, so a function returns the world after it, or the reason it reverted.

The one spec lemma of `sweep` is `sweep_cases`: a successful sweep found the
receiver empty and did nothing, or paid the three parts of `rates`' split to
`tx.origin`, the treasury and the pinned beneficiary.
-/
import Beanie.Lib.FeeSchedule
import Beanie.Evm.World

namespace Beanie.Evm

def FEE_BPS : Nat := 50
def BPS_DENOM : Nat := 10000
def CALLER_SHARE_BPS : Nat := 1000

/-- The schedule the three constants spell out. -/
def rates : FeeRates where
  feeBps := FEE_BPS
  callerShareBps := CALLER_SHARE_BPS
  denom := BPS_DENOM
  denom_pos := by decide
  feeBps_lt := by decide
  callerShareBps_le := by decide

namespace ChainXReceiver

/-- `initialize`, on the receiver's own storage. -/
def initializeReceiver (c : ChainXReceiver) (token treasury tokenMessenger : Address)
    (cctpDestinationDomain : Domain) (cctpMintRecipient : Bytes32) (merchant : Address) :
    Except Revert ChainXReceiver := do
  require (c.initialized = false) .alreadyInitialized
  require (¬ (token = 0 ∨ treasury = 0 ∨ tokenMessenger = 0)) .zeroAddress
  require (merchant ≠ 0) .zeroAddress
  .ok ⟨true, token, treasury, tokenMessenger, cctpDestinationDomain, cctpMintRecipient, merchant⟩

end ChainXReceiver

/-- An external `initialize` call on the receiver at `self`. -/
def initializeCall (w : World) (self token treasury tokenMessenger : Address)
    (domain : Domain) (recipient : Bytes32) (merchant : Address) : Except Revert World := do
  let c ← okOr (w.receivers self) .external
  let c' ← c.initializeReceiver token treasury tokenMessenger domain recipient merchant
  .ok ({ w with receivers := Function.update w.receivers self (some c') }.emit
    (.initialized token treasury domain recipient))

/-- What `sweep` returns. -/
structure SweepResult where
  net : Nat
  feeToCaller : Nat
  feeToTreasury : Nat
  fee : Nat
deriving DecidableEq

/-- `if (amount > 0) IERC20(token).safeTransfer(recipient, amount)`. -/
def payIfPositive (x : Callees) (w : World) (token self recipient : Address) (amount : Nat) :
    Except Revert World :=
  if 0 < amount then x.safeTransfer w token self recipient amount else .ok w

/-- The settlement branch of `sweep`: burn through CCTP when a mint recipient is pinned,
otherwise pay the merchant. -/
def settle (x : Callees) (w : World) (c : ChainXReceiver) (self : Address) (balance net : Nat) :
    Except Revert World :=
  if 0 < net ∧ c.cctpMintRecipient ≠ 0 then do
    let maxFee := (← checkedMul balance 2) / 10000
    let w ← x.approve w c.token self c.tokenMessenger net
    x.depositForBurn w c.tokenMessenger self
      { amount := net
        destinationDomain := c.cctpDestinationDomain
        mintRecipient := c.cctpMintRecipient
        burnToken := c.token
        destinationCaller := 0
        maxFee := maxFee
        minFinalityThreshold := 1000 }
  else x.safeTransfer w c.token self c.merchant net

/-- `sweep`, called on the receiver at `self` in a transaction of `origin`. -/
def sweep (x : Callees) (w : World) (self origin : Address) :
    Except Revert (World × SweepResult) := do
  let c ← okOr (w.receivers self) .external
  require (c.initialized = true) .notInitialized
  let balance := w.balances c.token self
  if balance = 0 then .ok (w, ⟨0, 0, 0, 0⟩)
  else do
    let fee := (← checkedMul balance FEE_BPS) / BPS_DENOM
    let net ← checkedSub balance fee
    let feeToCaller := (← checkedMul fee CALLER_SHARE_BPS) / BPS_DENOM
    let feeToTreasury ← checkedSub fee feeToCaller
    let w ← payIfPositive x w c.token self origin feeToCaller
    let w ← payIfPositive x w c.token self c.treasury feeToTreasury
    let w ← settle x w c self balance net
    .ok (w.emit (.swept balance net fee feeToCaller feeToTreasury),
      ⟨net, feeToCaller, feeToTreasury, fee⟩)

/-! ## `initialize` runs once -/

theorem ChainXReceiver.initializeReceiver_ok {c c' : ChainXReceiver} {token treasury messenger merchant}
    {domain recipient}
    (h : c.initializeReceiver token treasury messenger domain recipient merchant = .ok c') :
    c.initialized = false ∧
      c' = ⟨true, token, treasury, messenger, domain, recipient, merchant⟩ := by
  simp only [ChainXReceiver.initializeReceiver, bind_ok, require_ok] at h
  obtain ⟨-, hinit, -, -, -, -, hc⟩ := h
  exact ⟨hinit, (Except.ok.inj hc).symm⟩

/-- A receiver that is initialised cannot be initialised again, by anyone, to anything. -/
theorem initializeCall_error {w : World} {self : Address} {c : ChainXReceiver}
    (hc : w.receivers self = some c) (hinit : c.initialized = true)
    (token treasury messenger : Address) (domain : Domain) (recipient : Bytes32)
    (merchant : Address) :
    initializeCall w self token treasury messenger domain recipient merchant
      = .error .alreadyInitialized := by
  simp [initializeCall, ChainXReceiver.initializeReceiver, hc, hinit, require]

/-! ## `sweep`, from its callees' behaviour -/

/-- The part amounts of one sweep are those of the fee schedule. -/
def SweepResult.split (balance : Nat) : SweepResult :=
  ⟨rates.net balance, rates.callerCut balance, rates.treasuryCut balance, rates.fee balance⟩

theorem payIfPositive_ok {x : Callees} (hx : StandardCallees x) {w w' : World}
    {token self recipient : Address} {n : Nat}
    (h : payIfPositive x w token self recipient n = .ok w') :
    n ≤ w.balances token self ∧ w' = w.transfer token self recipient n := by
  by_cases hn : 0 < n
  · rw [payIfPositive, if_pos hn] at h
    exact hx.safeTransfer h
  · rw [payIfPositive, if_neg hn] at h
    have h0 : n = 0 := Nat.eq_zero_of_not_pos hn
    subst h0
    exact ⟨Nat.zero_le _, by rw [World.transfer_zero]; exact (Except.ok.inj h).symm⟩

/-- What the settlement branch did: `net` left the receiver, to the merchant's balance when no
mint recipient is pinned, into one burn toward the pinned destination otherwise. -/
structure Settled (c : ChainXReceiver) (addr : Address) (net : Nat) (w w' : World) : Prop where
  paid : w'.balances c.token addr + net = w.balances c.token addr
  others : ∀ a, a ≠ addr → a ≠ c.merchant → a ≠ c.tokenMessenger →
    w'.balances c.token a = w.balances c.token a
  toMerchant : c.cctpMintRecipient = 0 → addr ≠ c.merchant →
    w'.balances c.token c.merchant = w.balances c.token c.merchant + net ∧ w'.burns = w.burns
  toBurn : c.cctpMintRecipient ≠ 0 → c.merchant ≠ addr → c.merchant ≠ c.tokenMessenger →
    w'.balances c.token c.merchant = w.balances c.token c.merchant ∧
    w'.burns = w.burns ++ [⟨addr, c.token, net, c.cctpDestinationDomain, c.cctpMintRecipient⟩]
  receivers : w'.receivers = w.receivers

theorem settle_ok {x : Callees} (hx : StandardCallees x) {w w' : World} {c : ChainXReceiver}
    {self : Address} {balance net : Nat} (hnet : 0 < net) (hself : self ≠ c.merchant)
    (h : settle x w c self balance net = .ok w') : Settled c self net w w' := by
  by_cases hr : c.cctpMintRecipient = 0
  · -- same-chain: one transfer to the merchant
    rw [settle, if_neg (fun hc => hc.2 hr)] at h
    obtain ⟨hle, rfl⟩ := hx.safeTransfer h
    refine ⟨?_, ?_, ?_, fun hne => absurd hr hne, rfl⟩
    · rw [World.transfer_balances, Ledger.move_src _ _ hself]
      exact Nat.sub_add_cancel hle
    · intro a ha hm _
      rw [World.transfer_balances, Ledger.move_other _ _ ha hm]
    · intro _ _
      rw [World.transfer_balances, Ledger.move_dst _ _ hself]
      exact ⟨rfl, rfl⟩
  · -- cross-chain: the approval is exactly `net`, and the messenger pulls exactly it
    rw [settle, if_pos ⟨hnet, hr⟩] at h
    simp only [bind_ok] at h
    obtain ⟨_, -, w₁, happ, hdep⟩ := h
    have hw₁ := hx.approve happ
    subst hw₁
    have hp := hx.depositForBurn hdep
    refine ⟨?_, ?_, fun h0 => absurd h0 hr, ?_, ?_⟩
    · simpa using hp.pulled
    · intro a ha _ hmsg
      simpa using hp.others a ha hmsg
    · intro _ hm hmsg
      exact ⟨by simpa using hp.others c.merchant hm hmsg, by simpa using hp.burned⟩
    · simpa using hp.receivers

/-- The parties of a receiver are pairwise different accounts. -/
structure Distinct (c : ChainXReceiver) (addr : Address) : Prop where
  receiver_merchant : addr ≠ c.merchant
  receiver_treasury : addr ≠ c.treasury
  receiver_messenger : addr ≠ c.tokenMessenger
  merchant_treasury : c.merchant ≠ c.treasury
  merchant_messenger : c.merchant ≠ c.tokenMessenger
  treasury_messenger : c.treasury ≠ c.tokenMessenger

/-- A caller who is none of the receiver's parties. -/
structure Outsider (c : ChainXReceiver) (addr origin : Address) : Prop where
  ne_receiver : origin ≠ addr
  ne_merchant : origin ≠ c.merchant
  ne_treasury : origin ≠ c.treasury
  ne_messenger : origin ≠ c.tokenMessenger

/-- What one successful sweep did to the token's balances and to the burn messages, party by
party, with `g` the gross amount it found. -/
structure SweepEffect (c : ChainXReceiver) (addr origin : Address) (g : Nat) (w w' : World) :
    Prop where
  receiver : w'.balances c.token addr = 0
  caller : w'.balances c.token origin = w.balances c.token origin + rates.callerCut g
  treasury : w'.balances c.token c.treasury = w.balances c.token c.treasury + rates.treasuryCut g
  merchant : w'.balances c.token c.merchant
    = w.balances c.token c.merchant + if c.cctpMintRecipient = 0 then rates.net g else 0
  burns : w'.burns = w.burns ++
    if c.cctpMintRecipient = 0 ∨ g = 0 then []
    else [⟨addr, c.token, rates.net g, c.cctpDestinationDomain, c.cctpMintRecipient⟩]
  others : ∀ a, a ≠ addr → a ≠ origin → a ≠ c.treasury → a ≠ c.merchant → a ≠ c.tokenMessenger →
    w'.balances c.token a = w.balances c.token a
  receivers : w'.receivers = w.receivers

/-- The balances after the two fee payments. -/
structure FeesPaid (c : ChainXReceiver) (addr origin : Address) (g : Nat) (w w' : World) :
    Prop where
  receiver : w'.balances c.token addr
    = w.balances c.token addr - rates.callerCut g - rates.treasuryCut g
  caller : w'.balances c.token origin = w.balances c.token origin + rates.callerCut g
  treasury : w'.balances c.token c.treasury = w.balances c.token c.treasury + rates.treasuryCut g
  others : ∀ a, a ≠ addr → a ≠ origin → a ≠ c.treasury →
    w'.balances c.token a = w.balances c.token a
  burns : w'.burns = w.burns
  receivers : w'.receivers = w.receivers

theorem feesPaid_ok {x : Callees} (hx : StandardCallees x) {w w₁ w₂ : World}
    {c : ChainXReceiver} {self origin : Address} {g : Nat} (hd : Distinct c self)
    (ho : Outsider c self origin)
    (h₁ : payIfPositive x w c.token self origin (rates.callerCut g) = .ok w₁)
    (h₂ : payIfPositive x w₁ c.token self c.treasury (rates.treasuryCut g) = .ok w₂) :
    FeesPaid c self origin g w w₂ := by
  obtain ⟨-, rfl⟩ := payIfPositive_ok hx h₁
  obtain ⟨-, rfl⟩ := payIfPositive_ok hx h₂
  refine ⟨?_, ?_, ?_, ?_, rfl, rfl⟩
  · rw [World.transfer_balances, Ledger.move_src _ _ hd.receiver_treasury,
      World.transfer_balances, Ledger.move_src _ _ ho.ne_receiver.symm]
  · rw [World.transfer_balances, Ledger.move_other _ _ ho.ne_receiver ho.ne_treasury,
      World.transfer_balances, Ledger.move_dst _ _ ho.ne_receiver.symm]
  · rw [World.transfer_balances, Ledger.move_dst _ _ hd.receiver_treasury,
      World.transfer_balances,
      Ledger.move_other _ _ hd.receiver_treasury.symm ho.ne_treasury.symm]
  · intro a hs ho' ht
    rw [World.transfer_balances, Ledger.move_other _ _ hs ht, World.transfer_balances,
      Ledger.move_other _ _ hs ho']

/-- Fees, then settlement: together they are the effect of a sweep that found `g > 0`. -/
theorem SweepEffect.of_payments {c : ChainXReceiver} {self origin : Address} {g : Nat}
    {w w₂ w₃ : World} (hd : Distinct c self) (ho : Outsider c self origin)
    (hg : w.balances c.token self = g) (hpos : g ≠ 0) (hf : FeesPaid c self origin g w w₂)
    (hs : Settled c self (rates.net g) w₂ w₃) : SweepEffect c self origin g w w₃ := by
  have hsplit := rates.split_sum g
  have hm := hf.others c.merchant hd.receiver_merchant.symm ho.ne_merchant.symm
    hd.merchant_treasury
  refine ⟨?_, ?_, ?_, ?_, ?_, ?_, ?_⟩
  · have h₁ := hs.paid
    have h₂ := hf.receiver
    omega
  · rw [hs.others origin ho.ne_receiver ho.ne_merchant ho.ne_messenger, hf.caller]
  · rw [hs.others c.treasury hd.receiver_treasury.symm hd.merchant_treasury.symm
      hd.treasury_messenger, hf.treasury]
  · by_cases hr0 : c.cctpMintRecipient = 0
    · rw [(hs.toMerchant hr0 hd.receiver_merchant).1, hm, if_pos hr0]
    · rw [(hs.toBurn hr0 hd.receiver_merchant.symm hd.merchant_messenger).1, hm, if_neg hr0,
        Nat.add_zero]
  · by_cases hr0 : c.cctpMintRecipient = 0
    · rw [(hs.toMerchant hr0 hd.receiver_merchant).2, hf.burns, if_pos (.inl hr0),
        List.append_nil]
    · rw [(hs.toBurn hr0 hd.receiver_merchant.symm hd.merchant_messenger).2, hf.burns,
        if_neg (fun h => h.elim hr0 hpos)]
  · intro a ha hao hat ham hamsg
    rw [hs.others a ha ham hamsg, hf.others a ha hao hat]
  · rw [hs.receivers, hf.receivers]

/-- A sweep that finds nothing has no effect. -/
theorem SweepEffect.of_empty {c : ChainXReceiver} {self origin : Address} {w : World}
    (h : w.balances c.token self = 0) : SweepEffect c self origin 0 w w where
  receiver := h
  caller := by simp
  treasury := by simp
  merchant := by simp
  burns := by simp
  others := fun _ _ _ _ _ _ => rfl
  receivers := rfl

/-- **The spec of `sweep`.**  A successful sweep returns the schedule's split of the balance it
found, and has its effect. -/
theorem sweep_cases {x : Callees} (hx : StandardCallees x) {w w' : World} {self origin : Address}
    {c : ChainXReceiver} {r : SweepResult} (hc : w.receivers self = some c)
    (hd : Distinct c self) (ho : Outsider c self origin)
    (h : sweep x w self origin = .ok (w', r)) :
    r = SweepResult.split (w.balances c.token self) ∧
      SweepEffect c self origin (w.balances c.token self) w w' := by
  simp only [sweep, bind_ok, hc, okOr_some, Except.ok.injEq, exists_eq_left', require_ok] at h
  obtain ⟨-, -, h⟩ := h
  by_cases hg : w.balances c.token self = 0
  · -- nothing to sweep
    rw [if_pos hg] at h
    obtain ⟨rfl, rfl⟩ := Prod.mk.inj (Except.ok.inj h)
    rw [hg]
    exact ⟨by simp [SweepResult.split], .of_empty hg⟩
  · rw [if_neg hg] at h
    simp only [bind_ok, checkedMul_ok, checkedSub_ok] at h
    obtain ⟨_, ⟨-, rfl⟩, net, ⟨-, rfl⟩, _, ⟨-, rfl⟩, toTreasury, ⟨-, rfl⟩, w₁, hpay₁, w₂, hpay₂,
      w₃, hset, hout⟩ := h
    obtain ⟨rfl, hr⟩ := Prod.mk.inj (Except.ok.inj hout)
    generalize hgv : w.balances c.token self = g at hg hpay₁ hpay₂ hset hr ⊢
    -- the amounts the code computes are the schedule's, by definition
    change payIfPositive x w c.token self origin (rates.callerCut g) = .ok w₁ at hpay₁
    change payIfPositive x w₁ c.token self c.treasury (rates.treasuryCut g) = .ok w₂ at hpay₂
    change settle x w₂ c self g (rates.net g) = .ok w₃ at hset
    have hf := feesPaid_ok hx hd ho hpay₁ hpay₂
    have hs := settle_ok hx (rates.net_pos (Nat.pos_of_ne_zero hg)) hd.receiver_merchant hset
    obtain ⟨h₁, h₂, h₃, h₄, h₅, h₆, h₇⟩ := SweepEffect.of_payments hd ho hgv hg hf hs
    exact ⟨hr.symm, ⟨h₁, h₂, h₃, h₄, h₅, h₆, h₇⟩⟩

end Beanie.Evm
