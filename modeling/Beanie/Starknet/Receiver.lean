/-
# `Beanie.Starknet.Receiver` — `initialize` and `sweep`

`receiver.cairo`, function by function.  The spec lemma of `sweep` is
`sweep_cases`: a successful sweep of a positive balance sent the two fee parts
and, on the same-chain branch only, the net amount.  On the cross-chain branch
the net amount is approved and named in a message, and stays where it is.
-/
import Beanie.Lib.Bytes
import Beanie.Lib.FeeSchedule
import Beanie.Starknet.World

namespace Beanie.Starknet

def FEE_BPS : Nat := 50
def BPS_DENOM : Nat := 10000
def CALLER_SHARE_BPS : Nat := 1000
def CCTP_MAX_FEE_BPS : Nat := 15

/-- The schedule the constants spell out. -/
def rates : FeeRates where
  feeBps := FEE_BPS
  callerShareBps := CALLER_SHARE_BPS
  denom := BPS_DENOM
  denom_pos := by decide
  feeBps_lt := by decide
  callerShareBps_le := by decide

/-- `initialize`, on the receiver at `self`. -/
def initializeCall (w : World) (self token treasury token_messenger : ContractAddress)
    (destination_domain : BitVec 32) (mint_recipient : U256) (merchant : ContractAddress) :
    Except Panic World := do
  let c ← okOr (w.receivers self) .external
  require (c.initialized = false) .alreadyInitialized
  require (token ≠ 0 ∧ treasury ≠ 0 ∧ token_messenger ≠ 0 ∧ merchant ≠ 0) .zeroAddress
  let c' : StarknetReceiver :=
    ⟨true, token, treasury, token_messenger, destination_domain, mint_recipient, merchant⟩
  .ok ({ w with receivers := Function.update w.receivers self (some c') }.emit
    (.initialized token treasury destination_domain mint_recipient))

/-- What `sweep` returns. -/
structure SweepResult where
  net : Nat
  fee_to_caller : Nat
  fee_to_treasury : Nat
  fee : Nat
deriving DecidableEq

/-- `assert(erc20.transfer(recipient, amount), Errors::TRANSFER_FAILED)`. -/
def assertTransfer (x : Callees) (w : World) (token self recipient : ContractAddress)
    (amount : Nat) : Except Panic World := do
  let (w, sent) ← x.transfer w token self recipient amount
  require (sent = true) .transferFailed
  .ok w

/-- The guarded fee payment. -/
def payIfPositive (x : Callees) (w : World) (token self recipient : ContractAddress)
    (amount : Nat) : Except Panic World :=
  if 0 < amount then assertTransfer x w token self recipient amount else .ok w

/-- A contract address read as a `u256`. -/
def ContractAddress.toU256 (a : ContractAddress) : U256 := BitVec.ofNat 256 a.val

/-- The settlement branch of `sweep`. -/
def settle (x : Callees) (w : World) (c : StarknetReceiver) (self : ContractAddress)
    (gross net : Nat) : Except Panic World :=
  if 0 < net then
    if c.mint_recipient ≠ 0 then do
      let max_fee := (← u256Mul gross CCTP_MAX_FEE_BPS) / BPS_DENOM
      let burn_message := x.format_message_for_relay 1 (ContractAddress.toU256 c.token)
        c.mint_recipient net (ContractAddress.toU256 self) max_fee []
      let (w, _) ← x.approve w c.token self c.token_messenger net
      x.send_message w c.token_messenger
        { sender := self
          destination_domain := c.destination_domain
          recipient := c.mint_recipient
          destination_caller := 0
          min_finality_threshold := 1000
          message_body := burn_message }
    else assertTransfer x w c.token self c.merchant net
  else .ok w

/-- `sweep`, called by `caller` on the receiver at `self`. -/
def sweep (x : Callees) (w : World) (self caller : ContractAddress) :
    Except Panic (World × SweepResult) := do
  let c ← okOr (w.receivers self) .external
  require (c.initialized = true) .notInitialized
  let gross := w.balances c.token self
  if gross = 0 then .ok (w, ⟨0, 0, 0, 0⟩)
  else do
    let fee := (← u256Mul gross FEE_BPS) / BPS_DENOM
    let net ← u256Sub gross fee
    let fee_to_caller := (← u256Mul fee CALLER_SHARE_BPS) / BPS_DENOM
    let fee_to_treasury ← u256Sub fee fee_to_caller
    let w ← payIfPositive x w c.token self caller fee_to_caller
    let w ← payIfPositive x w c.token self c.treasury fee_to_treasury
    let w ← settle x w c self gross net
    .ok (w.emit (.swept gross net fee fee_to_caller fee_to_treasury),
      ⟨net, fee_to_caller, fee_to_treasury, fee⟩)

/-- `initialize` pins what it is given. -/
theorem initializeCall_ok {w w' : World} {self token treasury messenger merchant : ContractAddress}
    {domain : BitVec 32} {recipient : U256}
    (h : initializeCall w self token treasury messenger domain recipient merchant = .ok w') :
    w'.receivers self
      = some ⟨true, token, treasury, messenger, domain, recipient, merchant⟩ ∧
      w'.balances = w.balances := by
  simp only [initializeCall, bind_ok] at h
  obtain ⟨c, -, -, -, -, -, hout⟩ := h
  have hw' := (Except.ok.inj hout).symm
  subst hw'
  exact ⟨Function.update_self .., rfl⟩

/-- An initialised receiver cannot be initialised again. -/
theorem initializeCall_error {w : World} {self : ContractAddress} {c : StarknetReceiver}
    (hc : w.receivers self = some c) (hinit : c.initialized = true)
    (token treasury messenger : ContractAddress) (domain : BitVec 32) (recipient : U256)
    (merchant : ContractAddress) :
    initializeCall w self token treasury messenger domain recipient merchant
      = .error .alreadyInitialized := by
  simp [initializeCall, hc, hinit, require]

/-- The split of the schedule, as `sweep` returns it. -/
def SweepResult.split (gross : Nat) : SweepResult :=
  ⟨rates.net gross, rates.callerCut gross, rates.treasuryCut gross, rates.fee gross⟩

/-- What leaves `self`'s balance when it sends `n` to `recipient`. -/
def leaves (self recipient : ContractAddress) (n : Nat) : Nat := if recipient = self then 0 else n

/-- `w'` is `w` after transfers by `addr` of `token`, logged as `ts`, which took `n` off its
balance. -/
structure Sent (addr token : ContractAddress) (ts : List Transfer) (n : Nat) (w w' : World) :
    Prop where
  balance : w'.balances token addr + n = w.balances token addr
  transfers : w'.transfers = w.transfers ++ ts
  sender : ∀ t ∈ ts, t.sender = addr ∧ t.token = token
  burned : w'.burned = w.burned
  receivers : w'.receivers = w.receivers

theorem Sent.none {self token : ContractAddress} (w : World) : Sent self token [] 0 w w :=
  ⟨by simp, by simp, by simp, rfl, rfl⟩

theorem Sent.trans {self token : ContractAddress} {ts us : List Transfer} {m n : Nat}
    {w w' w'' : World} (h₁ : Sent self token ts m w w') (h₂ : Sent self token us n w' w'') :
    Sent self token (ts ++ us) (m + n) w w'' where
  balance := by
    have h₁ := h₁.balance
    have h₂ := h₂.balance
    omega
  transfers := by rw [h₂.transfers, h₁.transfers, List.append_assoc]
  sender := fun t ht => (List.mem_append.mp ht).elim (h₁.sender t) (h₂.sender t)
  burned := h₂.burned.trans h₁.burned
  receivers := h₂.receivers.trans h₁.receivers

theorem assertTransfer_ok {x : Callees} (hx : InterfaceCallees x) {w w' : World}
    {token self recipient : ContractAddress} {n : Nat}
    (h : assertTransfer x w token self recipient n = .ok w') :
    Sent self token [⟨token, self, recipient, n⟩] (leaves self recipient n) w w' := by
  simp only [assertTransfer, bind_ok, require_ok] at h
  obtain ⟨⟨w₁, sent⟩, htransfer, -, rfl, hout⟩ := h
  obtain ⟨hle, hw₁⟩ := hx.transfer htransfer
  have hw' := (Except.ok.inj hout).symm
  subst hw' hw₁
  refine ⟨?_, rfl, by simp, rfl, rfl⟩
  rw [World.transfer_balances]
  by_cases hself : recipient = self
  · subst hself
    rw [Ledger.move_self _ hle, leaves, if_pos rfl, Nat.add_zero]
  · rw [Ledger.move_src _ _ (Ne.symm hself), leaves, if_neg hself]
    exact Nat.sub_add_cancel hle

/-- The log entry of a payment, if one was made. -/
def entry (token self recipient : ContractAddress) (n : Nat) : List Transfer :=
  if 0 < n then [⟨token, self, recipient, n⟩] else []

theorem payIfPositive_ok {x : Callees} (hx : InterfaceCallees x) {w w' : World}
    {token self recipient : ContractAddress} {n : Nat}
    (h : payIfPositive x w token self recipient n = .ok w') :
    Sent self token (entry token self recipient n) (leaves self recipient n) w w' := by
  by_cases hn : 0 < n
  · rw [payIfPositive, if_pos hn] at h
    rw [entry, if_pos hn]
    exact assertTransfer_ok hx h
  · rw [payIfPositive, if_neg hn] at h
    have hw' := (Except.ok.inj h).symm
    have h0 : n = 0 := Nat.eq_zero_of_not_pos hn
    subst hw' h0
    rw [entry, if_neg hn, leaves, ite_self]
    exact .none _

/-- The same-chain branch sends the net amount to the merchant; the cross-chain branch sends
nothing. -/
theorem settle_ok {x : Callees} (hx : InterfaceCallees x) {w w' : World} {c : StarknetReceiver}
    {self : ContractAddress} {gross net : Nat} (hnet : 0 < net)
    (h : settle x w c self gross net = .ok w') :
    if c.mint_recipient = 0 then
      Sent self c.token [⟨c.token, self, c.merchant, net⟩] (leaves self c.merchant net) w w'
    else Sent self c.token [] 0 w w' := by
  rw [settle, if_pos hnet] at h
  by_cases hr : c.mint_recipient = 0
  · rw [if_neg (not_not.mpr hr)] at h
    rw [if_pos hr]
    exact assertTransfer_ok hx h
  · rw [if_pos hr] at h
    rw [if_neg hr]
    simp only [bind_ok] at h
    obtain ⟨_, -, ⟨w₁, b⟩, happrove, hmsg⟩ := h
    have hw₁ := hx.approve happrove
    have hw' := hx.send_message hmsg
    subst hw' hw₁
    exact ⟨by simp, by simp, by simp, rfl, rfl⟩

/-- What takes the settlement off the receiver's balance, and its log entry. -/
def settled (c : StarknetReceiver) (self : ContractAddress) (g : Nat) : Nat :=
  if c.mint_recipient = 0 then leaves self c.merchant (rates.net g) else 0

def settledEntry (c : StarknetReceiver) (self : ContractAddress) (g : Nat) : List Transfer :=
  if c.mint_recipient = 0 then [⟨c.token, self, c.merchant, rates.net g⟩] else []

/-- The transfers of one sweep that found `g > 0`. -/
def sweepEntries (c : StarknetReceiver) (self caller : ContractAddress) (g : Nat) :
    List Transfer :=
  entry c.token self caller (rates.callerCut g)
    ++ entry c.token self c.treasury (rates.treasuryCut g) ++ settledEntry c self g

/-- What one sweep that found `g > 0` takes off the receiver's balance. -/
def sweepLeaves (c : StarknetReceiver) (self caller : ContractAddress) (g : Nat) : Nat :=
  leaves self caller (rates.callerCut g) + leaves self c.treasury (rates.treasuryCut g)
    + settled c self g

/-- **The spec of `sweep`.** -/
theorem sweep_cases {x : Callees} (hx : InterfaceCallees x) {w w' : World}
    {self caller : ContractAddress} {c : StarknetReceiver} {r : SweepResult}
    (hc : w.receivers self = some c) (h : sweep x w self caller = .ok (w', r)) :
    (w.balances c.token self = 0 ∧ w' = w ∧ r = ⟨0, 0, 0, 0⟩) ∨
      (w.balances c.token self ≠ 0 ∧ r = SweepResult.split (w.balances c.token self) ∧
        Sent self c.token (sweepEntries c self caller (w.balances c.token self))
          (sweepLeaves c self caller (w.balances c.token self)) w w') := by
  simp only [sweep, bind_ok, hc, okOr_some, Except.ok.injEq, exists_eq_left', require_ok] at h
  obtain ⟨-, -, h⟩ := h
  by_cases hg : w.balances c.token self = 0
  · rw [if_pos hg] at h
    obtain ⟨rfl, rfl⟩ := Prod.mk.inj (Except.ok.inj h)
    exact .inl ⟨hg, rfl, rfl⟩
  · rw [if_neg hg] at h
    simp only [bind_ok, u256Mul_ok, u256Sub_ok] at h
    obtain ⟨_, ⟨-, rfl⟩, net, ⟨-, rfl⟩, _, ⟨-, rfl⟩, toTreasury, ⟨-, rfl⟩, w₁, hpay₁, w₂, hpay₂,
      w₃, hset, hout⟩ := h
    obtain ⟨rfl, hr⟩ := Prod.mk.inj (Except.ok.inj hout)
    generalize w.balances c.token self = g at hg hpay₁ hpay₂ hset hr ⊢
    -- the amounts the code computes are the schedule's, by definition
    change payIfPositive x w c.token self caller (rates.callerCut g) = .ok w₁ at hpay₁
    change payIfPositive x w₁ c.token self c.treasury (rates.treasuryCut g) = .ok w₂ at hpay₂
    change settle x w₂ c self g (rates.net g) = .ok w₃ at hset
    have hfees := (payIfPositive_ok hx hpay₁).trans (payIfPositive_ok hx hpay₂)
    have hsettle := settle_ok hx (rates.net_pos (Nat.pos_of_ne_zero hg)) hset
    have hall : Sent self c.token (sweepEntries c self caller g) (sweepLeaves c self caller g)
        w w₃ := by
      rw [sweepEntries, sweepLeaves, settledEntry, settled]
      by_cases hmr : c.mint_recipient = 0
      · rw [if_pos hmr] at hsettle ⊢
        rw [if_pos hmr]
        exact hfees.trans hsettle
      · rw [if_neg hmr] at hsettle ⊢
        rw [if_neg hmr]
        exact hfees.trans hsettle
    exact .inr ⟨hg, hr.symm, ⟨hall.1, hall.2, hall.3, hall.4, hall.5⟩⟩

/-- Everything a sweep sends goes to its caller, the pinned treasury or the pinned merchant. -/
theorem sweepEntries_recipient {c : StarknetReceiver} {self caller : ContractAddress} {g : Nat} :
    ∀ t ∈ sweepEntries c self caller g,
      t.recipient = caller ∨ t.recipient = c.treasury ∨ t.recipient = c.merchant := by
  intro t ht
  simp only [sweepEntries, entry, settledEntry, List.mem_append] at ht
  rcases ht with (ht | ht) | ht
  all_goals
    split_ifs at ht
    · rw [List.mem_singleton.mp ht]
      simp
    · exact absurd ht List.not_mem_nil

end Beanie.Starknet
