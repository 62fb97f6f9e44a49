/-
# `Beanie.Evm.World` — what the receiver contracts read and change

The world holds the token ledgers, the allowances, the CCTP burn messages and
the storage of every deployed receiver.  The ERC-20 token and Circle's token
messenger are code outside the repository: they are the functions of `Callees`,
and `StandardCallees` states what the receiver relies on.

    safeTransfer      moves exactly the amount, or reverts
    approve           sets one allowance
    depositForBurn    pulls exactly the approved amount and burns it toward the
                      given domain and recipient, or reverts
-/
import Beanie.Lib.Ledger
import Beanie.Lib.Except

namespace Beanie.Evm

abbrev Address := BitVec 160
abbrev Bytes32 := BitVec 256
/-- A CCTP domain id (`uint32`). -/
abbrev Domain := BitVec 32

/-- Why a call reverted: the contracts' custom errors, a `require` with its text,
Solidity's arithmetic panic, or a callee's own revert. -/
inductive Revert
  | alreadyInitialized
  | notInitialized
  | zeroAddress
  | maximumReceiversExceeded
  | invalidDomain
  | indexOutOfBounds
  | unauthorized
  | reason (msg : String)
  | panic
  | external
deriving DecidableEq, Repr

/-- Checked `uint256` multiplication. -/
def checkedMul (a b : Nat) : Except Revert Nat :=
  if a * b < 2 ^ 256 then .ok (a * b) else .error .panic

/-- Checked `uint256` subtraction. -/
def checkedSub (a b : Nat) : Except Revert Nat :=
  if b ≤ a then .ok (a - b) else .error .panic

theorem checkedMul_ok {a b n : Nat} : checkedMul a b = .ok n ↔ a * b < 2 ^ 256 ∧ a * b = n := by
  rw [checkedMul]
  split_ifs with h
  · simp only [Except.ok.injEq, h, true_and]
  · simp only [h, false_and]

theorem checkedSub_ok {a b n : Nat} : checkedSub a b = .ok n ↔ b ≤ a ∧ a - b = n := by
  by_cases h : b ≤ a <;> simp [checkedSub, h]

/-- Storage of one `ChainXReceiver`. -/
structure ChainXReceiver where
  initialized : Bool
  token : Address
  treasury : Address
  tokenMessenger : Address
  cctpDestinationDomain : Domain
  cctpMintRecipient : Bytes32
  merchant : Address
deriving DecidableEq

/-- Storage of a freshly deployed clone. -/
def ChainXReceiver.blank : ChainXReceiver := ⟨false, 0, 0, 0, 0, 0, 0⟩

/-- The arguments of `ITokenMessengerV2.depositForBurn`. -/
structure DepositForBurn where
  amount : Nat
  destinationDomain : Domain
  mintRecipient : Bytes32
  burnToken : Address
  destinationCaller : Bytes32
  maxFee : Nat
  minFinalityThreshold : BitVec 32
deriving DecidableEq

/-- One burn through CCTP: who burned, how much of which token, toward where. -/
structure Burn where
  depositor : Address
  burnToken : Address
  amount : Nat
  destinationDomain : Domain
  mintRecipient : Bytes32
deriving DecidableEq

inductive Event
  | initialized (token treasury : Address) (domain : Domain) (recipient : Bytes32)
  | swept (grossAmount netAmount feeAmount feeToCaller feeToTreasury : Nat)
  | receiverRegistered (merchant receiver : Address)
  | receiverAnnounced (merchant receiver : Address) (cctpMintChain cctpMintRecipient : Bytes32)
deriving DecidableEq

structure World where
  /-- token, then holder -/
  balances : Address → Ledger Address
  /-- token, owner, spender -/
  allowances : Address → Address → Address → Nat
  burns : List Burn
  receivers : Address → Option ChainXReceiver
  events : List Event

namespace World

def emit (w : World) (e : Event) : World := { w with events := w.events ++ [e] }

/-- `n` units of `token` move from `src` to `dst`. -/
def transfer (w : World) (token src dst : Address) (n : Nat) : World :=
  { w with balances := Function.update w.balances token ((w.balances token).move src dst n) }

def setAllowance (w : World) (token owner spender : Address) (n : Nat) : World :=
  let ofOwner := Function.update (w.allowances token owner) spender n
  let ofToken := Function.update (w.allowances token) owner ofOwner
  { w with allowances := Function.update w.allowances token ofToken }

/-- All that `depositor` has burned of `token` so far. -/
def burnedBy (w : World) (depositor token : Address) : Nat :=
  ((w.burns.filter fun b => b.depositor = depositor ∧ b.burnToken = token).map Burn.amount).sum

@[simp] theorem emit_balances (w : World) (e : Event) : (w.emit e).balances = w.balances := rfl
@[simp] theorem emit_burns (w : World) (e : Event) : (w.emit e).burns = w.burns := rfl
@[simp] theorem emit_receivers (w : World) (e : Event) : (w.emit e).receivers = w.receivers := rfl

@[simp] theorem transfer_balances (w : World) (token src dst : Address) (n : Nat) :
    (w.transfer token src dst n).balances token = (w.balances token).move src dst n := by
  simp [transfer]

@[simp] theorem transfer_burns (w : World) (token src dst : Address) (n : Nat) :
    (w.transfer token src dst n).burns = w.burns := rfl
@[simp] theorem transfer_receivers (w : World) (token src dst : Address) (n : Nat) :
    (w.transfer token src dst n).receivers = w.receivers := rfl

@[simp] theorem transfer_zero (w : World) (token src dst : Address) :
    w.transfer token src dst 0 = w := by
  simp [transfer]

@[simp] theorem setAllowance_balances (w : World) (token owner spender : Address) (n : Nat) :
    (w.setAllowance token owner spender n).balances = w.balances := rfl
@[simp] theorem setAllowance_burns (w : World) (token owner spender : Address) (n : Nat) :
    (w.setAllowance token owner spender n).burns = w.burns := rfl
@[simp] theorem setAllowance_receivers (w : World) (token owner spender : Address) (n : Nat) :
    (w.setAllowance token owner spender n).receivers = w.receivers := rfl
@[simp] theorem setAllowance_self (w : World) (token owner spender : Address) (n : Nat) :
    (w.setAllowance token owner spender n).allowances token owner spender = n := by
  simp [setAllowance]

theorem burnedBy_append {w w' : World} {b : Burn} (h : w'.burns = w.burns ++ [b]) :
    w'.burnedBy b.depositor b.burnToken = w.burnedBy b.depositor b.burnToken + b.amount := by
  simp [burnedBy, h]

theorem burnedBy_congr {w w' : World} (h : w'.burns = w.burns) (depositor token : Address) :
    w'.burnedBy depositor token = w.burnedBy depositor token := by
  simp [burnedBy, h]

end World

/-- Code outside the repository that a sweep calls. -/
structure Callees where
  /-- OpenZeppelin's `SafeERC20.safeTransfer`, called by `sender` on `token`. -/
  safeTransfer : World → (token sender recipient : Address) → Nat → Except Revert World
  /-- `IERC20.approve`, called by `owner` on `token`. -/
  approve : World → (token owner spender : Address) → Nat → Except Revert World
  /-- `ITokenMessengerV2.depositForBurn`, called by `caller` on the messenger at `messenger`. -/
  depositForBurn : World → (messenger caller : Address) → DepositForBurn → Except Revert World

/-- What a successful `depositForBurn` does: it pulls exactly what `caller` approved and
burns it.  The messenger may keep the tokens or destroy them, so its own balance is free. -/
structure PulledAndBurned (w w' : World) (messenger caller : Address) (d : DepositForBurn) :
    Prop where
  pulled : w'.balances d.burnToken caller + w.allowances d.burnToken caller messenger
    = w.balances d.burnToken caller
  others : ∀ a, a ≠ caller → a ≠ messenger →
    w'.balances d.burnToken a = w.balances d.burnToken a
  burned : w'.burns
    = w.burns ++ [⟨caller, d.burnToken, d.amount, d.destinationDomain, d.mintRecipient⟩]
  receivers : w'.receivers = w.receivers

/-- A standard ERC-20 without transfer fee, and a messenger that pulls what was approved. -/
structure StandardCallees (x : Callees) : Prop where
  safeTransfer : ∀ {w w' token sender recipient n},
    x.safeTransfer w token sender recipient n = .ok w' →
      n ≤ w.balances token sender ∧ w' = w.transfer token sender recipient n
  approve : ∀ {w w' token owner spender n},
    x.approve w token owner spender n = .ok w' → w' = w.setAllowance token owner spender n
  depositForBurn : ∀ {w w' messenger caller d},
    x.depositForBurn w messenger caller d = .ok w' → PulledAndBurned w w' messenger caller d

/-- A token that keeps its ledger exactly, and a messenger that destroys what it pulls. -/
def ledgerCallees : Callees where
  safeTransfer w token sender recipient n :=
    if n ≤ w.balances token sender then .ok (w.transfer token sender recipient n)
    else .error .external
  approve w token owner spender n := .ok (w.setAllowance token owner spender n)
  depositForBurn w messenger caller d :=
    let pulled := w.allowances d.burnToken caller messenger
    let burn : Burn := ⟨caller, d.burnToken, d.amount, d.destinationDomain, d.mintRecipient⟩
    if pulled ≤ w.balances d.burnToken caller then
      .ok { w with
        balances := Function.update w.balances d.burnToken
          ((w.balances d.burnToken).debit caller pulled)
        burns := w.burns ++ [burn] }
    else .error .external

theorem standardCallees_ledger : StandardCallees ledgerCallees where
  safeTransfer := by
    intro w w' token sender recipient n h
    simp only [ledgerCallees] at h
    split_ifs at h with hn
    exact ⟨hn, (Except.ok.inj h).symm⟩
  approve := by
    intro w w' token owner spender n h
    exact (Except.ok.inj h).symm
  depositForBurn := by
    intro w w' messenger caller d h
    simp only [ledgerCallees] at h
    split_ifs at h with hn
    have hw := (Except.ok.inj h).symm
    subst hw
    refine ⟨?_, ?_, rfl, rfl⟩
    · simpa using Nat.sub_add_cancel hn
    · intro a ha _
      simp [Ledger.debit_other _ _ ha]

end Beanie.Evm
