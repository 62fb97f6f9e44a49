/-
# `Beanie.Starknet.World` — what the Cairo receiver reads and changes

The token ledgers with their transfer log, the allowances, the messages handed
to CCTP, and the storage of every receiver.  The ERC-20 and the messenger are
code outside the repository: `Callees`.  `InterfaceCallees` states what the
receiver relies on, and of the messenger only what the interface the contract
calls declares: `send_message` sends a message and moves no tokens.
-/
import Beanie.Lib.Ledger
import Beanie.Lib.Except

namespace Beanie.Starknet

/-- The Stark field's prime. -/
def P : Nat := 2 ^ 251 + 17 * 2 ^ 192 + 1

instance : NeZero P := ⟨by decide⟩

abbrev Felt := Fin P

/-- Named, so that a definition that compares signatures does not carry a proof of it. -/
instance lawfulBEqFelts : LawfulBEq (Felt × Felt) := inferInstance

abbrev ContractAddress := Felt

abbrev U256 := BitVec 256

/-- Why a call panicked. -/
inductive Panic
  | alreadyInitialized
  | notInitialized
  | zeroAddress
  | transferFailed
  | overflow
  | maxReceiversExceeded
  | deployFailed
  | invalidDomain
  | indexOutOfBounds
  | invalidRecipient
  | unwrapNone
  | external
deriving DecidableEq, Repr

/-- Checked `u256` multiplication. -/
def u256Mul (a b : Nat) : Except Panic Nat :=
  if a * b < 2 ^ 256 then .ok (a * b) else .error .overflow

/-- Checked `u256` subtraction. -/
def u256Sub (a b : Nat) : Except Panic Nat :=
  if b ≤ a then .ok (a - b) else .error .overflow

theorem u256Mul_ok {a b n : Nat} : u256Mul a b = .ok n ↔ a * b < 2 ^ 256 ∧ a * b = n := by
  rw [u256Mul]
  split_ifs with h
  · simp only [Except.ok.injEq, h, true_and]
  · simp only [h, false_and]

theorem u256Sub_ok {a b n : Nat} : u256Sub a b = .ok n ↔ b ≤ a ∧ a - b = n := by
  by_cases h : b ≤ a <;> simp [u256Sub, h]

/-- Storage of one `StarknetReceiver`. -/
structure StarknetReceiver where
  initialized : Bool
  token : ContractAddress
  treasury : ContractAddress
  token_messenger : ContractAddress
  destination_domain : BitVec 32
  mint_recipient : U256
  merchant : ContractAddress
deriving DecidableEq

/-- Storage of a freshly deployed receiver. -/
def StarknetReceiver.blank : StarknetReceiver := ⟨false, 0, 0, 0, 0, 0, 0⟩

/-- One entry of the token's transfer log. -/
structure Transfer where
  token : ContractAddress
  sender : ContractAddress
  recipient : ContractAddress
  amount : Nat
deriving DecidableEq

/-- One `send_message` call: who sent it, and its arguments. -/
structure Message where
  sender : ContractAddress
  destination_domain : BitVec 32
  recipient : U256
  destination_caller : U256
  min_finality_threshold : BitVec 32
  message_body : List UInt8
deriving DecidableEq

inductive Event
  | initialized (token treasury : ContractAddress) (domain : BitVec 32) (recipient : U256)
  | swept (gross net fee fee_to_caller fee_to_treasury : Nat)
  | receiverRegistered (merchant receiver : ContractAddress)
  | receiverAnnounced (merchant receiver : ContractAddress) (cctp_mint_chain : Felt)
      (cctp_mint_recipient : U256)
deriving DecidableEq

structure World where
  /-- token, then holder -/
  balances : ContractAddress → Ledger ContractAddress
  transfers : List Transfer
  /-- token, then holder: what the holder has burned so far -/
  burned : ContractAddress → ContractAddress → Nat
  /-- token, owner, spender -/
  allowances : ContractAddress → ContractAddress → ContractAddress → Nat
  messages : List Message
  receivers : ContractAddress → Option StarknetReceiver
  events : List Event

namespace World

def emit (w : World) (e : Event) : World := { w with events := w.events ++ [e] }

/-- `n` units of `token` move from `src` to `dst`, and the log says so. -/
def transfer (w : World) (token src dst : ContractAddress) (n : Nat) : World :=
  { w with
    balances := Function.update w.balances token ((w.balances token).move src dst n)
    transfers := w.transfers ++ [⟨token, src, dst, n⟩] }

def setAllowance (w : World) (token owner spender : ContractAddress) (n : Nat) : World :=
  let ofOwner := Function.update (w.allowances token owner) spender n
  let ofToken := Function.update (w.allowances token) owner ofOwner
  { w with allowances := Function.update w.allowances token ofToken }

/-- All that `src` has sent of `token` so far, to anyone. -/
def sentBy (w : World) (src token : ContractAddress) : Nat :=
  ((w.transfers.filter fun t => t.sender = src ∧ t.token = token).map Transfer.amount).sum

@[simp] theorem emit_balances (w : World) (e : Event) : (w.emit e).balances = w.balances := rfl
@[simp] theorem emit_transfers (w : World) (e : Event) : (w.emit e).transfers = w.transfers := rfl
@[simp] theorem emit_burned (w : World) (e : Event) : (w.emit e).burned = w.burned := rfl
@[simp] theorem emit_receivers (w : World) (e : Event) : (w.emit e).receivers = w.receivers := rfl

@[simp] theorem transfer_balances (w : World) (token src dst : ContractAddress) (n : Nat) :
    (w.transfer token src dst n).balances token = (w.balances token).move src dst n := by
  simp [transfer]

@[simp] theorem transfer_transfers (w : World) (token src dst : ContractAddress) (n : Nat) :
    (w.transfer token src dst n).transfers = w.transfers ++ [⟨token, src, dst, n⟩] := rfl
@[simp] theorem transfer_burned (w : World) (token src dst : ContractAddress) (n : Nat) :
    (w.transfer token src dst n).burned = w.burned := rfl
@[simp] theorem transfer_receivers (w : World) (token src dst : ContractAddress) (n : Nat) :
    (w.transfer token src dst n).receivers = w.receivers := rfl

@[simp] theorem setAllowance_balances (w : World) (token owner spender : ContractAddress)
    (n : Nat) : (w.setAllowance token owner spender n).balances = w.balances := rfl
@[simp] theorem setAllowance_transfers (w : World) (token owner spender : ContractAddress)
    (n : Nat) : (w.setAllowance token owner spender n).transfers = w.transfers := rfl
@[simp] theorem setAllowance_burned (w : World) (token owner spender : ContractAddress)
    (n : Nat) : (w.setAllowance token owner spender n).burned = w.burned := rfl
@[simp] theorem setAllowance_receivers (w : World) (token owner spender : ContractAddress)
    (n : Nat) : (w.setAllowance token owner spender n).receivers = w.receivers := rfl

/-- What a list of log entries says `src` sent. -/
def sum (ts : List Transfer) : Nat := (ts.map Transfer.amount).sum

/-- The log of `src`'s own transfers grows by exactly the entries `src` adds. -/
theorem sentBy_append {w w' : World} {src token : ContractAddress} {ts : List Transfer}
    (h : w'.transfers = w.transfers ++ ts) (hts : ∀ t ∈ ts, t.sender = src ∧ t.token = token) :
    w'.sentBy src token = w.sentBy src token + sum ts := by
  have hfilter : ts.filter (fun t => t.sender = src ∧ t.token = token) = ts :=
    List.filter_eq_self.mpr (fun t ht => by simp [hts t ht])
  simp only [sentBy, h, List.filter_append, List.map_append, List.sum_append, hfilter, sum]

end World

/-- Code outside the repository that a sweep calls. -/
structure Callees where
  /-- `IERC20.transfer`, called by `sender` on `token`; it returns a success flag. -/
  transfer : World → (token sender recipient : ContractAddress) → Nat →
    Except Panic (World × Bool)
  /-- `IERC20.approve`, called by `owner` on `token`. -/
  approve : World → (token owner spender : ContractAddress) → Nat → Except Panic (World × Bool)
  /-- `send_message`, called on the messenger. -/
  send_message : World → (messenger : ContractAddress) → Message → Except Panic World
  /-- `BurnMessageV2::format_message_for_relay`: version, burn token, mint recipient, amount,
  sender, maximum fee, hook data. -/
  format_message_for_relay : Nat → U256 → U256 → Nat → U256 → Nat → List UInt8 → List UInt8

/-- A standard ERC-20, and a messenger that does what the called interface declares. -/
structure InterfaceCallees (x : Callees) : Prop where
  transfer : ∀ {w w' token sender recipient n},
    x.transfer w token sender recipient n = .ok (w', true) →
      n ≤ w.balances token sender ∧ w' = w.transfer token sender recipient n
  approve : ∀ {w w' token owner spender n b},
    x.approve w token owner spender n = .ok (w', b) → w' = w.setAllowance token owner spender n
  send_message : ∀ {w w' messenger m},
    x.send_message w messenger m = .ok w' → w' = { w with messages := w.messages ++ [m] }

/-- A token that keeps its ledger exactly, and a messenger that records what it is sent. -/
def ledgerCallees : Callees where
  transfer w token sender recipient n :=
    if n ≤ w.balances token sender then .ok (w.transfer token sender recipient n, true)
    else .error .external
  approve w token owner spender n := .ok (w.setAllowance token owner spender n, true)
  send_message w _ m := .ok { w with messages := w.messages ++ [m] }
  format_message_for_relay _ _ _ _ _ _ _ := []

theorem interfaceCallees_ledger : InterfaceCallees ledgerCallees where
  transfer := by
    intro w w' token sender recipient n h
    simp only [ledgerCallees] at h
    split_ifs at h with hn
    exact ⟨hn, (Prod.mk.inj (Except.ok.inj h)).1.symm⟩
  approve := by
    intro w w' token owner spender n b h
    exact (Prod.mk.inj (Except.ok.inj h)).1.symm
  send_message := by
    intro w w' messenger m h
    exact (Except.ok.inj h).symm

end Beanie.Starknet
