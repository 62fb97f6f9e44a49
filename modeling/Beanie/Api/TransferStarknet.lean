/-
# `Beanie.Api.TransferStarknet` — the Starknet transfer worker

`transfer_workers/starknet.rs`: what a tip does, forced or not, and what is
done about the deposits it finds.  The webhook map this worker is given is
empty, so neither its `setWebhookUrl` nor its jobs appear here.

    actOnStarknetDeposits    register and sweep, in one transaction
    processStarknetTip       both scans, then the deposits
-/
import Beanie.Api.PaymentWorkers
import Beanie.Keeper.StarknetIndexer

namespace Beanie.Api

open Beanie.Starknet (Felt)
open Beanie.Keeper (StarknetTexts StarknetConfig StarknetChain StarknetReceiverRecord)

/-- One response of the `balanceOf` batch. -/
inductive StarknetBalance
  | values (vs : List Felt)
  | unexpected

def StarknetBalance.nonzero : StarknetBalance → Bool
  | values vs => vs.any (· ≠ 0)
  | unexpected => true

/-- `get_class_hash_at`. -/
inductive ClassHash
  | hash (class_hash : Felt)
  | contractNotFound
  | error

structure StarknetState where
  merchant_map : AList fun _ : Felt => StarknetReceiverInfo
  deployed : Finset Felt
  next_nonce : Option Felt

/-- What the network answers while one batch of deposits is processed. -/
structure StarknetAnswers where
  /-- `batch_check_nonzero_balance`'s responses; `none` is an error. -/
  balances : Option (Felt → StarknetBalance)
  get_class_hash_at : Felt → ClassHash
  get_nonce : Option Felt
  /-- `execute_v3(calls).nonce(nonce).send()`: the hash of a transaction that was accepted. -/
  send : Option Text

/-- The worker's configuration. -/
structure StarknetTransfer where
  tx : StarknetTexts
  cfg : StarknetConfig
  factory_address : Felt
  /-- `get_selector_from_name` -/
  selector : Text → Option Felt

/-! ## Receivers -/

/-- `remember_starknet_receiver`. -/
def rememberStarknetReceiver (map : AList fun _ : Felt => StarknetReceiverInfo)
    (rec : StarknetReceiverRecord) : AList fun _ : Felt => StarknetReceiverInfo :=
  let known :=
    match map.lookup rec.receiver with
    | some info => info.route
    | none => none
  let route :=
    match rec.route with
    | some r => some ⟨r.chain, r.recipient_low, r.recipient_high⟩
    | none => known
  map.insert rec.receiver ⟨rec.merchant, route⟩

section
variable (w : StarknetTransfer) (net : StarknetAnswers)

/-! ## A batch of deposits -/

/-- The receivers of the deposits, each once. -/
def uniqueFelts (deposits : List Keeper.Deposit) : List Felt :=
  ((deposits.filterMap fun d => w.tx.parseFelt d.receiver).insertionSort
    (·.val ≤ ·.val)).dedup

def hasBalance (receiver : Felt) : Bool :=
  match net.balances with
  | some answers => (answers receiver).nonzero
  | none => true

/-- Is there a contract at the receiver's address, as far as the node can tell? -/
def exists? (receiver : Felt) : Option Bool :=
  match net.get_class_hash_at receiver with
  | .hash class_hash => some (class_hash ≠ 0)
  | .contractNotFound => some false
  | .error => none

/-- What the loop over the receivers builds. -/
structure StarknetBatch where
  deployed : Finset Felt
  calls : List Starknet.Call
  pending_deploys : List Felt

def addStarknetSweep (sweep_selector receiver : Felt) (batch : StarknetBatch) : StarknetBatch :=
  { batch with calls := batch.calls ++ [⟨receiver, sweep_selector, []⟩] }

def addStarknetRegister (register_selector receiver : Felt) (info : StarknetReceiverInfo)
    (route : StarknetRoute) (batch : StarknetBatch) : StarknetBatch :=
  { batch with
    calls := batch.calls ++ [⟨w.factory_address, register_selector,
      [info.merchant, route.chain, route.recipient_low, route.recipient_high]⟩]
    pending_deploys := batch.pending_deploys ++ [receiver] }

/-- One receiver of the loop. -/
def addStarknetReceiver (map : AList fun _ : Felt => StarknetReceiverInfo)
    (register_selector sweep_selector : Felt) (batch : StarknetBatch) (receiver : Felt) :
    StarknetBatch :=
  match map.lookup receiver with
  | none => batch
  | some info =>
      if !hasBalance net receiver then batch
      else if receiver ∈ batch.deployed then addStarknetSweep sweep_selector receiver batch
      else
        match exists? net receiver with
        | none => batch
        | some true =>
            addStarknetSweep sweep_selector receiver
              { batch with deployed := insert receiver batch.deployed }
        | some false =>
            match info.route with
            | none => batch
            | some route =>
                addStarknetSweep sweep_selector receiver
                  (addStarknetRegister w register_selector receiver info route batch)

structure StarknetPass where
  state : StarknetState
  /-- the calls of the transaction, if any were built -/
  sent : List Starknet.Call
  pending_deploys : List Felt
  sweep_tx : Option Text

/-- `act_on_starknet_deposits`. -/
def actOnStarknetDeposits (st : StarknetState) (deposits : List Keeper.Deposit) : StarknetPass :=
  if deposits.isEmpty then ⟨st, [], [], none⟩
  else
    match w.selector "register_merchant".toList, w.selector "sweep".toList with
    | some register_selector, some sweep_selector =>
        let batch := (uniqueFelts w deposits).foldl
          (addStarknetReceiver w net st.merchant_map register_selector sweep_selector)
          ⟨st.deployed, [], []⟩
        let nonce :=
          match st.next_nonce with
          | some nonce => nonce
          | none => net.get_nonce.getD 0
        if batch.calls.isEmpty then
          ⟨{ st with deployed := batch.deployed, next_nonce := some nonce }, [], [], none⟩
        else
          match net.send with
          | some tx_hash =>
              ⟨{ st with
                  deployed := batch.deployed ∪ batch.pending_deploys.toFinset
                  next_nonce := some (nonce + 1) },
                batch.calls, batch.pending_deploys, some tx_hash⟩
          | none =>
              ⟨{ st with deployed := batch.deployed, next_nonce := none },
                batch.calls, batch.pending_deploys, none⟩
    | _, _ => ⟨st, [], [], none⟩

/-! ## A tip -/

variable (chain : StarknetChain)

/-- The log cache's two Starknet checkpoints. -/
structure StarknetCheckpoints where
  registry : Option Nat
  deposits : Option Nat

/-- What one tip is answered: the pages of the two scans, and the rest. -/
structure StarknetTipAnswers where
  registry_pages : List (List Bool)
  deposit_pages : List (List Bool)
  net : StarknetAnswers

structure StarknetTipResult where
  state : StarknetState
  checkpoints : StarknetCheckpoints
  /-- what the deposit scan returned -/
  deposits : List Keeper.Deposit
  /-- what was done about it -/
  pass : StarknetPass

/-- The receivers known once a tip's registry scan is in; one that fails is only logged. -/
def knownAt (answers : StarknetTipAnswers) (st : StarknetState) (cps : StarknetCheckpoints)
    (tip : Nat) : AList fun _ : Felt => StarknetReceiverInfo :=
  (Keeper.discoverMerchants w.tx chain w.cfg cps.registry tip
    answers.registry_pages).outcome.returned.foldl rememberStarknetReceiver st.merchant_map

/-- `process_starknet_tip`, once it is due. -/
def processStarknetTip (answers : StarknetTipAnswers) (st : StarknetState)
    (cps : StarknetCheckpoints) (tip : Nat) : StarknetTipResult :=
  let registry := Keeper.discoverMerchants w.tx chain w.cfg cps.registry tip answers.registry_pages
  let known := knownAt w chain answers st cps tip
  let st := { st with merchant_map := known }
  if known.keys.isEmpty then ⟨st, ⟨registry.checkpoint, cps.deposits⟩, [], ⟨st, [], [], none⟩⟩
  else
    let scan := Keeper.fetchDepositsSinceBlock w.tx chain w.cfg known.keys cps.deposits tip
      answers.deposit_pages
    -- a scan that fails returns nothing, and there is nothing to act on
    let found := scan.outcome.returned
    let pass := actOnStarknetDeposits w answers.net st found
    ⟨pass.state, ⟨registry.checkpoint, scan.checkpoint⟩, found, pass⟩

end

end Beanie.Api
