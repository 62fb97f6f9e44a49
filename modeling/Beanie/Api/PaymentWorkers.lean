/-
# `Beanie.Api.PaymentWorkers` — what the payment worker does with a task

`payment_workers.rs`: one loop for all chains.  Each arm is a chain of steps
that either go on, give the task up with a warning, or unwrap.  What the
network and the shared registries answer while a task is processed is given
with the task; what the worker sends is its journal.
-/
import Beanie.Api.PaymentRoutes
import Beanie.Lib.Journal
import Beanie.Keeper.SolanaKeeper

namespace Beanie.Api

open Beanie.Starknet (Felt)
open Beanie.Solana (Pubkey Bytes32 Instruction Runtime)
open Journal

def MULTICALL3_ADDRESS : Text := "0xcA11bde05977b3631167028862bE2a173976CA11".toList

/-! ## What is sent -/

/-- The calls whose calldata `abigen` encodes. -/
inductive EvmCall
  | registerMerchant (merchant : Address) (cctpMintChain cctpMintRecipient : Bytes32)
  | setWebhookUrl (merchant : Address) (url : Text)
  | transferWithAuthorization (sender to_ : Address) (value : U256)
      (valid_after valid_before : BitVec 64) (nonce : H256) (v : UInt8) (r s : H256)
  | sweep

structure Call3 where
  target : Address
  allow_failure : Bool
  call_data : Bytes

structure Deposit where
  chain : Text
  tx_hash : Text
  from_address : Text
  receiver : Text
  amount_raw : Text
  block_number : BitVec 64

structure WebhookJob where
  webhook_url : Text
  deposit : Deposit
  sweep_tx : Option Text
  max_retries : BitVec 32

inductive Effect
  | aggregate3 (multicall : Address) (calls : List Call3) (max_priority_fee max_fee : Nat)
  | setWebhookUrl (registry merchant : Address) (url : Text)
  | executeV3 (calls : List Starknet.Call)
  | sendSolana (tx : SolanaTransaction)
  | broadcast (reg_tx : Bytes)
  | sendSweep (ix : Instruction) (signers : List Pubkey)
  | webhook (job : WebhookJob)

/-! ## What the worker is given -/

structure EvmConfig where
  chain_name : Text
  factory_address : Address
  webhook_registry_address : Address
  token_address : Address

structure EvmRoute where
  chain : Bytes32
  recipient : Bytes32

structure EvmReceiverInfo where
  merchant : Address
  route : Option EvmRoute

structure StarknetRoute where
  chain : Felt
  recipient_low : Felt
  recipient_high : Felt

structure StarknetReceiverInfo where
  merchant : Felt
  route : Option StarknetRoute

inductive ReceiverStatus
  | announced
  | registered
deriving DecidableEq

structure SolanaRoute where
  chain : Bytes
  recipient : Bytes

/-- `SolanaReceiverRecord`, as the indexer publishes it. -/
structure SolanaReceiver where
  record : Keeper.SolanaReceiverRecord
  status : ReceiverStatus
  reg_tx : Option Bytes
  route : Option SolanaRoute

/-- A confirmed EVM transaction. -/
structure Receipt where
  transaction_hash : Text
  block_number : Option (BitVec 64)

/-- What the network answers while one task is processed. -/
structure Network where
  get_code : Address → Option Bytes
  estimate_eip1559_fees : Option (Nat × Nat)
  /-- `agg.send().await` and `pending.await`, when both succeed. -/
  receipt : Option Receipt
  /-- The hash of the Starknet transaction, when it is accepted. -/
  starknet_tx : Option Text
  /-- `send_and_confirm_transaction` of the payment. -/
  solana_tx : Option Text
  get_account : Pubkey → Option Bytes
  broadcast_tx : Option Text
  /-- Whether the configuration account exists after a failed broadcast. -/
  config_exists : Bool
  get_latest_blockhash : Bool
  sweep_tx : Option Text
  /-- `Keypair::new()`. -/
  event_data : Pubkey

structure Worker where
  starknet : StarknetCrate
  ethers : EthersCrate
  solana : SolanaCrate
  runtime : Runtime
  /-- The `abigen` encoders. -/
  calldata : EvmCall → Option Bytes
  /-- An address, a field element, as `format!` writes it. -/
  show_address : Address → Text
  show_felt : Felt → Text
  evm_targets : Chain → Option EvmConfig
  evm_registries : Chain → Address → Option EvmReceiverInfo
  starknet_factory : Felt
  starknet_chain_name : Text
  starknet_registry : Felt → Option StarknetReceiverInfo
  solana_cfg : Keeper.SolanaConfig
  solana_chain_name : Text
  solana_registry : Pubkey → Option SolanaReceiver
  /-- `spl_token::state::Account::unpack`, its owner. -/
  unpack_owner : Bytes → Option Pubkey
  /-- `bincode::deserialize::<Transaction>` succeeds. -/
  is_transaction : Bytes → Bool
  /-- `try_partial_sign` with the keeper's key, and `verify`. -/
  partial_sign : SolanaTransaction → Option SolanaTransaction
  net : Network

section
variable (w : Worker)

/-- The webhook job of a payment that went through. -/
def notify (task : PaymentTask) (chain receiver tx_hash : Text) (block_number : BitVec 64)
    (sweep_tx : Option Text) : Journal Effect Unit :=
  match task.webhook_url with
  | some url => tell (.webhook ⟨url, ⟨chain, tx_hash, task.from_address, receiver,
      task.amount_raw, block_number⟩, sweep_tx, 5⟩)
  | none => pure ()

/-- `setWebhookUrl` on Base, where the webhook registry is. -/
def setWebhookOnBase (task : PaymentTask) (merchant : Option Address) : Journal Effect Unit :=
  match task.webhook_url, w.evm_targets .base, merchant with
  | some url, some base_cfg, some merchant =>
      tell (.setWebhookUrl base_cfg.webhook_registry_address merchant url)
  | _, _, _ => pure ()

/-! ## EVM -/

/-- The optional registration: without a route there is nothing to do yet. -/
def registerCalls (cfg : EvmConfig) (info : Option EvmReceiverInfo) (missing : Bool) :
    Journal Effect (List Call3) :=
  if missing then do
    let info ← orSkip info
    let route ← orSkip info.route
    let call_data ← orSkip
      (w.calldata (.registerMerchant info.merchant route.chain route.recipient))
    pure [⟨cfg.factory_address, false, call_data⟩]
  else pure []

/-- The optional webhook update, which may fail. -/
def webhookCalls (task : PaymentTask) (info : Option EvmReceiverInfo) (missing : Bool) :
    List Call3 :=
  match missing, task.webhook_url, w.evm_targets .base with
  | true, some url, some base_cfg =>
      let merchant := match info with
        | some info => info.merchant
        | none => (w.ethers.address_from_str task.merchant_address).getD 0
      match w.calldata (.setWebhookUrl merchant url) with
      | some bytes => [⟨base_cfg.webhook_registry_address, true, bytes⟩]
      | none => []
  | _, _, _ => []

def processEvm (task : PaymentTask) : Journal Effect Unit :=
  match w.ethers.address_from_str task.receiver_address with
  | none => pure ()
  | some receiver_addr => do
      let cfg ← orSkip (w.evm_targets task.source_chain)
      let deployed := match w.net.get_code receiver_addr with
        | some bytes => !bytes.isEmpty
        | none => false
      let info := w.evm_registries task.source_chain receiver_addr
      let missing := !deployed && task.create_if_missing
      let register ← registerCalls w cfg info missing
      let webhook := webhookCalls w task info missing
      let auth ← orSkip task.evm_auth
      let sig ← orSkip (w.ethers.signature_from_str (trimHexPrefix auth.signature))
      let value ← orSkip (w.ethers.u256_from_dec_str task.amount_raw)
      let from_addr ← orSkip (w.ethers.address_from_str task.from_address)
      let transfer_calldata ← orSkip (w.calldata (.transferWithAuthorization from_addr
        receiver_addr value auth.valid_after auth.valid_before auth.nonce
        (UInt8.ofNat sig.v.toNat) sig.r sig.s))
      let sweep_calldata ← orSkip (w.calldata .sweep)
      let multicall ← unwrap (w.ethers.address_from_str MULTICALL3_ADDRESS)
      let (suggested_max_fee, suggested_priority_fee) := w.net.estimate_eip1559_fees.getD (0, 0)
      let max_allowed_priority ← unwrap (w.ethers.parse_gwei "0.005".toList)
      let max_fee_cap ← unwrap (w.ethers.parse_gwei "0.1".toList)
      tell (.aggregate3 multicall
        (register ++ webhook ++ [⟨cfg.token_address, false, transfer_calldata⟩,
          ⟨receiver_addr, false, sweep_calldata⟩])
        (min suggested_priority_fee max_allowed_priority.toNat)
        (min suggested_max_fee max_fee_cap.toNat))
      match w.net.receipt with
      | some receipt =>
          notify task cfg.chain_name (w.show_address receiver_addr) receipt.transaction_hash
            (receipt.block_number.getD 0) (some receipt.transaction_hash)
      | none => pure ()

/-! ## Starknet -/

/-- One call of the outside execution, as calldata words. -/
def serialiseCall (c : CallDto) : Journal Effect (List Felt) := do
  let contract_address ← unwrap (w.starknet.from_hex c.contract_address)
  let selector ← unwrap (w.starknet.get_selector_from_name c.entrypoint)
  let calldata ← unwrapAll w.starknet.from_hex c.calldata.val
  pure (contract_address :: selector :: Starknet.lengthFelt c.calldata.val :: calldata)

def serialiseCalls : List CallDto → Journal Effect (List Felt)
  | [] => pure []
  | c :: cs => do
      let words ← serialiseCall w c
      let rest ← serialiseCalls cs
      pure (words ++ rest)

/-- The outside execution and its signature, per Cairo's `Serde`. -/
def serialiseExecution (auth : StarknetAuth) : Journal Effect (List Felt) := do
  let oe := auth.outside_execution
  let caller ← unwrap (w.starknet.from_hex oe.caller)
  let nonce ← unwrap (w.starknet.from_hex oe.nonce)
  let calls ← serialiseCalls w oe.calls.val
  let signature ← unwrapAll w.starknet.from_hex auth.signature.val
  pure ([caller, nonce, Fin.ofNat Starknet.P oe.execute_after.toNat,
    Fin.ofNat Starknet.P oe.execute_before.toNat, Starknet.lengthFelt oe.calls.val]
    ++ calls ++ Starknet.lengthFelt auth.signature.val :: signature)

/-- The registration of a receiver with an announced route, and the webhook that goes with it. -/
def registerStarknet (task : PaymentTask) (receiver : Felt) :
    Journal Effect (List Starknet.Call) :=
  if task.create_if_missing then do
    let info ← orSkip (w.starknet_registry receiver)
    let route ← orSkip info.route
    let selector ← orSkip (w.starknet.get_selector_from_name "register_merchant".toList)
    setWebhookOnBase w task (w.ethers.address_from_str (w.show_felt info.merchant))
    pure [⟨w.starknet_factory, selector,
      [info.merchant, route.chain, route.recipient_low, route.recipient_high]⟩]
  else pure []

/-- `execute_v3(calls).send()`, and the webhook of a transaction that was accepted. -/
def submitStarknet (task : PaymentTask) (receiver : Felt) (calls : List Starknet.Call) :
    Journal Effect Unit := do
  tell (.executeV3 calls)
  match w.net.starknet_tx with
  | some tx_hash =>
      notify task w.starknet_chain_name (w.show_felt receiver) tx_hash 0 (some tx_hash)
  | none => pure ()

def processStarknet (task : PaymentTask) : Journal Effect Unit :=
  match w.starknet.from_hex task.receiver_address with
  | none => pure ()
  | some receiver => do
      let register ← registerStarknet w task receiver
      let auth ← orSkip task.starknet_auth
      let user_account ← orSkip (w.starknet.from_hex auth.user_address)
      let selector ← orSkip (w.starknet.get_selector_from_name "execute_from_outside_v2".toList)
      let calldata ← serialiseExecution w auth
      let sweep ← orSkip (w.starknet.get_selector_from_name "sweep".toList)
      submitStarknet w task receiver
        (register ++ [⟨user_account, selector, calldata⟩, ⟨receiver, sweep, []⟩])

/-! ## Solana -/

/-- `bytes.get(offset..offset + n)`. -/
def slice (bs : Bytes) (offset n : Nat) : Option Bytes :=
  if offset + n ≤ bs.length then some ((bs.drop offset).take n) else none

/-- `<[u8; n]>::try_from`. -/
def toArray (n : Nat) (bs : Bytes) : Option Bytes := if bs.length = n then some bs else none

/-- `fetch_receiver_route`; `none` where it returns an error. -/
def fetchReceiverRoute (receiver_config : Pubkey) : Journal Effect (Option SolanaRoute) :=
  match (w.net.get_account receiver_config).bind fun data => slice data (8 + 32 * 4) 64 with
  | none => pure none
  | some b => do
      let chain ← unwrap (toArray 32 (b.take 32))
      let recipient ← unwrap (toArray 32 (b.drop 32))
      pure (some ⟨chain, recipient⟩)

def fetchCctpDomainId (receiver_config : Pubkey) : Journal Effect (Option (BitVec 32)) :=
  match (w.net.get_account receiver_config).bind fun data => slice data (8 + 32 * 6) 4 with
  | none => pure none
  | some b => do
      let bytes ← unwrap (toArray 4 b)
      pure (some (BitVec.ofNat 32 (leNat bytes)))

/-- Who has to sign: the payer, and whoever an instruction lists as a signer. -/
def requiredSigners (ix : Instruction) (payer : Pubkey) : List Pubkey :=
  payer :: (ix.accounts.filter (·.isSigner)).map (·.key)

/-- `Transaction::new_signed_with_payer`, which panics unless it is given exactly the keys that
have to sign. -/
def newSignedWithPayer (ix : Instruction) (payer : Pubkey) (signers : List Pubkey) :
    Journal Effect Unit :=
  if (∀ k ∈ requiredSigners ix payer, k ∈ signers) ∧ ∀ k ∈ signers, k ∈ requiredSigners ix payer
  then pure ()
  else panic

/-- One signed transaction, sent. -/
def sendSweep (ix : Instruction) (signers : List Pubkey) : Journal Effect (Option Text) :=
  if w.net.get_latest_blockhash then do
    newSignedWithPayer ix w.solana_cfg.keeper_wallet signers
    tell (.sendSweep ix signers)
    pure w.net.sweep_tx
  else pure none

/-- `sweep_cross_chain_receiver`. -/
def sweepCrossChainReceiver (rec : SolanaReceiver) : Journal Effect (Option Text) := do
  match ← fetchCctpDomainId w rec.record.receiver_config with
  | none => pure none
  | some domain =>
      sendSweep w (Keeper.crossChainSweep w.runtime w.solana_cfg rec.record domain
        w.net.event_data) [w.solana_cfg.keeper_wallet, w.net.event_data]

/-- The indexed route, or else the one on chain. -/
def receiverRoute (rec : SolanaReceiver) : Journal Effect (Option SolanaRoute) :=
  match rec.route with
  | some route => pure (some route)
  | none => fetchReceiverRoute w rec.record.receiver_config

/-- `sweep_registered`, for one receiver. -/
def sweepRegistered (rec : SolanaReceiver) : Journal Effect (Option Text) := do
  match ← receiverRoute w rec with
  | none => pure none
  | some route =>
      if route.chain = List.replicate 32 0 then
        sendSweep w (Keeper.sameChainSweep w.runtime w.solana_cfg rec.record
          (w.runtime.ata rec.record.merchant w.solana_cfg.mint)) [w.solana_cfg.keeper_wallet]
      else
        sweepCrossChainReceiver w rec

/-- `broadcast_pending_registration`. -/
def broadcastPendingRegistration (reg_tx : Bytes) : Journal Effect (Option Text) :=
  if w.is_transaction reg_tx then do
    tell (.broadcast reg_tx)
    pure w.net.broadcast_tx
  else pure none

/-- `sweep_after_solana_payment`; `none` where it returns an error or nothing. -/
def sweepAfterSolanaPayment (task : PaymentTask) : Journal Effect (Option Text) :=
  let owner := do
    let account ← w.solana.pubkey_from_str task.receiver_address
    let data ← w.net.get_account account
    w.unpack_owner data
  match owner.bind w.solana_registry with
  | none => pure none
  | some rec =>
      match rec.status, rec.reg_tx with
      | .announced, none => pure none
      | .announced, some reg_tx => do
          match ← broadcastPendingRegistration w reg_tx with
          | some _ => sweepRegistered w rec
          | none => if w.net.config_exists then sweepRegistered w rec else pure none
      | .registered, _ => sweepRegistered w rec

/-- `signatures[i] = signature`. -/
def setSignature (signatures : List Bytes) (i : Nat) (signature : Bytes) :
    Journal Effect (List Bytes) :=
  if i < signatures.length then pure (signatures.set i signature) else panic

def processSolana (task : PaymentTask) : Journal Effect Unit := do
  let auth ← orSkip task.solana_auth
  let message_bytes ← orSkip (w.solana.base64_decode auth.message)
  let message ← orSkip (w.solana.message_deserialize message_bytes)
  let owner_pk ← orSkip (w.solana.pubkey_from_str auth.owner)
  let owner_sig_bytes ← orSkip (w.solana.base64_decode auth.signature)
  let owner_sig ← orSkip (solanaSignature owner_sig_bytes)
  let num_sigs := message.header.num_required_signatures.toNat
  let owner_idx ← orSkip (message.account_keys.findIdx? (· = owner_pk))
  if num_sigs ≤ owner_idx then
    skip
  else do
    let signatures ← setSignature (List.replicate num_sigs (List.replicate 64 0)) owner_idx
      owner_sig
    let tx ← orSkip (w.partial_sign ⟨signatures, message⟩)
    tell (.sendSolana tx)
    match w.net.solana_tx with
    | none => pure ()
    | some tx_sig => do
        let sweep_tx ← sweepAfterSolanaPayment w task
        setWebhookOnBase w task (if task.create_if_missing
          then w.ethers.address_from_str task.merchant_address else none)
        notify task w.solana_chain_name task.receiver_address tx_sig 0 sweep_tx

/-! ## The loop -/

/-- The source chain's arm. -/
def runArm (task : PaymentTask) : Journal Effect Unit :=
  match task.source_chain with
  | .base | .ethereum | .arbitrum | .monad => processEvm w task
  | .starknet => processStarknet w task
  | .solana => processSolana w task

/-- One turn of the loop: the attempt is counted, and the source chain's arm runs. -/
def processTask (task : PaymentTask) : Journal Effect Unit := do
  let attempts ← unwrap (if task.attempts.toNat + 1 < 2 ^ 32 then some (task.attempts + 1) else none)
  runArm w { task with attempts := attempts }

end

/-- `run_payment_worker`: the queue, each task with what the world answers to it. -/
def runPaymentWorker (queue : List (Worker × PaymentTask)) : Journal Effect Unit :=
  loop (fun entry => processTask entry.1 entry.2) queue

end Beanie.Api
