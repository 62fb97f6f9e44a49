/-
# `Beanie.Api.PaymentRoutes` — what `/pay` accepts

`payment_routes.rs`: the three verifiers and `receive_payment`, which turns an
accepted request into a task.  The verifiers compare texts.  The spec lemmas
at the end say what an accepted request looks like, so that nothing below
unfolds the route again.
-/
import Beanie.Api.Models
import Beanie.Lib.Except

namespace Beanie.Api

open Beanie.Starknet (Felt)
open Beanie.Solana (Pubkey)

def STARKNET_USDC : Text :=
  "0x033068f6539f8e6e6b131e6b2b814e6c34a5224bc66947c47dab9dfee93b35fb".toList

structure IncomingPaymentRequest where
  chain : Chain
  merchant_address : Text
  receiver_address : Text
  destination_chain : Chain
  tx_hash : Text
  from_address : Text
  amount_raw : Text
  webhook_url : Option Text
  signature : Option Text

inductive SignaturePayload
  | evm (sender to_ value : Text) (valid_after valid_before : BitVec 64) (nonce signature : Text)
  | starknet (outside_execution : OutsideExecutionDto) (signature : Vec Text) (user_address : Text)
  | solana (message signature owner : Text)

/-- The state the handler reads.  `check` is the rate limiter's answer to this request, `now` the
clock's, and `enqueues` whether the channel takes the task. -/
structure AppState where
  starknet : StarknetCrate
  ethers : EthersCrate
  solana : SolanaCrate
  /-- `serde_json::from_str::<SignaturePayload>`. -/
  signature_payload : Text → Option SignaturePayload
  check : Text → Text → Option String
  evm_domain_separators : Chain → Option H256
  keeper_address : Felt
  keeper_wallet : Pubkey
  mint : Pubkey
  now : BitVec 64
  enqueues : Bool

inductive StatusCode
  | badRequest
  | tooManyRequests
  | serviceUnavailable
deriving DecidableEq

structure ErrorResponse where
  status : StatusCode
  error : String
deriving DecidableEq

def badRequest (msg : String) : ErrorResponse := ⟨.badRequest, msg⟩

/-! ## EVM -/

def TRANSFER_WITH_AUTHORIZATION : Text :=
  ("TransferWithAuthorization(address from,address to,uint256 value,uint256 validAfter," ++
    "uint256 validBefore,bytes32 nonce)").toList

/-- `abi.encode` of static words. -/
def abiWords (ws : List Nat) : Bytes := ws.flatMap (beBytes 32)

def transferAuthDigest (eth : EthersCrate) (sender to_ : Address) (value : U256)
    (valid_after valid_before : BitVec 64) (nonce domain_separator : H256) : H256 :=
  let typehash := eth.keccak256 (asciiBytes TRANSFER_WITH_AUTHORIZATION)
  let struct_hash := eth.keccak256 (abiWords [typehash.toNat, sender.toNat, to_.toNat, value.toNat,
    valid_after.toNat, valid_before.toNat, nonce.toNat])
  eth.keccak256 ([0x19, 0x01] ++ beBytes 32 domain_separator.toNat ++ beBytes 32 struct_hash.toNat)

/-- `trim_start_matches("0x")`: every such prefix goes. -/
def trimHexPrefix : Text → Text
  | '0' :: 'x' :: s => trimHexPrefix s
  | s => s

/-- The addresses compared this way have parsed, so they are ASCII. -/
def toLowercase (s : Text) : Text := s.map Char.toLower

def verifyEvmAuthorization (st : AppState) (payload : IncomingPaymentRequest)
    (sender to_ value : Text) (valid_after valid_before : BitVec 64) (nonce_hex sig_hex : Text)
    (domain_separator : H256) : Except String EvmAuth := do
  let eth := st.ethers
  let from_addr ← okOr (eth.address_from_str sender) "bad from address"
  let to_addr ← okOr (eth.address_from_str to_) "bad to address"
  let receiver_addr ← okOr (eth.address_from_str payload.receiver_address) "bad receiver_address"
  require (to_addr = receiver_addr) "signed 'to' does not match receiver_address"
  require (toLowercase sender = toLowercase payload.from_address)
    "signer does not match from_address"
  let value_u256 ← okOr (eth.u256_from_dec_str value) "bad value"
  let claimed_amount ← okOr (eth.u256_from_dec_str payload.amount_raw) "bad amount_raw"
  require (value_u256 = claimed_amount) "signed value does not match amount_raw"
  require (¬ (st.now < valid_after ∨ valid_before < st.now))
    "authorization expired or not yet valid"
  let nonce_bytes ← okOr (eth.hex_decode (trimHexPrefix nonce_hex)) "bad nonce"
  require (nonce_bytes.length = 32) "nonce must be 32 bytes"
  let nonce : H256 := BitVec.ofNat 256 (beNat nonce_bytes)
  let digest := transferAuthDigest eth from_addr to_addr value_u256 valid_after valid_before nonce
    domain_separator
  let signature ← okOr (eth.signature_from_str (trimHexPrefix sig_hex)) "bad signature encoding"
  let recovered ← okOr (eth.recover signature digest) "signature recovery failed"
  require (recovered = from_addr) "signature does not authorize this transfer"
  .ok ⟨nonce, valid_after, valid_before, sig_hex⟩

/-! ## Starknet -/

def verifyStarknetOutsideExecution (now : BitVec 64) (oe : OutsideExecutionDto)
    (keeper_address receiver_address amount_raw : Text) : Except String Unit := do
  require (eqIgnoreAsciiCase oe.caller keeper_address = true)
    "outside execution caller is not Beanie's relayer — refusing to submit"
  require (¬ (now < oe.execute_after ∨ oe.execute_before < now))
    "outside execution window is not currently valid"
  require (oe.execute_before.toNat - oe.execute_after.toNat ≤ 3600) "validity window too wide"
  match oe.calls.val with
  | [call] => do
      require (eqIgnoreAsciiCase call.contract_address STARKNET_USDC = true)
        "call does not target USDC"
      require (call.entrypoint = "transfer".toList) "call is not a transfer"
      match call.calldata.val with
      | recipient :: low :: high :: _ => do
          require (eqIgnoreAsciiCase recipient receiver_address = true)
            "call does not send to the claimed receiver"
          let amount ← okOr (parseUnsigned 128 amount_raw) "bad amount_raw"
          require (low = Nat.toDigits 10 amount ∧ high = "0".toList)
            "call amount does not match amount_raw"
      | _ => .error "call does not send to the claimed receiver"
  | _ => .error "expected exactly one call"

/-! ## Solana -/

/-- Source, destination, authority, amount and mint of a token transfer, by account index. -/
def transferIndices (ix : CompiledInstruction) :
    TokenInstruction →
      Option (Option UInt8 × Option UInt8 × Option UInt8 × BitVec 64 × Option UInt8)
  | .transferChecked amount _ =>
      some (ix.accounts[0]?, ix.accounts[2]?, ix.accounts[3]?, amount, ix.accounts[1]?)
  | .transfer amount => some (ix.accounts[0]?, ix.accounts[1]?, ix.accounts[2]?, amount, none)
  | .other => none

def accountAt (message : SolanaMessage) (idx : Option UInt8) : Except String Pubkey := do
  let i ← okOr idx "instruction missing an expected account"
  okOr message.account_keys[i.toNat]? "account index out of range"

def verifySolanaAuthorization (st : AppState) (payload : IncomingPaymentRequest)
    (message_b64 signature_b64 owner : Text) : Except String SolanaAuth := do
  let sol := st.solana
  require (owner = payload.from_address) "signer does not match from_address"
  let owner_pk ← okOr (sol.pubkey_from_str owner) "bad owner pubkey"
  let receiver_pk ← okOr (sol.pubkey_from_str payload.receiver_address) "bad receiver_address"
  let claimed_amount ← okOr (parseUnsigned 64 payload.amount_raw)
    "amount_raw does not fit a Solana token amount (u64)"
  let message_bytes ← okOr (sol.base64_decode message_b64) "bad message encoding"
  let message ← okOr (sol.message_deserialize message_bytes) "malformed solana message"
  let fee_payer ← okOr message.account_keys[0]? "message has no accounts"
  require (fee_payer = st.keeper_wallet) "fee payer is not Beanie's relayer — refusing to submit"
  match message.instructions with
  | [ix] => do
      let ix_program ← okOr message.account_keys[ix.program_id_index.toNat]? "bad program id index"
      require (ix_program = sol.spl_token_id) "instruction does not target the SPL Token program"
      let token_ix ← okOr (sol.token_instruction_unpack ix.data) "unparseable token instruction"
      let (source_i, dest_i, authority_i, amount, mint_i) ←
        okOr (transferIndices ix token_ix) "instruction is not a token transfer"
      require (amount.toNat = claimed_amount) "signed amount does not match amount_raw"
      let source ← accountAt message source_i
      let destination ← accountAt message dest_i
      let authority ← accountAt message authority_i
      require (authority = owner_pk) "transfer authority does not match from_address"
      require (source = sol.get_associated_token_address owner_pk st.mint)
        "source token account is not the signer's USDC account"
      require (destination = receiver_pk) "destination does not match receiver_address"
      match mint_i with
      | some i => do
          let mint ← accountAt message (some i)
          require (mint = st.mint) "mint does not match configured USDC"
      | none => .ok ()
      let sig_bytes ← okOr (sol.base64_decode signature_b64) "bad signature encoding"
      let signature ← okOr (solanaSignature sig_bytes) "bad signature bytes"
      require (sol.verify signature owner_pk message_bytes = true)
        "signature does not authorize this transfer"
      .ok ⟨message_b64, signature_b64, owner⟩
  | _ => .error "expected exactly one instruction"

/-! ## The handler -/

def credKey (payload : IncomingPaymentRequest) : Text :=
  payload.from_address ++ "::".toList ++ payload.receiver_address

/-- A verifier's message, as a response. -/
def rejected {α : Type} : Except String α → Except ErrorResponse α
  | .ok a => .ok a
  | .error msg => .error (badRequest msg)

/-- The authorisation of the request's chain, verified. -/
def verifyPayload (st : AppState) (payload : IncomingPaymentRequest) (parsed : SignaturePayload) :
    Except ErrorResponse (Option EvmAuth × Option StarknetAuth × Option SolanaAuth) :=
  match payload.chain, parsed with
  | .base, .evm sender to_ value valid_after valid_before nonce signature
  | .ethereum, .evm sender to_ value valid_after valid_before nonce signature
  | .arbitrum, .evm sender to_ value valid_after valid_before nonce signature
  | .monad, .evm sender to_ value valid_after valid_before nonce signature => do
      let domain_separator ← okOr (st.evm_domain_separators payload.chain)
        (badRequest "unsupported chain: missing domain separator configuration")
      let auth ← rejected (verifyEvmAuthorization st payload sender to_ value valid_after
        valid_before nonce signature domain_separator)
      .ok (some auth, none, none)
  | .starknet, .starknet outside_execution signature user_address => do
      require (eqIgnoreAsciiCase user_address payload.from_address = true)
        (badRequest "signer does not match from_address")
      rejected (verifyStarknetOutsideExecution st.now outside_execution
        (st.starknet.to_string st.keeper_address) payload.receiver_address payload.amount_raw)
      .ok (none, some ⟨outside_execution, signature, user_address⟩, none)
  | .solana, .solana message signature owner => do
      let auth ← rejected (verifySolanaAuthorization st payload message signature owner)
      .ok (none, none, some auth)
  | _, _ => .error (badRequest "signature type does not match chain")

/-- `receive_payment`: the task of a request it answers with 202. -/
def receivePayment (st : AppState) (payload : IncomingPaymentRequest) :
    Except ErrorResponse PaymentTask := do
  require (isBlank payload.tx_hash = false) (badRequest "tx_hash is required")
  require (isBlank payload.receiver_address = false) (badRequest "receiver_address is required")
  require (isBlank payload.merchant_address = false) (badRequest "merchant_address is required")
  require (isBlank payload.amount_raw = false ∧ (parseUnsigned 128 payload.amount_raw).isSome)
    (badRequest "amount_raw must be a non-negative integer")
  match st.check payload.receiver_address (credKey payload) with
  | some msg => .error ⟨.tooManyRequests, msg⟩
  | none => do
      let sig ← okOr payload.signature (badRequest "signature is required")
      let parsed ← okOr (st.signature_payload sig) (badRequest "malformed signature payload")
      let (evm_auth, starknet_auth, solana_auth) ← verifyPayload st payload parsed
      let task : PaymentTask :=
        { source_chain := payload.chain
          destination_chain := payload.destination_chain
          merchant_address := payload.merchant_address
          receiver_address := payload.receiver_address
          tx_hash := payload.tx_hash
          from_address := payload.from_address
          amount_raw := payload.amount_raw
          webhook_url := payload.webhook_url
          attempts := 0
          create_if_missing := true
          evm_auth := evm_auth
          starknet_auth := starknet_auth
          solana_auth := solana_auth }
      require (st.enqueues = true) ⟨.serviceUnavailable, "failed to enqueue payment task"⟩
      .ok task

/-! ## What was accepted -/

/-- The one call of an accepted outside execution. -/
structure TransferCall (call : CallDto) (receiver_address : Text) (amount : Nat) : Prop where
  target : eqIgnoreAsciiCase call.contract_address STARKNET_USDC = true
  entrypoint : call.entrypoint = "transfer".toList
  calldata : ∃ recipient rest, call.calldata.val
      = recipient :: Nat.toDigits 10 amount :: "0".toList :: rest ∧
    eqIgnoreAsciiCase recipient receiver_address = true

/-- What the verifier compared, as texts. -/
structure VerifiedExecution (oe : OutsideExecutionDto)
    (keeper_address receiver_address amount_raw : Text) (call : CallDto) (amount : Nat) : Prop where
  caller : eqIgnoreAsciiCase oe.caller keeper_address = true
  calls : oe.calls.val = [call]
  parses : parseUnsigned 128 amount_raw = some amount
  transfers : TransferCall call receiver_address amount

theorem verifyStarknetOutsideExecution_ok {now : BitVec 64} {oe : OutsideExecutionDto}
    {keeper_address receiver_address amount_raw : Text}
    (h : verifyStarknetOutsideExecution now oe keeper_address receiver_address amount_raw = .ok ()) :
    ∃ call amount,
      VerifiedExecution oe keeper_address receiver_address amount_raw call amount := by
  simp only [verifyStarknetOutsideExecution, bind_ok, require_ok] at h
  obtain ⟨_, hcaller, _, -, _, -, h⟩ := h
  split at h
  case h_2 => exact nomatch h
  case h_1 call hcalls =>
    simp only [bind_ok, require_ok] at h
    obtain ⟨_, htarget, _, hentry, h⟩ := h
    split at h
    case h_2 => exact nomatch h
    case h_1 recipient low high rest hdata =>
      simp only [bind_ok, require_ok, okOr_ok] at h
      obtain ⟨_, hrecipient, amount, hamount, rfl, rfl⟩ := h
      exact ⟨call, amount, hcaller, hcalls, hamount, htarget, hentry, recipient, rest, hdata,
        hrecipient⟩

theorem rejected_ok {α : Type} {x : Except String α} {a : α} : rejected x = .ok a ↔ x = .ok a := by
  cases x <;> simp [rejected]

/-- An accepted request's task carries the request, and the authorisation that was verified. -/
theorem receivePayment_ok {st : AppState} {payload : IncomingPaymentRequest} {task : PaymentTask}
    (h : receivePayment st payload = .ok task) :
    ∃ sig parsed auths, payload.signature = some sig ∧ st.signature_payload sig = some parsed ∧
      verifyPayload st payload parsed = .ok auths ∧
      task = ⟨payload.chain, payload.destination_chain, payload.merchant_address,
        payload.receiver_address, payload.tx_hash, payload.from_address, payload.amount_raw,
        payload.webhook_url, 0, true, auths.1, auths.2.1, auths.2.2⟩ := by
  simp only [receivePayment, bind_ok, require_ok] at h
  obtain ⟨_, -, _, -, _, -, _, -, h⟩ := h
  split at h
  case h_1 => exact nomatch h
  case h_2 =>
    simp only [bind_ok, require_ok, okOr_ok] at h
    obtain ⟨sig, hsig, parsed, hparsed, auths, hauths, _, -, htask⟩ := h
    exact ⟨sig, parsed, auths, hsig, hparsed, hauths, (Except.ok.inj htask).symm⟩

theorem receivePayment_fresh {st : AppState} {payload : IncomingPaymentRequest} {task : PaymentTask}
    (h : receivePayment st payload = .ok task) :
    task.attempts = 0 ∧ task.source_chain = payload.chain := by
  obtain ⟨_, _, _, -, -, -, rfl⟩ := receivePayment_ok h
  exact ⟨rfl, rfl⟩

/-- Only Starknet requests leave a Starknet authorisation on their task. -/
theorem receivePayment_other {st : AppState} {payload : IncomingPaymentRequest} {task : PaymentTask}
    (h : receivePayment st payload = .ok task) (hchain : payload.chain ≠ .starknet) :
    task.starknet_auth = none := by
  obtain ⟨_, parsed, auths, -, -, hauths, rfl⟩ := receivePayment_ok h
  unfold verifyPayload at hauths
  split at hauths
  case h_5 _ _ _ hstarknet => exact absurd hstarknet hchain
  case h_7 => exact nomatch hauths
  all_goals
    simp only [bind_ok] at hauths
    first
    | obtain ⟨_, -, _, -, hauths⟩ := hauths; cases hauths; rfl
    | obtain ⟨_, -, hauths⟩ := hauths; cases hauths; rfl

/-- What the route knows of a Starknet task it enqueues. -/
structure StarknetAccepted (st : AppState) (payload : IncomingPaymentRequest) (task : PaymentTask)
    (auth : StarknetAuth) (call : CallDto) (amount : Nat) : Prop where
  authorized : task.starknet_auth = some auth
  chain : task.source_chain = .starknet
  receiver : task.receiver_address = payload.receiver_address
  create : task.create_if_missing = true
  verified : VerifiedExecution auth.outside_execution (st.starknet.to_string st.keeper_address)
    payload.receiver_address payload.amount_raw call amount

theorem receivePayment_starknet {st : AppState} {payload : IncomingPaymentRequest}
    {task : PaymentTask} (h : receivePayment st payload = .ok task)
    (hchain : payload.chain = .starknet) :
    ∃ auth call amount, StarknetAccepted st payload task auth call amount := by
  obtain ⟨sig, parsed, auths, -, -, hauths, rfl⟩ := receivePayment_ok h
  unfold verifyPayload at hauths
  rw [hchain] at hauths
  cases parsed with
  | evm | solana => exact nomatch hauths
  | starknet oe signature user_address =>
      simp only [bind_ok, require_ok, rejected_ok] at hauths
      obtain ⟨_, -, _, hverify, hauths⟩ := hauths
      obtain ⟨call, amount, hverified⟩ := verifyStarknetOutsideExecution_ok hverify
      cases hauths
      exact ⟨⟨oe, signature, user_address⟩, call, amount, rfl, hchain, rfl, rfl, hverified⟩

end Beanie.Api
