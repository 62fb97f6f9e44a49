/-
# `Beanie.Api.CreateRoutes` — what `/create` queues

`create_routes.rs`: one proven identity and one settlement target are fanned
out into six tasks, one a chain.  Addresses are parsed on the chain they are
claimed for and written out again; the tasks carry what was written.
-/
import Beanie.Api.Models
import Beanie.Lib.Base58
import Beanie.Lib.Except
import Beanie.Lib.Hex

namespace Beanie.Api

open Beanie.Starknet (Felt)
open Beanie.Solana (Pubkey bytesOf)

def ALL_CHAINS : List Chain := [.base, .ethereum, .arbitrum, .monad, .starknet, .solana]

/-- The crates that read and write addresses. -/
structure AddressCrates where
  starknet : StarknetCrate
  ethers : EthersCrate
  solana : SolanaCrate
  /-- `format!("{:#x}", addr)` -/
  address_lower_hex : Address → Text
  /-- `format!("{:#064x}", felt)` -/
  felt_lower_hex : Felt → Text
  /-- `Pubkey`'s `Display` -/
  pubkey_to_string : Pubkey → Text

/-- An address parses from forty hexadecimal digits with or without a prefix and is written with
one; a field element parses from up to sixty-four and is written as a text of its value; a public
key is the base58 of thirty-two octets. -/
structure AddressCrates.Documented (x : AddressCrates) : Prop where
  address : ∀ s a, x.ethers.address_from_str s = some a ↔
    ∃ ds, (s = ds ∨ s = '0' :: 'x' :: ds) ∧ ds.length = 40 ∧ IsHex ds ∧ hexValue ds = a.toNat
  felt : ∀ s v, x.starknet.from_hex s = some v →
    ∃ ds, (s = ds ∨ s = '0' :: 'x' :: ds) ∧ ds ≠ [] ∧ IsHex ds ∧ hexValue ds = v.val
  felt_accepts : ∀ ds v, ds ≠ [] → ds.length ≤ 64 → IsHex ds → hexValue ds = v.val →
    x.starknet.from_hex ds = some v ∧ x.starknet.from_hex ('0' :: 'x' :: ds) = some v
  pubkey : ∀ s k, x.solana.pubkey_from_str s = some k ↔
    s.length ≤ 44 ∧ base58Decode s = some (bytesOf k)
  writes_address : ∀ a, x.address_lower_hex a = '0' :: 'x' :: padHex 40 a.toNat
  writes_felt : ∀ v, ∃ ds, x.felt_lower_hex v = '0' :: 'x' :: ds ∧ ds ≠ [] ∧ ds.length ≤ 64 ∧
    IsHex ds ∧ hexValue ds = v.val
  writes_pubkey : ∀ k, x.pubkey_to_string k = base58Encode (bytesOf k)

/-! ## Sanitising -/

section
variable (x : AddressCrates)

def parseAndSanitizeEvmAddr (input : Text) : Except String Text := do
  let trimmed := trim input
  require (trimmed ≠ []) "EVM address cannot be empty"
  let addr ← okOr (x.ethers.address_from_str trimmed) "Invalid EVM hex address format"
  .ok (x.address_lower_hex addr)

def parseAndSanitizeFelt (input : Text) : Except String Text := do
  let trimmed := trim input
  require (trimmed ≠ []) "Value cannot be empty"
  let felt ← okOr (x.starknet.from_hex trimmed) "Invalid Starknet Felt hex string"
  .ok (x.felt_lower_hex felt)

def parseAndSanitizeSolanaAddr (input : Text) : Except String Text := do
  let trimmed := trim input
  require (trimmed ≠ []) "Solana address cannot be empty"
  let pubkey ← okOr (x.solana.pubkey_from_str trimmed) "Invalid Solana base58 address"
  .ok (x.pubkey_to_string pubkey)

def sanitizeAddressForChain (chain : Chain) (input : Text) : Except String Text :=
  match chain with
  | .base | .ethereum | .arbitrum | .monad => parseAndSanitizeEvmAddr x input
  | .starknet => parseAndSanitizeFelt x input
  | .solana => parseAndSanitizeSolanaAddr x input

end

/-- A parsed `Url`. -/
structure Url where
  scheme : Text
  has_host : Bool
  text : Text

def parseAndSanitizeWebhookUrl (parse : Text → Option Url) (input : Text) :
    Except String (Option Text) := do
  let trimmed := trim input
  if trimmed = [] then .ok none
  else do
    let parsed ← okOr (parse trimmed) "Invalid URL format"
    require (parsed.scheme = "http".toList ∨ parsed.scheme = "https".toList)
      "Webhook URL scheme must be http or https"
    require (parsed.has_host = true) "Webhook URL must contain a valid host"
    .ok (some parsed.text)

/-! ## The handler -/

structure AnnounceRequest where
  chain : Chain
  address : Text
  lane_id : Text
  verified_token : Text
  target_chain : Chain
  target_recipient : Text
  webhook_url : Option Text

structure AnnounceTask where
  chain : Chain
  merchant_address : Text
  credential_id : Text
  target_chain : Chain
  target_recipient : Text
  webhook_url : Option Text
deriving DecidableEq

/-- The state the handler reads: what the passkey store and the limiter answer to this request, and
which legs the channel takes. -/
structure CreateState where
  crates : AddressCrates
  consume_verified : (token binding : Text) → Option Text
  parse_url : Text → Option Url
  check : (address credential_id : Text) → Option String
  enqueues : Chain → Bool

inductive CreateStatus
  | badRequest
  | unauthorized
  | tooManyRequests
  | serviceUnavailable
deriving DecidableEq

structure CreateError where
  status : CreateStatus
  error : String
deriving DecidableEq

/-- A sanitiser's message, as a response. -/
def invalid {α : Type} (label : String) : Except String α → Except CreateError α
  | .ok a => .ok a
  | .error e => .error ⟨.badRequest, label ++ e⟩

def sanitizedWebhook (st : CreateState) (payload : AnnounceRequest) :
    Except CreateError (Option Text) :=
  match payload.webhook_url with
  | some raw_url => invalid "Invalid webhook_url: " (parseAndSanitizeWebhookUrl st.parse_url raw_url)
  | none => .ok none

/-- The task of one leg. -/
def legTask (payload : AnnounceRequest) (address target_recipient credential_id : Text)
    (webhook_url : Option Text) (leg : Chain) : AnnounceTask where
  chain := leg
  merchant_address := if leg = payload.target_chain then target_recipient else address
  credential_id := credential_id
  target_chain := payload.target_chain
  target_recipient := target_recipient
  webhook_url := webhook_url

/-- `announce_receiver`: the tasks queued by a request it answers with 202. -/
def announceReceiver (st : CreateState) (payload : AnnounceRequest) :
    Except CreateError (List AnnounceTask) := do
  let lane_id := trim payload.lane_id
  require (lane_id ≠ [] ∧ (utf8 lane_id).length ≤ 128) ⟨.badRequest, "Invalid lane_id"⟩
  let credential_id ← okOr
    (st.consume_verified payload.verified_token ("create-lane:".toList ++ lane_id))
    ⟨.unauthorized, "Passkey verification missing, expired, or bound to a different lane"⟩
  let address ← invalid "Invalid address: "
    (sanitizeAddressForChain st.crates payload.chain payload.address)
  let target_recipient ← invalid "Invalid settlement address: "
    (sanitizeAddressForChain st.crates payload.target_chain payload.target_recipient)
  let webhook_url ← sanitizedWebhook st payload
  match st.check address credential_id with
  | some msg => .error ⟨.tooManyRequests, msg⟩
  | none => do
      let queued := (ALL_CHAINS.filter st.enqueues).map
        (legTask payload address target_recipient credential_id webhook_url)
      require (queued ≠ [])
        ⟨.serviceUnavailable, "Failed to enqueue announce task on any chain"⟩
      .ok queued

/-! ## What was accepted -/

end Beanie.Api
