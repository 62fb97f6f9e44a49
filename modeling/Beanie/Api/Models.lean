/-
# `Beanie.Api.Models` — the API's data, and the code outside the repository it calls

`models.rs`, with what the payment and the stealth workers read of it.  Texts
are lists of characters; the length of a vector is a 64-bit number, which a
`Vec` carries.  The three crates the API relies on (`starknet`, `ethers`,
`solana_sdk` with `spl_token`) are parameters; what is relied on of each is
stated beside it.
-/
import Beanie.Lib.Text
import Beanie.Lib.Bytes
import Beanie.Starknet.Calls
import Beanie.Solana.Accounts

namespace Beanie.Api

open Beanie.Starknet (Felt)
open Beanie.Solana (Pubkey)

/-- A vector: its length fits a `usize`. -/
abbrev Vec (α : Type) := {xs : List α // xs.length < 2 ^ 64}

theorem nil_fits {α : Type} : ([] : List α).length < 2 ^ 64 := Nat.two_pow_pos 64

inductive Chain
  | base
  | starknet
  | ethereum
  | solana
  | arbitrum
  | monad
deriving DecidableEq

abbrev Address := BitVec 160
abbrev H256 := BitVec 256
abbrev U256 := BitVec 256

structure EvmAuth where
  nonce : H256
  valid_after : BitVec 64
  valid_before : BitVec 64
  signature : Text
deriving DecidableEq

structure CallDto where
  contract_address : Text
  entrypoint : Text
  calldata : Vec Text
deriving DecidableEq

structure OutsideExecutionDto where
  caller : Text
  nonce : Text
  execute_after : BitVec 64
  execute_before : BitVec 64
  calls : Vec CallDto
deriving DecidableEq

structure StarknetAuth where
  outside_execution : OutsideExecutionDto
  signature : Vec Text
  user_address : Text
deriving DecidableEq

structure SolanaAuth where
  message : Text
  signature : Text
  owner : Text
deriving DecidableEq

structure PaymentTask where
  source_chain : Chain
  destination_chain : Chain
  merchant_address : Text
  receiver_address : Text
  tx_hash : Text
  from_address : Text
  amount_raw : Text
  webhook_url : Option Text
  attempts : BitVec 32
  create_if_missing : Bool
  evm_auth : Option EvmAuth
  starknet_auth : Option StarknetAuth
  solana_auth : Option SolanaAuth
deriving DecidableEq

/-! ## Crates -/

/-- `starknet`. -/
structure StarknetCrate where
  from_hex : Text → Option Felt
  /-- `Felt`'s `Display`. -/
  to_string : Felt → Text
  get_selector_from_name : Text → Option Felt

/-- `from_hex` reads hexadecimal, `Display` writes decimal, and an ASCII name has a selector. -/
structure StarknetCrate.Documented (sn : StarknetCrate) : Prop where
  from_hex : ∀ s v, sn.from_hex s = some v → HexOf s v.val
  to_string : ∀ v, sn.to_string v = Nat.toDigits 10 v.val
  selector : ∀ s : Text, (∀ c ∈ s, c.toNat < 128) → (sn.get_selector_from_name s).isSome

structure EcdsaSignature where
  r : U256
  s : U256
  v : BitVec 64
deriving DecidableEq

/-- `ethers`, with `hex`. -/
structure EthersCrate where
  address_from_str : Text → Option Address
  u256_from_dec_str : Text → Option U256
  hex_decode : Text → Option Bytes
  signature_from_str : Text → Option EcdsaSignature
  recover : EcdsaSignature → H256 → Option Address
  keccak256 : Bytes → H256
  /-- `parse_units(_, "gwei")`. -/
  parse_gwei : Text → Option U256

/-- An address parses from forty hexadecimal digits, an amount of gwei from a decimal with at most
nine places. -/
structure EthersCrate.Documented (eth : EthersCrate) : Prop where
  address : ∀ ds : Text, ds.length = 40 → IsHex ds →
    (eth.address_from_str ('0' :: 'x' :: ds)).isSome
  gwei : ∀ whole places : Text, whole ≠ [] → whole.length ≤ 18 → places.length ≤ 9 →
    whole.all Char.isDigit → places.all Char.isDigit →
    (eth.parse_gwei (whole ++ '.' :: places)).isSome

structure CompiledInstruction where
  program_id_index : UInt8
  accounts : List UInt8
  data : Bytes
deriving DecidableEq

structure MessageHeader where
  num_required_signatures : UInt8
  num_readonly_signed_accounts : UInt8
  num_readonly_unsigned_accounts : UInt8
deriving DecidableEq

/-- A legacy Solana message. -/
structure SolanaMessage where
  header : MessageHeader
  account_keys : List Pubkey
  recent_blockhash : Bytes
  instructions : List CompiledInstruction
deriving DecidableEq

/-- `TokenInstruction`, as far as the API tells its cases apart. -/
inductive TokenInstruction
  | transfer (amount : BitVec 64)
  | transferChecked (amount : BitVec 64) (decimals : UInt8)
  | other
deriving DecidableEq

structure SolanaTransaction where
  signatures : List Bytes
  message : SolanaMessage
deriving DecidableEq

/-- `solana_sdk` and `spl_token`, with `base64` and `bincode`. -/
structure SolanaCrate where
  pubkey_from_str : Text → Option Pubkey
  base64_decode : Text → Option Bytes
  /-- `bincode::deserialize::<Message>`. -/
  message_deserialize : Bytes → Option SolanaMessage
  /-- `Message::serialize`. -/
  message_serialize : SolanaMessage → Bytes
  token_instruction_unpack : Bytes → Option TokenInstruction
  /-- `Signature::verify`: ed25519. -/
  verify : Bytes → Pubkey → Bytes → Bool
  get_associated_token_address : Pubkey → Pubkey → Pubkey
  spl_token_id : Pubkey

/-- `Signature::try_from(&[u8])`: 64 bytes. -/
def solanaSignature (bs : Bytes) : Option Bytes := if bs.length = 64 then some bs else none

end Beanie.Api
