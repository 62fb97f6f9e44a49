/-
# `Beanie.Api.StealthModels` — stealth claims, chain runtimes, and how texts are read

The part of `stealth_routes.rs`, `models.rs` and `stealth_workers.rs` that
every chain shares: the task, a chain's configuration with its cosigner, and
the helpers that turn texts into bytes and numbers.  Errors are `anyhow`
traces; what a library says of its own failure is left out of them.

Allowlists are compared as texts and calls are executed as field elements.
`hexOf_normTarget` says that the two agree: normalising a hexadecimal text
does not change the number it spells.
-/
import Beanie.Api.Models

namespace Beanie.Api

open Beanie.Starknet (Felt)
open Beanie.Solana (Pubkey)

inductive ClientSignature
  | ecdsa (r1 s1 : Text) (v : Option UInt8)
  | ed25519 (sig_hex : Text)
deriving DecidableEq

structure CallDataPayload where
  contract_address : Text
  entrypoint : Text
  calldata : Vec Text
deriving DecidableEq

structure ResourceBoundParam where
  max_amount : Text
  max_price_per_unit : Text
deriving DecidableEq

structure StarknetTxParams where
  client_pubkey : Text
  deploy_salt : Text
  nonce : Text
  tip : Text
  l1_gas : ResourceBoundParam
  l2_gas : ResourceBoundParam
  l1_data_gas : ResourceBoundParam
deriving DecidableEq

structure Auth3009Params where
  client : Text
  to_ : Text
  value : Text
  valid_after : Text
  valid_before : Text
  nonce : Text
  salt : Text
deriving DecidableEq

structure StealthTask where
  chain : Chain
  tx_hash : Text
  derived_address : Text
  client_sig : ClientSignature
  calls : Vec CallDataPayload
  auth3009 : Option Auth3009Params
  starknet : Option StarknetTxParams
  message_bytes : Option Bytes
deriving DecidableEq

/-! ## Crates -/

/-- What the stealth workers call outside the repository. -/
structure Crates where
  starknet : StarknetCrate
  ethers : EthersCrate
  solana : SolanaCrate
  /-- `str::to_lowercase`. -/
  to_lowercase : Text → Text
  /-- `U256::from_str_radix(_, 16)`. -/
  u256_from_hex : Text → Option U256
  poseidon_hash_many : List Felt → Felt
  /-- Salt, class hash, constructor calldata, deployer. -/
  get_contract_address : Felt → Felt → List Felt → Felt → Felt
  /-- Public key, message, `r`, `s`. -/
  ecdsa_verify : Felt → Felt → Felt → Felt → Option Bool
  sha256 : Bytes → BitVec 256
  /-- `Pubkey::create_with_seed`: base, seed, owner. -/
  create_with_seed : Pubkey → Text → Pubkey → Option Pubkey
  /-- `Pubkey`'s `Display`. -/
  pubkey_to_string : Pubkey → Text

/-- Lower-casing leaves digits alone and maps the ASCII letters one by one. -/
structure Crates.Documented (cr : Crates) : Prop where
  starknet : cr.starknet.Documented
  to_lowercase : ∀ s : Text, (∀ c ∈ s, c.toNat < 128) → cr.to_lowercase s = s.map Char.toLower

/-! ## Runtimes -/

/-- A local key and what signing a hash with it gives. -/
structure LocalWallet where
  address : Address
  sign_hash : H256 → Option EcdsaSignature

structure Keypair where
  pubkey : Pubkey
  sign_message : Bytes → Bytes

inductive CosignerId
  | eth (a : Address)
  | ed25519 (k : Pubkey)
deriving DecidableEq

inductive CosignerKey
  | secp256k1 (w : LocalWallet)
  | ed25519 (k : Keypair)

/-- The allowlists; `allowed_targets` is normalised when the registry is built. -/
structure ChainCfg where
  allowed_targets : List Text
  allowed_entrypoints : List Text

structure ChainRuntime where
  cfg : ChainCfg
  cosigner : CosignerId
  key : CosignerKey

structure EvmRt where
  factory : Address
  usdc : Address
  domain_separator : H256
  max_value : Option U256
  max_auth_window_secs : BitVec 64

structure StarknetRt where
  chain_id : Felt
  class_hash : Felt
  max_fee : BitVec 128

/-! ## Targets -/

section
variable (cr : Crates)

/-- Lower case, without the prefix and the leading zeros; what has no prefix stays as it is. -/
def normTarget (s : Text) : Text :=
  let t := trim s
  match stripHex t with
  | some h => cr.to_lowercase (h.dropWhile (· = '0'))
  | none => t

def normSet (targets : List Text) : List Text := targets.map (normTarget cr)

end

/-- Normalising a hexadecimal text keeps its value. -/
theorem hexOf_normTarget {cr : Crates} (hdoc : cr.Documented) {s : Text} {v : Nat}
    (h : HexOf s v) : HexOf (normTarget cr s) v := by
  obtain ⟨ds, hs, hhex, rfl⟩ := h
  have hblank : ∀ c ∈ ds, isWhitespace c = false := fun c hc => isWhitespace_of_hexDigit (hhex c hc)
  rcases hs with rfl | rfl
  · have htrim : trim s = s := trim_of_no_blank hblank
    rw [normTarget, htrim, stripHex_of_isHex hhex]
    exact .plain hhex
  · have htrim : trim ('0' :: 'x' :: ds) = '0' :: 'x' :: ds := by
      refine trim_of_no_blank ?_
      simp only [List.mem_cons]
      rintro c (rfl | rfl | hc)
      · decide
      · decide
      · exact hblank c hc
    have hsub : IsHex (ds.dropWhile (· = '0')) := fun c hc =>
      hhex c (List.dropWhile_subset _ hc)
    have hascii : ∀ c ∈ ds.dropWhile (· = '0'), c.toNat < 128 := by
      intro c hc
      have hbounds := hexDigit?_bounds (hsub c hc)
      omega
    rw [normTarget, htrim]
    show HexOf (cr.to_lowercase (ds.dropWhile (· = '0'))) (hexValue ds)
    rw [hdoc.to_lowercase _ hascii, ← hexValue_dropWhile_zero ds, ← hexValue_map_toLower]
    refine .plain fun c hc => ?_
    obtain ⟨d, hd, rfl⟩ := List.mem_map.mp hc
    rw [hexDigit?_toLower]
    exact hsub d hd

/-! ## Bytes and numbers -/

/-- `str::len`: bytes of the UTF-8 encoding. -/
def byteLength (s : Text) : Nat := (s.map Char.utf8Size).sum

def strip0x (s : Text) : Text := (stripHex (trim s)).getD (trim s)

section
variable (cr : Crates)

def hexBytes (s : Text) : Except Trace Bytes := do
  let t := strip0x s
  require (byteLength t % 2 = 0) ["odd-length hex"]
  okOr (cr.ethers.hex_decode t) ["not hex"]

/-- Thirty-two bytes, as a word. -/
def hex32 (s : Text) : Except Trace H256 := do
  let v ← hexBytes cr s
  require (v.length = 32) [s!"expected 32 bytes, got {v.length}"]
  .ok (BitVec.ofNat 256 (beNat v))

/-- Short values are padded on the left. -/
def pad32 (hex_str : Text) : Except Trace H256 := do
  let t := strip0x hex_str
  require (byteLength t ≤ 64) ["value exceeds 256 bits"]
  let v ← okOr (cr.ethers.hex_decode (List.replicate (64 - t.length) '0' ++ t)) ["not hex"]
  .ok (BitVec.ofNat 256 (beNat v))

def parseU256 (s : Text) : Except Trace U256 :=
  let t := trim s
  match stripHex t with
  | some h => do
      require (h ≠ [] ∧ byteLength h ≤ 64) ["bad uint256"]
      okOr (cr.u256_from_hex h) ["bad uint256"]
  | none => okOr (cr.ethers.u256_from_dec_str t) ["bad uint256"]

def parseU128 (s : Text) : Except Trace (BitVec 128) := do
  let v ← parseU256 cr s
  require (v.toNat < 2 ^ 128) ["value exceeds u128"]
  .ok (v.setWidth 128)

def parseU64 (s : Text) : Except Trace (BitVec 64) := do
  let v ← parseU256 cr s
  require (v.toNat < 2 ^ 64) ["value exceeds u64"]
  .ok (v.setWidth 64)

end

end Beanie.Api
