/-
# `Beanie.Api.StealthEvm` — screening an EVM claim, and the batch that relays it

`precheck_evm` recomputes the EIP-3009 digest of the submitted authorisation
and finds the parity under which the client's signature recovers over EIP-191
of that digest.  `relay_evm` then checks the account's address against the
factory, cosigns the same hash, and batches the deployment with the transfer.
-/
import Beanie.Api.StealthCosign
import Beanie.Api.PaymentRoutes

namespace Beanie.Api

/-- An EIP-3009 authorisation. -/
structure TransferAuth where
  sender : Address
  recipient : Address
  value : U256
  valid_after : U256
  valid_before : U256
  nonce : H256
deriving DecidableEq

structure EvmPlan where
  auth : TransferAuth
  client : Address
  salt : H256
  signed : H256
  client_r : H256
  client_s : H256
  client_v : UInt8
deriving DecidableEq

/-- A claim must stay valid this long. -/
def MIN_AUTH_TTL_SECS : Nat := 120

section
variable (cr : Crates)

/-- `transfer_auth_digest`: the EIP-712 digest. -/
def TransferAuth.digest (domain_separator : H256) (a : TransferAuth) : H256 :=
  let keccak256 := cr.ethers.keccak256
  let struct_hash := keccak256 (abiWords [(keccak256 (asciiBytes TRANSFER_WITH_AUTHORIZATION)).toNat,
    a.sender.toNat, a.recipient.toNat, a.value.toNat, a.valid_after.toNat, a.valid_before.toNat,
    a.nonce.toNat])
  keccak256 ([0x19, 0x01] ++ beBytes 32 domain_separator.toNat ++ beBytes 32 struct_hash.toNat)

/-- `hash_message` of 32 bytes: EIP-191. -/
def hashMessage (message : H256) : H256 :=
  cr.ethers.keccak256 (asciiBytes "\x19Ethereum Signed Message:\n".toList
    ++ asciiBytes (Nat.toDigits 10 32) ++ beBytes 32 message.toNat)

/-- The client's signature in the low half, and the parity under which it recovers. -/
def verifyClientSig (client : Address) (signed : H256) (r1 s1 : Text) :
    Except Trace (H256 × H256 × UInt8) := do
  let r ← context "bad client r" (pad32 cr r1)
  let s ← context "bad client s" (pad32 cr s1)
  let (s, _) ← lowS s
  require (r ≠ 0 ∧ s ≠ 0) ["zero r/s"]
  let recovers (v : UInt8) : Bool :=
    cr.ethers.recover ⟨r, s, BitVec.ofNat 64 v.toNat⟩ signed = some client
  let v ← okOr ([27, 28].find? recovers)
    ["client signature does not recover to `client` over EIP-191(digest)"]
  .ok (r, s, v)

/-- A value within the cap, if there is one. -/
def withinCap (max_value : Option U256) (value : U256) : Bool :=
  match max_value with
  | some max => value ≤ max
  | none => true

/-- `now` is the clock's answer. -/
def precheckEvm (now : BitVec 64) (ev : EvmRt) (task : StealthTask) : Except Trace EvmPlan := do
  require (task.calls.val = []) ["evm claims carry no `calls`: one claim is one authorization"]
  let p ← okOr task.auth3009 ["evm claim requires `auth3009` params"]
  let sender ← okOr (cr.ethers.address_from_str task.derived_address) ["bad derived_address"]
  let recipient ← okOr (cr.ethers.address_from_str p.to_) ["bad to"]
  let client ← okOr (cr.ethers.address_from_str p.client) ["bad client"]
  require (recipient ≠ 0) ["`to` is the zero address"]
  require (recipient ≠ sender) ["`to` equals the stealth account"]
  let value ← context "bad value" (parseU256 cr p.value)
  require (value ≠ 0) ["value is zero"]
  require (withinCap ev.max_value value = true) [s!"value {value.toNat} exceeds the per-claim cap"]
  let valid_after ← context "bad valid_after" (parseU256 cr p.valid_after)
  let valid_before ← context "bad valid_before" (parseU256 cr p.valid_before)
  require (valid_after.toNat < now.toNat) ["authorization is not valid yet"]
  require (now.toNat + MIN_AUTH_TTL_SECS < valid_before.toNat)
    [s!"authorization expires in under {MIN_AUTH_TTL_SECS}s"]
  require (valid_before.toNat ≤ now.toNat + ev.max_auth_window_secs.toNat)
    [s!"authorization window exceeds {ev.max_auth_window_secs.toNat}s"]
  let nonce ← context "bad nonce" (hex32 cr p.nonce)
  let auth : TransferAuth := ⟨sender, recipient, value, valid_after, valid_before, nonce⟩
  let salt ← context "bad salt" (hex32 cr p.salt)
  let digest := auth.digest cr ev.domain_separator
  let tx_hash ← context "bad tx_hash" (hex32 cr task.tx_hash)
  require (digest = tx_hash)
    ["tx_hash does not match the EIP-3009 digest of the submitted authorization"]
  let signed := hashMessage cr digest
  match task.client_sig with
  | .ed25519 _ => .error ["evm task needs an ecdsa client signature"]
  | .ecdsa r1 s1 _ => do
      let (client_r, client_s, client_v) ← verifyClientSig cr client signed r1 s1
      .ok ⟨auth, client, salt, signed, client_r, client_s, client_v⟩

/-! ## Relaying -/

/-- A call of the multicall batch; none may fail. -/
inductive ClaimCall
  | createAccount (factory client cosigner : Address) (salt : H256)
  | transferWithAuthorization (usdc : Address) (auth : TransferAuth) (signature : Bytes)
deriving DecidableEq

/-- What the node answers: the factory's address for the account, whether the authorisation is
used, and whether the account has code. -/
structure EvmView where
  expected_from : Option Address
  used : Option Bool
  deployed : Option Bool

/-- The 130 bytes. -/
def signature130 (plan : EvmPlan) (co : Secp256k1Cosig) : Bytes :=
  packSig65 plan.client_r plan.client_s plan.client_v ++ packSig65 co.r co.s co.recid

/-- The batch `relay_evm` sends. -/
def assembleEvm (rt : ChainRuntime) (ev : EvmRt) (view : EvmView) (plan : EvmPlan) :
    Except Trace (List ClaimCall) := do
  match rt.cosigner with
  | .ed25519 _ => .error ["evm cosigner must be a secp256k1 address"]
  | .eth our_cosigner => do
      let expected_from ← okOr view.expected_from ["factory.getAddress failed"]
      require (expected_from = plan.auth.sender)
        ["derived_address != factory.getAddress(client, our cosigner, salt)"]
      let used ← okOr view.used ["authorizationState failed"]
      require (used = false) ["authorization nonce already used or canceled"]
      let deployed ← okOr view.deployed ["get_code failed"]
      let co ← cosignSecp256k1 cr rt plan.signed
      let create : List ClaimCall :=
        if deployed then [] else [.createAccount ev.factory plan.client our_cosigner plan.salt]
      .ok (create ++ [.transferWithAuthorization ev.usdc plan.auth (signature130 plan co)])

end

end Beanie.Api
