/-
# `Beanie.Api.RequestBodies` — request bodies, as `serde_json` reads them

The derived `Deserialize` of the four shapes the front end sends.  Fields come
in any order and unknown ones are passed over; a field given twice is an error.
The array form of a structure, which the browser does not send, is left out.
-/
import Beanie.Lib.Json
import Beanie.Api.StealthRoutes
import Beanie.Api.PaymentRoutes

namespace Beanie.Api

abbrev Members := List (Text × Json)

namespace Serde

/-- The member of that name; `none` if there are two. -/
def lookup (name : String) (ms : Members) : Option (Option Json) :=
  match ms.filter fun m => m.1 = name.toList with
  | [] => some none
  | [m] => some (some m.2)
  | _ => none

def string : Json → Option Text
  | .str s => some s
  | _ => none

def u64 : Json → Option (BitVec 64)
  | .num n => if 0 ≤ n ∧ n < 2 ^ 64 then some (BitVec.ofInt 64 n) else none
  | _ => none

def u8 : Json → Option UInt8
  | .num n => if 0 ≤ n ∧ n < 2 ^ 8 then some (UInt8.ofNat n.toNat) else none
  | _ => none

variable {α : Type}

/-- `Option<T>`: `null` is `None`. -/
def option (read : Json → Option α) : Json → Option (Option α)
  | .null => some none
  | v => (read v).map some

def elements (read : Json → Option α) : List Json → Option (List α)
  | [] => some []
  | x :: xs => do
      let a ← read x
      let as ← elements read xs
      some (a :: as)

def vec (read : Json → Option α) : Json → Option (Vec α)
  | .arr xs => do
      let as ← elements read xs
      if h : as.length < 2 ^ 64 then some ⟨as, h⟩ else none
  | _ => none

/-- A structure, from its members. -/
def struct (read : Members → Option α) : Json → Option α
  | .obj ms => read ms
  | _ => none

def field (name : String) (read : Json → Option α) (ms : Members) : Option α :=
  match lookup name ms with
  | some (some v) => read v
  | _ => none

/-- A field that may be missing: an `Option`, or one with `#[serde(default)]`. -/
def fieldOr (name : String) (read : Json → Option α) (default : α) (ms : Members) : Option α :=
  match lookup name ms with
  | some (some v) => read v
  | some none => some default
  | none => none

end Serde

open Serde

/-! ## Chains -/

/-- `#[serde(rename_all = "UPPERCASE")]` -/
def Chain.wireName : Chain → String
  | .base => "BASE"
  | .starknet => "STARKNET"
  | .ethereum => "ETHEREUM"
  | .solana => "SOLANA"
  | .arbitrum => "ARBITRUM"
  | .monad => "MONAD"

def Chain.ofWireName (s : Text) : Option Chain :=
  [Chain.base, .starknet, .ethereum, .solana, .arbitrum, .monad].find? fun c =>
    c.wireName.toList = s

/-- A unit variant: its name, or an object that maps its name to `null`. -/
def Chain.deserialize : Json → Option Chain
  | .str s => Chain.ofWireName s
  | .obj [(s, .null)] => Chain.ofWireName s
  | _ => none

/-! ## `/create` -/

def AnnounceRequest.deserialize : Json → Option AnnounceRequest := struct fun ms => do
  let chain ← field "chain" Chain.deserialize ms
  let address ← field "address" string ms
  let lane_id ← field "lane_id" string ms
  let verified_token ← field "verified_token" string ms
  let target_chain ← field "target_chain" Chain.deserialize ms
  let target_recipient ← field "target_recipient" string ms
  let webhook_url ← fieldOr "webhook_url" (option string) none ms
  some { chain, address, lane_id, verified_token, target_chain, target_recipient, webhook_url }

/-! ## `/pay` -/

def IncomingPaymentRequest.deserialize : Json → Option IncomingPaymentRequest := struct fun ms => do
  let chain ← field "chain" Chain.deserialize ms
  let merchant_address ← field "merchant_address" string ms
  let receiver_address ← field "receiver_address" string ms
  let destination_chain ← field "destination_chain" Chain.deserialize ms
  let tx_hash ← field "tx_hash" string ms
  let from_address ← field "from_address" string ms
  let amount_raw ← field "amount_raw" string ms
  let webhook_url ← fieldOr "webhook_url" (option string) none ms
  let signature ← fieldOr "signature" (option string) none ms
  some { chain, merchant_address, receiver_address, destination_chain, tx_hash, from_address,
         amount_raw, webhook_url, signature }

def CallDto.deserialize : Json → Option CallDto := struct fun ms => do
  let contract_address ← field "contractAddress" string ms
  let entrypoint ← field "entrypoint" string ms
  let calldata ← field "calldata" (vec string) ms
  some { contract_address, entrypoint, calldata }

def OutsideExecutionDto.deserialize : Json → Option OutsideExecutionDto := struct fun ms => do
  let caller ← field "caller" string ms
  let nonce ← field "nonce" string ms
  let execute_after ← field "execute_after" u64 ms
  let execute_before ← field "execute_before" u64 ms
  let calls ← field "calls" (vec CallDto.deserialize) ms
  some { caller, nonce, execute_after, execute_before, calls }

def SignaturePayload.evmFields (ms : Members) : Option SignaturePayload := do
  let sender ← field "from" string ms
  let to_ ← field "to" string ms
  let value ← field "value" string ms
  let valid_after ← field "validAfter" u64 ms
  let valid_before ← field "validBefore" u64 ms
  let nonce ← field "nonce" string ms
  let signature ← field "signature" string ms
  some (.evm sender to_ value valid_after valid_before nonce signature)

def SignaturePayload.starknetFields (ms : Members) : Option SignaturePayload := do
  let outside_execution ← field "outsideExecution" OutsideExecutionDto.deserialize ms
  let signature ← field "signature" (vec string) ms
  let user_address ← field "userAddress" string ms
  some (.starknet outside_execution signature user_address)

def SignaturePayload.solanaFields (ms : Members) : Option SignaturePayload := do
  let message ← field "message" string ms
  let signature ← field "signature" string ms
  let owner ← field "owner" string ms
  some (.solana message signature owner)

/-- `#[serde(tag = "kind", rename_all = "lowercase")]` -/
def SignaturePayload.deserialize : Json → Option SignaturePayload := struct fun ms => do
  let kind ← field "kind" string ms
  if kind = "evm".toList then SignaturePayload.evmFields ms
  else if kind = "starknet".toList then SignaturePayload.starknetFields ms
  else if kind = "solana".toList then SignaturePayload.solanaFields ms
  else none

/-- `serde_json::from_str::<SignaturePayload>` -/
def SignaturePayload.fromStr (s : Text) : Option SignaturePayload :=
  (Json.parse s).bind SignaturePayload.deserialize

/-! ## `/stealth/claim` -/

def ClientSignature.ecdsaFields (ms : Members) : Option ClientSignature := do
  let r1 ← field "r1" string ms
  let s1 ← field "s1" string ms
  let v ← fieldOr "v" (option u8) none ms
  some (.ecdsa r1 s1 v)

def ClientSignature.ed25519Fields (ms : Members) : Option ClientSignature := do
  let sig_hex ← field "sig_hex" string ms
  some (.ed25519 sig_hex)

/-- `#[serde(untagged)]`: the first variant that fits. -/
def ClientSignature.deserialize : Json → Option ClientSignature := struct fun ms =>
  (ClientSignature.ecdsaFields ms).or (ClientSignature.ed25519Fields ms)

def CallDataPayload.deserialize : Json → Option CallDataPayload := struct fun ms => do
  let contract_address ← field "contract_address" string ms
  let entrypoint ← field "entrypoint" string ms
  let calldata ← field "calldata" (vec string) ms
  some { contract_address, entrypoint, calldata }

def ResourceBoundParam.deserialize : Json → Option ResourceBoundParam := struct fun ms => do
  let max_amount ← field "max_amount" string ms
  let max_price_per_unit ← field "max_price_per_unit" string ms
  some { max_amount, max_price_per_unit }

def StarknetTxParams.deserialize : Json → Option StarknetTxParams := struct fun ms => do
  let client_pubkey ← field "client_pubkey" string ms
  let deploy_salt ← field "deploy_salt" string ms
  let nonce ← field "nonce" string ms
  let tip ← fieldOr "tip" string ['0'] ms
  let l1_gas ← field "l1_gas" ResourceBoundParam.deserialize ms
  let l2_gas ← field "l2_gas" ResourceBoundParam.deserialize ms
  let l1_data_gas ← field "l1_data_gas" ResourceBoundParam.deserialize ms
  some { client_pubkey, deploy_salt, nonce, tip, l1_gas, l2_gas, l1_data_gas }

def Auth3009Params.deserialize : Json → Option Auth3009Params := struct fun ms => do
  let client ← field "client" string ms
  let to_ ← field "to" string ms
  let value ← field "value" string ms
  let valid_after ← field "valid_after" string ms
  let valid_before ← field "valid_before" string ms
  let nonce ← field "nonce" string ms
  let salt ← field "salt" string ms
  some { client, to_, value, valid_after, valid_before, nonce, salt }

def ClaimRequest.deserialize : Json → Option ClaimRequest := struct fun ms => do
  let chain ← field "chain" Chain.deserialize ms
  let tx_hash ← field "tx_hash" string ms
  let derived_address ← field "derived_address" string ms
  let client_sig ← field "client_sig" ClientSignature.deserialize ms
  let calls ← fieldOr "calls" (vec CallDataPayload.deserialize) ⟨[], nil_fits⟩ ms
  let verified_token ← field "verified_token" string ms
  let auth3009 ← fieldOr "auth3009" (option Auth3009Params.deserialize) none ms
  let starknet ← fieldOr "starknet" (option StarknetTxParams.deserialize) none ms
  let message_bytes ← fieldOr "message_bytes" (option string) none ms
  some { chain, tx_hash, derived_address, client_sig, calls, verified_token, auth3009, starknet,
         message_bytes }

/-! ## Lists of known members -/

namespace Serde

variable {α β : Type}

def member (name : String) (v : Json) : Text × Json := (name.toList, v)

variable {name n : String} {read : Json → Option α} {v : Json} {ms : Members} {default : α}

theorem lookup_nil : lookup name [] = some none := rfl

theorem lookup_ne (h : n ≠ name) : lookup name (member n v :: ms) = lookup name ms := by
  have hne : n.toList ≠ name.toList := fun heq => h (String.toList_inj.mp heq)
  rw [lookup, List.filter_cons_of_neg (by rw [decide_eq_true_eq]; exact hne), lookup]

theorem filter_nil (h : lookup name ms = some none) :
    (ms.filter fun m => m.1 = name.toList) = [] := by
  rw [lookup] at h
  split at h
  · assumption
  · cases h
  · cases h

theorem lookup_self (h : lookup name ms = some none) :
    lookup name (member name v :: ms) = some (some v) := by
  have hfilter : (member name v :: ms).filter (fun m => m.1 = name.toList) =
      [member name v] := by
    rw [List.filter_cons_of_pos (by exact decide_eq_true rfl), filter_nil h]
  rw [lookup, hfilter]
  rfl

theorem field_ne (h : n ≠ name) :
    field name read (member n v :: ms) = field name read ms := by
  rw [field, lookup_ne h, field]

theorem field_self (h : lookup name ms = some none) :
    field name read (member name v :: ms) = read v := by
  rw [field, lookup_self h]

theorem field_last : field name read [member name v] = read v := field_self lookup_nil

theorem field_nil : field name read [] = none := rfl

theorem fieldOr_ne (h : n ≠ name) :
    fieldOr name read default (member n v :: ms) = fieldOr name read default ms := by
  rw [fieldOr, lookup_ne h, fieldOr]

theorem fieldOr_self (h : lookup name ms = some none) :
    fieldOr name read default (member name v :: ms) = read v := by
  rw [fieldOr, lookup_self h]

theorem fieldOr_last : fieldOr name read default [member name v] = read v := fieldOr_self lookup_nil

theorem fieldOr_nil : fieldOr name read default [] = some default := rfl

theorem lookup_append (h : lookup name ms = some none) (ms' : Members) :
    lookup name (ms ++ ms') = lookup name ms' := by
  rw [lookup, List.filter_append, filter_nil h, List.nil_append, lookup]

theorem lookup_append_nil {ms' : Members} (h : lookup name ms' = some none) (ms : Members) :
    lookup name (ms ++ ms') = lookup name ms := by
  rw [lookup, List.filter_append, filter_nil h, List.append_nil, lookup]

theorem fieldOr_append (h : lookup name ms = some none) (ms' : Members) :
    fieldOr name read default (ms ++ ms') = fieldOr name read default ms' := by
  rw [fieldOr, lookup_append h, fieldOr]

theorem fieldOr_append_nil {ms' : Members} (h : lookup name ms' = some none) (ms : Members) :
    fieldOr name read default (ms ++ ms') = fieldOr name read default ms := by
  rw [fieldOr, lookup_append_nil h, fieldOr]

theorem string_str (s : Text) : string (.str s) = some s := rfl

theorem option_str (s : Text) : option read (.str s) = (read (.str s)).map some := rfl

theorem option_num (n : Int) : option read (.num n) = (read (.num n)).map some := rfl

theorem option_obj (ms : Members) : option read (.obj ms) = (read (.obj ms)).map some := rfl

theorem option_null : option read .null = some none := rfl

theorem struct_obj (read : Members → Option α) (ms : Members) : struct read (.obj ms) = read ms :=
  rfl

/-- Each element is read back, so the list is. -/
theorem elements_map {write : β → Json} {meant : β → α}
    (h : ∀ b, read (write b) = some (meant b)) (bs : List β) :
    elements read (bs.map write) = some (bs.map meant) := by
  induction bs with
  | nil => rfl
  | cons b bs ih =>
      rw [List.map_cons, elements, h b, ih]
      rfl

theorem elements_none {x : Json} (h : read x = none) (xs : List Json) :
    elements read (x :: xs) = none := by
  rw [elements, h]
  rfl

theorem vec_map {write : β → Json} {meant : β → α}
    (h : ∀ b, read (write b) = some (meant b)) {bs : List β} (hfits : (bs.map meant).length < 2 ^ 64) :
    vec read (.arr (bs.map write)) = some ⟨bs.map meant, hfits⟩ := by
  rw [vec, elements_map h]
  exact dif_pos hfits

theorem u64_natCast {n : Nat} (h : n < 2 ^ 64) : u64 (.num n) = some (BitVec.ofNat 64 n) := by
  rw [u64, if_pos (by omega), BitVec.ofInt_natCast]

end Serde

/-! ## The payload of each kind -/

namespace SignaturePayload

variable {ms : Members}

theorem deserialize_evm (h : field "kind" string ms = some "evm".toList) :
    deserialize (.obj ms) = evmFields ms := by
  rw [deserialize, struct_obj, h]
  rw [Option.bind_eq_bind, Option.bind_some, if_pos rfl]

theorem deserialize_starknet (h : field "kind" string ms = some "starknet".toList) :
    deserialize (.obj ms) = starknetFields ms := by
  have hevm : "starknet".toList ≠ "evm".toList := fun heq => by
    exact absurd (String.toList_inj.mp heq) (by decide)
  rw [deserialize, struct_obj, h]
  rw [Option.bind_eq_bind, Option.bind_some, if_neg hevm, if_pos rfl]

theorem deserialize_solana (h : field "kind" string ms = some "solana".toList) :
    deserialize (.obj ms) = solanaFields ms := by
  have hevm : "solana".toList ≠ "evm".toList := fun heq => by
    exact absurd (String.toList_inj.mp heq) (by decide)
  have hstarknet : "solana".toList ≠ "starknet".toList := fun heq => by
    exact absurd (String.toList_inj.mp heq) (by decide)
  rw [deserialize, struct_obj, h]
  rw [Option.bind_eq_bind, Option.bind_some, if_neg hevm, if_neg hstarknet, if_pos rfl]

end SignaturePayload

end Beanie.Api
