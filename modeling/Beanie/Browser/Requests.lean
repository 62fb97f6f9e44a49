/-
# `Beanie.Browser.Requests` — the bodies the front end sends, and what the server reads

`api.js` with the payloads of `gasless.js` and `stealth.claim.js`: each call of
the API is an object, and the payment's payload is a text inside it.  The case
of a chain's name is one constant of `chains.js`.

    Decodes               the server reads the values that were meant
    requests_decode_iff   with `"lower"` no request is read; with `"upper"` every
                          one is, a Starknet payment with a call apart
-/
import Beanie.Browser.Identity
import Beanie.Api.RequestBodies

namespace Beanie.Browser

open Beanie.Api (Chain AnnounceRequest IncomingPaymentRequest SignaturePayload ClaimRequest)
open Beanie.Api.Serde (member)

/-! ## Chains -/

def API_CHAIN_CASE : Text := "lower".toList

/-- The key of a chain in `CHAINS`. -/
def chainKey : Chain → Text
  | .base => "BASE".toList
  | .starknet => "STARKNET".toList
  | .ethereum => "ETHEREUM".toList
  | .solana => "SOLANA".toList
  | .arbitrum => "ARBITRUM".toList
  | .monad => "MONAD".toList

/-- `apiChain`, for either value of `API_CHAIN_CASE`. -/
def apiChain (chainCase key : Text) : Text :=
  if chainCase = "upper".toList then wire key else toLowerCase key

/-! ## Objects -/

def text (name : String) (s : Text) : Text × Json := member name (.str s)

def number (name : String) (n : Int) : Text × Json := member name (.num n)

def texts (name : String) (ss : List Text) : Text × Json := member name (.arr (ss.map Json.str))

/-- `...(value ? { name: value } : {})`, for a text. -/
def ifText (name : String) : Option Text → List (Text × Json)
  | some (c :: s) => [text name (c :: s)]
  | _ => []

/-- What an optional text stands for: nothing, if it is empty. -/
def truthy : Option Text → Option Text
  | some (c :: s) => some (c :: s)
  | _ => none

/-- `...(value ? { name: value } : {})`, for an object. -/
def ifObject {α : Type} (name : String) (write : α → Json) : Option α → List (Text × Json)
  | some a => [member name (write a)]
  | none => []

/-- An array has fewer than 2 ^ 32 elements. -/
abbrev JsArray (α : Type) := {xs : List α // xs.length < 2 ^ 32}

theorem JsArray.fits {α β : Type} (xs : JsArray α) (f : α → β) :
    (xs.val.map f).length < 2 ^ 64 := by
  rw [List.length_map]
  exact xs.property.trans (by decide)

/-- The array as a vector. -/
def JsArray.vec {α β : Type} (xs : JsArray α) (f : α → β) : Api.Vec β :=
  ⟨xs.val.map f, JsArray.fits xs f⟩

/-- `Math.floor(Date.now() / 1000)`: the clock does not go beyond the largest date. -/
abbrev Seconds := {n : Nat // n ≤ 8640000000000}

/-! ## The calls -/

structure CreateLane where
  chain : Chain
  address : Text
  laneId : Text
  verifiedToken : Text
  targetChain : Chain
  targetRecipient : Text
  webhookUrl : Option Text

def CreateLane.body (chainCase : Text) (a : CreateLane) : Json :=
  .obj ([text "chain" (apiChain chainCase (chainKey a.chain)),
    text "address" a.address,
    text "lane_id" a.laneId,
    text "verified_token" a.verifiedToken,
    text "target_chain" (apiChain chainCase (chainKey a.targetChain)),
    text "target_recipient" a.targetRecipient] ++ ifText "webhook_url" a.webhookUrl)

def CreateLane.meant (a : CreateLane) : AnnounceRequest where
  chain := a.chain
  address := a.address
  lane_id := a.laneId
  verified_token := a.verifiedToken
  target_chain := a.targetChain
  target_recipient := a.targetRecipient
  webhook_url := truthy a.webhookUrl

/-- A call inside an outside execution. -/
structure OutsideCall where
  to_ : Text
  selector : Text
  calldata : JsArray Text
deriving DecidableEq

structure OutsideExecution where
  caller : Text
  nonce : Text
  now : Seconds
  calls : JsArray OutsideCall
deriving DecidableEq

/-- `signed.payload`, by signer. -/
inductive GaslessPayload
  | evm (sender to_ value : Text) (now : Seconds) (nonce signature : Text)
  | starknet (outsideExecution : OutsideExecution) (signature : JsArray Text) (userAddress : Text)
  | solana (message signature owner : Text)

def VALID_FOR_SEC : Nat := 600

def OutsideCall.json (c : OutsideCall) : Json :=
  .obj [text "to" c.to_, text "selector" c.selector, texts "calldata" c.calldata.val]

def OutsideExecution.json (oe : OutsideExecution) : Json :=
  .obj [text "caller" oe.caller,
    text "nonce" oe.nonce,
    number "execute_after" (oe.now.val - 60),
    number "execute_before" (oe.now.val + VALID_FOR_SEC),
    member "calls" (.arr (oe.calls.val.map OutsideCall.json))]

def GaslessPayload.json : GaslessPayload → Json
  | .evm sender to_ value now nonce signature =>
      .obj [text "kind" "evm".toList,
        text "from" sender,
        text "to" to_,
        text "value" value,
        number "validAfter" 0,
        number "validBefore" (now.val + VALID_FOR_SEC),
        text "nonce" nonce,
        text "signature" signature]
  | .starknet outsideExecution signature userAddress =>
      .obj [text "kind" "starknet".toList,
        member "outsideExecution" outsideExecution.json,
        texts "signature" signature.val,
        text "userAddress" userAddress]
  | .solana message signature owner =>
      .obj [text "kind" "solana".toList,
        text "message" message,
        text "signature" signature,
        text "owner" owner]

def OutsideCall.meant (c : OutsideCall) : Api.CallDto where
  contract_address := c.to_
  entrypoint := c.selector
  calldata := JsArray.vec c.calldata id

def OutsideExecution.meant (oe : OutsideExecution) : Api.OutsideExecutionDto where
  caller := oe.caller
  nonce := oe.nonce
  execute_after := BitVec.ofNat 64 (oe.now.val - 60)
  execute_before := BitVec.ofNat 64 (oe.now.val + VALID_FOR_SEC)
  calls := JsArray.vec oe.calls OutsideCall.meant

def GaslessPayload.meant : GaslessPayload → SignaturePayload
  | .evm sender to_ value now nonce signature =>
      .evm sender to_ value 0 (BitVec.ofNat 64 (now.val + VALID_FOR_SEC)) nonce signature
  | .starknet outsideExecution signature userAddress =>
      .starknet outsideExecution.meant (JsArray.vec signature id) userAddress
  | .solana message signature owner => .solana message signature owner

structure SubmitPayment where
  chain : Chain
  merchantAddress : Text
  receiverAddress : Text
  destinationChain : Chain
  txRef : Text
  fromAddress : Text
  amountRaw : Text
  webhookUrl : Option Text
  signature : GaslessPayload

/-- `webhookUrl ?? null` -/
def orNull : Option Text → Json
  | some s => .str s
  | none => .null

def SubmitPayment.body (chainCase : Text) (a : SubmitPayment) : Json :=
  .obj [text "chain" (apiChain chainCase (chainKey a.chain)),
    text "merchant_address" a.merchantAddress,
    text "receiver_address" a.receiverAddress,
    text "destination_chain" (apiChain chainCase (chainKey a.destinationChain)),
    text "tx_hash" a.txRef,
    text "from_address" a.fromAddress,
    text "amount_raw" a.amountRaw,
    member "webhook_url" (orNull a.webhookUrl),
    text "signature" a.signature.json.text]

def SubmitPayment.meant (a : SubmitPayment) : IncomingPaymentRequest where
  chain := a.chain
  merchant_address := a.merchantAddress
  receiver_address := a.receiverAddress
  destination_chain := a.destinationChain
  tx_hash := a.txRef
  from_address := a.fromAddress
  amount_raw := a.amountRaw
  webhook_url := a.webhookUrl
  signature := some a.signature.json.text

/-- `clientSig`, by family. -/
inductive ClientSig
  | ecdsa (r1 s1 : Text) (v : Option UInt8)
  | ed25519 (sig_hex : Text)

structure ClaimCall where
  contract_address : Text
  entrypoint : Text
  calldata : JsArray Text

structure SubmitStealthClaim where
  chain : Chain
  txHash : Text
  derivedAddress : Text
  clientSig : ClientSig
  verifiedToken : Text
  calls : JsArray ClaimCall
  auth3009 : Option Api.Auth3009Params
  starknet : Option Api.StarknetTxParams
  messageBytes : Option Text

def ClientSig.json : ClientSig → Json
  | .ecdsa r1 s1 v =>
      .obj ([text "r1" r1, text "s1" s1] ++
        ifObject "v" (fun v : UInt8 => Json.num v.toNat) v)
  | .ed25519 sig_hex => .obj [text "sig_hex" sig_hex]

def ClaimCall.json (c : ClaimCall) : Json :=
  .obj [text "contract_address" c.contract_address, text "entrypoint" c.entrypoint,
    texts "calldata" c.calldata.val]

def auth3009Json (a : Api.Auth3009Params) : Json :=
  .obj [text "client" a.client, text "to" a.to_, text "value" a.value,
    text "valid_after" a.valid_after, text "valid_before" a.valid_before, text "nonce" a.nonce,
    text "salt" a.salt]

def boundJson (b : Api.ResourceBoundParam) : Json :=
  .obj [text "max_amount" b.max_amount, text "max_price_per_unit" b.max_price_per_unit]

def starknetJson (s : Api.StarknetTxParams) : Json :=
  .obj [text "client_pubkey" s.client_pubkey, text "deploy_salt" s.deploy_salt,
    text "nonce" s.nonce, text "tip" s.tip, member "l1_gas" (boundJson s.l1_gas),
    member "l2_gas" (boundJson s.l2_gas), member "l1_data_gas" (boundJson s.l1_data_gas)]

def SubmitStealthClaim.body (chainCase : Text) (a : SubmitStealthClaim) : Json :=
  .obj ([text "chain" (apiChain chainCase (chainKey a.chain)),
    text "tx_hash" a.txHash,
    text "derived_address" a.derivedAddress,
    member "client_sig" a.clientSig.json,
    text "verified_token" a.verifiedToken,
    member "calls" (.arr (a.calls.val.map ClaimCall.json))] ++
    ifObject "auth3009" auth3009Json a.auth3009 ++ ifObject "starknet" starknetJson a.starknet ++
    ifText "message_bytes" a.messageBytes)

def ClientSig.meant : ClientSig → Api.ClientSignature
  | .ecdsa r1 s1 v => .ecdsa r1 s1 v
  | .ed25519 sig_hex => .ed25519 sig_hex

def ClaimCall.meant (c : ClaimCall) : Api.CallDataPayload where
  contract_address := c.contract_address
  entrypoint := c.entrypoint
  calldata := JsArray.vec c.calldata id

def SubmitStealthClaim.meant (a : SubmitStealthClaim) : ClaimRequest where
  chain := a.chain
  tx_hash := a.txHash
  derived_address := a.derivedAddress
  client_sig := a.clientSig.meant
  calls := JsArray.vec a.calls ClaimCall.meant
  verified_token := a.verifiedToken
  auth3009 := a.auth3009
  starknet := a.starknet
  message_bytes := truthy a.messageBytes

/-- Every call of `/api/v1` with a body of its own shape. -/
inductive Request
  | createLane (a : CreateLane)
  | submitPayment (a : SubmitPayment)
  | submitStealthClaim (a : SubmitStealthClaim)

/-- What the handler is given for a body. -/
def received {α : Type} (deserialize : Json → Option α) (body : Json) : Option α :=
  (Json.parse body.text).bind deserialize

/-- The handler is given what was meant, and reads the payload that was meant in it. -/
def Decodes (chainCase : Text) : Request → Prop
  | .createLane a => received AnnounceRequest.deserialize (a.body chainCase) = some a.meant
  | .submitPayment a =>
      received IncomingPaymentRequest.deserialize (a.body chainCase) = some a.meant ∧
      a.meant.signature.bind SignaturePayload.fromStr = some a.signature.meant
  | .submitStealthClaim a =>
      received ClaimRequest.deserialize (a.body chainCase) = some a.meant

theorem received_eq {α : Type} (deserialize : Json → Option α) (body : Json) :
    received deserialize body = deserialize body := by
  rw [received, Json.parse_text]
  rfl

/-! ## Chain names -/

theorem apiChain_upper (c : Chain) :
    Chain.deserialize (.str (apiChain "upper".toList (chainKey c))) = some c := by
  cases c <;> decide +kernel

theorem apiChain_lower {chainCase : Text} (h : chainCase ≠ "upper".toList) (c : Chain) :
    Chain.deserialize (.str (apiChain chainCase (chainKey c))) = none := by
  have hlower : Chain.deserialize (.str (toLowerCase (chainKey c))) = none := by
    cases c <;> decide +kernel
  rw [apiChain, if_neg h]
  exact hlower

/-! ## Bodies -/

open Api.Serde

attribute [local simp] struct_obj field_ne field_self field_last field_nil fieldOr_ne
  fieldOr_self fieldOr_last fieldOr_nil lookup_ne lookup_nil string_str option_str option_num option_obj option_null text

theorem createLane_deserialize (chainCase : Text) (a : CreateLane) :
    AnnounceRequest.deserialize (a.body chainCase) = (do
      let chain ← Chain.deserialize (.str (apiChain chainCase (chainKey a.chain)))
      let target ← Chain.deserialize (.str (apiChain chainCase (chainKey a.targetChain)))
      some { a.meant with chain := chain, target_chain := target }) := by
  obtain ⟨chain, address, laneId, verifiedToken, targetChain, targetRecipient, webhookUrl⟩ := a
  rcases webhookUrl with _ | _ | ⟨c, s⟩ <;>
    simp [AnnounceRequest.deserialize, CreateLane.body, CreateLane.meant, ifText, truthy]

theorem submitPayment_deserialize (chainCase : Text) (a : SubmitPayment) :
    IncomingPaymentRequest.deserialize (a.body chainCase) = (do
      let chain ← Chain.deserialize (.str (apiChain chainCase (chainKey a.chain)))
      let destination ← Chain.deserialize (.str (apiChain chainCase (chainKey a.destinationChain)))
      some { a.meant with chain := chain, destination_chain := destination }) := by
  obtain ⟨chain, merchant, receiver, destination, txRef, payer, amount, webhookUrl, payload⟩ := a
  rcases webhookUrl with _ | url <;>
    simp [IncomingPaymentRequest.deserialize, SubmitPayment.body, SubmitPayment.meant,
      orNull]

theorem texts_read (xs : JsArray Text) :
    vec string (.arr (xs.val.map Json.str)) = some (JsArray.vec xs id) := by
  have hread : ∀ s : Text, string (Json.str s) = some (id s) := fun _ => rfl
  exact vec_map hread (JsArray.fits xs id)

/-- An outside call has no `contractAddress`. -/
theorem outsideCall_deserialize (c : OutsideCall) : Api.CallDto.deserialize c.json = none := by
  simp [Api.CallDto.deserialize, OutsideCall.json, texts]

theorem outsideCalls_deserialize (xs : JsArray OutsideCall) :
    vec Api.CallDto.deserialize (.arr (xs.val.map OutsideCall.json)) =
      if xs.val = [] then some (JsArray.vec xs OutsideCall.meant) else none := by
  obtain ⟨xs, hfits⟩ := xs
  cases xs with
  | nil => rfl
  | cons c cs =>
      rw [if_neg (List.cons_ne_nil c cs), List.map_cons, vec,
        elements_none (outsideCall_deserialize c)]
      rfl

theorem u64_after (now : Seconds) :
    u64 (.num (now.val - 60)) =
      if 60 ≤ now.val then some (BitVec.ofNat 64 (now.val - 60)) else none := by
  have hnow := now.property
  by_cases h : 60 ≤ now.val
  · have hcast : ((now.val : Int) - 60) = ((now.val - 60 : Nat) : Int) := by omega
    rw [if_pos h, hcast]
    exact u64_natCast (by omega)
  · rw [if_neg h, u64, if_neg (by omega)]

theorem u64_before (now : Seconds) :
    u64 (.num (now.val + VALID_FOR_SEC)) = some (BitVec.ofNat 64 (now.val + VALID_FOR_SEC)) := by
  have hnow := now.property
  have hbound : now.val + VALID_FOR_SEC < 2 ^ 64 := by
    rw [VALID_FOR_SEC]
    omega
  exact u64_natCast hbound

theorem outsideExecution_fields (caller nonce : Text) (after before calls : Json) :
    Api.OutsideExecutionDto.deserialize (.obj [text "caller" caller, text "nonce" nonce,
      member "execute_after" after, member "execute_before" before, member "calls" calls]) = (do
      let execute_after ← u64 after
      let execute_before ← u64 before
      let calls ← vec Api.CallDto.deserialize calls
      some ⟨caller, nonce, execute_after, execute_before, calls⟩) := by
  simp [Api.OutsideExecutionDto.deserialize]

theorem outsideExecution_deserialize (oe : OutsideExecution) :
    Api.OutsideExecutionDto.deserialize oe.json =
      if oe.calls.val = [] ∧ 60 ≤ oe.now.val then some oe.meant else none := by
  rw [OutsideExecution.json, number, number, outsideExecution_fields, u64_after, u64_before, outsideCalls_deserialize]
  by_cases hnow : 60 ≤ oe.now.val
  · by_cases hcalls : oe.calls.val = []
    · rw [if_pos hnow, if_pos hcalls, if_pos ⟨hcalls, hnow⟩]
      rfl
    · rw [if_pos hnow, if_neg hcalls, if_neg fun h : oe.calls.val = [] ∧ 60 ≤ oe.now.val => hcalls h.1]
      rfl
  · rw [if_neg hnow, if_neg fun h : oe.calls.val = [] ∧ 60 ≤ oe.now.val => hnow h.2]
    rfl

/-- The payloads that the server reads: an execution has no calls and begins after the epoch. -/
def GaslessPayload.Read : GaslessPayload → Prop
  | .starknet outsideExecution _ _ =>
      outsideExecution.calls.val = [] ∧ 60 ≤ outsideExecution.now.val
  | _ => True

theorem starknetPayload_deserialize (oe : OutsideExecution) (signature : JsArray Text)
    (userAddress : Text) :
    SignaturePayload.deserialize (GaslessPayload.json (.starknet oe signature userAddress)) =
      (Api.OutsideExecutionDto.deserialize oe.json).map fun oe =>
        .starknet oe (JsArray.vec signature id) userAddress := by
  rw [GaslessPayload.json, SignaturePayload.deserialize_starknet (by simp [-String.reduceToList, texts])]
  generalize oe.json = execution
  simp [SignaturePayload.starknetFields, texts, texts_read]
  cases Api.OutsideExecutionDto.deserialize execution <;> rfl

theorem payload_deserialize (p : GaslessPayload) :
    SignaturePayload.deserialize p.json = some p.meant ↔ p.Read := by
  cases p with
  | evm sender to_ value now nonce signature =>
      have hafter : u64 (.num 0) = some 0 := u64_natCast (n := 0) (by decide)
      refine iff_of_true ?_ trivial
      rw [GaslessPayload.json, SignaturePayload.deserialize_evm
        (by simp [-String.reduceToList, number])]
      simp [SignaturePayload.evmFields, GaslessPayload.meant, number, hafter, u64_before]
  | starknet oe signature userAddress =>
      rw [starknetPayload_deserialize, outsideExecution_deserialize]
      by_cases h : oe.calls.val = [] ∧ 60 ≤ oe.now.val
      · rw [if_pos h]
        exact iff_of_true rfl h
      · rw [if_neg h]
        exact iff_of_false (fun h' => by cases h') h
  | solana message signature owner =>
      refine iff_of_true ?_ trivial
      rw [GaslessPayload.json, SignaturePayload.deserialize_solana (by simp [-String.reduceToList])]
      simp [SignaturePayload.solanaFields, GaslessPayload.meant]

theorem u8_toNat (v : UInt8) : u8 (.num v.toNat) = some v := by
  have hv := v.toNat_lt
  rw [u8, if_pos (by omega), Int.toNat_natCast, UInt8.ofNat_toNat]

theorem clientSig_deserialize (sig : ClientSig) :
    Api.ClientSignature.deserialize sig.json = some sig.meant := by
  cases sig with
  | ecdsa r1 s1 v =>
      cases v <;>
        simp [Api.ClientSignature.deserialize, Api.ClientSignature.ecdsaFields, ClientSig.json,
          ClientSig.meant, ifObject, u8_toNat]
  | ed25519 sig_hex =>
      simp [Api.ClientSignature.deserialize, Api.ClientSignature.ecdsaFields,
        Api.ClientSignature.ed25519Fields, ClientSig.json, ClientSig.meant]

theorem claimCall_deserialize (c : ClaimCall) :
    Api.CallDataPayload.deserialize c.json = some c.meant := by
  simp [Api.CallDataPayload.deserialize, ClaimCall.json, ClaimCall.meant, texts, texts_read]

theorem claimCalls_deserialize (xs : JsArray ClaimCall) :
    vec Api.CallDataPayload.deserialize (.arr (xs.val.map ClaimCall.json)) =
      some (JsArray.vec xs ClaimCall.meant) :=
  vec_map claimCall_deserialize (JsArray.fits xs ClaimCall.meant)

theorem auth3009_deserialize (a : Api.Auth3009Params) :
    Api.Auth3009Params.deserialize (auth3009Json a) = some a := by
  simp [Api.Auth3009Params.deserialize, auth3009Json]

theorem bound_deserialize (b : Api.ResourceBoundParam) :
    Api.ResourceBoundParam.deserialize (boundJson b) = some b := by
  simp [Api.ResourceBoundParam.deserialize, boundJson]

theorem starknet_deserialize (s : Api.StarknetTxParams) :
    Api.StarknetTxParams.deserialize (starknetJson s) = some s := by
  simp [Api.StarknetTxParams.deserialize, starknetJson, bound_deserialize]

theorem lookup_ifObject {α : Type} {name n : String} (h : n ≠ name) (write : α → Json)
    (o : Option α) : lookup name (ifObject n write o) = some none := by
  cases o with
  | none => rfl
  | some a => exact lookup_ne h

theorem lookup_ifText {name n : String} (h : n ≠ name) (o : Option Text) :
    lookup name (ifText n o) = some none := by
  rcases o with _ | _ | ⟨c, s⟩
  · rfl
  · rfl
  · exact lookup_ne h

theorem fieldOr_ifObject {α : Type} {name : String} {write : α → Json}
    {read : Json → Option (Option α)} (h : ∀ a, read (write a) = some (some a)) (o : Option α) :
    fieldOr name read none (ifObject name write o) = some o := by
  cases o with
  | none => rfl
  | some a => exact fieldOr_last.trans (h a)

theorem fieldOr_ifText {name : String} (o : Option Text) :
    fieldOr name (option string) none (ifText name o) = some (truthy o) := by
  rcases o with _ | _ | ⟨c, s⟩
  · rfl
  · rfl
  · exact fieldOr_last

/-- The members that a claim has only for some families. -/
def SubmitStealthClaim.optional (a : SubmitStealthClaim) : List (Text × Json) :=
  ifObject "auth3009" auth3009Json a.auth3009 ++ (ifObject "starknet" starknetJson a.starknet ++
    ifText "message_bytes" a.messageBytes)

theorem lookup_optional {name : String} (a : SubmitStealthClaim) (hauth : "auth3009" ≠ name)
    (hparams : "starknet" ≠ name) (hmessage : "message_bytes" ≠ name) :
    lookup name a.optional = some none := by
  rw [SubmitStealthClaim.optional, lookup_append (lookup_ifObject hauth _ _),
    lookup_append (lookup_ifObject hparams _ _), lookup_ifText hmessage]

theorem fieldOr_auth3009 (a : SubmitStealthClaim) :
    fieldOr "auth3009" (option Api.Auth3009Params.deserialize) none a.optional =
      some a.auth3009 := by
  have hread : ∀ u, option Api.Auth3009Params.deserialize (auth3009Json u) = some (some u) :=
    fun u => congrArg (Option.map some) (auth3009_deserialize u)
  have hrest : lookup "auth3009" (ifObject "starknet" starknetJson a.starknet ++
      ifText "message_bytes" a.messageBytes) = some none := by
    rw [lookup_append (lookup_ifObject (by decide) _ _), lookup_ifText (by decide)]
  rw [SubmitStealthClaim.optional, fieldOr_append_nil hrest, fieldOr_ifObject hread]

theorem fieldOr_starknet (a : SubmitStealthClaim) :
    fieldOr "starknet" (option Api.StarknetTxParams.deserialize) none a.optional =
      some a.starknet := by
  have hread : ∀ u, option Api.StarknetTxParams.deserialize (starknetJson u) = some (some u) :=
    fun u => congrArg (Option.map some) (starknet_deserialize u)
  rw [SubmitStealthClaim.optional, fieldOr_append (lookup_ifObject (by decide) _ _),
    fieldOr_append_nil (lookup_ifText (by decide) _), fieldOr_ifObject hread]

theorem fieldOr_messageBytes (a : SubmitStealthClaim) :
    fieldOr "message_bytes" (option string) none a.optional = some (truthy a.messageBytes) := by
  rw [SubmitStealthClaim.optional, fieldOr_append (lookup_ifObject (by decide) _ _),
    fieldOr_append (lookup_ifObject (by decide) _ _), fieldOr_ifText]

theorem submitStealthClaim_deserialize (chainCase : Text) (a : SubmitStealthClaim) :
    ClaimRequest.deserialize (a.body chainCase) = (do
      let chain ← Chain.deserialize (.str (apiChain chainCase (chainKey a.chain)))
      some { a.meant with chain := chain }) := by
  have hbody : a.body chainCase = .obj (text "chain" (apiChain chainCase (chainKey a.chain)) ::
      text "tx_hash" a.txHash :: text "derived_address" a.derivedAddress ::
      member "client_sig" a.clientSig.json :: text "verified_token" a.verifiedToken ::
      member "calls" (.arr (a.calls.val.map ClaimCall.json)) :: a.optional) := by
    rw [SubmitStealthClaim.body, List.append_assoc, List.append_assoc]
    rfl
  rw [hbody]
  simp [ClaimRequest.deserialize, SubmitStealthClaim.meant, lookup_optional, fieldOr_auth3009,
    fieldOr_starknet, fieldOr_messageBytes, clientSig_deserialize, claimCalls_deserialize]

/-! ## Every request -/

/-- What the request carries inside is read. -/
def Request.PayloadRead : Request → Prop
  | .submitPayment a => a.signature.Read
  | _ => True

theorem decodes_upper (r : Request) : Decodes "upper".toList r ↔ r.PayloadRead := by
  cases r with
  | createLane a =>
      refine iff_of_true ?_ trivial
      rw [Decodes, received_eq, createLane_deserialize, apiChain_upper, apiChain_upper]
      rfl
  | submitPayment a =>
      have hbody : received IncomingPaymentRequest.deserialize (a.body "upper".toList) =
          some a.meant := by
        rw [received_eq, submitPayment_deserialize, apiChain_upper, apiChain_upper]
        rfl
      have hpayload : a.meant.signature.bind SignaturePayload.fromStr =
          SignaturePayload.deserialize a.signature.json := by
        show SignaturePayload.fromStr a.signature.json.text = _
        rw [SignaturePayload.fromStr, Json.parse_text]
        rfl
      rw [Decodes, hpayload, payload_deserialize]
      exact and_iff_right hbody
  | submitStealthClaim a =>
      refine iff_of_true ?_ trivial
      rw [Decodes, received_eq, submitStealthClaim_deserialize, apiChain_upper]
      rfl

theorem not_decodes {chainCase : Text} (h : chainCase ≠ "upper".toList) (r : Request) :
    ¬ Decodes chainCase r := by
  intro hdecodes
  cases r with
  | createLane a =>
      rw [Decodes, received_eq, createLane_deserialize, apiChain_lower h] at hdecodes
      cases hdecodes
  | submitPayment a =>
      rw [Decodes, received_eq, submitPayment_deserialize, apiChain_lower h] at hdecodes
      cases hdecodes.1
  | submitStealthClaim a =>
      rw [Decodes, received_eq, submitStealthClaim_deserialize, apiChain_lower h] at hdecodes
      cases hdecodes

/-- **When requests decode.**  With the case the front end is configured with the server reads no
request; with upper case it reads all of them as they were meant, except the Starknet payments
whose execution has a call. -/
theorem requests_decode_iff (chainCase : Text) (r : Request) :
    ¬ Decodes API_CHAIN_CASE r ∧
    (Decodes chainCase r ↔ chainCase = "upper".toList ∧ r.PayloadRead) := by
  refine ⟨not_decodes (fun h => absurd (String.toList_inj.mp h) (by decide)) r, ?_⟩
  by_cases h : chainCase = "upper".toList
  · rw [h, decodes_upper]
    exact (and_iff_right rfl).symm
  · exact iff_of_false (not_decodes h r) fun h' => h h'.1

/-! ## A lane on Base -/

namespace RequestSample

def lane : CreateLane where
  chain := .base
  address := "0x00000000000000000000000000000000000000aa".toList
  laneId := "lane_1".toList
  verifiedToken := "token".toList
  targetChain := .base
  targetRecipient := "0x00000000000000000000000000000000000000aa".toList
  webhookUrl := none

end RequestSample

open RequestSample in
/-- The body says `"chain":"base"`, which is the name of no chain. -/
theorem lower_case_rejected :
    "\x7b\"chain\":\"base\"".toList <+: (lane.body API_CHAIN_CASE).text ∧
    ¬ Decodes API_CHAIN_CASE (.createLane lane) := by
  constructor
  · decide +kernel
  · intro h
    have hnone : (received AnnounceRequest.deserialize (lane.body API_CHAIN_CASE)).isNone = true := by
      decide +kernel
    rw [Decodes] at h
    rw [h] at hnone
    cases hnone

end Beanie.Browser
