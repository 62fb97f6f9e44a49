/-
# `Beanie.Api.StarknetCosigner` — one cosignature, one spend

The spec lemma of `precheck_starknet` (`precheckStarknet_ok`), and from it what
a cosignature over an accepted claim can be used for: the screened calls, from
the account bound to this cosigner, at a capped fee.
-/
import Beanie.Api.StealthStarknet
import Beanie.Api.PlainCrates
import Beanie.Api.PaymentRoutes

namespace Beanie.Api

open Beanie.Starknet (Felt)

/-! ## Accepted claims -/

/-- `call` is what the payload spells, and the payload is allowlisted. -/
structure CallAccepted (cr : Crates) (cfg : ChainCfg) (c : CallDataPayload) (call : Starknet.Call) :
    Prop where
  target_allowed : normTarget cr c.contract_address ∈ cfg.allowed_targets
  entrypoint_allowed : trim c.entrypoint ∈ cfg.allowed_entrypoints
  target : cr.starknet.from_hex c.contract_address = some call.target
  selector : cr.starknet.get_selector_from_name (trim c.entrypoint) = some call.selector
  calldata : c.calldata.val.mapM cr.starknet.from_hex = some call.calldata

/-- The plan's fields are what the task's texts spell. -/
structure StarknetReads (cr : Crates) (task : StealthTask) (sp : StarknetTxParams)
    (plan : StarknetPlan) : Prop where
  params : task.starknet = some sp
  sender : cr.starknet.from_hex task.derived_address = some plan.sender
  client_pubkey : cr.starknet.from_hex sp.client_pubkey = some plan.client_pubkey
  salt : cr.starknet.from_hex sp.deploy_salt = some plan.salt
  nonce : cr.starknet.from_hex sp.nonce = some plan.nonce
  tip : parseU64 cr sp.tip = .ok plan.tip
  l1_gas : parseBound cr sp.l1_gas = .ok plan.l1_gas
  l2_gas : parseBound cr sp.l2_gas = .ok plan.l2_gas
  l1_data_gas : parseBound cr sp.l1_data_gas = .ok plan.l1_data_gas
  tx_hash : cr.starknet.from_hex task.tx_hash = some plan.hash

def StarknetPlan.bounds (plan : StarknetPlan) : List Bound :=
  [plan.l1_gas, plan.l2_gas, plan.l1_data_gas]

def StarknetPlan.feeFields (plan : StarknetPlan) : List Felt :=
  Api.feeFields plan.tip plan.l1_gas plan.l2_gas plan.l1_data_gas

def StarknetPlan.invokeFields (cr : Crates) (st : StarknetRt) (plan : StarknetPlan) : List Felt :=
  Api.invokeFields cr st.chain_id plan.sender (Starknet.encodeCalls plan.calls) plan.nonce plan.tip
    plan.l1_gas plan.l2_gas plan.l1_data_gas

structure StarknetScreened (cr : Crates) (rt : ChainRuntime) (st : StarknetRt) (task : StealthTask)
    (cosigner : Address) (plan : StarknetPlan) : Prop where
  reads : ∃ sp, StarknetReads cr task sp plan
  count : task.calls.val ≠ [] ∧ task.calls.val.length ≤ MAX_CALLS
  calls : List.Forall₂ (CallAccepted cr rt.cfg) task.calls.val plan.calls
  max_fee : maxFee 0 plan.bounds = some plan.max_fee
  cap : plan.max_fee.toNat ≤ st.max_fee.toNat
  identity : rt.cosigner = .eth cosigner
  cosigner_felt : plan.cosigner_felt = cosignerFelt cosigner
  address : cr.get_contract_address plan.salt st.class_hash
    [plan.client_pubkey, plan.cosigner_felt] 0 = plan.sender
  calldata : plan.calldata = Starknet.encodeCalls plan.calls
  hash : starknetInvokeV3Hash cr st.chain_id plan.sender plan.calldata plan.nonce plan.tip
    plan.l1_gas plan.l2_gas plan.l1_data_gas = plan.hash
  verified : cr.ecdsa_verify plan.client_pubkey plan.hash plan.r1 plan.s1 = some true

section
variable {cr : Crates} {rt rt' : ChainRuntime} {st st' : StarknetRt} {task task' : StealthTask}
  {plan plan' : StarknetPlan} {cosigner : Address}

theorem checkCall_ok {cfg : ChainCfg} {i : Nat} {c : CallDataPayload} {call : Starknet.Call}
    (h : checkCall cr cfg i c = .ok call) : CallAccepted cr cfg c call := by
  obtain ⟨_, htarget, h⟩ := bind_ok.mp h
  obtain ⟨_, hentry, h⟩ := bind_ok.mp h
  obtain ⟨calldata, hdata, h⟩ := bind_ok.mp h
  obtain ⟨target, hto, h⟩ := bind_ok.mp h
  obtain ⟨selector, hsel, h⟩ := bind_ok.mp h
  obtain rfl := Except.ok.inj h
  exact ⟨require_ok.mp htarget, require_ok.mp hentry, okOr_ok.mp hto, okOr_ok.mp hsel,
    okOr_ok.mp hdata⟩

theorem parseFelt_ok {s : Text} {msg : String} {f : Felt} :
    parseFelt cr s msg = .ok f ↔ cr.starknet.from_hex s = some f := okOr_ok

theorem precheckStarknet_ok (h : precheckStarknet cr rt st task = .ok plan) :
    ∃ cosigner, StarknetScreened cr rt st task cosigner plan := by
  obtain ⟨sp, hparams, h⟩ := bind_ok.mp h
  obtain ⟨_, hcount, h⟩ := bind_ok.mp h
  obtain ⟨calls, hcalls, h⟩ := bind_ok.mp h
  obtain ⟨sender, hsender, h⟩ := bind_ok.mp h
  obtain ⟨client_pubkey, hclient, h⟩ := bind_ok.mp h
  obtain ⟨salt, hsalt, h⟩ := bind_ok.mp h
  obtain ⟨nonce, hnonce, h⟩ := bind_ok.mp h
  obtain ⟨tip, htip, h⟩ := bind_ok.mp h
  obtain ⟨l1_gas, hl1, h⟩ := bind_ok.mp h
  obtain ⟨l2_gas, hl2, h⟩ := bind_ok.mp h
  obtain ⟨l1_data_gas, hdata, h⟩ := bind_ok.mp h
  obtain ⟨max_fee, hfee, h⟩ := bind_ok.mp h
  obtain ⟨_, hcap, h⟩ := bind_ok.mp h
  cases hid : rt.cosigner with
  | ed25519 _ =>
      rw [hid] at h
      exact nomatch h
  | eth cosigner =>
      rw [hid] at h
      obtain ⟨_, haddress, h⟩ := bind_ok.mp h
      obtain ⟨hash, htx, h⟩ := bind_ok.mp h
      obtain ⟨_, hhash, h⟩ := bind_ok.mp h
      cases hsig : task.client_sig with
      | ed25519 _ =>
          rw [hsig] at h
          exact nomatch h
      | ecdsa r1 s1 v =>
          rw [hsig] at h
          obtain ⟨r, -, h⟩ := bind_ok.mp h
          obtain ⟨s, -, h⟩ := bind_ok.mp h
          obtain ⟨ok, hverify, h⟩ := bind_ok.mp h
          obtain ⟨_, htrue, h⟩ := bind_ok.mp h
          obtain rfl := Except.ok.inj h
          refine ⟨cosigner, ?_⟩
          exact {
            reads := ⟨sp, okOr_ok.mp hparams, parseFelt_ok.mp hsender, parseFelt_ok.mp hclient,
              parseFelt_ok.mp hsalt, parseFelt_ok.mp hnonce, context_ok.mp htip, context_ok.mp hl1,
              context_ok.mp hl2, context_ok.mp hdata, parseFelt_ok.mp htx⟩
            count := require_ok.mp hcount
            calls := (collect_ok hcalls).imp fun _ _ ⟨_, hcall⟩ => checkCall_ok hcall
            max_fee := okOr_ok.mp hfee
            cap := require_ok.mp hcap
            identity := hid
            cosigner_felt := rfl
            address := require_ok.mp haddress
            calldata := rfl
            hash := require_ok.mp hhash
            verified := by rw [okOr_ok.mp hverify, require_ok.mp htrue] }

namespace StarknetScreened

theorem length_calls (h : StarknetScreened cr rt st task cosigner plan) :
    plan.calls.length < 2 ^ 64 := by
  rw [← h.calls.length_eq]
  exact task.calls.property

theorem length_calldata (h : StarknetScreened cr rt st task cosigner plan) :
    ∀ call ∈ plan.calls, call.calldata.length < 2 ^ 64 := by
  intro call hcall
  obtain ⟨c, -, hc⟩ := exists_of_forall₂_mem h.calls hcall
  rw [← (forall₂_of_mapM_some hc.calldata).length_eq]
  exact c.calldata.property

theorem hash_eq (h : StarknetScreened cr rt st task cosigner plan) :
    cr.poseidon_hash_many (plan.invokeFields cr st) = plan.hash := by
  rw [← h.hash, h.calldata]
  rfl

theorem totalFee_le (h : StarknetScreened cr rt st task cosigner plan) :
    totalFee plan.bounds ≤ st.max_fee.toNat := by
  have htotal := maxFee_some h.max_fee
  have hcap := h.cap
  have hzero : (0 : BitVec 128).toNat = 0 := rfl
  omega

end StarknetScreened

/-! ## What the digest determines -/

/-- The lists Poseidon hashes for a plan. -/
def hashedLists (cr : Crates) (st : StarknetRt) (plan : StarknetPlan) : Set (List Felt) :=
  {[], plan.feeFields, Starknet.encodeCalls plan.calls, plan.invokeFields cr st}

/-- Two plans that spend the same on the same chain. -/
structure SameSpend (st : StarknetRt) (plan : StarknetPlan) (st' : StarknetRt)
    (plan' : StarknetPlan) : Prop where
  chain_id : st.chain_id = st'.chain_id
  sender : plan.sender = plan'.sender
  calls : plan.calls = plan'.calls
  nonce : plan.nonce = plan'.nonce
  tip : plan.tip = plan'.tip
  l1_gas : plan.l1_gas = plan'.l1_gas
  l2_gas : plan.l2_gas = plan'.l2_gas
  l1_data_gas : plan.l1_data_gas = plan'.l1_data_gas

theorem sameSpend_of_digest {cosigner' : Address}
    (h : StarknetScreened cr rt st task cosigner plan)
    (h' : StarknetScreened cr rt' st' task' cosigner' plan')
    (hinj : Set.InjOn cr.poseidon_hash_many (hashedLists cr st plan ∪ hashedLists cr st' plan'))
    (hdigest : starknetDigest plan = starknetDigest plan') : SameSpend st plan st' plan' := by
  have hhash : plan.hash = plan'.hash := feltToBytesBe_inj hdigest
  have hfields : plan.invokeFields cr st = plan'.invokeFields cr st' :=
    hinj (.inl (by simp [hashedLists])) (.inr (by simp [hashedLists]))
      (by rw [h.hash_eq, h'.hash_eq, hhash])
  simp only [StarknetPlan.invokeFields, invokeFields, List.cons.injEq, and_true, true_and]
    at hfields
  obtain ⟨hsender, hfee, hchain, hnonce, hcalldata⟩ := hfields
  have hfee' : plan.feeFields = plan'.feeFields :=
    hinj (.inl (by simp [hashedLists])) (.inr (by simp [hashedLists])) hfee
  have hcalls : Starknet.encodeCalls plan.calls = Starknet.encodeCalls plan'.calls :=
    hinj (.inl (by simp [hashedLists])) (.inr (by simp [hashedLists])) hcalldata
  obtain ⟨htip, hl1, hl2, hdata⟩ := feeFields_inj hfee'
  exact ⟨hchain, hsender, Starknet.encodeCalls_inj h.length_calls h.length_calldata
    h'.length_calls h'.length_calldata hcalls, hnonce, htip, hl1, hl2, hdata⟩

/-! ## What the sender's address determines -/

/-- Salt, class hash, constructor calldata and deployer. -/
abbrev Deployment := Felt × Felt × List Felt × Felt

def addressOf (cr : Crates) (d : Deployment) : Felt :=
  cr.get_contract_address d.1 d.2.1 d.2.2.1 d.2.2.2

def StarknetPlan.deployment (st : StarknetRt) (plan : StarknetPlan) : Deployment :=
  (plan.salt, st.class_hash, [plan.client_pubkey, plan.cosigner_felt], 0)

/-- Whatever is deployed at the sender's address was constructed with this client key and this
cosigner. -/
def CommitsTo (cr : Crates) (st : StarknetRt) (plan : StarknetPlan) (cosigner : Address) : Prop :=
  ∀ d : Deployment, Set.InjOn (addressOf cr) {plan.deployment st, d} → addressOf cr d = plan.sender →
    d.2.2.1 = [plan.client_pubkey, cosignerFelt cosigner]

theorem StarknetScreened.commitsTo (h : StarknetScreened cr rt st task cosigner plan) :
    CommitsTo cr st plan cosigner := by
  intro d hinj hd
  have hsame : addressOf cr d = addressOf cr (plan.deployment st) := by
    rw [hd, ← h.address]
    rfl
  rw [hinj (by simp) (by simp) hsame, ← h.cosigner_felt]
  rfl

/-! ## Allowlists -/

/-- The call's target is spelled by an allowlisted text, and its selector is an allowlisted
entrypoint's. -/
structure CallAllowed (cr : Crates) (cfg : ChainCfg) (call : Starknet.Call) : Prop where
  target : ∃ t ∈ cfg.allowed_targets, HexOf t call.target.val
  entrypoint : ∃ ep ∈ cfg.allowed_entrypoints,
    cr.starknet.get_selector_from_name ep = some call.selector

theorem CallAccepted.allowed (hdoc : cr.Documented) {cfg : ChainCfg} {c : CallDataPayload}
    {call : Starknet.Call} (h : CallAccepted cr cfg c call) : CallAllowed cr cfg call where
  target := ⟨_, h.target_allowed, hexOf_normTarget hdoc (hdoc.starknet.from_hex _ _ h.target)⟩
  entrypoint := ⟨_, h.entrypoint_allowed, h.selector⟩

/-- Of a registry built from `targets`, one of them spells the call's target, if it spells a number
at all. -/
theorem CallAllowed.configured (hdoc : cr.Documented) {cfg : ChainCfg} {call : Starknet.Call}
    {targets : List Text} (hcfg : cfg.allowed_targets = normSet cr targets)
    (h : CallAllowed cr cfg call) :
    ∃ t ∈ targets, ∀ v, HexOf t v → v = call.target.val := by
  obtain ⟨norm, hmem, hnorm⟩ := h.target
  rw [hcfg] at hmem
  obtain ⟨t, ht, rfl⟩ := List.mem_map.mp hmem
  exact ⟨t, ht, fun v hv => (hexOf_normTarget hdoc hv).unique hnorm (eqIgnoreAsciiCase_refl _)⟩

/-! ## Cosigner safety -/

/-- What screening has established about a plan: the digest is the hash of what the task says, all
calls are allowlisted, the fee is capped and the sender is bound to the cosigner. -/
structure StarknetSafe (cr : Crates) (rt : ChainRuntime) (st : StarknetRt) (task : StealthTask)
    (plan : StarknetPlan) : Prop where
  reads : ∃ sp, StarknetReads cr task sp plan
  calls : List.Forall₂ (CallAccepted cr rt.cfg) task.calls.val plan.calls
  digest : starknetDigest plan = feltToBytesBe (starknetInvokeV3Hash cr st.chain_id plan.sender
    (Starknet.encodeCalls plan.calls) plan.nonce plan.tip plan.l1_gas plan.l2_gas plan.l1_data_gas)
  broadcast : ∀ co, starknetDigest plan = feltToBytesBe ((starknetTx plan co).hash cr st.chain_id)
  allowed : ∀ call ∈ plan.calls, CallAllowed cr rt.cfg call
  fee : totalFee plan.bounds ≤ st.max_fee.toNat
  bound : ∃ cosigner, rt.cosigner = .eth cosigner ∧ CommitsTo cr st plan cosigner

theorem StarknetScreened.safe (hdoc : cr.Documented)
    (h : StarknetScreened cr rt st task cosigner plan) : StarknetSafe cr rt st task plan where
  reads := h.reads
  calls := h.calls
  digest := by rw [starknetDigest, ← h.hash, h.calldata]
  broadcast _ := by rw [starknetDigest, ← h.hash]; rfl
  allowed call hcall := by
    obtain ⟨c, -, hc⟩ := exists_of_forall₂_mem h.calls hcall
    exact hc.allowed hdoc
  fee := h.totalFee_le
  bound := ⟨cosigner, h.identity, h.commitsTo⟩

/-- The encodings below the hash lose nothing. -/
structure UniquelyEncoded : Prop where
  calls : Set.InjOn Starknet.encodeCalls
    {cs | cs.length < 2 ^ 64 ∧ ∀ c ∈ cs, c.calldata.length < 2 ^ 64}
  bounds : ∀ name, IsBoundName name → Function.Injective fun b : Bound => packBound name b.1 b.2
  below : ∀ name, IsBoundName name → ∀ b : Bound, beNat (boundBytes name b.1 b.2) < Starknet.P
  cosigner : Function.Injective cosignerFelt

theorem uniquelyEncoded : UniquelyEncoded where
  calls _ hcs _ hcs' h := Starknet.encodeCalls_inj hcs.1 hcs.2 hcs'.1 hcs'.2 h
  bounds _ hname _ _ h := packBound_inj hname h
  below _ hname _ := boundBytes_lt hname _ _
  cosigner _ _ := cosignerFelt_inj

/-- **Cosigner safety.**  The digest of an accepted claim is the invoke-v3 hash of what the task
says, which is screened, capped and bound to the cosigner; and no other accepted claim with that
digest spends anything else. -/
theorem starknet_cosigner_safety (hdoc : cr.Documented)
    (h : precheckStarknet cr rt st task = .ok plan) :
    StarknetSafe cr rt st task plan ∧ UniquelyEncoded ∧
    ∀ {rt' : ChainRuntime} {st' : StarknetRt} {task' : StealthTask} {plan' : StarknetPlan},
      precheckStarknet cr rt' st' task' = .ok plan' →
      Set.InjOn cr.poseidon_hash_many (hashedLists cr st plan ∪ hashedLists cr st' plan') →
      starknetDigest plan = starknetDigest plan' → SameSpend st plan st' plan' := by
  obtain ⟨cosigner, hscreened⟩ := precheckStarknet_ok h
  refine ⟨hscreened.safe hdoc, uniquelyEncoded, fun h' hinj hdigest => ?_⟩
  obtain ⟨cosigner', hscreened'⟩ := precheckStarknet_ok h'
  exact sameSpend_of_digest hscreened hscreened' hinj hdigest

end

/-! ## A transfer of 16 units -/

namespace StarknetSample

def client : Felt :=
  Fin.ofNat Starknet.P 0x41139a5a644069a945359cab5329f35b2024d76190f8b3724572156d2da69c3

def sender : Felt :=
  Fin.ofNat Starknet.P 0x3215a63df53d8a682347335e003dc98274dbd5cfbbd8938fd1a6d6e0a301135

def hash : Felt :=
  Fin.ofNat Starknet.P 0x217eb2cc5cd851e6070f180d43f07cdbc05d290a126ea115e7455933f817c5c

def calls : List Starknet.Call :=
  [⟨0x033068f6539f8e6e6b131e6b2b814e6c34a5224bc66947c47dab9dfee93b35fb,
    0x83afd3f4caedc6eebf44246fe54e38c95e3179a5ec9ea81740eca5b482d12e, [0x777, 0x10, 0]⟩]

def plan (r1 s1 : Felt) : StarknetPlan where
  sender := sender
  calls := calls
  calldata := Starknet.encodeCalls calls
  client_pubkey := client
  cosigner_felt := 0x14791697260e4c9a71f18484c9f997b308e59325
  salt := 7
  nonce := 1
  tip := 0
  l1_gas := (1000, 1000000000)
  l2_gas := (2000, 1000000000)
  l1_data_gas := (300, 1000000000)
  r1 := r1
  s1 := s1
  hash := hash
  max_fee := 3300000000000

/-- Poseidon on the lists hashed here. -/
def poseidonTable : List (List Felt × Felt) :=
  [([], 0x2272be0f580fd156823304800919530eaa97430e972d7213ee13f4fbf7a5dbc),
   ([0, 0x4c315f47415300000000000003e80000000000000000000000003b9aca00,
     0x4c325f47415300000000000007d00000000000000000000000003b9aca00,
     0x4c315f44415441000000000000012c0000000000000000000000003b9aca00],
    0x3d06532b85653af164e583845dac2b63a58b344df9981d229bfbd202d3e7a9c),
   (Starknet.encodeCalls calls,
    0x3bd531bdc74f3918ae65f0362631cccca277c8aa273aceb26e06c897c47c6d7),
   ([0x696e766f6b65, 3, sender,
     0x3d06532b85653af164e583845dac2b63a58b344df9981d229bfbd202d3e7a9c,
     0x2272be0f580fd156823304800919530eaa97430e972d7213ee13f4fbf7a5dbc, 0x534e5f4d41494e, 1, 0,
     0x2272be0f580fd156823304800919530eaa97430e972d7213ee13f4fbf7a5dbc,
     0x3bd531bdc74f3918ae65f0362631cccca277c8aa273aceb26e06c897c47c6d7], hash)]

/-- Two signatures of the hash by the client. -/
def signatures : List (Felt × Felt) :=
  [(0x2202275e27873286b71dae62930bbf6420d2e933bbc7cb08e09019e7218ad9c,
    0x1e5397e7b0f50f83f516d49e6ae01e2c7c1b2cffc3c47b6e3e586c6068da21c),
   (0x48d337ee487da6cdc93eacc5f39ddb61a3939987b13f58dc45b777540407d6f,
    0x1438c7f6cb11dbe46e528ad2800866a61f4cf5dd6e3db2688f919bf2ab913c9)]

def crates : Crates :=
  { plainCrates with
    poseidon_hash_many := fun xs => (poseidonTable.lookup xs).getD 0
    get_contract_address := fun salt class_hash ctor deployer =>
      if salt = 7 ∧ class_hash = 0xc1a55 ∧ deployer = 0
          ∧ ctor = [client, 0x14791697260e4c9a71f18484c9f997b308e59325] then sender
      else 0
    ecdsa_verify := fun public_key message r s =>
      some (public_key = client ∧ message = hash ∧ (r, s) ∈ signatures) }

theorem crates_documented : crates.Documented := ⟨plainStarknet_documented, fun _ _ => rfl⟩

def runtime : ChainRuntime where
  cfg := ⟨normSet crates [STARKNET_USDC], ["transfer".toList]⟩
  cosigner := .eth 0x14791697260e4c9a71f18484c9f997b308e59325
  key := .secp256k1 ⟨0x14791697260e4c9a71f18484c9f997b308e59325, fun _ => none⟩

def starknetRt : StarknetRt := ⟨0x534e5f4d41494e, 0xc1a55, 200000000000000000⟩

def task (nonce r1 s1 : Text) : StealthTask where
  chain := .starknet
  tx_hash := "0x217eb2cc5cd851e6070f180d43f07cdbc05d290a126ea115e7455933f817c5c".toList
  derived_address := "0x3215a63df53d8a682347335e003dc98274dbd5cfbbd8938fd1a6d6e0a301135".toList
  client_sig := .ecdsa r1 s1 none
  calls := ⟨[⟨STARKNET_USDC, "transfer".toList,
    ⟨["0x777".toList, "0x10".toList, "0x0".toList], by decide⟩⟩], by decide⟩
  auth3009 := none
  starknet := some
    { client_pubkey :=
        "0x41139a5a644069a945359cab5329f35b2024d76190f8b3724572156d2da69c3".toList
      deploy_salt := "0x7".toList
      nonce := nonce
      tip := "0".toList
      l1_gas := ⟨"1000".toList, "1000000000".toList⟩
      l2_gas := ⟨"0x7d0".toList, "1000000000".toList⟩
      l1_data_gas := ⟨"300".toList, "1000000000".toList⟩ }
  message_bytes := none

def first : StealthTask :=
  task "0x1".toList "0x2202275e27873286b71dae62930bbf6420d2e933bbc7cb08e09019e7218ad9c".toList
    "0x1e5397e7b0f50f83f516d49e6ae01e2c7c1b2cffc3c47b6e3e586c6068da21c".toList

/-- The same claim in another spelling and with another signature. -/
def second : StealthTask :=
  task "01".toList "0x48d337ee487da6cdc93eacc5f39ddb61a3939987b13f58dc45b777540407d6f".toList
    "0x1438c7f6cb11dbe46e528ad2800866a61f4cf5dd6e3db2688f919bf2ab913c9".toList

def firstPlan : StarknetPlan :=
  plan 0x2202275e27873286b71dae62930bbf6420d2e933bbc7cb08e09019e7218ad9c
    0x1e5397e7b0f50f83f516d49e6ae01e2c7c1b2cffc3c47b6e3e586c6068da21c

def secondPlan : StarknetPlan :=
  plan 0x48d337ee487da6cdc93eacc5f39ddb61a3939987b13f58dc45b777540407d6f
    0x1438c7f6cb11dbe46e528ad2800866a61f4cf5dd6e3db2688f919bf2ab913c9

theorem poseidon_injOn : Set.InjOn crates.poseidon_hash_many
    (hashedLists crates starknetRt firstPlan ∪ hashedLists crates starknetRt secondPlan) := by
  have htable : ∀ xs ∈ poseidonTable.map Prod.fst, ∀ ys ∈ poseidonTable.map Prod.fst,
      crates.poseidon_hash_many xs = crates.poseidon_hash_many ys → xs = ys := by decide +kernel
  have hlists : hashedLists crates starknetRt firstPlan ∪ hashedLists crates starknetRt secondPlan
      ⊆ {xs | xs ∈ poseidonTable.map Prod.fst} := by
    rintro xs ((rfl | rfl | rfl | rfl) | (rfl | rfl | rfl | rfl)) <;> decide +kernel
  exact fun xs hxs ys hys => htable xs (hlists hxs) ys (hlists hys)

end StarknetSample

open StarknetSample in
/-- Both spellings are accepted, and they are one spend. -/
theorem starknet_cosigner_safety_transfer :
    precheckStarknet crates runtime starknetRt first = .ok firstPlan ∧
    precheckStarknet crates runtime starknetRt second = .ok secondPlan ∧
    StarknetSafe crates runtime starknetRt first firstPlan ∧
    SameSpend starknetRt firstPlan starknetRt secondPlan := by
  have hfirst : precheckStarknet crates runtime starknetRt first = .ok firstPlan := by
    decide +kernel
  have hsecond : precheckStarknet crates runtime starknetRt second = .ok secondPlan := by
    decide +kernel
  obtain ⟨hsafe, -, hsame⟩ := starknet_cosigner_safety crates_documented hfirst
  exact ⟨hfirst, hsecond, hsafe, hsame hsecond poseidon_injOn rfl⟩

end Beanie.Api
