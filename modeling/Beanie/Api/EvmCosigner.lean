/-
# `Beanie.Api.EvmCosigner` — what is accepted off chain is accepted on chain

The API finds the parity of each half by recovery, after bringing `s` to the
low half; the account recovers both halves with OpenZeppelin's `ECDSA`, which
wants a low `s` and checks the parity strictly.  `OzAgrees` says that the two
recoveries agree there.  With it the 130 bytes of an accepted claim make
`isValidSignature` return the magic value on the account that stands at the
claim's address, whoever deployed it (`accepted_on_chain`).
-/
import Beanie.Api.StealthEvm
import Beanie.Api.PlainCrates
import Beanie.Evm.StealthAccount

namespace Beanie.Api

open Beanie.Evm (StealthLib StealthAccount StealthAccountFactory Accounts AccountArgs AccountStep
  toEthSignedMessageHash)

/-- Both sides hash with Keccak; OpenZeppelin recovers what `ethers` recovers where `s` is low and
`v` is 27 or 28, and never recovers the zero address. -/
structure OzAgrees (x : StealthLib) (eth : EthersCrate) : Prop where
  keccak256 : x.keccak256 = eth.keccak256
  recover : ∀ (hash r s : H256) (v : UInt8) (signer : Address), s.toNat ≤ secpN / 2 →
    v = 27 ∨ v = 28 → eth.recover ⟨r, s, BitVec.ofNat 64 v.toNat⟩ hash = some signer →
    x.recover hash (beBytes 32 r.toNat ++ beBytes 32 s.toNat ++ [v]) = .ok signer
  ne_zero : ∀ hash sig signer, x.recover hash sig = .ok signer → signer ≠ 0

/-! ## Accepted claims -/

/-- The authorisation is the one the task's texts spell. -/
structure AuthReads (cr : Crates) (task : StealthTask) (p : Auth3009Params) (plan : EvmPlan) :
    Prop where
  params : task.auth3009 = some p
  sender : cr.ethers.address_from_str task.derived_address = some plan.auth.sender
  recipient : cr.ethers.address_from_str p.to_ = some plan.auth.recipient
  value : parseU256 cr p.value = .ok plan.auth.value
  valid_after : parseU256 cr p.valid_after = .ok plan.auth.valid_after
  valid_before : parseU256 cr p.valid_before = .ok plan.auth.valid_before
  nonce : hex32 cr p.nonce = .ok plan.auth.nonce
  client : cr.ethers.address_from_str p.client = some plan.client
  salt : hex32 cr p.salt = .ok plan.salt

/-- Sixty-five bytes with a low `s` and `v` 27 or 28 that recover to `signer`, to the API and to
the account. -/
structure HalfRecovers (eth : EthersCrate) (x : StealthLib) (hash : H256) (signer : Address)
    (half : Bytes) : Prop where
  parts : ∃ (r s : H256) (v : UInt8), half = beBytes 32 r.toNat ++ beBytes 32 s.toNat ++ [v] ∧
    s.toNat ≤ secpN / 2 ∧ (v = 27 ∨ v = 28) ∧
    eth.recover ⟨r, s, BitVec.ofNat 64 v.toNat⟩ hash = some signer
  accepted : x.recover hash half = .ok signer

/-- What `verify_client_sig` is worth. -/
structure ClientSigned (cr : Crates) (plan : EvmPlan) : Prop where
  low : plan.client_s.toNat ≤ secpN / 2
  parity : plan.client_v = 27 ∨ plan.client_v = 28
  recovers : cr.ethers.recover ⟨plan.client_r, plan.client_s,
    BitVec.ofNat 64 plan.client_v.toNat⟩ plan.signed = some plan.client

structure EvmScreened (cr : Crates) (ev : EvmRt) (task : StealthTask) (plan : EvmPlan) : Prop where
  reads : ∃ p, AuthReads cr task p plan
  tx_hash : hex32 cr task.tx_hash = .ok (plan.auth.digest cr ev.domain_separator)
  signed : plan.signed = hashMessage cr (plan.auth.digest cr ev.domain_separator)
  client : ClientSigned cr plan

section
variable {cr : Crates} {x : StealthLib} {now : BitVec 64} {rt : ChainRuntime} {ev : EvmRt}
  {view : EvmView} {task : StealthTask} {plan : EvmPlan} {calls : List ClaimCall}
  {f : StealthAccountFactory} {cosigner : Address}

theorem verifyClientSig_ok {client : Address} {signed r s : H256} {v : UInt8} {r1 s1 : Text}
    (h : verifyClientSig cr client signed r1 s1 = .ok (r, s, v)) :
    s.toNat ≤ secpN / 2 ∧ (v = 27 ∨ v = 28) ∧
      cr.ethers.recover ⟨r, s, BitVec.ofNat 64 v.toNat⟩ signed = some client := by
  obtain ⟨r', -, h⟩ := bind_ok.mp h
  obtain ⟨s', -, h⟩ := bind_ok.mp h
  obtain ⟨⟨low, flipped⟩, hlow, h⟩ := bind_ok.mp h
  obtain ⟨_, -, h⟩ := bind_ok.mp h
  obtain ⟨v', hfind, h⟩ := bind_ok.mp h
  simp only [Except.ok.injEq, Prod.mk.injEq] at h
  obtain ⟨rfl, rfl, rfl⟩ := h
  have hfind := okOr_ok.mp hfind
  refine ⟨lowS_ok hlow, ?_, by simpa using List.find?_some hfind⟩
  simpa using List.mem_of_find?_eq_some hfind

theorem precheckEvm_ok (h : precheckEvm cr now ev task = .ok plan) :
    EvmScreened cr ev task plan := by
  obtain ⟨_, -, h⟩ := bind_ok.mp h
  obtain ⟨p, hparams, h⟩ := bind_ok.mp h
  obtain ⟨sender, hsender, h⟩ := bind_ok.mp h
  obtain ⟨recipient, hrecipient, h⟩ := bind_ok.mp h
  obtain ⟨client, hclient, h⟩ := bind_ok.mp h
  obtain ⟨_, -, h⟩ := bind_ok.mp h
  obtain ⟨_, -, h⟩ := bind_ok.mp h
  obtain ⟨value, hvalue, h⟩ := bind_ok.mp h
  obtain ⟨_, -, h⟩ := bind_ok.mp h
  obtain ⟨_, -, h⟩ := bind_ok.mp h
  obtain ⟨valid_after, hafter, h⟩ := bind_ok.mp h
  obtain ⟨valid_before, hbefore, h⟩ := bind_ok.mp h
  obtain ⟨_, -, h⟩ := bind_ok.mp h
  obtain ⟨_, -, h⟩ := bind_ok.mp h
  obtain ⟨_, -, h⟩ := bind_ok.mp h
  obtain ⟨nonce, hnonce, h⟩ := bind_ok.mp h
  obtain ⟨salt, hsalt, h⟩ := bind_ok.mp h
  obtain ⟨tx_hash, htx, h⟩ := bind_ok.mp h
  obtain ⟨_, hdigest, h⟩ := bind_ok.mp h
  cases hsig : task.client_sig with
  | ed25519 _ =>
      rw [hsig] at h
      exact nomatch h
  | ecdsa r1 s1 v =>
      rw [hsig] at h
      obtain ⟨⟨client_r, client_s, client_v⟩, hverified, h⟩ := bind_ok.mp h
      obtain rfl := Except.ok.inj h
      obtain ⟨hlow, hparity, hrecovers⟩ := verifyClientSig_ok hverified
      refine ⟨⟨p, ?_⟩, ?_, rfl, hlow, hparity, hrecovers⟩
      · exact ⟨okOr_ok.mp hparams, okOr_ok.mp hsender, okOr_ok.mp hrecipient,
          context_ok.mp hvalue, context_ok.mp hafter, context_ok.mp hbefore,
          context_ok.mp hnonce, okOr_ok.mp hclient, context_ok.mp hsalt⟩
      · rw [require_ok.mp hdigest]
        exact context_ok.mp htx

/-! ## The two halves -/

theorem hashMessage_eq (hagree : OzAgrees x cr.ethers) (digest : H256) :
    hashMessage cr digest = toEthSignedMessageHash x digest := by
  rw [hashMessage, toEthSignedMessageHash, hagree.keccak256]
  rfl

/-- A packed half with `v` in Ethereum's convention, once packed. -/
theorem packSig65_recovers (hagree : OzAgrees x cr.ethers) {hash r s : H256} {v packed : UInt8}
    {signer : Address} (hpacked : packed = if v < 27 then v + 27 else v)
    (hlow : s.toNat ≤ secpN / 2) (hparity : packed = 27 ∨ packed = 28)
    (h : cr.ethers.recover ⟨r, s, BitVec.ofNat 64 packed.toNat⟩ hash = some signer) :
    HalfRecovers cr.ethers x hash signer (packSig65 r s v) where
  parts := ⟨r, s, packed, by rw [packSig65, hpacked], hlow, hparity, h⟩
  accepted := by
    rw [packSig65, ← hpacked]
    exact hagree.recover hash r s packed signer hlow hparity h

theorem ClientSigned.half (hagree : OzAgrees x cr.ethers) (h : ClientSigned cr plan) :
    HalfRecovers cr.ethers x plan.signed plan.client
      (packSig65 plan.client_r plan.client_s plan.client_v) := by
  refine @packSig65_recovers _ _ hagree _ _ _ _ plan.client_v _ ?_ h.low h.parity h.recovers
  rcases h.parity with hv | hv
  · rw [hv]
    rfl
  · rw [hv]
    rfl

theorem Cosigned.half (hagree : OzAgrees x cr.ethers) {digest : H256} {co : Secp256k1Cosig}
    (h : Cosigned cr cosigner digest co) :
    HalfRecovers cr.ethers x digest cosigner (packSig65 co.r co.s co.recid) := by
  have hrecovers := h.recovers
  rcases h.recid with hv | hv
  · refine @packSig65_recovers _ _ hagree _ _ _ _ 27 _ (by rw [hv]; rfl) h.low (.inl rfl) ?_
    rw [hv] at hrecovers
    exact hrecovers
  · refine @packSig65_recovers _ _ hagree _ _ _ _ 28 _ (by rw [hv]; rfl) h.low (.inr rfl) ?_
    rw [hv] at hrecovers
    exact hrecovers

/-! ## The batch -/

/-- What the batch does to the factory's accounts. -/
def runBatch (x : StealthLib) (f : StealthAccountFactory) (w : Accounts) :
    List ClaimCall → Except Evm.Revert Accounts
  | [] => .ok w
  | .createAccount factory client cosigner salt :: calls =>
      if factory = f.this then do
        let (w, _) ← f.createAccount x w client cosigner salt
        runBatch x f w calls
      else .error .external
  | .transferWithAuthorization .. :: calls => runBatch x f w calls

theorem assembleEvm_ok (hid : rt.cosigner = .eth cosigner)
    (h : assembleEvm cr rt ev view plan = .ok calls) :
    ∃ deployed co, view.deployed = some deployed ∧ Cosigned cr cosigner plan.signed co ∧
      calls = (if deployed then [] else
        [.createAccount ev.factory plan.client cosigner plan.salt]) ++
        [.transferWithAuthorization ev.usdc plan.auth (signature130 plan co)] := by
  unfold assembleEvm at h
  rw [hid] at h
  obtain ⟨expected_from, -, h⟩ := bind_ok.mp h
  obtain ⟨_, -, h⟩ := bind_ok.mp h
  obtain ⟨used, -, h⟩ := bind_ok.mp h
  obtain ⟨_, -, h⟩ := bind_ok.mp h
  obtain ⟨deployed, hdeployed, h⟩ := bind_ok.mp h
  obtain ⟨co, hco, h⟩ := bind_ok.mp h
  obtain ⟨expected, wallet, hexpected, -, -, hcosigned⟩ := cosignSecp256k1_ok hco
  obtain rfl : cosigner = expected := CosignerId.eth.inj (hid.symm.trans hexpected)
  exact ⟨deployed, co, okOr_ok.mp hdeployed, hcosigned, (Except.ok.inj h).symm⟩

/-- After the batch, the account of this client and this cosigner stands at the claim's address. -/
theorem runBatch_account (hf : f.entryPoint ≠ 0) (hfactory : ev.factory = f.this)
    (hclient : plan.client ≠ 0) (hcosigner : cosigner ≠ 0) {w : Accounts}
    (hcommits : ∀ account, w (f.getAddress x plan.client cosigner plan.salt) = some account →
      account = ⟨f.entryPoint, plan.client, cosigner⟩) {deployed : Bool}
    (hdeployed : deployed = true →
      (w (f.getAddress x plan.client cosigner plan.salt)).isSome) (sig : Bytes) :
    ∃ w', runBatch x f w ((if deployed then [] else
          [.createAccount ev.factory plan.client cosigner plan.salt]) ++
          [.transferWithAuthorization ev.usdc plan.auth sig]) = .ok w' ∧
      w' (f.getAddress x plan.client cosigner plan.salt)
        = some ⟨f.entryPoint, plan.client, cosigner⟩ := by
  have hstands : (w (f.getAddress x plan.client cosigner plan.salt)).isSome →
      w (f.getAddress x plan.client cosigner plan.salt)
        = some ⟨f.entryPoint, plan.client, cosigner⟩ := by
    intro hsome
    obtain ⟨account, haccount⟩ := Option.isSome_iff_exists.mp hsome
    rw [haccount, hcommits account haccount]
  cases deployed with
  | true => exact ⟨w, rfl, hstands (hdeployed rfl)⟩
  | false =>
      by_cases hsome : (w (f.getAddress x plan.client cosigner plan.salt)).isSome
      · refine ⟨w, ?_, hstands hsome⟩
        have hcreate : f.createAccount x w plan.client cosigner plan.salt
            = .ok (w, f.getAddress x plan.client cosigner plan.salt) := if_pos hsome
        simp only [Bool.false_eq_true, if_false, List.cons_append, List.nil_append, runBatch,
          hfactory, if_true, hcreate, ok_bind]
      · refine ⟨Function.update w (f.getAddress x plan.client cosigner plan.salt)
          (some ⟨f.entryPoint, plan.client, cosigner⟩), ?_, Function.update_self ..⟩
        have hconstruct : StealthAccount.construct f.entryPoint plan.client cosigner
            = .ok ⟨f.entryPoint, plan.client, cosigner⟩ :=
          require_bind_of (by simpa using ⟨hf, hclient, hcosigner⟩)
        have hcreate : f.createAccount x w plan.client cosigner plan.salt
            = .ok (Function.update w (f.getAddress x plan.client cosigner plan.salt)
              (some ⟨f.entryPoint, plan.client, cosigner⟩),
              f.getAddress x plan.client cosigner plan.salt) := by
          rw [StealthAccountFactory.createAccount, if_neg hsome, hconstruct]
          rfl
        simp only [Bool.false_eq_true, if_false, List.cons_append, List.nil_append, runBatch,
          hfactory, if_true, hcreate, ok_bind]

/-! ## Acceptance -/

/-- What the account answers once the batch has deployed it. -/
structure AcceptedOnChain (cr : Crates) (x : StealthLib) (f : StealthAccountFactory) (ev : EvmRt)
    (plan : EvmPlan) (cosigner : Address) (w : Accounts) (sig : Bytes) : Prop where
  account : w plan.auth.sender = some ⟨f.entryPoint, plan.client, cosigner⟩
  length : sig.length = 130
  client_half : HalfRecovers cr.ethers x
    (toEthSignedMessageHash x (plan.auth.digest cr ev.domain_separator)) plan.client (sig.take 65)
  cosigner_half : HalfRecovers cr.ethers x
    (toEthSignedMessageHash x (plan.auth.digest cr ev.domain_separator)) cosigner (sig.drop 65)
  magic : StealthAccount.isValidSignature x ⟨f.entryPoint, plan.client, cosigner⟩
    (plan.auth.digest cr ev.domain_separator) sig = .ok Evm.ERC1271_MAGIC_VALUE

/-- **Off-chain acceptance implies on-chain acceptance.**  Whatever accounts anyone has created,
the batch of an accepted claim whose address is the factory's ends in a transfer of exactly the
submitted authorisation, with a signature that the account at that address accepts for its
EIP-3009 digest. -/
theorem accepted_on_chain (hagree : OzAgrees x cr.ethers)
    (h : precheckEvm cr now ev task = .ok plan) (hid : rt.cosigner = .eth cosigner)
    (hcalls : assembleEvm cr rt ev view plan = .ok calls) (hf : f.entryPoint ≠ 0)
    (hfactory : ev.factory = f.this)
    (hfrom : plan.auth.sender = f.getAddress x plan.client cosigner plan.salt)
    {w : Accounts} {tr : List (Transition Accounts AccountArgs)}
    (hrun : Steps (AccountStep x f) (fun _ => none) tr w)
    (hinj : Set.InjOn (AccountArgs.address x f)
      {b | b = ⟨plan.client, cosigner, plan.salt⟩ ∨ b ∈ Evm.requested tr})
    (hdeployed : view.deployed = some true → (w plan.auth.sender).isSome) :
    EvmScreened cr ev task plan ∧ ∃ sig w',
      calls.getLast? = some (.transferWithAuthorization ev.usdc plan.auth sig) ∧
      runBatch x f w calls = .ok w' ∧ AcceptedOnChain cr x f ev plan cosigner w' sig := by
  have hscreened := precheckEvm_ok h
  refine ⟨hscreened, ?_⟩
  obtain ⟨deployed, co, hview, hcosigned, rfl⟩ := assembleEvm_ok hid hcalls
  have hhash : plan.signed
      = toEthSignedMessageHash x (plan.auth.digest cr ev.domain_separator) := by
    rw [hscreened.signed, hashMessage_eq hagree]
  have hclient := hscreened.client.half hagree
  have hco := hcosigned.half hagree
  rw [hhash] at hclient hco
  have hclient0 : plan.client ≠ 0 := hagree.ne_zero _ _ _ hclient.accepted
  have hcosigner0 : cosigner ≠ 0 := hagree.ne_zero _ _ _ hco.accepted
  have hcommits : ∀ account, w (f.getAddress x plan.client cosigner plan.salt) = some account →
      account = ⟨f.entryPoint, plan.client, cosigner⟩ := by
    intro account haccount
    exact Evm.created_account hrun (a := ⟨plan.client, cosigner, plan.salt⟩) hinj haccount
  obtain ⟨w', hbatch, haccount⟩ := @runBatch_account _ ev plan _ _ hf hfactory hclient0
    hcosigner0 _ hcommits deployed
    (fun htrue => hfrom ▸ hdeployed (by rw [hview, htrue])) (signature130 plan co)
  refine ⟨signature130 plan co, w', List.getLast?_concat .., hbatch, ?_⟩
  have htake : (signature130 plan co).take 65
      = packSig65 plan.client_r plan.client_s plan.client_v :=
    List.take_left' (length_packSig65 ..)
  have hdrop : (signature130 plan co).drop 65 = packSig65 co.r co.s co.recid :=
    List.drop_left' (length_packSig65 ..)
  exact {
    account := by rw [hfrom, haccount]
    length := by simp [signature130]
    client_half := by rw [htake]; exact hclient
    cosigner_half := by rw [hdrop]; exact hco
    magic := StealthAccount.isValidSignature_magic (length_packSig65 ..) (length_packSig65 ..)
      hclient0 hcosigner0 hclient.accepted hco.accepted }

end

/-! ## A claim of 250 USDC -/

namespace EvmSample

def client : Address := 0xafe20de3b656956fea5b3eb2f8fbc1913c7115b0
def cosigner : Address := 0x14791697260e4c9a71f18484c9f997b308e59325
def account : Address := 0x6ace7c3c9512551313df6e2e968559da6572d927
def recipient : Address := 0x2222222222222222222222222222222222222222
def usdc : Address := 0x833589fcd6edb6e08f4c7c32d4f71b54bda02913
def salt : H256 := 0xcdcdcdcdcdcdcdcdcdcdcdcdcdcdcdcdcdcdcdcdcdcdcdcdcdcdcdcdcdcdcdcd

def factory : StealthAccountFactory where
  this := 0x1111111111111111111111111111111111111111
  entryPoint := 0x0000000071727de22e5e9d8baf0edac6f37da032

def auth : TransferAuth where
  sender := account
  recipient := recipient
  value := 250000000
  valid_after := 0
  valid_before := 1900000000
  nonce := 0xabababababababababababababababababababababababababababababababab

def domainSeparator : H256 := 0x02fa7265e7c5d81118673727957699e4d68f74cd74b7db77da710fe8a2c7834f
def digest : H256 := 0x640f54acc512700f4d45f5eaee6c038d15b63b7d3d6f300da20aa0563e202886
def signed : H256 := 0xd07b6ad81948feb18c83f37cb6779cebd32b7f48542dcd1fab2068b199a6842e

/-- Keccak on the texts of this claim. -/
def keccak256 (bs : Bytes) : H256 :=
  let typehash : H256 := 0x7c7c6cdb67a18743f49ec6fa9b35f50d52ed05cbed4cc592e13b44501c1a2267
  let account_salt : H256 := 0x28b56304e0bd9cdaa3867aeb48e43289708e348ebf5c303743739a8b3a7fc65e
  let init_hash : H256 := 0x2bc1251b9f03b5407d35d4d3e38dedbe33760759c41b9f0f29e8934e6c71382d
  let struct_hash : H256 := 0xe6633bf37b4be788ece20fab0367673c7a491b0763ba4fa05334873f1806264a
  let table : List (Bytes × H256) :=
    [(asciiBytes TRANSFER_WITH_AUTHORIZATION, typehash),
      (abiWords [client.toNat, cosigner.toNat, salt.toNat], account_salt),
      ([0x60, 0x80, 0x60, 0x40]
        ++ abiWords [factory.entryPoint.toNat, client.toNat, cosigner.toNat], init_hash),
      (0xff :: beBytes 20 factory.this.toNat ++ abiWords [account_salt.toNat, init_hash.toNat],
        0xa236266cdc6ae8813bb9ca4b6ace7c3c9512551313df6e2e968559da6572d927),
      (abiWords [typehash.toNat, account.toNat, recipient.toNat, auth.value.toNat,
        auth.valid_after.toNat, auth.valid_before.toNat, auth.nonce.toNat], struct_hash),
      ([0x19, 0x01] ++ abiWords [domainSeparator.toNat, struct_hash.toNat], digest),
      (asciiBytes "\x19Ethereum Signed Message:\n32".toList ++ abiWords [digest.toNat], signed)]
  (table.lookup bs).getD 0

def clientR : H256 := 0xc0ae17ab549f22df7b45d6d85671d2303cc55983c06342297346725bd78431dd
def clientS : H256 := 0x62918cab195f4639c9d46165f48e1d6d8029550df7a276acb9f1b2a8d0f62c6d
def cosignerR : H256 := 0x455a5d419baf2df7e6c3ab15e5ea2d2884486e4aec1e2383c4477fbe1d42ad7f
def cosignerS : H256 := 0x212e602235e6737ce59c5623862ebad3dbc43743847fb58484b81b0e7169890a

/-- What the two signatures recover to under either parity. -/
def recover (sig : EcdsaSignature) (hash : H256) : Option Address :=
  if hash = signed ∧ sig = ⟨clientR, clientS, 27⟩ then some client
  else if hash = signed ∧ sig = ⟨clientR, clientS, 28⟩ then
    some 0x76224cff512873a68b539e281b9fbc3e7647c713
  else if hash = signed ∧ sig = ⟨cosignerR, cosignerS, 27⟩ then
    some 0x4525b47bd8ff6b55114b99aef0164112f64356fd
  else if hash = signed ∧ sig = ⟨cosignerR, cosignerS, 28⟩ then some cosigner
  else none

theorem recover_ne_zero {sig : EcdsaSignature} {hash : H256} {signer : Address}
    (h : recover sig hash = some signer) : signer ≠ 0 := by
  unfold recover at h
  split_ifs at h
  all_goals
    obtain rfl := Option.some.inj h
    decide

def crates : Crates :=
  { plainCrates with ethers := { plainEthers with recover := recover, keccak256 := keccak256 } }

/-- OpenZeppelin's checks around the same recovery. -/
def library : StealthLib where
  keccak256 := keccak256
  recover hash sig :=
    let s : H256 := BitVec.ofNat 256 (beNat ((sig.drop 32).take 32))
    if sig.length = 65 ∧ s.toNat ≤ secpN / 2 then
      match recover ⟨BitVec.ofNat 256 (beNat (sig.take 32)), s,
        BitVec.ofNat 64 (sig.getD 64 0).toNat⟩ hash with
      | some signer => .ok signer
      | none => .error .external
    else .error .external
  creationCode := [0x60, 0x80, 0x60, 0x40]

theorem ofNat_beNat_beBytes (v : H256) : BitVec.ofNat 256 (beNat (beBytes 32 v.toNat)) = v := by
  rw [beNat_beBytes, Nat.mod_eq_of_lt (by simpa using v.isLt)]
  exact BitVec.ofNat_toNat .. |>.trans (BitVec.setWidth_eq v)

theorem library_agrees : OzAgrees library crates.ethers where
  keccak256 := rfl
  recover := by
    intro hash r s v signer hlow _ h
    have hr : (beBytes 32 r.toNat ++ beBytes 32 s.toNat ++ [v]).take 32 = beBytes 32 r.toNat := by
      rw [List.append_assoc]
      exact List.take_left' (length_beBytes ..)
    have hs : ((beBytes 32 r.toNat ++ beBytes 32 s.toNat ++ [v]).drop 32).take 32
        = beBytes 32 s.toNat := by
      rw [List.append_assoc, List.drop_left' (length_beBytes ..)]
      exact List.take_left' (length_beBytes ..)
    have hv : (beBytes 32 r.toNat ++ beBytes 32 s.toNat ++ [v]).getD 64 0 = v := by
      simp [List.getD]
    have hlen : (beBytes 32 r.toNat ++ beBytes 32 s.toNat ++ [v]).length = 65 := by simp
    have hrec : recover ⟨r, s, BitVec.ofNat 64 v.toNat⟩ hash = some signer := h
    simp only [library, hr, hs, hv, ofNat_beNat_beBytes, hrec]
    exact if_pos ⟨hlen, hlow⟩
  ne_zero := by
    intro hash sig signer h
    simp only [library] at h
    split_ifs at h
    split at h
    · obtain rfl := Except.ok.inj h
      exact recover_ne_zero (by assumption)
    · exact nomatch h

/-- The client's `s` arrives in the high half. -/
def task : StealthTask where
  chain := .base
  tx_hash := "0x640f54acc512700f4d45f5eaee6c038d15b63b7d3d6f300da20aa0563e202886".toList
  derived_address := "0x6ace7c3c9512551313df6e2e968559da6572d927".toList
  client_sig := .ecdsa "c0ae17ab549f22df7b45d6d85671d2303cc55983c06342297346725bd78431dd".toList
    "9d6e7354e6a0b9c6362b9e9a0b71e2913a8587d8b7a6298f05e0abe3ff4014d4".toList none
  calls := ⟨[], nil_fits⟩
  auth3009 := some ⟨"0xafe20de3b656956fea5b3eb2f8fbc1913c7115b0".toList,
    "0x2222222222222222222222222222222222222222".toList, "250000000".toList, "0".toList,
    "1900000000".toList,
    "0xabababababababababababababababababababababababababababababababab".toList,
    "0xcdcdcdcdcdcdcdcdcdcdcdcdcdcdcdcdcdcdcdcdcdcdcdcdcdcdcdcdcdcdcdcd".toList⟩
  starknet := none
  message_bytes := none

def evm : EvmRt := ⟨factory.this, usdc, domainSeparator, none, 86400⟩

def runtime : ChainRuntime where
  cfg := ⟨[], []⟩
  cosigner := .eth cosigner
  key := .secp256k1 ⟨cosigner, fun hash =>
    if hash = signed then some ⟨cosignerR, cosignerS, 28⟩ else none⟩

def plan : EvmPlan := ⟨auth, client, salt, signed, clientR, clientS, 27⟩

def view : EvmView := ⟨some account, some false, some false⟩

end EvmSample

open EvmSample in
/-- The claim is accepted at a time when nothing stands at its address yet. -/
theorem accepted_on_chain_transfer :
    precheckEvm crates 1899990000 evm task = .ok plan ∧
      EvmScreened crates evm task plan ∧
      ∃ sig w', runBatch library factory (fun _ => none)
          [.createAccount factory.this client cosigner salt,
            .transferWithAuthorization usdc auth sig] = .ok w' ∧
        AcceptedOnChain crates library factory evm plan cosigner w' sig := by
  have hplan : precheckEvm crates 1899990000 evm task = .ok plan := by decide +kernel
  have hcalls : assembleEvm crates runtime evm view plan
      = .ok [.createAccount factory.this client cosigner salt,
        .transferWithAuthorization usdc auth
          (packSig65 clientR clientS 27 ++ packSig65 cosignerR cosignerS 1)] := by
    decide +kernel
  have hinj : Set.InjOn (AccountArgs.address library factory)
      {b | b = ⟨client, cosigner, salt⟩ ∨ b ∈ Evm.requested []} := by
    intro b hb c hc _
    simp only [Evm.requested, List.map_nil, List.not_mem_nil, or_false, Set.mem_ofPred_eq] at hb hc
    rw [hb, hc]
  obtain ⟨hscreened, sig, w', hlast, hbatch, haccepted⟩ :=
    accepted_on_chain library_agrees hplan rfl hcalls (by decide) rfl (by decide +kernel) (.refl _) hinj
      (by simp [view])
  obtain rfl := (ClaimCall.transferWithAuthorization.inj (Option.some.inj hlast)).2.2
  exact ⟨hplan, hscreened, _, w', hbatch, haccepted⟩

end Beanie.Api
