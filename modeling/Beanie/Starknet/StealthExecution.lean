/-
# `Beanie.Starknet.StealthExecution` — what the Cairo account can be made to call

The entry points of `stealth_account.cairo` inside a transaction in which every
contract may call every other.  Only the protocol calls with the caller zero: the
sender of an invoke transaction to validate it, and once that has succeeded to
execute the same calldata.  So every call the account makes stands in the
calldata of a transaction of its own that both its signers have signed, and in
the relayer's transaction it is one of the claim's calls
(`account_calls_validated`).
-/
import Beanie.Lib.CallStack
import Beanie.Starknet.StealthSignature

namespace Beanie.Starknet

open CallStack (Contract Frame StackStep Reaches)
open Api (Address)

/-- A selector and its calldata. -/
structure EntryPointData where
  selector : Felt
  calldata : List Felt
deriving DecidableEq

inductive AccountPanic
  | core (p : Panic)
  | invalidCaller
  | invalidSignature
  | deserialization
  | entryPointNotFound
deriving DecidableEq

/-- `get_tx_info()`, as far as the account reads it, and what the protocol runs. -/
structure TxInfo where
  account_contract_address : ContractAddress
  transaction_hash : Felt
  signature : List Felt
  calldata : List Felt

/-! ## The entry points -/

/-- `selector!`: the `starknet_keccak` of the names. -/
def VALIDATE_SELECTOR : Felt := 0x162da33a4585851fe8d3af3c2a9c60b557814e221e0d4f30ff0b2189d9c7775
def EXECUTE_SELECTOR : Felt := 0x15d40a3d6ca2ac30f4031e42be28da9b056fef9bb7357ac5e85627ee876e5ad
def IS_VALID_SIGNATURE_SELECTOR : Felt :=
  0x28420862938116cb3bbdbedee07451ccc54d4e9412dbef71142ad1980a30941
def VALIDATE_DEPLOY_SELECTOR : Felt :=
  0x36fcbf06cd96843058359e1a75928beacfac10727dab22a3972f0af8aa92895
def VALIDATE_DECLARE_SELECTOR : Felt :=
  0x289da278a8dc833409cabfdad1581e8e7d40e42dcaed693fa4008dcdb4963b3
def SUPPORTS_INTERFACE_SELECTOR : Felt :=
  0xfe80f537b66d12a00b6d3c072b44afbb716e78dde5c3f0ef116ee93d3e3283

/-- `'VALID'` -/
def VALIDATED : Felt := 0x56414c4944

def ISRC6_ID : Felt := 0x2ceccef7f994940b3962a6c67e0ba4fcd37df7d131417c604f91e03caecc1cd
def ISRC5_ID : Felt := 0x3f918d17e5ee77373b56385708f855659a07f75997f365cf87748628532a9

/-- A value that is all of the calldata. -/
def deserialize {α : Type} (r : Reader Felt α) (calldata : List Felt) : Except AccountPanic α :=
  match r calldata with
  | some (a, []) => .ok a
  | _ => .error .deserialization

namespace StealthAccount

section
variable (x : CoreLib) (a : StealthAccount) (tx : TxInfo)

/-- The assertions that `__validate__`, `__validate_deploy__` and `__validate_declare__` share. -/
def assertSigned (caller : ContractAddress) : Except AccountPanic Felt :=
  if caller ≠ 0 then .error .invalidCaller
  else
    match a.isValidSignature x tx.transaction_hash tx.signature with
    | .error p => .error (.core p)
    | .ok is_valid => if ¬ is_valid then .error .invalidSignature else .ok VALIDATED

/-- `__validate__` -/
def validate (caller : ContractAddress) : Except AccountPanic Felt := a.assertSigned x tx caller

/-- `__execute__`: the calls, in order. -/
def execute (caller : ContractAddress) (calls : List Call) : Except AccountPanic (List Call) :=
  if caller ≠ 0 then .error .invalidCaller else .ok calls

/-- `is_valid_signature` -/
def is_valid_signature (hash : Felt) (signature : List Felt) : Except AccountPanic Felt :=
  match a.isValidSignature x hash signature with
  | .error p => .error (.core p)
  | .ok valid => .ok (if valid then VALIDATED else 0)

/-- `supports_interface` -/
def supports_interface (interface_id : Felt) : Bool :=
  interface_id = ISRC6_ID ∨ interface_id = ISRC5_ID

/-- Class hash, salt, client public key, and a cosigner address of 160 bits. -/
def deployArguments : Reader Felt (Felt × Felt × Felt × Address) := do
  let class_hash ← Reader.symbol
  let contract_address_salt ← Reader.symbol
  let client_pubkey ← Reader.symbol
  let cosigner_eth_address ← Reader.symbol
  Reader.guard (cosigner_eth_address.val < 2 ^ 160)
  pure (class_hash, contract_address_salt, client_pubkey,
    BitVec.ofNat 160 cosigner_eth_address.val)

/-- What the account calls when `caller` calls it with `data`. -/
def body (caller : ContractAddress) (data : EntryPointData) :
    Except AccountPanic (List Call) :=
  if data.selector = EXECUTE_SELECTOR then do
    let calls ← deserialize (span Call.read) data.calldata
    execute caller calls
  else if data.selector = VALIDATE_SELECTOR then do
    let _ ← deserialize (span Call.read) data.calldata
    let _ ← a.validate x tx caller
    .ok []
  else if data.selector = VALIDATE_DEPLOY_SELECTOR then do
    let _ ← deserialize deployArguments data.calldata
    let _ ← a.assertSigned x tx caller
    .ok []
  else if data.selector = VALIDATE_DECLARE_SELECTOR then do
    let _ ← deserialize Reader.symbol data.calldata
    let _ ← a.assertSigned x tx caller
    .ok []
  else if data.selector = IS_VALID_SIGNATURE_SELECTOR then do
    let p ← deserialize (do
      let hash ← Reader.symbol
      let signature ← span Reader.symbol
      pure (hash, signature)) data.calldata
    let _ ← a.is_valid_signature x p.1 p.2
    .ok []
  else if data.selector = SUPPORTS_INTERFACE_SELECTOR then do
    let _ ← deserialize Reader.symbol data.calldata
    .ok []
  else .error .entryPointNotFound

end

end StealthAccount

/-- A call of the transaction. -/
def Call.entry (c : Call) : CallStack.Call ContractAddress EntryPointData :=
  ⟨c.target, 0, ⟨c.selector, c.calldata⟩⟩

/-- The account at `this`, inside the transaction `tx`. -/
def StealthAccount.contract (x : CoreLib) (a : StealthAccount) (tx : TxInfo)
    (this : ContractAddress) : Contract ContractAddress EntryPointData where
  address := this
  calls := fun caller data => ((a.body x tx caller data).map (List.map Call.entry)).toOption

/-- How the protocol, whose calls have the caller zero, calls the account at `this`. -/
inductive ProtocolCalls (x : CoreLib) (a : StealthAccount) (tx : TxInfo)
    (this : ContractAddress) : EntryPointData → Prop
  | validate : tx.account_contract_address = this →
      ProtocolCalls x a tx this ⟨VALIDATE_SELECTOR, tx.calldata⟩
  | execute : tx.account_contract_address = this → a.validate x tx 0 = .ok VALIDATED →
      ProtocolCalls x a tx this ⟨EXECUTE_SELECTOR, tx.calldata⟩
  | deploy (calldata : List Felt) : tx.account_contract_address = this →
      ProtocolCalls x a tx this ⟨VALIDATE_DEPLOY_SELECTOR, calldata⟩
  | declare (calldata : List Felt) : tx.account_contract_address = this →
      ProtocolCalls x a tx this ⟨VALIDATE_DECLARE_SELECTOR, calldata⟩

section
variable {x : CoreLib} {a : StealthAccount} {tx : TxInfo}
  {this : ContractAddress}

/-- A check that passes is of both signatures. -/
theorem signedByBoth_of_valid {hash : Felt} {signature : List Felt}
    (h : a.isValidSignature x hash signature = .ok true) : SignedByBoth x a hash signature := by
  have hcases : ClientFailsOrFits x a hash signature := by
    unfold ClientFailsOrFits
    split
    · rename_i r1 s1 r2_low r2_high s2_low s2_high v2
      by_contra hno
      obtain ⟨hclient, hfits⟩ := not_or.mp hno
      rw [isValidSignature_panics (Bool.not_eq_false _ ▸ hclient) hfits] at h
      cases h
    · trivial
  by_contra hunsigned
  have hfalse := ((answersSignature_iff signature).mpr hcases).2 hunsigned
  rw [h] at hfalse
  cases hfalse

/-- A transaction that validates is signed by both. -/
theorem validate_signed {caller : ContractAddress} {f : Felt} (h : a.validate x tx caller = .ok f) :
    SignedByBoth x a tx.transaction_hash tx.signature := by
  unfold StealthAccount.validate StealthAccount.assertSigned at h
  by_cases hcaller : caller ≠ 0
  · rw [if_pos hcaller] at h
    cases h
  · rw [if_neg hcaller] at h
    cases hvalid : a.isValidSignature x tx.transaction_hash tx.signature with
    | error p =>
        rw [hvalid] at h
        cases h
    | ok is_valid =>
        cases is_valid with
        | false =>
            rw [hvalid] at h
            cases h
        | true => exact signedByBoth_of_valid hvalid

/-- **Only `__execute__` calls, and only for the protocol.** -/
theorem body_calls {caller : ContractAddress} {data : EntryPointData} {cs : List Call} {c : Call}
    (h : a.body x tx caller data = .ok cs) (hc : c ∈ cs) :
    data.selector = EXECUTE_SELECTOR ∧ caller = 0 ∧
      deserialize (span Call.read) data.calldata = .ok cs := by
  unfold StealthAccount.body at h
  by_cases hexecute : data.selector = EXECUTE_SELECTOR
  · rw [if_pos hexecute] at h
    obtain ⟨calls, hcalls, h⟩ := bind_ok.mp h
    unfold StealthAccount.execute at h
    by_cases hcaller : caller ≠ 0
    · rw [if_pos hcaller] at h
      cases h
    · rw [if_neg hcaller] at h
      cases h
      exact ⟨hexecute, not_not.mp hcaller, hcalls⟩
  · rw [if_neg hexecute] at h
    have hnil : cs = [] := by
      split_ifs at h
      all_goals
        obtain ⟨_, -, h⟩ := bind_ok.mp h
        first
        | exact (Except.ok.inj h).symm
        | obtain ⟨_, -, h⟩ := bind_ok.mp h
          exact (Except.ok.inj h).symm
    rw [hnil] at hc
    cases hc

theorem calls_eq_some {caller : ContractAddress} {data : EntryPointData}
    {es : List (CallStack.Call ContractAddress EntryPointData)}
    (h : (a.contract x tx this).calls caller data = some es) :
    ∃ cs, a.body x tx caller data = .ok cs ∧ es = cs.map Call.entry := by
  have hmap := toOption_eq_some.mp h
  cases hbody : a.body x tx caller data with
  | error p =>
      rw [hbody] at hmap
      cases hmap
  | ok cs =>
      rw [hbody] at hmap
      exact ⟨cs, rfl, (Except.ok.inj hmap).symm⟩

/-- What is reached is called at once, for the protocol: the account does not execute for itself. -/
theorem reaches_calls (hthis : this ≠ 0) {caller : ContractAddress} {data : EntryPointData}
    {c : CallStack.Call ContractAddress EntryPointData}
    (h : Reaches (a.contract x tx this) caller data c) :
    data.selector = EXECUTE_SELECTOR ∧ caller = 0 ∧
      ∃ cs d, deserialize (span Call.read) data.calldata = .ok cs ∧ d ∈ cs ∧ c = d.entry := by
  cases h with
  | direct hcalls hc =>
      obtain ⟨cs, hbody, rfl⟩ := calls_eq_some hcalls
      obtain ⟨d, hd, rfl⟩ := List.mem_map.mp hc
      obtain ⟨hselector, hcaller, hcs⟩ := body_calls hbody hd
      exact ⟨hselector, hcaller, cs, d, hcs, hd, rfl⟩
  | through _ _ hcalls hc =>
      obtain ⟨cs, hbody, rfl⟩ := calls_eq_some hcalls
      obtain ⟨d, hd, rfl⟩ := List.mem_map.mp hc
      exact absurd (body_calls hbody hd).2.1 hthis

/-- The calldata of the worker's transactions is read as the calls it was made from. -/
theorem deserialize_encodeCalls {cs : List Call} (hlen : cs.length < 2 ^ 64)
    (hdata : ∀ c ∈ cs, c.calldata.length < 2 ^ 64) :
    deserialize (span Call.read) (encodeCalls cs) = .ok cs := by
  have hreads := reads_calls hlen hdata []
  rw [List.append_nil] at hreads
  rw [deserialize, hreads]

/-- **Every call the account makes is in a transaction that both have signed.**  Whatever else is
called in the transaction and in whatever order: what the account calls stands in the calldata of a
transaction of its own that client and cosigner have signed, and where the calldata is a list of
calls, it is one of them. -/
theorem account_calls_validated (hthis : this ≠ 0) {data : EntryPointData}
    {s : List (Frame ContractAddress EntryPointData)}
    {tr : List (Transition (List (Frame ContractAddress EntryPointData))
      (CallStack.Event ContractAddress EntryPointData))}
    (h : Steps (StackStep (a.contract x tx this)
      fun caller data => caller = 0 → ProtocolCalls x a tx this data)
      [(a.contract x tx this).enter 0 ⟨0, 0, data⟩] tr s) :
    ∀ t ∈ tr, ∀ c, t.act = .call this c →
      tx.account_contract_address = this ∧ SignedByBoth x a tx.transaction_hash tx.signature ∧
      (∃ cs d, deserialize (span Call.read) tx.calldata = .ok cs ∧ d ∈ cs ∧ c = d.entry) ∧
      ∀ calls, calls.length < 2 ^ 64 → (∀ d ∈ calls, d.calldata.length < 2 ^ 64) →
        tx.calldata = encodeCalls calls → ∃ d ∈ calls, c = d.entry := by
  intro t ht c hact
  obtain ⟨caller, data', -, hallowed, hreaches⟩ :=
    CallStack.made_from (k := a.contract x tx this) hthis.symm (fun hzero => absurd (show 0 = this from hzero) hthis.symm) h
      t ht c hact
  obtain ⟨hselector, rfl, cs, d, hcs, hd, rfl⟩ := reaches_calls hthis hreaches
  cases hallowed rfl with
  | validate haddress =>
      exact absurd (show VALIDATE_SELECTOR = EXECUTE_SELECTOR from hselector) (by decide)
  | deploy calldata haddress =>
      exact absurd (show VALIDATE_DEPLOY_SELECTOR = EXECUTE_SELECTOR from hselector) (by decide)
  | declare calldata haddress =>
      exact absurd (show VALIDATE_DECLARE_SELECTOR = EXECUTE_SELECTOR from hselector) (by decide)
  | execute haddress hvalidated =>
      refine ⟨haddress, validate_signed hvalidated, ⟨cs, d, hcs, hd, rfl⟩, ?_⟩
      intro calls hlen hdata hencoded
      have hread : deserialize (span Call.read) tx.calldata = .ok cs := hcs
      rw [hencoded, deserialize_encodeCalls hlen hdata] at hread
      obtain rfl := Except.ok.inj hread
      exact ⟨d, hd, rfl⟩

end

/-! ## The sample claim, executed -/

namespace ExecutionSample

open Api.StarknetSample (client sender hash signatures calls)

/-- The cosigner's signature of the hash. -/
def cosignature : Signature where
  r := 0x9377c312145a5afb911bf9e8c067bcf6094c533603687850df502b61290bbf5e
  s := 0x1239c0fd378f82efd917c92df3dd271507f2415354a9cd1aa94843f647a4a71
  y_parity := true

/-- The client's two signatures of its hash are valid, and the cosigner's one. -/
def core : CoreLib where
  check_ecdsa_signature message public_key r s :=
    message = hash ∧ public_key = client ∧ (r, s) ∈ signatures
  recover_eth_address message signature :=
    if message = u256OfFelt hash ∧ signature = cosignature then
      some 0x14791697260e4c9a71f18484c9f997b308e59325
    else none

def account : StealthAccount := ⟨client, 0x14791697260e4c9a71f18484c9f997b308e59325⟩

def tx : TxInfo where
  account_contract_address := sender
  transaction_hash := hash
  signature :=
    [0x2202275e27873286b71dae62930bbf6420d2e933bbc7cb08e09019e7218ad9c,
     0x1e5397e7b0f50f83f516d49e6ae01e2c7c1b2cffc3c47b6e3e586c6068da21c,
     0x94c533603687850df502b61290bbf5e, 0x9377c312145a5afb911bf9e8c067bcf6,
     0x507f2415354a9cd1aa94843f647a4a71, 0x1239c0fd378f82efd917c92df3dd271, 28]
  calldata := encodeCalls calls

def transfer : Call :=
  ⟨0x033068f6539f8e6e6b131e6b2b814e6c34a5224bc66947c47dab9dfee93b35fb,
    0x83afd3f4caedc6eebf44246fe54e38c95e3179a5ec9ea81740eca5b482d12e, [0x777, 0x10, 0]⟩

theorem validated : account.validate core tx 0 = .ok VALIDATED := by decide +kernel

abbrev StackFrame := Frame ContractAddress EntryPointData

def protocol : StackFrame := ⟨0, 0, ⟨0, []⟩, some []⟩
def validating : StackFrame := ⟨0, sender, ⟨VALIDATE_SELECTOR, tx.calldata⟩, some []⟩
def executing (left : List Call) : StackFrame :=
  ⟨0, sender, ⟨EXECUTE_SELECTOR, tx.calldata⟩, some (left.map Call.entry)⟩
def received : StackFrame := ⟨sender, transfer.target, transfer.entry.data, some []⟩

/-- The protocol validates the transaction and executes it. -/
def transitions :
    List (Transition (List StackFrame) (CallStack.Event ContractAddress EntryPointData)) :=
  [⟨[protocol], .call 0 ⟨sender, 0, ⟨VALIDATE_SELECTOR, tx.calldata⟩⟩, [validating, protocol]⟩,
    ⟨[validating, protocol], .returned true, [protocol]⟩,
    ⟨[protocol], .call 0 ⟨sender, 0, ⟨EXECUTE_SELECTOR, tx.calldata⟩⟩,
      [executing calls, protocol]⟩,
    ⟨[executing calls, protocol], .call sender transfer.entry,
      [received, executing [], protocol]⟩]

theorem entered :
    (account.contract core tx sender).calls 0 ⟨VALIDATE_SELECTOR, tx.calldata⟩ = some [] ∧
    (account.contract core tx sender).calls 0 ⟨EXECUTE_SELECTOR, tx.calldata⟩
      = some (calls.map Call.entry) := by
  decide +kernel

theorem run : Steps (StackStep (account.contract core tx sender)
      fun caller data => caller = 0 → ProtocolCalls core account tx sender data)
    [(account.contract core tx sender).enter 0 ⟨0, 0, ⟨0, []⟩⟩] transitions
      [received, executing [], protocol] := by
  have hforeign : (0 : ContractAddress) ≠ sender := by decide
  have hvalidating : (account.contract core tx sender).enter 0
      ⟨sender, 0, ⟨VALIDATE_SELECTOR, tx.calldata⟩⟩ = validating :=
    Contract.enter_of_target rfl entered.1
  have hexecuting : (account.contract core tx sender).enter 0
      ⟨sender, 0, ⟨EXECUTE_SELECTOR, tx.calldata⟩⟩ = executing calls :=
    Contract.enter_of_target rfl entered.2
  refine .step ?_ (.step (.succeeded fun _ => rfl) (.step ?_ (.step (.own rfl rfl) (.refl _))))
  · rw [← hvalidating]
    exact .other hforeign fun _ _ => .validate rfl
  · rw [← hexecuting]
    exact .other hforeign fun _ _ => .execute rfl validated

end ExecutionSample

open ExecutionSample Api.StarknetSample in
theorem account_calls_validated_sample :
    tx.account_contract_address = sender ∧
      SignedByBoth core account tx.transaction_hash tx.signature ∧
      (∃ cs d, deserialize (span Call.read) tx.calldata = .ok cs ∧ d ∈ cs ∧
        transfer.entry = d.entry) ∧
      ∀ calls, calls.length < 2 ^ 64 → (∀ d ∈ calls, d.calldata.length < 2 ^ 64) →
        tx.calldata = encodeCalls calls → ∃ d ∈ calls, transfer.entry = d.entry :=
  account_calls_validated (by decide) run ⟨_, .call sender transfer.entry, _⟩
    (List.mem_of_getElem? (i := 3) rfl) transfer.entry rfl

end Beanie.Starknet
