/-
# `Beanie.Api.StealthPanics` — which claims make the screening panic

The helpers of `stealth_workers.rs` once more, with every operation that can
panic written as one: copying into an array, narrowing a `U256`, adding and
subtracting it.  Reading the panics as errors gives back the functions screened
by elsewhere (`forget_precheck`).  All of the operations but one stand behind a
check that rules their panic out; `low_s` subtracts from the group's order a
number that may be larger (`screening_panics_iff`).
-/
import Beanie.Lib.Guarded
import Beanie.Lib.Hex
import Beanie.Api.StealthRoutes
import Beanie.Api.EvmCosigner

namespace Beanie.Api

open Beanie.Starknet (Felt)
open Beanie.Solana (Pubkey)
open Guarded (lift lift_bind_congr forget forget_lift_bind_congr Panics panics_bind panics_lift_bind
  not_panics_bind)

namespace Panicking

/-! ## Operations that can panic -/

/-- `copy_from_slice` into an array of `n` bytes. -/
def copyFromSlice (n : Nat) (v : Bytes) : Guarded Trace Bytes :=
  if v.length = n then .ok v else Guarded.panic "copy_from_slice: lengths differ"

def u256Sub (a b : U256) : Guarded Trace U256 :=
  if b.toNat ≤ a.toNat then .ok (a - b) else Guarded.panic "arithmetic operation overflow"

def u256Add (a b : U256) : Guarded Trace U256 :=
  if a.toNat + b.toNat < 2 ^ 256 then .ok (a + b) else Guarded.panic "arithmetic operation overflow"

/-- `as_u128` and `as_u64`. -/
def narrow (bits : Nat) (v : U256) : Guarded Trace (BitVec bits) :=
  if v.toNat < 2 ^ bits then .ok (v.setWidth bits) else Guarded.panic "integer overflow when casting"

/-! ## The helpers -/

section
variable (cr : Crates)

def hex32 (s : Text) : Guarded Trace H256 := do
  let v ← lift (hexBytes cr s)
  lift (require (v.length = 32) [s!"expected 32 bytes, got {v.length}"])
  let out ← copyFromSlice 32 v
  .ok (BitVec.ofNat 256 (beNat out))

def pad32 (hex_str : Text) : Guarded Trace H256 := do
  let t := strip0x hex_str
  lift (require (byteLength t ≤ 64) ["value exceeds 256 bits"])
  let v ← lift (okOr (cr.ethers.hex_decode (List.replicate (64 - t.length) '0' ++ t)) ["not hex"])
  let out ← copyFromSlice 32 v
  .ok (BitVec.ofNat 256 (beNat out))

def parseU128 (s : Text) : Guarded Trace (BitVec 128) := do
  let v ← lift (parseU256 cr s)
  lift (require (v.toNat < 2 ^ 128) ["value exceeds u128"])
  narrow 128 v

def parseU64 (s : Text) : Guarded Trace (BitVec 64) := do
  let v ← lift (parseU256 cr s)
  lift (require (v.toNat < 2 ^ 64) ["value exceeds u64"])
  narrow 64 v

def lowS (s : H256) : Guarded Trace (H256 × Bool) :=
  let n : U256 := BitVec.ofNat 256 secpN
  if secpN / 2 < s.toNat then do
    let flipped ← u256Sub n s
    .ok (flipped, true)
  else .ok (s, false)

def verifyClientSig (client : Address) (signed : H256) (r1 s1 : Text) :
    Guarded Trace (H256 × H256 × UInt8) := do
  let r ← Guarded.context "bad client r" (pad32 cr r1)
  let s ← Guarded.context "bad client s" (pad32 cr s1)
  let (s, _) ← lowS s
  lift (require (r ≠ 0 ∧ s ≠ 0) ["zero r/s"])
  let recovers (v : UInt8) : Bool :=
    cr.ethers.recover ⟨r, s, BitVec.ofNat 64 v.toNat⟩ signed = some client
  let v ← lift (okOr ([27, 28].find? recovers)
    ["client signature does not recover to `client` over EIP-191(digest)"])
  .ok (r, s, v)

/-! ## Screening -/

/-- `precheck_evm`, up to the client's signature: the authorisation, the client, the salt and the
hash to be signed. -/
def screenAuthorization (now : BitVec 64) (ev : EvmRt) (task : StealthTask) :
    Guarded Trace (TransferAuth × Address × H256 × H256) := do
  lift (require (task.calls.val = [])
    ["evm claims carry no `calls`: one claim is one authorization"])
  let p ← lift (okOr task.auth3009 ["evm claim requires `auth3009` params"])
  let sender ← lift (okOr (cr.ethers.address_from_str task.derived_address) ["bad derived_address"])
  let recipient ← lift (okOr (cr.ethers.address_from_str p.to_) ["bad to"])
  let client ← lift (okOr (cr.ethers.address_from_str p.client) ["bad client"])
  lift (require (recipient ≠ 0) ["`to` is the zero address"])
  lift (require (recipient ≠ sender) ["`to` equals the stealth account"])
  let value ← lift (context "bad value" (parseU256 cr p.value))
  lift (require (value ≠ 0) ["value is zero"])
  lift (require (withinCap ev.max_value value = true)
    [s!"value {value.toNat} exceeds the per-claim cap"])
  let valid_after ← lift (context "bad valid_after" (parseU256 cr p.valid_after))
  let valid_before ← lift (context "bad valid_before" (parseU256 cr p.valid_before))
  let now : U256 := now.setWidth 256
  lift (require (valid_after.toNat < now.toNat) ["authorization is not valid yet"])
  let earliest ← u256Add now (BitVec.ofNat 256 MIN_AUTH_TTL_SECS)
  lift (require (earliest.toNat < valid_before.toNat)
    [s!"authorization expires in under {MIN_AUTH_TTL_SECS}s"])
  let latest ← u256Add now (ev.max_auth_window_secs.setWidth 256)
  lift (require (valid_before.toNat ≤ latest.toNat)
    [s!"authorization window exceeds {ev.max_auth_window_secs.toNat}s"])
  let nonce ← Guarded.context "bad nonce" (hex32 cr p.nonce)
  let auth : TransferAuth := ⟨sender, recipient, value, valid_after, valid_before, nonce⟩
  let salt ← Guarded.context "bad salt" (hex32 cr p.salt)
  let digest := auth.digest cr ev.domain_separator
  let tx_hash ← Guarded.context "bad tx_hash" (hex32 cr task.tx_hash)
  lift (require (digest = tx_hash)
    ["tx_hash does not match the EIP-3009 digest of the submitted authorization"])
  .ok (auth, client, salt, hashMessage cr digest)

def precheckEvm (now : BitVec 64) (ev : EvmRt) (task : StealthTask) : Guarded Trace EvmPlan := do
  let (auth, client, salt, signed) ← screenAuthorization cr now ev task
  match task.client_sig with
  | .ed25519 _ => lift (.error ["evm task needs an ecdsa client signature"])
  | .ecdsa r1 s1 _ => do
      let (client_r, client_s, client_v) ← verifyClientSig cr client signed r1 s1
      .ok ⟨auth, client, salt, signed, client_r, client_s, client_v⟩

def parseBound (b : ResourceBoundParam) : Guarded Trace Bound := do
  let max_amount ← parseU64 cr b.max_amount
  let max_price_per_unit ← parseU128 cr b.max_price_per_unit
  .ok (max_amount, max_price_per_unit)

def precheckStarknet (rt : ChainRuntime) (st : StarknetRt) (task : StealthTask) :
    Guarded Trace StarknetPlan := do
  let sp ← lift (okOr task.starknet ["starknet claim requires `starknet` params"])
  let cfg := rt.cfg
  lift (require (task.calls.val ≠ [] ∧ task.calls.val.length ≤ MAX_CALLS)
    [s!"starknet claim needs 1..={MAX_CALLS} calls"])
  let calls ← lift (collect (checkCall cr cfg) 0 task.calls.val)
  let sender ← lift (parseFelt cr task.derived_address "bad derived_address")
  let client_pubkey ← lift (parseFelt cr sp.client_pubkey "bad client_pubkey")
  let salt ← lift (parseFelt cr sp.deploy_salt "bad deploy_salt")
  let nonce ← lift (parseFelt cr sp.nonce "bad nonce")
  let tip ← Guarded.context "bad tip" (parseU64 cr sp.tip)
  let l1_gas ← Guarded.context "bad l1_gas" (parseBound cr sp.l1_gas)
  let l2_gas ← Guarded.context "bad l2_gas" (parseBound cr sp.l2_gas)
  let l1_data_gas ← Guarded.context "bad l1_data_gas" (parseBound cr sp.l1_data_gas)
  -- from here on nothing can panic: the fee is added up with checked operations
  lift (do
    let max_fee ← okOr (maxFee 0 [l1_gas, l2_gas, l1_data_gas]) ["resource bounds overflow"]
    require (max_fee.toNat ≤ st.max_fee.toNat)
      [s!"max fee {max_fee.toNat} exceeds the cap {st.max_fee.toNat}"]
    match rt.cosigner with
    | .ed25519 _ => .error ["starknet cosigner must be a secp256k1 address"]
    | .eth cosigner =>
      let cosigner_felt := cosignerFelt cosigner
      let derived := cr.get_contract_address salt st.class_hash [client_pubkey, cosigner_felt] 0
      require (derived = sender)
        [s!"derived_address {hexFelt sender} != address of (class, salt, client_pubkey, cosigner) "
          ++ hexFelt derived]
      let calldata := Starknet.encodeCalls calls
      let expected := starknetInvokeV3Hash cr st.chain_id sender calldata nonce tip l1_gas l2_gas
        l1_data_gas
      let hash ← parseFelt cr task.tx_hash "bad tx_hash"
      require (expected = hash)
        ["tx_hash does not match the invoke-v3 hash of the submitted calls/bounds/nonce"]
      match task.client_sig with
      | .ed25519 _ => .error ["starknet task needs an ecdsa client signature"]
      | .ecdsa r1 s1 _ =>
        let r1 ← parseFelt cr r1 "bad r1"
        let s1 ← parseFelt cr s1 "bad s1"
        let ok ← okOr (cr.ecdsa_verify client_pubkey hash r1 s1) ["client signature check failed"]
        require (ok = true) ["client signature does not verify against client_pubkey"]
        .ok ⟨sender, calls, calldata, client_pubkey, cosigner_felt, salt, nonce, tip, l1_gas,
          l2_gas, l1_data_gas, r1, s1, hash, max_fee⟩)

def precheckSolana (rt : ChainRuntime) (relayer : Pubkey) (task : StealthTask) :
    Guarded Trace SolanaPlan := do
  match rt.cosigner with
  | .eth _ => lift (.error ["cosigner is not ed25519"])
  | .ed25519 cosigner => do
      let bytes ← lift (okOr task.message_bytes ["solana task missing message_bytes"])
      lift (require (bytes ≠ [] ∧ bytes.length ≤ MAX_SOLANA_MESSAGE)
        ["message_bytes size out of range"])
      let message ← lift (okOr (cr.solana.message_deserialize bytes) ["bad solana message"])
      lift (require (cr.solana.message_serialize message = bytes)
        ["message is not canonically serialized"])
      let digest := cr.sha256 bytes
      let tx_hash ← Guarded.context "bad tx_hash" (hex32 cr task.tx_hash)
      -- lists are read with `get`, which returns an option
      lift (do
        require (tx_hash = digest) ["tx_hash is not sha256(message_bytes)"]
        let client ← okOr (cr.solana.pubkey_from_str task.derived_address) ["bad derived_address"]
        let (multisig, _) ← deriveMultisig cr client cosigner
        validateMultisigTransfer cr message relayer multisig client cosigner rt.cfg.allowed_targets
        match task.client_sig with
        | .ecdsa .. => .error ["solana task needs an ed25519 client signature"]
        | .ed25519 sig_hex => do
            let sig_bytes ← okOr (cr.ethers.hex_decode sig_hex) []
            let client_sig ← okOr (solanaSignature sig_bytes) ["malformed client signature"]
            require (cr.solana.verify client_sig client bytes = true)
              ["client signature does not verify"]
            .ok ⟨message, bytes, client, cosigner, client_sig⟩)

def precheck (now : BitVec 64) (rt : ChainRuntime) (fam : FamilyRt) (solana_relayer : Pubkey)
    (task : StealthTask) : Guarded Trace Plan :=
  match fam with
  | .evm ev => do
      let p ← precheckEvm cr now ev task
      .ok (.evm p)
  | .starknet st => do
      let p ← precheckStarknet cr rt st task
      .ok (.starknet p)
  | .solana => do
      let p ← precheckSolana cr rt solana_relayer task
      .ok (.solana p)

end

/-! ## The checks before the operations -/

theorem copyFromSlice_ok {n : Nat} {v : Bytes} (h : v.length = n) : copyFromSlice n v = .ok v :=
  if_pos h

theorem narrow_ok {bits : Nat} {v : U256} (h : v.toNat < 2 ^ bits) :
    narrow bits v = .ok (v.setWidth bits) := if_pos h

/-- Two 64-bit numbers do not overflow a `U256`. -/
theorem u256Add_ok {a b : U256} (ha : a.toNat < 2 ^ 64) (hb : b.toNat < 2 ^ 64) :
    u256Add a b = .ok (a + b) ∧ (a + b).toNat = a.toNat + b.toNat := by
  have hlt : a.toNat + b.toNat < 2 ^ 256 := by omega
  refine ⟨if_pos hlt, ?_⟩
  rw [BitVec.toNat_add]
  exact Nat.mod_eq_of_lt hlt

section
variable {cr : Crates}

theorem hex32_eq (s : Text) : hex32 cr s = lift (Api.hex32 cr s) := by
  refine lift_bind_congr fun v _ => lift_bind_congr fun _ hlen => ?_
  rw [copyFromSlice_ok (require_ok.mp hlen)]
  rfl

/-- Sixty-four characters decode to thirty-two bytes. -/
theorem pad32_eq (hhex : cr.ethers.hex_decode = hexDecode) (s : Text) :
    pad32 cr s = lift (Api.pad32 cr s) := by
  refine lift_bind_congr fun _ hlen => lift_bind_congr fun v hv => ?_
  have hle := Nat.le_trans (length_le_byteLength _) (require_ok.mp hlen)
  have hdecoded := okOr_ok.mp hv
  rw [hhex] at hdecoded
  obtain ⟨-, hlength, -⟩ := hexDecode_some hdecoded
  rw [List.length_append, List.length_replicate] at hlength
  have h32 : v.length = 32 := by omega
  rw [copyFromSlice_ok h32]
  rfl

theorem parseU128_eq (s : Text) : parseU128 cr s = lift (Api.parseU128 cr s) := by
  refine lift_bind_congr fun v _ => lift_bind_congr fun _ hlt => ?_
  rw [narrow_ok (require_ok.mp hlt)]
  rfl

theorem parseU64_eq (s : Text) : parseU64 cr s = lift (Api.parseU64 cr s) := by
  refine lift_bind_congr fun v _ => lift_bind_congr fun _ hlt => ?_
  rw [narrow_ok (require_ok.mp hlt)]
  rfl

theorem parseBound_eq (b : ResourceBoundParam) : parseBound cr b = lift (Api.parseBound cr b) := by
  rw [parseBound, parseU64_eq]
  refine lift_bind_congr fun max_amount _ => ?_
  rw [parseU128_eq]
  exact lift_bind_congr fun max_price_per_unit _ => rfl

/-! ## Starknet and Solana claims -/

theorem precheckStarknet_eq (rt : ChainRuntime) (st : StarknetRt) (task : StealthTask) :
    precheckStarknet cr rt st task = lift (Api.precheckStarknet cr rt st task) := by
  rw [precheckStarknet]
  refine lift_bind_congr fun sp _ => lift_bind_congr fun _ _ => lift_bind_congr fun calls _ =>
    lift_bind_congr fun sender _ => lift_bind_congr fun client_pubkey _ =>
    lift_bind_congr fun salt _ => lift_bind_congr fun nonce _ => ?_
  rw [parseU64_eq, Guarded.context_lift]
  refine lift_bind_congr fun tip _ => ?_
  rw [parseBound_eq, Guarded.context_lift]
  refine lift_bind_congr fun l1_gas _ => ?_
  rw [parseBound_eq, Guarded.context_lift]
  refine lift_bind_congr fun l2_gas _ => ?_
  rw [parseBound_eq, Guarded.context_lift]
  exact lift_bind_congr fun l1_data_gas _ => rfl

theorem precheckSolana_eq (rt : ChainRuntime) (relayer : Pubkey) (task : StealthTask) :
    precheckSolana cr rt relayer task = lift (Api.precheckSolana cr rt relayer task) := by
  rw [precheckSolana, Api.precheckSolana]
  cases rt.cosigner with
  | eth _ => rfl
  | ed25519 cosigner =>
      refine lift_bind_congr fun bytes _ => lift_bind_congr fun _ _ =>
        lift_bind_congr fun message _ => lift_bind_congr fun _ _ => ?_
      rw [hex32_eq, Guarded.context_lift]
      exact lift_bind_congr fun tx_hash _ => rfl

/-! ## EVM claims -/

theorem lowS_eq {s : H256} (h : s.toNat ≤ secpN) : lowS s = lift (Api.lowS s) := by
  have hn : (BitVec.ofNat 256 secpN : U256).toNat = secpN := by decide
  unfold lowS Api.lowS
  by_cases hhigh : secpN / 2 < s.toNat
  · rw [if_pos hhigh, if_pos hhigh, if_pos h, u256Sub, if_pos (by rw [hn]; exact h)]
    have hsub : (BitVec.ofNat 256 secpN - s : U256) = BitVec.ofNat 256 (secpN - s.toNat) := by
      apply BitVec.eq_of_toNat_eq
      have hlt : secpN < 2 ^ 256 := by decide
      rw [BitVec.toNat_sub, hn, BitVec.toNat_ofNat]
      omega
    rw [hsub]
    rfl
  · rw [if_neg hhigh, if_neg hhigh]
    rfl

theorem lowS_panics {s : H256} (h : secpN < s.toNat) :
    lowS s = Guarded.panic "arithmetic operation overflow" := by
  have hn : (BitVec.ofNat 256 secpN : U256).toNat = secpN := by decide
  have hhigh : secpN / 2 < s.toNat := by omega
  unfold lowS
  rw [if_pos hhigh, u256Sub, if_neg (by rw [hn]; omega)]
  rfl

theorem verifyClientSig_eq (hhex : cr.ethers.hex_decode = hexDecode) {client : Address}
    {signed : H256} {r1 s1 : Text} (h : ∀ s, Api.pad32 cr s1 = .ok s → s.toNat ≤ secpN) :
    verifyClientSig cr client signed r1 s1 = lift (Api.verifyClientSig cr client signed r1 s1) := by
  rw [verifyClientSig, pad32_eq hhex, pad32_eq hhex, Guarded.context_lift, Guarded.context_lift]
  refine lift_bind_congr fun r _ => lift_bind_congr fun s hs => ?_
  rw [lowS_eq (h s (context_ok.mp hs))]
  refine lift_bind_congr fun low _ => ?_
  exact lift_bind_congr fun _ _ => lift_bind_congr fun v _ => rfl

theorem verifyClientSig_panics (hhex : cr.ethers.hex_decode = hexDecode) {client : Address}
    {signed r s : H256} {r1 s1 : Text} (hr : Api.pad32 cr r1 = .ok r)
    (hs : Api.pad32 cr s1 = .ok s) (h : secpN < s.toNat) :
    Panics (verifyClientSig cr client signed r1 s1) := by
  rw [verifyClientSig, pad32_eq hhex, pad32_eq hhex, Guarded.context_lift, Guarded.context_lift]
  refine panics_lift_bind.mpr ⟨r, context_ok.mpr hr, ?_⟩
  refine panics_lift_bind.mpr ⟨s, context_ok.mpr hs, ?_⟩
  exact panics_bind.mpr (.inl ⟨_, lowS_panics h⟩)

/-- The sums with the clock fit. -/
theorem not_panics_screenAuthorization (now : BitVec 64) (ev : EvmRt) (task : StealthTask) :
    ¬ Panics (screenAuthorization cr now ev task) := by
  have hclock : ∀ n : BitVec 64, (n.setWidth 256 : U256).toNat < 2 ^ 64 := fun n => by
    rw [BitVec.toNat_setWidth]
    exact Nat.lt_of_le_of_lt (Nat.mod_le _ _) n.isLt
  have hsum : ∀ {a b : U256}, a.toNat < 2 ^ 64 → b.toNat < 2 ^ 64 → ¬ Panics (u256Add a b) :=
    fun ha hb => by
      rw [(u256Add_ok ha hb).1]
      exact Guarded.not_panics_ok _
  have hword : ∀ msg s, ¬ Panics (Guarded.context msg (hex32 cr s)) := fun msg s => by
    rw [hex32_eq, Guarded.context_lift]
    exact Guarded.not_panics_lift _
  have hlift : ∀ {α β : Type} {y : Except Trace α} {f : α → Guarded Trace β},
      (∀ a, ¬ Panics (f a)) → ¬ Panics (lift y >>= f) := fun hf =>
    not_panics_bind (Guarded.not_panics_lift _) fun a _ => hf a
  rw [screenAuthorization]
  refine hlift fun _ => hlift fun p => hlift fun sender => hlift fun recipient =>
    hlift fun client => hlift fun _ => hlift fun _ => hlift fun value => hlift fun _ =>
    hlift fun _ => hlift fun valid_after => hlift fun valid_before => hlift fun _ => ?_
  refine not_panics_bind (hsum (hclock now) (by decide)) fun earliest _ => hlift fun _ => ?_
  refine not_panics_bind (hsum (hclock now) (hclock _)) fun latest _ => hlift fun _ => ?_
  refine not_panics_bind (hword _ _) fun nonce _ => not_panics_bind (hword _ _) fun salt _ => ?_
  exact not_panics_bind (hword _ _) fun tx_hash _ => hlift fun _ => Guarded.not_panics_ok _

/-- The word that a hexadecimal text spells. -/
theorem pad32_word (hhex : cr.ethers.hex_decode = hexDecode) {s : Text} (h : HexWord s) :
    ∃ word, Api.pad32 cr s = .ok word ∧ word.toNat = hexValue (strip0x s) := by
  have hle := h.length
  have hbytes : byteLength (strip0x s) ≤ 64 := by
    have hascii : ∀ t : Text, IsHex t → byteLength t = t.length := by
      intro t ht
      induction t with
      | nil => rfl
      | cons c t ih =>
          have hbounds := hexDigit?_bounds (ht c List.mem_cons_self)
          have hc : c.utf8Size = 1 := by
            have hval : c.val.toNat = c.toNat := rfl
            unfold Char.utf8Size
            rw [if_pos (by rw [UInt32.le_iff_toNat_le, hval]; exact Nat.le_trans hbounds.2.1 (by decide))]
          have ih := ih fun d hd => ht d (List.mem_cons_of_mem _ hd)
          simp only [byteLength, List.map_cons, List.sum_cons, List.length_cons] at ih ⊢
          omega
    rw [hascii _ h.isHex]
    exact hle
  have hdigits : IsHex (List.replicate (64 - (strip0x s).length) '0' ++ strip0x s) := by
    intro c hc
    rcases List.mem_append.mp hc with hc | hc
    · rw [List.eq_of_mem_replicate hc]
      rfl
    · exact h.isHex c hc
  obtain ⟨bs, hbs⟩ := exists_hexDecode hdigits (k := 32)
    (by rw [List.length_append, List.length_replicate]; omega)
  obtain ⟨-, -, hvalue⟩ := hexDecode_some hbs
  refine ⟨BitVec.ofNat 256 (beNat bs), ?_, ?_⟩
  · rw [Api.pad32, require_bind_of hbytes, hhex, hbs]
    rfl
  · have hlt : hexValue (strip0x s) < 16 ^ 64 :=
      Nat.lt_of_lt_of_le (hexValue_lt _) (Nat.pow_le_pow_right (by decide) hle)
    rw [BitVec.toNat_ofNat, hvalue, hexValue_replicate_append]
    exact Nat.mod_eq_of_lt hlt

/-- With the texts of a signature that was let through. -/
theorem verifyClientSig_panics_iff (hhex : cr.ethers.hex_decode = hexDecode) {client : Address}
    {signed : H256} {r1 s1 : Text} (hr : HexWord r1) (hs : HexWord s1) :
    Panics (verifyClientSig cr client signed r1 s1) ↔ secpN < hexValue (strip0x s1) := by
  obtain ⟨r, hr, -⟩ := pad32_word hhex hr
  obtain ⟨s, hs, hvalue⟩ := pad32_word hhex hs
  rw [← hvalue]
  constructor
  · intro hpanics
    by_contra hle
    rw [verifyClientSig_eq hhex fun s' hs' => by
      rw [hs] at hs'
      cases hs'
      omega] at hpanics
    exact Guarded.not_panics_lift _ hpanics
  · exact verifyClientSig_panics hhex hr hs

theorem precheckEvm_panics_iff (hhex : cr.ethers.hex_decode = hexDecode) {now : BitVec 64}
    {ev : EvmRt} {task : StealthTask}
    (hwords : ∀ r1 s1 v, task.client_sig = .ecdsa r1 s1 v → HexWord r1 ∧ HexWord s1) :
    Panics (precheckEvm cr now ev task) ↔
      (∃ screened, screenAuthorization cr now ev task = .ok screened) ∧
        ∃ r1 s1 v, task.client_sig = .ecdsa r1 s1 v ∧ secpN < hexValue (strip0x s1) := by
  rw [precheckEvm, panics_bind]
  constructor
  · rintro (h | ⟨⟨auth, client, salt, signed⟩, hscreened, h⟩)
    · exact absurd h (not_panics_screenAuthorization now ev task)
    · refine ⟨⟨_, hscreened⟩, ?_⟩
      cases hsig : task.client_sig with
      | ed25519 _ =>
          rw [hsig] at h
          exact absurd h (Guarded.not_panics_lift _)
      | ecdsa r1 s1 v =>
          rw [hsig] at h
          obtain ⟨hr, hs⟩ := hwords r1 s1 v hsig
          rcases panics_bind.mp h with h | ⟨parts, -, h⟩
          · exact ⟨r1, s1, v, rfl, (verifyClientSig_panics_iff hhex hr hs).mp h⟩
          · exact absurd h (Guarded.not_panics_ok _)
  · rintro ⟨⟨⟨auth, client, salt, signed⟩, hscreened⟩, r1, s1, v, hsig, hlt⟩
    obtain ⟨hr, hs⟩ := hwords r1 s1 v hsig
    refine .inr ⟨_, hscreened, ?_⟩
    rw [hsig]
    exact panics_bind.mpr (.inl ((verifyClientSig_panics_iff hhex hr hs).mpr hlt))

/-! ## The screening without its panics -/

theorem forget_lowS (s : H256) : forget (fun msg => [msg]) (lowS s) = Api.lowS s := by
  by_cases h : s.toNat ≤ secpN
  · rw [lowS_eq h, Guarded.forget_lift]
  · have hhigh : secpN / 2 < s.toNat := by omega
    rw [lowS_panics (by omega), Api.lowS, if_pos hhigh, if_neg h]
    rfl

theorem forget_verifyClientSig (hhex : cr.ethers.hex_decode = hexDecode) {client : Address}
    {signed : H256} {r1 s1 : Text} :
    forget (fun msg => [msg]) (verifyClientSig cr client signed r1 s1)
      = Api.verifyClientSig cr client signed r1 s1 := by
  rw [verifyClientSig, pad32_eq hhex, pad32_eq hhex, Guarded.context_lift, Guarded.context_lift]
  refine forget_lift_bind_congr fun r _ => forget_lift_bind_congr fun s _ => ?_
  rw [Guarded.forget_bind, forget_lowS]
  refine congrArg _ (funext fun low => ?_)
  exact forget_lift_bind_congr fun _ _ => forget_lift_bind_congr fun v _ => rfl

theorem forget_precheckEvm (hhex : cr.ethers.hex_decode = hexDecode) (now : BitVec 64) (ev : EvmRt)
    (task : StealthTask) :
    forget (fun msg => [msg]) (precheckEvm cr now ev task) = Api.precheckEvm cr now ev task := by
  have hclock : ∀ n : BitVec 64, (n.setWidth 256 : U256).toNat = n.toNat := fun n => by
    rw [BitVec.toNat_setWidth]
    exact Nat.mod_eq_of_lt (Nat.lt_trans n.isLt (by decide))
  have hsum : ∀ {a b : U256}, a.toNat < 2 ^ 64 → b.toNat < 2 ^ 64 →
      u256Add a b = .ok (a + b) ∧ (a + b).toNat = a.toNat + b.toNat := u256Add_ok
  have hnow : (now.setWidth 256 : U256).toNat < 2 ^ 64 := by
    rw [hclock]
    exact now.isLt
  have hwindow : (ev.max_auth_window_secs.setWidth 256 : U256).toNat < 2 ^ 64 := by
    rw [hclock]
    exact ev.max_auth_window_secs.isLt
  have hmin : (BitVec.ofNat 256 MIN_AUTH_TTL_SECS : U256).toNat = MIN_AUTH_TTL_SECS := by decide
  obtain ⟨hearliest, hearliest'⟩ := hsum hnow
    (b := BitVec.ofNat 256 MIN_AUTH_TTL_SECS) (by rw [hmin]; decide)
  obtain ⟨hlatest, hlatest'⟩ := hsum hnow hwindow
  rw [precheckEvm, screenAuthorization, Api.precheckEvm]
  simp only [bind_assoc]
  refine forget_lift_bind_congr fun _ _ => forget_lift_bind_congr fun p _ =>
    forget_lift_bind_congr fun sender _ => forget_lift_bind_congr fun recipient _ =>
    forget_lift_bind_congr fun client _ => forget_lift_bind_congr fun _ _ =>
    forget_lift_bind_congr fun _ _ => forget_lift_bind_congr fun value _ =>
    forget_lift_bind_congr fun _ _ => forget_lift_bind_congr fun _ _ =>
    forget_lift_bind_congr fun valid_after _ => forget_lift_bind_congr fun valid_before _ => ?_
  rw [hclock]
  refine forget_lift_bind_congr fun _ _ => ?_
  rw [hearliest, ok_bind, hearliest', hclock, hmin]
  refine forget_lift_bind_congr fun _ _ => ?_
  rw [hlatest, ok_bind, hlatest', hclock, hclock, hex32_eq, Guarded.context_lift]
  refine forget_lift_bind_congr fun _ _ => forget_lift_bind_congr fun nonce _ => ?_
  rw [hex32_eq, Guarded.context_lift]
  refine forget_lift_bind_congr fun salt _ => ?_
  rw [hex32_eq, Guarded.context_lift]
  refine forget_lift_bind_congr fun tx_hash _ => forget_lift_bind_congr fun _ _ => ?_
  rw [ok_bind]
  dsimp only
  cases task.client_sig with
  | ed25519 _ => rfl
  | ecdsa r1 s1 v =>
      rw [Guarded.forget_bind, forget_verifyClientSig hhex]
      rfl

/-- Reading its panics as errors, the screening is the one used elsewhere. -/
theorem forget_precheck {x : ClaimCrates} (hhex : x.ethers.hex_decode = hexDecode)
    (now : BitVec 64) (rt : ChainRuntime) (fam : FamilyRt) (relayer : Pubkey) (task : StealthTask) :
    forget (fun msg => [msg]) (precheck x.toCrates now rt fam relayer task)
      = Api.precheck x now rt fam relayer task := by
  cases fam with
  | evm ev =>
      rw [precheck, Guarded.forget_bind, forget_precheckEvm hhex]
      rfl
  | starknet st =>
      rw [precheck, Guarded.forget_bind, precheckStarknet_eq, Guarded.forget_lift]
      rfl
  | solana =>
      rw [precheck, Guarded.forget_bind, precheckSolana_eq, Guarded.forget_lift]
      rfl

end

end Panicking

open Panicking (screenAuthorization)

/-- An EVM claim that everything but its signature lets through, with an `s` above the group's
order. -/
def SignatureAboveOrder (cr : Crates) (now : BitVec 64) (fam : FamilyRt) (task : StealthTask) :
    Prop :=
  ∃ ev, fam = .evm ev ∧ (∃ screened, screenAuthorization cr now ev task = .ok screened) ∧
    ∃ r1 s1 v, task.client_sig = .ecdsa r1 s1 v ∧ secpN < hexValue (strip0x s1)

/-- **Which claims make the screening panic.**  A request that passes the checks of size and shape
is screened without a panic if and only if its `s1` is not above the group's order, or it is no
EVM claim, or an earlier check turns it away; and reading the panic as an error gives back the
screening. -/
theorem screening_panics_iff {x : ClaimCrates} (hhex : x.ethers.hex_decode = hexDecode)
    (now : BitVec 64) (rt : ChainRuntime) {fam : FamilyRt} (relayer : Pubkey) {req : ClaimRequest}
    {task : StealthTask} (htask : claimTask x fam req = .ok task) :
    (¬ Panics (Panicking.precheck x.toCrates now rt fam relayer task) ↔
      ¬ SignatureAboveOrder x.toCrates now fam task) ∧
    forget (fun msg => [msg]) (Panicking.precheck x.toCrates now rt fam relayer task)
      = precheck x now rt fam relayer task := by
  refine ⟨not_congr ?_, Panicking.forget_precheck hhex now rt fam relayer task⟩
  have hok : ∀ {α : Type} {y : Guarded Trace α} {f : α → Plan},
      Panics (y >>= fun p => .ok (f p)) ↔ Panics y := fun {α y f} => by
    rw [panics_bind]
    exact ⟨fun h => h.elim id fun ⟨_, _, h⟩ => absurd h (Guarded.not_panics_ok _), .inl⟩
  cases fam with
  | evm ev =>
      rw [Panicking.precheck, hok, Panicking.precheckEvm_panics_iff hhex fun r1 s1 v hsig => by
        have hsanitized := claimTask_client_sig htask
        rw [hsig] at hsanitized
        exact sanitizeClientSig_ecdsa hsanitized]
      constructor
      · exact fun h => ⟨ev, rfl, h⟩
      · rintro ⟨ev', hev, h⟩
        cases hev
        exact h
  | starknet st =>
      rw [Panicking.precheck, hok, Panicking.precheckStarknet_eq]
      refine iff_of_false (Guarded.not_panics_lift _) ?_
      rintro ⟨ev, hev, -⟩
      cases hev
  | solana =>
      rw [Panicking.precheck, hok, Panicking.precheckSolana_eq]
      refine iff_of_false (Guarded.not_panics_lift _) ?_
      rintro ⟨ev, hev, -⟩
      cases hev

/-! ## A claim with every bit of `s1` set -/

theorem plainHexDecode_eq : plainHexDecode = hexDecode := by
  funext s
  induction s using hexDecode.induct with
  | case1 => rfl
  | case2 => rfl
  | case3 a b rest x y bs hrest hb ha ih =>
      rw [plainHexDecode, hexDecode, ih, ha, hb, hrest]
      rfl
  | case4 a b rest hnone ih =>
      rw [plainHexDecode, hexDecode, ih]
      cases ha : hexDigit? a with
      | none => rfl
      | some x =>
          cases hb : hexDigit? b with
          | none => rfl
          | some y =>
              cases hrest : hexDecode rest with
              | none => rfl
              | some bs => exact absurd hrest (hnone x y bs ha hb)

namespace PanicSample

def crates : ClaimCrates where
  toCrates := EvmSample.crates
  address_lower_hex a := '0' :: 'x' :: padHex 40 a.toNat
  felt_lower_hex v := '0' :: 'x' :: padHex 64 v.val

/-- The claim of 250 USDC with another `s1`. -/
def request (s1 : Text) : ClaimRequest where
  chain := .base
  tx_hash := EvmSample.task.tx_hash
  derived_address := EvmSample.task.derived_address
  client_sig := .ecdsa "c0ae17ab549f22df7b45d6d85671d2303cc55983c06342297346725bd78431dd".toList
    s1 none
  calls := ⟨[], nil_fits⟩
  verified_token := "token".toList
  auth3009 := EvmSample.task.auth3009
  starknet := none
  message_bytes := none

def task (s1 : Text) : StealthTask :=
  { EvmSample.task with
    client_sig := .ecdsa "c0ae17ab549f22df7b45d6d85671d2303cc55983c06342297346725bd78431dd".toList
      s1 none }

end PanicSample

open PanicSample in
/-- The client's own signature, in the high half as it arrives, is screened without a panic. -/
theorem screening_panics_not : ¬ Panics (Panicking.precheck crates.toCrates 1899990000
    EvmSample.runtime (.evm EvmSample.evm) 7
    (task "9d6e7354e6a0b9c6362b9e9a0b71e2913a8587d8b7a6298f05e0abe3ff4014d4".toList)) := by
  have htask : claimTask crates (.evm EvmSample.evm)
      (request "9d6e7354e6a0b9c6362b9e9a0b71e2913a8587d8b7a6298f05e0abe3ff4014d4".toList)
        = .ok (task "9d6e7354e6a0b9c6362b9e9a0b71e2913a8587d8b7a6298f05e0abe3ff4014d4".toList) := by
    decide +kernel
  refine (screening_panics_iff plainHexDecode_eq 1899990000 EvmSample.runtime 7 htask).1.mpr ?_
  rintro ⟨ev, -, -, r1, s1, v, hsig, hlt⟩
  cases hsig
  exact absurd hlt (by decide +kernel)

open PanicSample in
/-- Sixty-four `f`s pass the checks of shape, and the subtraction from the order panics. -/
theorem screening_panics_above_order :
    claimTask crates (.evm EvmSample.evm) (request (List.replicate 64 'f'))
      = .ok (task (List.replicate 64 'f')) ∧
    Panicking.precheck crates.toCrates 1899990000 EvmSample.runtime (.evm EvmSample.evm) 7
      (task (List.replicate 64 'f')) = .error (.panic "arithmetic operation overflow") :=
  ⟨by decide +kernel, by decide +kernel⟩

end Beanie.Api
