/-
# `Beanie.Api.StealthRoutes` — what the claim route passes to the screening

`stealth_routes.rs`: a claim request is checked for size and shape, its fields
are rewritten in the form the worker reads (`canonicalize`), and the task is
screened by the very function the worker runs.  The chain's family decides how.
-/
import Beanie.Api.CreateRoutes
import Beanie.Api.StealthStarknet
import Beanie.Api.StealthSolana
import Beanie.Api.StealthEvm

namespace Beanie.Api

open Beanie.Starknet (Felt)
open Beanie.Solana (Pubkey)

def MAX_CALLDATA_ITEMS : Nat := 256
/-- `0x` and 64 digits. -/
def MAX_WORD_HEX : Nat := 66

/-- The crates, and how they write addresses. -/
structure ClaimCrates extends Crates where
  /-- `format!("{:#x}", addr)` -/
  address_lower_hex : Address → Text
  /-- `format!("{:#064x}", felt)` -/
  felt_lower_hex : Felt → Text

/-- The part that `/create` uses as well. -/
def ClaimCrates.addresses (x : ClaimCrates) : AddressCrates where
  starknet := x.starknet
  ethers := x.ethers
  solana := x.solana
  address_lower_hex := x.address_lower_hex
  felt_lower_hex := x.felt_lower_hex
  pubkey_to_string := x.pubkey_to_string

structure ClaimRequest where
  chain : Chain
  tx_hash : Text
  derived_address : Text
  client_sig : ClientSignature
  calls : Vec CallDataPayload
  verified_token : Text
  auth3009 : Option Auth3009Params
  starknet : Option StarknetTxParams
  message_bytes : Option Text
deriving DecidableEq

inductive FamilyRt
  | evm (ev : EvmRt)
  | starknet (st : StarknetRt)
  | solana

/-! ## Lists -/

/-- A loop over `enumerate` into a list of the same length. -/
def collectLen {ε α β : Type} (f : Nat → α → Except ε β) :
    Nat → (xs : List α) → Except ε {ys : List β // ys.length = xs.length}
  | _, [] => .ok ⟨[], rfl⟩
  | i, x :: xs => do
      let y ← f i x
      let ys ← collectLen f (i + 1) xs
      .ok ⟨y :: ys.val, by rw [List.length_cons, List.length_cons, ys.property]⟩

/-- The same over a vector. -/
def collectVec {ε α β : Type} (f : Nat → α → Except ε β) (xs : Vec α) : Except ε (Vec β) := do
  let ys ← collectLen f 0 xs.val
  .ok ⟨ys.val, by rw [ys.property]; exact xs.property⟩

/-! ## Shapes -/

def cap (name : String) (s : Text) (max : Nat) : Except String Unit :=
  require (byteLength s ≤ max) s!"{name} is too long"

/-- Hexadecimal digits only. -/
def isHexText (s : Text) : Bool := s.all fun c => (hexDigit? c).isSome

def isHexWord (s : Text) : Bool :=
  let t := strip0x s
  t ≠ [] ∧ byteLength t ≤ 64 ∧ isHexText t = true

def sanitizeClientSig (sig : ClientSignature) : Except String ClientSignature :=
  match sig with
  | .ecdsa r1 s1 v => do
      require (isHexWord r1 = true) "Invalid client_sig.r1: expected up to 64 hex chars"
      require (isHexWord s1 = true) "Invalid client_sig.s1: expected up to 64 hex chars"
      .ok (.ecdsa (trim r1) (trim s1) v)
  | .ed25519 sig_hex => do
      let s := trim sig_hex
      require (byteLength s = 128 ∧ isHexText s = true)
        "Invalid client_sig.sig_hex: expected 128 hex chars"
      .ok (.ed25519 s)

/-- The texts that are capped, in the order of the checks. -/
def Auth3009Params.words (u : Auth3009Params) : List (String × Text) :=
  [("auth3009.client", u.client), ("auth3009.to", u.to_), ("auth3009.value", u.value),
   ("auth3009.valid_after", u.valid_after), ("auth3009.valid_before", u.valid_before),
   ("auth3009.nonce", u.nonce), ("auth3009.salt", u.salt)]

def StarknetTxParams.words (s : StarknetTxParams) : List (String × Text) :=
  [("starknet.client_pubkey", s.client_pubkey), ("starknet.deploy_salt", s.deploy_salt),
   ("starknet.nonce", s.nonce), ("starknet.tip", s.tip),
   ("starknet.l1_gas.max_amount", s.l1_gas.max_amount),
   ("starknet.l1_gas.max_price_per_unit", s.l1_gas.max_price_per_unit),
   ("starknet.l2_gas.max_amount", s.l2_gas.max_amount),
   ("starknet.l2_gas.max_price_per_unit", s.l2_gas.max_price_per_unit),
   ("starknet.l1_data_gas.max_amount", s.l1_data_gas.max_amount),
   ("starknet.l1_data_gas.max_price_per_unit", s.l1_data_gas.max_price_per_unit)]

def capAll : List (String × Text) → Except String Unit
  | [] => .ok ()
  | (name, s) :: words => do
      cap name s MAX_WORD_HEX
      capAll words

def checkParamSizes (auth3009 : Option Auth3009Params) (starknet : Option StarknetTxParams) :
    Except String Unit := do
  capAll ((auth3009.map Auth3009Params.words).getD [])
  capAll ((starknet.map StarknetTxParams.words).getD [])

theorem trim_trim (s : Text) : trim (trim s) = trim s := by
  have hleft : (trim s).dropWhile isWhitespace = trim s := by
    rw [List.dropWhile_eq_self_iff]
    intro hpos
    obtain ⟨t, ht⟩ : trim s <+: s.dropWhile isWhitespace := List.rdropWhile_prefix isWhitespace _
    have hlen : 0 < (s.dropWhile isWhitespace).length := by
      rw [← ht, List.length_append]
      omega
    have hhead : (trim s)[0] = (s.dropWhile isWhitespace)[0] := by
      simp only [← ht]
      exact (List.getElem_append_left hpos).symm
    rw [hhead]
    exact List.dropWhile_get_zero_not isWhitespace s hlen
  have hright : (trim s).reverse.dropWhile isWhitespace = (trim s).reverse := by
    rw [trim, List.reverse_reverse]
    exact List.dropWhile_idempotent _ _
  rw [trim, hleft, hright, List.reverse_reverse]

@[simp] theorem strip0x_trim (s : Text) : strip0x (trim s) = strip0x s := by
  rw [strip0x, strip0x, trim_trim]

/-- A hexadecimal word: between one and sixty-four digits behind the prefix. -/
structure HexWord (s : Text) : Prop where
  ne_nil : strip0x s ≠ []
  length : (strip0x s).length ≤ 64
  isHex : IsHex (strip0x s)

theorem length_le_byteLength (s : Text) : s.length ≤ byteLength s := by
  induction s with
  | nil => exact Nat.zero_le _
  | cons c s ih =>
      have hpos := Char.utf8Size_pos c
      simp only [byteLength, List.map_cons, List.sum_cons, List.length_cons] at ih ⊢
      omega

theorem HexWord.of_isHexWord {s : Text} (h : isHexWord s = true) : HexWord (trim s) := by
  obtain ⟨hne, hlen, hhex⟩ := of_decide_eq_true h
  constructor
  · rwa [strip0x_trim]
  · rw [strip0x_trim]
    exact Nat.le_trans (length_le_byteLength _) hlen
  · rw [strip0x_trim]
    exact fun c hc => List.all_eq_true.mp hhex c hc

/-- A signature that was let through has hexadecimal words. -/
theorem sanitizeClientSig_ecdsa {sig : ClientSignature} {r1 s1 : Text} {v : Option UInt8}
    (h : sanitizeClientSig sig = .ok (.ecdsa r1 s1 v)) : HexWord r1 ∧ HexWord s1 := by
  cases sig with
  | ecdsa r1' s1' v' =>
      obtain ⟨_, hr, h⟩ := bind_ok.mp h
      obtain ⟨_, hs, h⟩ := bind_ok.mp h
      cases h
      exact ⟨.of_isHexWord (require_ok.mp hr), .of_isHexWord (require_ok.mp hs)⟩
  | ed25519 sig_hex =>
      obtain ⟨_, -, h⟩ := bind_ok.mp h
      cases h

/-! ## Canonical forms -/

section
variable (x : ClaimCrates)

/-- Thirty-two octets in hexadecimal, in lower case behind a prefix. -/
def canonHash32 (input : Text) : Except String Text := do
  let t := strip0x input
  require (byteLength t = 64 ∧ isHexText t = true) "expected a 32-byte hex hash"
  .ok ('0' :: 'x' :: x.to_lowercase t)

/-- An error's text behind a label. -/
def labelled {α : Type} (label : String) : Except String α → Except String α
  | .ok a => .ok a
  | .error e => .error (label ++ e)

structure Canon where
  derived : Text
  tx_hash : Text
  calls : Vec CallDataPayload
  message_bytes : Option Bytes

def canonicalizeStarknetCall (idx : Nat) (call : CallDataPayload) :
    Except String CallDataPayload := do
  require (call.calldata.val.length ≤ MAX_CALLDATA_ITEMS)
    s!"Call at index {idx} exceeds maximum calldata items limit ({MAX_CALLDATA_ITEMS})"
  let entrypoint := trim call.entrypoint
  require (entrypoint ≠ []) s!"Empty entrypoint at call {idx}"
  let contract ← labelled s!"Invalid contract_address at call {idx}: "
    (parseAndSanitizeFelt x.addresses call.contract_address)
  let cd ← collectVec (fun cd_idx item => labelled
    s!"Invalid calldata item at call {idx}, index {cd_idx}: "
    (parseAndSanitizeFelt x.addresses item)) call.calldata
  .ok ⟨contract, entrypoint, cd⟩

def canonicalize (fam : FamilyRt) (derived tx_hash : Text) (calls : Vec CallDataPayload)
    (message_hex : Option Text) : Except String Canon :=
  match fam with
  | .evm _ => do
      require (calls.val = []) "EVM claims carry no `calls`; send `auth3009`"
      let derived ← labelled "Invalid derived_address: "
        (parseAndSanitizeEvmAddr x.addresses derived)
      let tx_hash ← labelled "Invalid tx_hash: " (canonHash32 x tx_hash)
      .ok ⟨derived, tx_hash, ⟨[], nil_fits⟩, none⟩
  | .starknet _ => do
      require (calls.val ≠ [] ∧ calls.val.length ≤ MAX_CALLS)
        s!"`calls` must contain 1..={MAX_CALLS} items"
      let derived ← labelled "Invalid derived_address: " (parseAndSanitizeFelt x.addresses derived)
      let tx_hash ← labelled "Invalid tx_hash: " (parseAndSanitizeFelt x.addresses tx_hash)
      let calls ← collectVec (canonicalizeStarknetCall x) calls
      .ok ⟨derived, tx_hash, calls, none⟩
  | .solana => do
      require (calls.val = []) "Solana claims carry no `calls`; send message_bytes"
      let pubkey ← okOr (x.solana.pubkey_from_str (trim derived))
        "Invalid derived_address: not a base58 pubkey"
      let hex_str ← okOr message_hex "message_bytes is required for Solana"
      cap "message_bytes" hex_str (2 + 2 * MAX_SOLANA_MESSAGE)
      let bytes ← okOr (x.ethers.hex_decode (strip0x hex_str)) "message_bytes is not valid hex"
      let tx_hash ← labelled "Invalid tx_hash: " (canonHash32 x tx_hash)
      .ok ⟨x.pubkey_to_string pubkey, tx_hash, ⟨[], nil_fits⟩, some bytes⟩

/-- The parameters that the family reads. -/
def FamilyRt.keepAuth3009 : FamilyRt → Option Auth3009Params → Option Auth3009Params
  | .evm _, p => p
  | _, _ => none

def FamilyRt.keepStarknet : FamilyRt → Option StarknetTxParams → Option StarknetTxParams
  | .starknet _, p => p
  | _, _ => none

/-- The checks of size and shape, and the task they leave. -/
def claimTask (fam : FamilyRt) (req : ClaimRequest) : Except String StealthTask := do
  require (req.calls.val.length ≤ MAX_CALLS) s!"Exceeded maximum allowed calls count ({MAX_CALLS})"
  checkParamSizes req.auth3009 req.starknet
  let client_sig ← sanitizeClientSig req.client_sig
  let canon ← canonicalize x fam req.derived_address req.tx_hash req.calls req.message_bytes
  .ok
    { chain := req.chain
      tx_hash := canon.tx_hash
      derived_address := canon.derived
      client_sig := client_sig
      calls := canon.calls
      auth3009 := fam.keepAuth3009 req.auth3009
      starknet := fam.keepStarknet req.starknet
      message_bytes := canon.message_bytes }

theorem claimTask_client_sig {x : ClaimCrates} {fam : FamilyRt} {req : ClaimRequest}
    {task : StealthTask} (h : claimTask x fam req = .ok task) :
    sanitizeClientSig req.client_sig = .ok task.client_sig := by
  obtain ⟨_, -, h⟩ := bind_ok.mp h
  obtain ⟨_, -, h⟩ := bind_ok.mp h
  obtain ⟨client_sig, hsig, h⟩ := bind_ok.mp h
  obtain ⟨canon, -, h⟩ := bind_ok.mp h
  cases h
  exact hsig

/-! ## Screening -/

inductive Plan
  | evm (p : EvmPlan)
  | starknet (p : StarknetPlan)
  | solana (p : SolanaPlan)
deriving DecidableEq

/-- `precheck`. -/
def precheck (now : BitVec 64) (rt : ChainRuntime) (fam : FamilyRt) (solana_relayer : Pubkey)
    (task : StealthTask) : Except Trace Plan :=
  match fam with
  | .evm ev => do
      let p ← precheckEvm x.toCrates now ev task
      .ok (.evm p)
  | .starknet st => do
      let p ← precheckStarknet x.toCrates rt st task
      .ok (.starknet p)
  | .solana => do
      let p ← precheckSolana x.toCrates rt solana_relayer task
      .ok (.solana p)

end

end Beanie.Api
