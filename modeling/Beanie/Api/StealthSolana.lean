/-
# `Beanie.Api.StealthSolana` — screening, cosigning and assembling a Solana claim

The client sends a serialised legacy message.  `precheck_solana` accepts it
only if it is one SPL `TransferChecked` out of the multisig derived for the
client, and `relay_solana` completes it with the cosigner's and the relayer's
signatures, each put at the index its key has in the message.
-/
import Beanie.Api.StealthModels

namespace Beanie.Api

open Beanie.Solana (Pubkey bytesOf)

def MAX_SOLANA_MESSAGE : Nat := 1232

def MULTISIG_SEED_DOMAIN : Bytes := asciiBytes "beanie-multisig-v1".toList

structure SolanaPlan where
  message : SolanaMessage
  bytes : Bytes
  client : Pubkey
  cosigner : Pubkey
  client_sig : Bytes
deriving DecidableEq

/-- `Message::is_signer`. -/
def SolanaMessage.is_signer (m : SolanaMessage) (i : Nat) : Bool :=
  i < m.header.num_required_signatures.toNat

def TokenInstruction.isTransferChecked : TokenInstruction → Bool
  | transferChecked .. => true
  | _ => false

/-- `hex::encode`. -/
def hexEncode (bs : Bytes) : Text :=
  bs.flatMap fun b => [(b.toNat / 16).digitChar, (b.toNat % 16).digitChar]

section
variable (cr : Crates)

def showKey (k : Pubkey) : String := String.ofList (cr.pubkey_to_string k)

/-! ## Screening -/

def deriveMultisig (client cosigner : Pubkey) : Except Trace (Pubkey × Text) := do
  let digest := cr.sha256 (MULTISIG_SEED_DOMAIN ++ bytesOf client)
  let seed := hexEncode ((bytesOf digest).take 16)
  let addr ← okOr (cr.create_with_seed cosigner seed cr.solana.spl_token_id) []
  .ok (addr, seed)

/-- The key of the instruction's account at a position. -/
def acct (m : SolanaMessage) (ix : CompiledInstruction) (pos : Nat) : Except Trace Pubkey := do
  let idx ← okOr ix.accounts[pos]? [s!"missing account {pos}"]
  okOr m.account_keys[idx.toNat]? ["bad account index"]

/-- The loop over the signer indices: every one is a signer of the transaction. -/
def foundSigners (m : SolanaMessage) : List UInt8 → Except Trace (List Pubkey)
  | [] => .ok []
  | idx :: rest => do
      let pk ← okOr m.account_keys[idx.toNat]? ["signer index out of range"]
      require (m.is_signer idx.toNat = true) [s!"{showKey cr pk} is not a transaction signer"]
      let found ← foundSigners m rest
      .ok (pk :: found)

def validateMultisigTransfer (m : SolanaMessage) (relayer multisig client cosigner : Pubkey)
    (allowed_mints : List Text) : Except Trace Unit := do
  match m.instructions with
  | [ix] => do
      require (m.header.num_required_signatures = 3)
        ["expected exactly 3 signers (relayer, client, cosigner)"]
      require (m.account_keys.head? = some relayer) ["fee payer must be the relayer"]
      let program ← okOr m.account_keys[ix.program_id_index.toNat]? ["bad program index"]
      require (program = cr.solana.spl_token_id) ["not an SPL Token instruction"]
      let token_ix ← okOr (cr.solana.token_instruction_unpack ix.data) []
      require (token_ix.isTransferChecked = true) ["only TransferChecked is allowed"]
      let mint ← acct m ix 1
      require (cr.pubkey_to_string mint ∈ allowed_mints) [s!"mint {showKey cr mint} is not allowed"]
      let authority ← acct m ix 3
      require (authority = multisig)
        [s!"authority {showKey cr authority} != expected multisig {showKey cr multisig}"]
      let signer_idx := ix.accounts.drop 4
      require (signer_idx.length = 2) [s!"expected 2 multisig signers, got {signer_idx.length}"]
      let found ← foundSigners cr m signer_idx
      require (client ∈ found ∧ cosigner ∈ found) ["signer set mismatch"]
  | _ => .error ["exactly one instruction allowed"]

def precheckSolana (rt : ChainRuntime) (relayer : Pubkey) (task : StealthTask) :
    Except Trace SolanaPlan := do
  match rt.cosigner with
  | .eth _ => .error ["cosigner is not ed25519"]
  | .ed25519 cosigner => do
      let bytes ← okOr task.message_bytes ["solana task missing message_bytes"]
      require (bytes ≠ [] ∧ bytes.length ≤ MAX_SOLANA_MESSAGE) ["message_bytes size out of range"]
      let message ← okOr (cr.solana.message_deserialize bytes) ["bad solana message"]
      require (cr.solana.message_serialize message = bytes) ["message is not canonically serialized"]
      let digest := cr.sha256 bytes
      let tx_hash ← context "bad tx_hash" (hex32 cr task.tx_hash)
      require (tx_hash = digest) ["tx_hash is not sha256(message_bytes)"]
      let client ← okOr (cr.solana.pubkey_from_str task.derived_address) ["bad derived_address"]
      let (multisig, _) ← deriveMultisig cr client cosigner
      validateMultisigTransfer cr message relayer multisig client cosigner rt.cfg.allowed_targets
      match task.client_sig with
      | .ecdsa .. => .error ["solana task needs an ed25519 client signature"]
      | .ed25519 sig_hex => do
          let sig_bytes ← okOr (cr.ethers.hex_decode sig_hex) []
          let client_sig ← okOr (solanaSignature sig_bytes) ["malformed client signature"]
          require (cr.solana.verify client_sig client bytes = true)
            ["client signature does not verify"]
          .ok ⟨message, bytes, client, cosigner, client_sig⟩

/-! ## Relaying -/

def cosignEd25519 (rt : ChainRuntime) (msg : Bytes) : Except Trace Bytes :=
  match rt.cosigner with
  | .eth _ => .error ["cosigner is not ed25519"]
  | .ed25519 pk =>
      match rt.key with
      | .secp256k1 _ => .error ["cosigner key is not ed25519"]
      | .ed25519 kp => do
          let sig := kp.sign_message msg
          require (cr.solana.verify sig pk msg = true)
            [s!"cosignature does not verify against cosigner {showKey cr pk}"]
          .ok sig

/-- Where a key stands among the required signers. -/
def signerPosition (m : SolanaMessage) (pk : Pubkey) : Except Trace Nat := do
  let i ← okOr (m.account_keys.findIdx? (· = pk)) [s!"{showKey cr pk} missing"]
  require (i < m.header.num_required_signatures.toNat)
    [s!"{showKey cr pk} is not a required signer"]
  .ok i

/-- `Transaction::new_unsigned`: a zero signature for every required signer. -/
def newUnsigned (m : SolanaMessage) : SolanaTransaction :=
  ⟨List.replicate m.header.num_required_signatures.toNat (List.replicate 64 0), m⟩

/-- `tx.signatures[i] = sig`. -/
def SolanaTransaction.setSignature (tx : SolanaTransaction) (i : Nat) (sig : Bytes) :
    SolanaTransaction :=
  { tx with signatures := tx.signatures.set i sig }

/-- `Transaction::partial_sign` by one key, with the blockhash the message has.  It panics unless
the key is one of the required signers. -/
def partialSign (kp : Keypair) (tx : SolanaTransaction) : Except Trace SolanaTransaction := do
  let required := tx.message.account_keys.take tx.message.header.num_required_signatures.toNat
  let i ← okOr (required.findIdx? (· = kp.pubkey)) ["Transaction::partial_sign failed"]
  .ok (tx.setSignature i (kp.sign_message (cr.solana.message_serialize tx.message)))

/-- The transaction `relay_solana` sends; `ensured` is what `ensure_multisig` returned. -/
def assembleSolana (rt : ChainRuntime) (relayer : Keypair) (ensured : Except Trace Pubkey)
    (plan : SolanaPlan) : Except Trace SolanaTransaction := do
  let _ ← ensured
  let co ← cosignEd25519 cr rt plan.bytes
  let ci ← signerPosition cr plan.message plan.client
  let ki ← signerPosition cr plan.message plan.cosigner
  let tx := newUnsigned plan.message
  let tx := tx.setSignature ci plan.client_sig
  let tx := tx.setSignature ki co
  partialSign cr relayer tx

end

/-! ## The token program -/

/-- An SPL multisig account. -/
structure Multisig where
  m : Nat
  signers : List Pubkey
deriving DecidableEq

/-- An account passed to the token program: its key, and whether it signed. -/
abbrev Passed := Pubkey × Bool

/-- The token program's check of a transfer's authority: what is stored at the authority's
address if it is a multisig, the authority, and the accounts passed behind it. -/
structure TokenProgram where
  validate_owner : Option Multisig → Passed → List Passed → Bool

/-- The authority of a two-of-two multisig is given exactly if both its signers are passed and have
signed.  (Stated for distinct accounts.) -/
structure TokenProgram.Documented (tp : TokenProgram) : Prop where
  multisig : ∀ (a b : Pubkey) (owner : Passed) (passed : List Passed), a ≠ b →
    (passed.map Prod.fst).Nodup →
    (tp.validate_owner (some ⟨2, [a, b]⟩) owner passed = true ↔
      (a, true) ∈ passed ∧ (b, true) ∈ passed)

end Beanie.Api
