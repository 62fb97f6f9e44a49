/-
# `Beanie.Keeper.SolanaIndexer` — announced receivers, as the indexer reads them

`solana_indexer.rs`: the bodies of the program's two receiver events, the check
of an announcement against the transaction pinned with it, and how events are
folded into the map of known receivers.

The Solana SDK is a parameter (`Sdk`): the wire form of a legacy transaction,
how instructions are compiled and signed, and signature verification.
`Sdk.Builds` states what the keeper relies on.
-/
import Beanie.Keeper.SolanaKeeper
import Beanie.Lib.Reader

namespace Beanie.Keeper

open Beanie.Solana

/-! ## Legacy transactions -/

structure CompiledInstruction where
  program_id_index : Nat
  accounts : List Nat
  data : Bytes
deriving DecidableEq

structure Message where
  num_required_signatures : Nat
  num_readonly_signed_accounts : Nat
  num_readonly_unsigned_accounts : Nat
  account_keys : List Pubkey
  recent_blockhash : Bytes32
  instructions : List CompiledInstruction
deriving DecidableEq

structure Transaction where
  signatures : List Bytes
  message : Message
deriving DecidableEq

/-- The key at a position of the message's list, with the rights its position gives it. -/
def Message.accountMeta (m : Message) (i : Nat) : Option AccountMeta :=
  (m.account_keys[i]?).map fun key =>
    { key := key
      isSigner := decide (i < m.num_required_signatures)
      isWritable := decide (i < m.num_required_signatures - m.num_readonly_signed_accounts ∨
        m.num_required_signatures ≤ i ∧
          i < m.account_keys.length - m.num_readonly_unsigned_accounts) }

/-- A compiled instruction, its positions looked up. -/
def Message.instruction (m : Message) (c : CompiledInstruction) : Option Instruction := do
  let program ← m.account_keys[c.program_id_index]?
  let accounts ← c.accounts.mapM m.accountMeta
  some ⟨program, accounts, c.data⟩

/-- What the Solana SDK does. -/
structure Sdk where
  /-- `bincode::serialize` of a legacy transaction -/
  serialize : Transaction → Bytes
  /-- `bincode::deserialize` -/
  deserialize : Bytes → Option Transaction
  /-- `Transaction::new_signed_with_payer`: instructions, payer, signing keys, blockhash -/
  newSignedWithPayer : List Instruction → Pubkey → List Pubkey → Bytes32 → Transaction
  /-- does the signature of the message verify under the key? -/
  verify : Pubkey → Message → Bytes → Bool

/-- A required signer has signed. -/
def Transaction.SignedBy (sdk : Sdk) (tx : Transaction) (key : Pubkey) : Prop :=
  ∃ i, i < tx.message.num_required_signatures ∧ tx.message.account_keys[i]? = some key ∧
    ∃ s, tx.signatures[i]? = some s ∧ sdk.verify key tx.message s = true

/-- What the SDK is relied on for when it builds a transaction: the wire form reads back, and each
instruction is compiled, in order, to positions of the transaction's own keys. -/
structure Sdk.Builds (sdk : Sdk) (ixs : List Instruction) (tx : Transaction) : Prop where
  roundTrip : sdk.deserialize (sdk.serialize tx) = some tx
  compiles : List.Forall₂ (fun ix c =>
      tx.message.account_keys[c.program_id_index]? = some ix.programId ∧ c.data = ix.data ∧
        List.Forall₂ (fun m i => tx.message.account_keys[i]? = some m.key) ix.accounts c.accounts)
    ixs tx.message.instructions

/-! ## `prepare_registration` -/

/-- `system_instruction::advance_nonce_account`. -/
def advanceNonceIx (rt : Runtime) (nonce authority : Pubkey) : Instruction where
  programId := rt.systemProgram
  accounts := [.new nonce false, .newReadonly (rt.fromStr
    "SysvarRecentB1ockHashes11111111111111111111".toList) false, .newReadonly authority true]
  data := leBytes 4 4

/-- The instructions of the transaction that `prepare_registration` signs. -/
def registrationIxs (rt : Runtime) (keeper receiver program_id merchant : Pubkey)
    (chain recipient : Bytes32) (usdc_mint nonce : Pubkey) : List Instruction :=
  [advanceNonceIx rt nonce keeper,
   registerIx rt keeper receiver program_id merchant chain recipient usdc_mint]

/-- That transaction. -/
def registrationTx (rt : Runtime) (sdk : Sdk) (keeper receiver program_id merchant : Pubkey)
    (chain recipient : Bytes32) (usdc_mint nonce : Pubkey) (durable_nonce_hash : Bytes32) :
    Transaction :=
  sdk.newSignedWithPayer
    (registrationIxs rt keeper receiver program_id merchant chain recipient usdc_mint nonce)
    keeper [keeper, receiver] durable_nonce_hash

/-- What `prepare_registration` returns. -/
def prepareRegistration (rt : Runtime) (sdk : Sdk) (keeper receiver program_id merchant : Pubkey)
    (chain recipient : Bytes32) (usdc_mint nonce : Pubkey) (durable_nonce_hash : Bytes32) : Bytes :=
  sdk.serialize (registrationTx rt sdk keeper receiver program_id merchant chain recipient usdc_mint
    nonce durable_nonce_hash)

/-! ## Event bodies -/

structure RawReceiverAnnounced where
  merchant : Pubkey
  receiver : Pubkey
  receiver_token_account : Pubkey
  receiver_config : Pubkey
  cctp_burn_staging_account : Pubkey
  pending_registration : Pubkey
  cctp_mint_chain : Bytes32
  cctp_mint_recipient : Bytes32
deriving DecidableEq

structure RawReceiverRegistered where
  merchant : Pubkey
  receiver : Pubkey
  receiver_config : Pubkey
  receiver_token_account : Pubkey
deriving DecidableEq

/-- Why a function of the indexer did not return: `bail!`, or an index out of bounds. -/
inductive Fault
  | bailed (message : String)
  | panicked
deriving DecidableEq

/-- `read_pubkey`. -/
def readPubkey (buf : Bytes) (off : Nat) : Except Fault Pubkey :=
  if off + 32 ≤ buf.length then .ok (BitVec.ofNat 256 (beNat ((buf.drop off).take 32)))
  else .error (.bailed "event body too short")

/-- `decode_merchant_announced`. -/
def decodeMerchantAnnounced (data : Bytes) : Except Fault RawReceiverAnnounced := do
  require (data.length = 256) (.bailed "ReceiverAnnounced body is not 256 bytes")
  let merchant ← readPubkey data 0
  let receiver ← readPubkey data 32
  let receiver_token_account ← readPubkey data 64
  let receiver_config ← readPubkey data 96
  let cctp_burn_staging_account ← readPubkey data 128
  let pending_registration ← readPubkey data 160
  let cctp_mint_chain ← readPubkey data 192
  let cctp_mint_recipient ← readPubkey data 224
  .ok ⟨merchant, receiver, receiver_token_account, receiver_config, cctp_burn_staging_account,
    pending_registration, cctp_mint_chain, cctp_mint_recipient⟩

/-- `decode_merchant_registered`. -/
def decodeMerchantRegistered (data : Bytes) : Except Fault RawReceiverRegistered := do
  require (128 ≤ data.length) (.bailed "ReceiverRegistered body is under 128 bytes")
  let merchant ← readPubkey data 0
  let receiver ← readPubkey data 32
  let receiver_config ← readPubkey data 64
  let receiver_token_account ← readPubkey data 96
  .ok ⟨merchant, receiver, receiver_config, receiver_token_account⟩

/-! ## `validate_announce` -/

section
variable (rt : Runtime) (sdk : Sdk)

/-- `tx.message.account_keys[i]`. -/
def keyAt (tx : Transaction) (i : Nat) : Except Fault Pubkey :=
  okOr tx.message.account_keys[i]? .panicked

/-- The first `register_merchant` instruction of this program. -/
def findRegister (program_id : Pubkey) (tx : Transaction) :
    List CompiledInstruction → Except Fault CompiledInstruction
  | [] => .error (.bailed "reg_tx contains no register_merchant instruction for this program")
  | ix :: rest => do
      let program_key ← keyAt tx ix.program_id_index
      if program_key = program_id ∧ 8 ≤ ix.data.length ∧
          ix.data.take 8 = rt.anchorDiscriminator "register_merchant".toList then .ok ix
      else findRegister program_id tx rest

namespace RegisterMerchantAccounts

def RECEIVER : Nat := 1
def RECEIVER_TOKEN_ACCOUNT : Nat := 3
def MERCHANT_TOKEN_ACCOUNT : Nat := 4
def RECEIVER_CONFIG : Nat := 5
def CCTP_BURN_STAGING_ACCOUNT : Nat := 6
def PENDING_REGISTRATION : Nat := 8

end RegisterMerchantAccounts

/-- `acc`: the key at a position of the instruction's account list. -/
def accountAt (tx : Transaction) (ix : CompiledInstruction) (idx : Nat) : Except Fault Pubkey := do
  let account_idx ← okOr ix.accounts[idx]?
    (.bailed "register_merchant instruction missing an expected account")
  keyAt tx account_idx

/-- One comparison of an account with the announced one. -/
def checkAccount (tx : Transaction) (ix : CompiledInstruction) (idx : Nat) (announced : Pubkey)
    (message : String) : Except Fault Unit := do
  let key ← accountAt tx ix idx
  require (key = announced) (.bailed message)

/-- The addresses the indexer expects: derived from the receiver alone. -/
def expectConfig (program_id receiver : Pubkey) : Pubkey :=
  (rt.findProgramAddress [CONFIG_SEED, bytesOf receiver] program_id).1

def expectPending (program_id receiver : Pubkey) : Pubkey :=
  (rt.findProgramAddress [PENDING_SEED, bytesOf receiver] program_id).1

/-- The four checks of the event against the derivations. -/
def checkDerivations (ev : RawReceiverAnnounced) (program_id mint : Pubkey) :
    Except Fault Unit := do
  require (expectConfig rt program_id ev.receiver = ev.receiver_config)
    (.bailed "announce: receiver_config does not derive from receiver")
  require (expectPending rt program_id ev.receiver = ev.pending_registration)
    (.bailed "announce: pending_registration does not derive from receiver")
  require (rt.ata ev.receiver mint = ev.receiver_token_account)
    (.bailed "announce: receiver_token_account is not ATA(receiver, mint)")
  require (rt.ata (expectConfig rt program_id ev.receiver) mint = ev.cctp_burn_staging_account)
    (.bailed "announce: cctp_burn_staging_account is not ATA(receiver_config, mint)")

/-- The checks of the `register_merchant` instruction against the event. -/
def checkInstruction (ev : RawReceiverAnnounced) (tx : Transaction) (ix : CompiledInstruction) :
    Except Fault Unit := do
  require (ix.data.length = 8 + 32 + 32 + 32)
    (.bailed "register_merchant instruction data is not 104 bytes")
  let arg_merchant ← readPubkey ix.data 8
  let arg_chain ← readPubkey ix.data 40
  let arg_recipient ← readPubkey ix.data 72
  require (arg_merchant = ev.merchant)
    (.bailed "reg_tx registers a different merchant than the announce claims")
  require (¬ (arg_chain ≠ ev.cctp_mint_chain ∨ arg_recipient ≠ ev.cctp_mint_recipient))
    (.bailed "reg_tx route does not match the announced route")
  checkAccount tx ix RegisterMerchantAccounts.RECEIVER ev.receiver
    "reg_tx's receiver account does not match the announce"
  checkAccount tx ix RegisterMerchantAccounts.RECEIVER_TOKEN_ACCOUNT ev.receiver_token_account
    "reg_tx's receiver_token_account does not match the announce"
  checkAccount tx ix RegisterMerchantAccounts.RECEIVER_CONFIG ev.receiver_config
    "reg_tx's receiver_config does not match the announce"
  checkAccount tx ix RegisterMerchantAccounts.CCTP_BURN_STAGING_ACCOUNT
    ev.cctp_burn_staging_account
    "reg_tx's cctp_burn_staging_account does not match the announce"
  checkAccount tx ix RegisterMerchantAccounts.PENDING_REGISTRATION ev.pending_registration
    "reg_tx's pending_registration does not match the announce"

/-- `validate_announce`. -/
def validateAnnounce (ev : RawReceiverAnnounced) (reg_tx : Bytes) (program_id mint : Pubkey) :
    Except Fault Unit := do
  checkDerivations rt ev program_id mint
  let tx ← okOr (sdk.deserialize reg_tx)
    (.bailed "reg_tx does not decode as a legacy Transaction")
  let ix ← findRegister rt program_id tx tx.message.instructions
  checkInstruction ev tx ix

/-! ## The map of receivers -/

inductive EventName
  | receiverAnnounced
  | receiverRegistered
deriving DecidableEq

/-- `AnchorEvent`. -/
structure AnchorEvent where
  name : EventName
  data : Bytes
  slot : Nat
deriving DecidableEq

inductive ReceiverStatus
  | announced
  | registered
deriving DecidableEq

structure SolanaRoute where
  chain : Bytes32
  recipient : Bytes32
deriving DecidableEq

/-- `SolanaReceiverRecord`, whole. -/
structure IndexedReceiver extends SolanaReceiverRecord where
  status : ReceiverStatus
  reg_tx : Option Bytes
  route : Option SolanaRoute

/-- `HashMap<Pubkey, SolanaReceiverRecord>`. -/
abbrev ReceiverMap := Pubkey → Option IndexedReceiver

/-- What an accepted announcement puts into the map. -/
def RawReceiverAnnounced.record (raw : RawReceiverAnnounced) (reg_tx : Bytes) : IndexedReceiver where
  merchant := raw.merchant
  receiver := raw.receiver
  receiver_token_account := raw.receiver_token_account
  receiver_config := raw.receiver_config
  status := .announced
  reg_tx := some reg_tx
  route := some ⟨raw.cctp_mint_chain, raw.cctp_mint_recipient⟩

/-- One event of `attach_reg_tx_and_merge`, with what reading its pending account returns at that
moment. -/
def attachOne (program_id mint : Pubkey) (map : ReceiverMap) (ev : AnchorEvent)
    (fetched : Option Bytes) : Except Fault ReceiverMap :=
  if ev.name ≠ .receiverAnnounced then .ok map
  else
    match decodeMerchantAnnounced ev.data with
    | .error _ => .ok map
    | .ok raw =>
        if (map raw.receiver).any (fun r => r.status = .registered) then .ok map
        else
          match fetched with
          | none => .ok map
          | some reg_tx =>
              match validateAnnounce rt sdk raw reg_tx program_id mint with
              | .ok () => .ok (Function.update map raw.receiver (some (raw.record reg_tx)))
              | .error .panicked => .error .panicked
              | .error (.bailed _) => .ok map

/-- An accepted announcement enters a map that does not hold its receiver as registered. -/
theorem attachOne_of_accepted {rt : Runtime} {sdk : Sdk} {program_id mint : Pubkey}
    {map : ReceiverMap} {ev : AnchorEvent} {raw : RawReceiverAnnounced} {reg_tx : Bytes}
    (hname : ev.name = .receiverAnnounced) (hdecode : decodeMerchantAnnounced ev.data = .ok raw)
    (hmap : ¬ (map raw.receiver).any (fun r => r.status = .registered))
    (hok : validateAnnounce rt sdk raw reg_tx program_id mint = .ok ()) :
    attachOne rt sdk program_id mint map ev (some reg_tx)
      = .ok (Function.update map raw.receiver (some (raw.record reg_tx))) := by
  rw [attachOne, if_neg (not_not_intro hname), hdecode]
  dsimp only
  rw [if_neg hmap, hok]

/-- `attach_reg_tx_and_merge`: the events in order. -/
def attachRegTxAndMerge (program_id mint : Pubkey) :
    ReceiverMap → List (AnchorEvent × Option Bytes) → Except Fault ReceiverMap
  | map, [] => .ok map
  | map, (ev, fetched) :: rest => do
      let map ← attachOne rt sdk program_id mint map ev fetched
      attachRegTxAndMerge program_id mint map rest

/-- One event of `merge_events`. -/
def mergeOne (map : ReceiverMap) (ev : AnchorEvent) : ReceiverMap :=
  if ev.name ≠ .receiverRegistered then map
  else
    match decodeMerchantRegistered ev.data with
    | .error _ => map
    | .ok raw =>
        let entry : IndexedReceiver := (map raw.receiver).getD
          { merchant := raw.merchant
            receiver := raw.receiver
            receiver_token_account := raw.receiver_token_account
            receiver_config := raw.receiver_config
            status := .registered
            reg_tx := none
            route := none }
        Function.update map raw.receiver (some { entry with status := .registered, reg_tx := none })

/-- `merge_events`. -/
def mergeEvents (map : ReceiverMap) (events : List AnchorEvent) : ReceiverMap :=
  events.foldl mergeOne map

end

end Beanie.Keeper
