/-
# `Beanie.Browser.GaslessSolana` — the transfer the wallet signs

The Solana half of `gasless.js`.  The message the page writes is the wire form
of a legacy message with the keeper in front of the owner, so the route finds
in it what it looks for, and the worker that serialises it again signs the same
octets (`solana_payment_accepted`).
-/
import Beanie.Browser.SolanaMessage
import Beanie.Api.PaymentAssembly

namespace Beanie.Browser

open Beanie.Solana (Pubkey bytesOf)
open Beanie.Api (accountAt_ok AppState IncomingPaymentRequest Keypair PaymentTask SignaturePayload SolanaAuth
  SolanaCrate SolanaMessage Transfers Worker keyText transferCheckedData SPL_TOKEN_ID coSign
  ownerSigned processSolana verifySolanaAuthorization verifyTransaction)
open Journal

/-! ## `gasless.js` -/

inductive SolanaReceiverKind
  | wallet
  | tokenAccount

def SOLANA_RECEIVER_KIND : SolanaReceiverKind := .wallet

/-- What a payment depends on: the chain's configuration, the page's receiver and amount, the
account's address, balance and signature, and the recent blockhash. -/
structure SolanaTransfer where
  keeper : Text
  usdc : Text
  receiver : Text
  amountRaw : Nat
  owner : Text
  balance : Nat
  blockhash : Text
  signTransaction : Bytes → Option Bytes

/-- The payload, and the receiver's address for `/pay`. -/
def signSolanaTransfer (p : Platform) (t : SolanaTransfer) : Option (SignaturePayload × Text) := do
  let _ ← pubkeyBytes t.keeper
  if t.balance < t.amountRaw then none
  else do
    let source ← p.usdcAta t.owner t.usdc
    let destination ← match SOLANA_RECEIVER_KIND with
      | .tokenAccount => some t.receiver
      | .wallet => p.usdcAta t.receiver t.usdc
    let message ← buildTransferCheckedMessage
      ⟨t.keeper, t.owner, source, destination, t.usdc, t.amountRaw, 6, t.blockhash⟩
    let signedTransaction ← t.signTransaction (unsignedTransaction message 2)
    let signed ← parseTransaction signedTransaction
    if signed.message ≠ message then none
    else do
      let signature ← signed.signatures[1]?
      if signature.all (· = 0) then none
      else some (.solana (base64Encode message) (base64Encode signature) t.owner, destination)

/-! ## The message -/

section
variable {st : AppState} {keypair : Keypair} {owner destination : Pubkey} {amount : BitVec 64}
  {decimals : UInt8} {blockhash : BitVec 256}

/-- The transfer from the owner's token account, for the server's keeper and mint. -/
def transferOf (st : AppState) (owner destination : Pubkey) (amount : BitVec 64) (decimals : UInt8)
    (blockhash : BitVec 256) : TransferChecked where
  feePayer := keyText st.keeper_wallet
  owner := keyText owner
  source := keyText (st.solana.get_associated_token_address owner st.mint)
  destination := keyText destination
  mint := keyText st.mint
  amount := amount.toNat
  decimals := decimals
  blockhash := keyText blockhash

def transferKeys (st : AppState) (owner destination : Pubkey) : List Pubkey :=
  [st.keeper_wallet, owner, st.solana.get_associated_token_address owner st.mint, destination,
    st.mint, st.solana.spl_token_id]

/-- The message it is. -/
def messageOf (st : AppState) (owner destination : Pubkey) (amount : BitVec 64) (decimals : UInt8)
    (blockhash : BitVec 256) : SolanaMessage where
  header := ⟨2, 1, 2⟩
  account_keys := transferKeys st owner destination
  recent_blockhash := bytesOf blockhash
  instructions := [⟨5, [2, 4, 3, 1], transferCheckedData amount decimals⟩]

theorem length_transferCheckedData (amount : BitVec 64) (decimals : UInt8) :
    (transferCheckedData amount decimals).length = 10 := by
  simp [transferCheckedData]

theorem messageOf_fits : (messageOf st owner destination amount decimals blockhash).Fits where
  keys := show 6 < 2 ^ 16 by decide
  blockhash := Solana.length_bytesOf _
  instructions := by
    refine ⟨show 1 < 2 ^ 16 by decide, ?_⟩
    intro c hc
    obtain rfl := List.mem_singleton.mp hc
    refine ⟨show 4 < 2 ^ 16 by decide, ?_⟩
    rw [length_transferCheckedData]
    decide

/-- The page writes its wire form. -/
theorem buildTransferCheckedMessage_eq (hdoc : st.solana.Documented)
    (hdistinct : (transferKeys st owner destination).Nodup) :
    buildTransferCheckedMessage (transferOf st owner destination amount decimals blockhash)
      = some (messageOf st owner destination amount decimals blockhash).wire := by
  have hnames : [keyText st.keeper_wallet, keyText owner,
      keyText (st.solana.get_associated_token_address owner st.mint), keyText destination,
      keyText st.mint, TOKEN_PROGRAM] = (transferKeys st owner destination).map keyText := by
    rw [← keyText_SPL_TOKEN_ID, ← hdoc.spl_token]
    rfl
  have hwire := @oneInstruction_eq_wire ⟨2, 1, 2⟩ (transferKeys st owner destination)
    (bytesOf blockhash) 5 [2, 4, 3, 1] (transferCheckedData amount decimals)
    (show 6 < 2 ^ 16 by decide) (by decide) (by rw [length_transferCheckedData]; decide)
  unfold buildTransferCheckedMessage transferOf
  dsimp only
  rw [hnames, mapM_pubkeyBytes, length_dedup_keyText hdistinct, pubkeyBytes_keyText,
    u64le_ofBitVec]
  show (if (6 : Nat) ≠ 6 then none else some _) = _
  rw [if_neg (not_not.mpr rfl)]
  exact congrArg some hwire

/-! ## Acceptance -/

/-- The authorisation the page sends. -/
def authOf (st : AppState) (owner destination : Pubkey) (amount : BitVec 64) (decimals : UInt8)
    (blockhash : BitVec 256) (signature : Bytes) : SolanaAuth where
  message := base64Encode (messageOf st owner destination amount decimals blockhash).wire
  signature := base64Encode signature
  owner := keyText owner

/-- The request names the owner, the destination and the amount. -/
structure Requests (payload : IncomingPaymentRequest) (owner destination : Pubkey)
    (amount : BitVec 64) : Prop where
  sender : payload.from_address = keyText owner
  receiver : payload.receiver_address = keyText destination
  amount_raw : payload.amount_raw = Nat.toDigits 10 amount.toNat

/-- What the route finds in the message. -/
theorem solanaVerified_messageOf (hdoc : st.solana.Documented) {payload : IncomingPaymentRequest}
    {signature : Bytes} (hrequests : Requests payload owner destination amount)
    (hlength : signature.length = 64)
    (hverifies : st.solana.verify signature owner
      (messageOf st owner destination amount decimals blockhash).wire = true) :
    Api.SolanaVerified st payload
      (authOf st owner destination amount decimals blockhash signature)
      (messageOf st owner destination amount decimals blockhash).wire
      (messageOf st owner destination amount decimals blockhash) signature
      ⟨5, [2, 4, 3, 1], transferCheckedData amount decimals⟩ (.transferChecked amount decimals)
      ⟨st.solana.get_associated_token_address owner st.mint, some st.mint, destination, owner,
        amount⟩ where
  reads_owner := hdoc.reads_key owner
  sent_from := hrequests.sender.symm
  reads_receiver := by
    rw [hrequests.receiver]
    exact hdoc.reads_key destination
  reads_amount := by
    rw [hrequests.amount_raw]
    exact parseUnsigned_toDigits amount.isLt
  decodes := hdoc.base64 _
  deserializes := hdoc.deserializes _ messageOf_fits
  fee_payer := rfl
  instructions := rfl
  program := rfl
  unpacks := hdoc.transferChecked amount decimals
  transfer := ⟨rfl, ⟨st.mint, rfl, 4, rfl, rfl⟩, ⟨2, rfl, rfl⟩, ⟨3, rfl, rfl⟩, ⟨1, rfl, rfl⟩⟩
  source := rfl
  configured := fun _ hm => (Option.some.inj hm).symm
  signs := ⟨signature, hdoc.base64 _, if_pos hlength⟩
  verifies := hverifies

/-- The route accepts the message with the owner's signature. -/
theorem verifySolanaAuthorization_messageOf (hdoc : st.solana.Documented)
    {payload : IncomingPaymentRequest} {signature : Bytes}
    (hrequests : Requests payload owner destination amount) (hlength : signature.length = 64)
    (hverifies : st.solana.verify signature owner
      (messageOf st owner destination amount decimals blockhash).wire = true) :
    verifySolanaAuthorization st payload
        (base64Encode (messageOf st owner destination amount decimals blockhash).wire)
        (base64Encode signature) (keyText owner)
      = .ok (authOf st owner destination amount decimals blockhash signature) := by
  have h := solanaVerified_messageOf hdoc hrequests hlength hverifies
  refine bind_ok.mpr ⟨(), require_of _ h.sent_from, ?_⟩
  refine bind_ok.mpr ⟨_, okOr_ok.mpr h.reads_owner, ?_⟩
  refine bind_ok.mpr ⟨_, okOr_ok.mpr h.reads_receiver, ?_⟩
  refine bind_ok.mpr ⟨_, okOr_ok.mpr h.reads_amount, ?_⟩
  refine bind_ok.mpr ⟨_, okOr_ok.mpr h.decodes, ?_⟩
  refine bind_ok.mpr ⟨_, okOr_ok.mpr h.deserializes, ?_⟩
  refine bind_ok.mpr ⟨_, okOr_ok.mpr h.fee_payer, ?_⟩
  refine bind_ok.mpr ⟨(), require_of _ rfl, ?_⟩
  -- One instruction: the token program's `TransferChecked`, of the accounts at 2, 4, 3 and 1.
  refine bind_ok.mpr ⟨_, okOr_ok.mpr h.program, ?_⟩
  refine bind_ok.mpr ⟨(), require_of _ rfl, ?_⟩
  refine bind_ok.mpr ⟨_, okOr_ok.mpr h.unpacks, ?_⟩
  refine bind_ok.mpr ⟨(some 2, some 3, some 1, amount, some 4), rfl, ?_⟩
  refine bind_ok.mpr ⟨(), require_of _ rfl, ?_⟩
  refine bind_ok.mpr ⟨_, accountAt_ok.mpr ⟨2, rfl, rfl⟩, ?_⟩
  refine bind_ok.mpr ⟨_, accountAt_ok.mpr ⟨3, rfl, rfl⟩, ?_⟩
  refine bind_ok.mpr ⟨_, accountAt_ok.mpr ⟨1, rfl, rfl⟩, ?_⟩
  refine bind_ok.mpr ⟨(), require_of _ rfl, ?_⟩
  refine bind_ok.mpr ⟨(), require_of _ rfl, ?_⟩
  refine bind_ok.mpr ⟨(), require_of _ rfl, ?_⟩
  refine bind_ok.mpr ⟨_, accountAt_ok.mpr ⟨4, rfl, rfl⟩, ?_⟩
  refine bind_ok.mpr ⟨(), require_of _ rfl, ?_⟩
  refine bind_ok.mpr ⟨_, okOr_ok.mpr (hdoc.base64 signature), ?_⟩
  refine bind_ok.mpr ⟨_, okOr_ok.mpr (if_pos hlength), ?_⟩
  exact bind_ok.mpr ⟨(), require_of _ h.verifies, rfl⟩

/-- Keeper and owner sign, and nobody else is asked to. -/
theorem coSign_messageOf {sol : SolanaCrate} {message : SolanaMessage} {rest : List Pubkey}
    {signature : Bytes} (hkeys : message.account_keys = keypair.pubkey :: owner :: rest)
    (htwo : message.header.num_required_signatures = 2)
    (hown : ∀ m, sol.verify (keypair.sign_message m) keypair.pubkey m = true)
    (hverifies : sol.verify signature owner (sol.message_serialize message) = true) :
    coSign sol keypair (ownerSigned message 1 signature)
      = some ⟨[keypair.sign_message (sol.message_serialize message), signature], message⟩ := by
  have hpayer : message.account_keys[0]? = some keypair.pubkey := by rw [hkeys]; rfl
  have hcount : message.header.num_required_signatures.toNat = 2 := by rw [htwo]; rfl
  have hlength : ¬ message.account_keys.length < 2 := by
    rw [hkeys]
    simp
  have hverify : verifyTransaction sol
      ⟨[keypair.sign_message (sol.message_serialize message), signature], message⟩ = true := by
    rw [verifyTransaction, hkeys]
    simp [hown, hverifies]
  rw [coSign, ownerSigned, Api.tryPartialSign_eq hpayer (by omega), hcount, if_neg hlength]
  dsimp only
  rw [show ((List.replicate 2 Api.defaultSignature).set 1 signature).set 0
    (keypair.sign_message (sol.message_serialize message))
      = [keypair.sign_message (sol.message_serialize message), signature] from rfl, if_pos hverify]

/-- The payload, where the wallet fills the owner's slot and leaves the keeper's. -/
theorem signSolanaTransfer_eq {p : Platform} {t : SolanaTransfer}
    {message signed keeper sig : Bytes} {source destination : Text}
    (hkeeper : pubkeyBytes t.keeper = some keeper) (hbalance : t.amountRaw ≤ t.balance)
    (hsource : p.usdcAta t.owner t.usdc = some source)
    (hdestination : p.usdcAta t.receiver t.usdc = some destination)
    (hmessage : buildTransferCheckedMessage
      ⟨t.keeper, t.owner, source, destination, t.usdc, t.amountRaw, 6, t.blockhash⟩ = some message)
    (hwallet : t.signTransaction (unsignedTransaction message 2) = some signed)
    (hfilled : signed = fillSlots [List.replicate 64 0, sig] (unsignedTransaction message 2))
    (hlength : sig.length = 64) (hsome : ∃ b ∈ sig, b ≠ 0) :
    signSolanaTransfer p t
      = some (.solana (base64Encode message) (base64Encode sig) t.owner, destination) := by
  have hslots : ∀ s ∈ [List.replicate 64 0, sig], s.length = 64 := by
    simp [hlength]
  have hparsed : parseTransaction signed = some ⟨[List.replicate 64 0, sig], message⟩ := by
    rw [hfilled]
    have hsmall : [List.replicate 64 0, sig].length < 2 ^ 16 := show 2 < 2 ^ 16 by decide
    exact (congrArg _ (@fillSlots_unsigned [List.replicate 64 0, sig] message)).trans
      (parseTransaction_transaction hsmall hslots message)
  unfold signSolanaTransfer
  simp [hkeeper, Nat.not_lt.mpr hbalance, hsource, SOLANA_RECEIVER_KIND, hdestination, hmessage,
    hwallet, hparsed, hsome]

end

/-- **The page's payment is accepted, signed and sent; and transactions are taken apart.**  For
distinct keys the page writes the canonical octets of a message.  With the owner's signature the
route accepts them, and the worker completes the transaction and sends it.  Of any transaction
`parseTransaction` returns the slots and the message. -/
theorem solana_payment_accepted {st : AppState} {keypair : Keypair} {owner destination : Pubkey}
    {amount : BitVec 64} {decimals : UInt8} {blockhash : BitVec 256}
    (hdoc : st.solana.Documented) (hkeeper : keypair.pubkey = st.keeper_wallet)
    (hown : ∀ m, st.solana.verify (keypair.sign_message m) keypair.pubkey m = true)
    (hdistinct : (transferKeys st owner destination).Nodup) :
    (∃ bytes message,
      buildTransferCheckedMessage (transferOf st owner destination amount decimals blockhash)
          = some bytes ∧
      st.solana.message_deserialize bytes = some message ∧
      st.solana.message_serialize message = bytes ∧
      ∀ payload signature, Requests payload owner destination amount → signature.length = 64 →
        st.solana.verify signature owner bytes = true →
        ∃ auth, verifySolanaAuthorization st payload (base64Encode bytes) (base64Encode signature)
            (keyText owner) = .ok auth ∧
          ∀ (w : Worker) (task : PaymentTask), w.solana = st.solana →
            w.partial_sign = coSign w.solana keypair → task.solana_auth = some auth →
            ∃ tx, .sendSolana tx ∈ (processSolana w task).log ∧ tx.message = message ∧
              verifyTransaction st.solana tx = true) ∧
    ∀ (m : Bytes) (k : Nat), k < 2 ^ 16 →
      parseTransaction (unsignedTransaction m k)
          = some ⟨List.replicate k (List.replicate 64 0), m⟩ ∧
      ∀ slots : List Bytes, slots.length = k → (∀ s ∈ slots, s.length = 64) →
        parseTransaction (fillSlots slots (unsignedTransaction m k)) = some ⟨slots, m⟩ := by
  refine ⟨⟨_, _, buildTransferCheckedMessage_eq hdoc hdistinct,
    hdoc.deserializes _ messageOf_fits, hdoc.serializes _ messageOf_fits, ?_⟩, ?_⟩
  · intro payload signature hrequests hlength hverifies
    refine ⟨_, verifySolanaAuthorization_messageOf hdoc hrequests hlength hverifies, ?_⟩
    intro w task hsame hsign hauth
    have hserialized := hdoc.serializes (messageOf st owner destination amount decimals blockhash)
      messageOf_fits
    have hne : st.keeper_wallet ≠ owner := fun heq =>
      (List.nodup_cons.mp hdistinct).1 (heq ▸ List.mem_cons_self)
    have hsigned := @coSign_messageOf keypair owner st.solana
      (messageOf st owner destination amount decimals blockhash) _ signature
      (by rw [hkeeper]; rfl) rfl hown (by rw [hserialized]; exact hverifies)
    have hindex : (messageOf st owner destination amount decimals blockhash).account_keys.findIdx?
        (· = owner) = some 1 := by
      simp [messageOf, transferKeys, List.findIdx?_cons, hne]
    have hsent := (Api.mem_processSolana hsame hauth
      (solanaVerified_messageOf hdoc hrequests hlength hverifies) _).mpr
        ⟨1, hindex, show 1 < 2 by decide, by rw [hsign, hsame]; exact hsigned⟩
    exact ⟨_, hsent, rfl, (Api.coSign_ok hsigned).2⟩
  · intro m k hk
    refine ⟨?_, ?_⟩
    · rw [unsignedTransaction_eq]
      refine parseTransaction_transaction (by simpa using hk) ?_ m
      intro s hs
      rw [List.eq_of_mem_replicate hs, List.length_replicate]
    · rintro slots rfl hslots
      rw [fillSlots_unsigned]
      exact parseTransaction_transaction hk hslots m

/-! ## A payment -/

namespace SolanaPaymentSample

open Api.AssemblySample (keeper owner source receiver exact exactSignature keypair verifies)

def solana : SolanaCrate :=
  { Api.wireSolana with
    verify := verifies
    get_associated_token_address := Api.AssemblySample.solana.get_associated_token_address }

theorem solana_documented : solana.Documented where
  spl_token := rfl
  pubkey := Api.wireSolana_documented.pubkey
  base64 := Api.wireSolana_documented.base64
  serializes := Api.wireSolana_documented.serializes
  deserializes := Api.wireSolana_documented.deserializes
  transferChecked := Api.wireSolana_documented.transferChecked

def state : AppState := { Api.AssemblySample.state exact exactSignature with solana := solana }

def worker : Worker :=
  { Api.AssemblySample.worker with solana := solana, partial_sign := coSign solana keypair }

def blockhash : BitVec 256 := 0x395bf727f9aac5e80911591073fcf9c826f428804131ca089beba3869421749a

def task (auth : SolanaAuth) : PaymentTask :=
  { Api.AssemblySample.task exact exactSignature with solana_auth := some auth }

end SolanaPaymentSample

open SolanaPaymentSample in
open Api.AssemblySample (owner receiver exact exactSignature keypair) in
/-- One dollar, from the owner's token account to the receiver's. -/
theorem sample_payment_accepted :
    solana.Documented ∧ (transferKeys state owner receiver).Nodup ∧
      buildTransferCheckedMessage (transferOf state owner receiver 1000000 6 blockhash)
        = some exact ∧
      (∃ auth, verifySolanaAuthorization state Api.AssemblySample.request (base64Encode exact)
          (base64Encode exactSignature) (keyText owner) = .ok auth ∧
        ∃ tx, .sendSolana tx ∈ (processSolana worker (task auth)).log) ∧
      parseTransaction (fillSlots [List.replicate 64 0, exactSignature]
        (unsignedTransaction exact 2)) = some ⟨[List.replicate 64 0, exactSignature], exact⟩ := by
  have hdistinct : (transferKeys state owner receiver).Nodup := by decide +kernel
  have hbuilt : buildTransferCheckedMessage (transferOf state owner receiver 1000000 6 blockhash)
      = some exact := by decide +kernel
  obtain ⟨⟨bytes, message, hbytes, -, -, haccepted⟩, hparses⟩ :=
    @solana_payment_accepted state keypair owner receiver 1000000 6 blockhash solana_documented rfl
      Api.AssemblySample.strict.own hdistinct
  obtain rfl := Option.some.inj (hbuilt.symm.trans hbytes)
  have hrequests : Requests Api.AssemblySample.request owner receiver 1000000 :=
    ⟨by decide +kernel, by decide +kernel, by decide +kernel⟩
  obtain ⟨auth, hauth, hsent⟩ := haccepted _ exactSignature hrequests (by decide +kernel)
    (by decide +kernel)
  obtain ⟨tx, htx, -, -⟩ := hsent worker (task auth) rfl rfl rfl
  refine ⟨solana_documented, hdistinct, hbuilt, ⟨auth, hauth, tx, htx⟩, ?_⟩
  have hlengths : ∀ s ∈ [List.replicate 64 0, exactSignature], s.length = 64 := by decide +kernel
  exact (hparses exact 2 (by decide)).2 _ rfl hlengths

end Beanie.Browser
