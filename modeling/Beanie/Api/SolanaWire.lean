/-
# `Beanie.Api.SolanaWire` — legacy messages on the wire

What `bincode` makes of a legacy message: the header, the keys, the blockhash
and the instructions, every list behind its length.  A message whose lists have
lengths is read back (`SolanaMessage.Fits.reads`), and the crates are documented
to write and to read this form (`SolanaCrate.Documented`).
-/
import Beanie.Api.CreateFanout
import Beanie.Keeper.WireSdk
import Beanie.Lib.Base64

namespace Beanie.Api

open Beanie.Solana (Pubkey bytesOf)
open Beanie.Keeper (octet shortVec reads_shortVec)

/-! ## Instructions -/

def CompiledInstruction.wire (c : CompiledInstruction) : Bytes :=
  octet c.program_id_index ++ (shortVec octet c.accounts ++ shortVec octet c.data)

def CompiledInstruction.read : Reader UInt8 CompiledInstruction := do
  let program_id_index ← Reader.symbol
  let accounts ← shortVec.read Reader.symbol
  let data ← shortVec.read Reader.symbol
  pure ⟨program_id_index, accounts, data⟩

structure CompiledInstruction.Fits (c : CompiledInstruction) : Prop where
  accounts : c.accounts.length < 2 ^ 16
  data : c.data.length < 2 ^ 16

theorem CompiledInstruction.Fits.reads {c : CompiledInstruction} (h : c.Fits) :
    Reads CompiledInstruction.read c.wire c := by
  have hword := (Reads.symbol c.program_id_index).bind
    (f := fun program_id_index => do
      let accounts ← shortVec.read Reader.symbol
      let data ← shortVec.read Reader.symbol
      pure (⟨program_id_index, accounts, data⟩ : CompiledInstruction))
    ((reads_shortVec h.accounts (fun b _ => .symbol b)).bind
      ((reads_shortVec h.data (fun b _ => .symbol b)).bind (.pure _)))
  rwa [List.append_nil] at hword

/-! ## Messages -/

def MessageHeader.wire (h : MessageHeader) : Bytes :=
  [h.num_required_signatures, h.num_readonly_signed_accounts, h.num_readonly_unsigned_accounts]

def MessageHeader.read : Reader UInt8 MessageHeader := do
  let num_required_signatures ← Reader.symbol
  let num_readonly_signed_accounts ← Reader.symbol
  let num_readonly_unsigned_accounts ← Reader.symbol
  pure ⟨num_required_signatures, num_readonly_signed_accounts, num_readonly_unsigned_accounts⟩

theorem MessageHeader.reads (h : MessageHeader) : Reads MessageHeader.read h.wire h := fun _ => rfl

def SolanaMessage.wire (m : SolanaMessage) : Bytes :=
  m.header.wire ++ (shortVec bytesOf m.account_keys
    ++ (m.recent_blockhash ++ shortVec CompiledInstruction.wire m.instructions))

def SolanaMessage.read : Reader UInt8 SolanaMessage := do
  let header ← MessageHeader.read
  let account_keys ← shortVec.read Borsh.array32
  let recent_blockhash ← Reader.take 32
  let instructions ← shortVec.read CompiledInstruction.read
  pure ⟨header, account_keys, recent_blockhash, instructions⟩

structure SolanaMessage.Fits (m : SolanaMessage) : Prop where
  keys : m.account_keys.length < 2 ^ 16
  blockhash : m.recent_blockhash.length = 32
  instructions : m.instructions.length < 2 ^ 16 ∧ ∀ c ∈ m.instructions, c.Fits

theorem SolanaMessage.Fits.reads {m : SolanaMessage} (h : m.Fits) :
    Reads SolanaMessage.read m.wire m := by
  have hword := m.header.reads.bind
    (f := fun header => do
      let account_keys ← shortVec.read Borsh.array32
      let recent_blockhash ← Reader.take 32
      let instructions ← shortVec.read CompiledInstruction.read
      pure (⟨header, account_keys, recent_blockhash, instructions⟩ : SolanaMessage))
    ((reads_shortVec h.keys (fun k _ => Borsh.reads_array32 k)).bind
      ((Reads.take h.blockhash).bind
        ((reads_shortVec h.instructions.1 (fun c hc => (h.instructions.2 c hc).reads)).bind
          (.pure _))))
  rwa [List.append_nil] at hword

/-! ## Transfers -/

/-- `TokenInstruction::TransferChecked`, packed. -/
def transferCheckedData (amount : BitVec 64) (decimals : UInt8) : Bytes :=
  12 :: (leBytes 8 amount.toNat ++ [decimals])

/-- `TokenInstruction::unpack`, of a checked transfer: what stands behind it does not count. -/
def unpackTransferChecked : Bytes → Option TokenInstruction
  | 12 :: rest =>
      if 9 ≤ rest.length then
        some (.transferChecked (BitVec.ofNat 64 (leNat (rest.take 8))) (rest.getD 8 0))
      else none
  | _ => none

theorem unpack_transferChecked (amount : BitVec 64) (decimals : UInt8) :
    unpackTransferChecked (transferCheckedData amount decimals)
      = some (.transferChecked amount decimals) := by
  have hlength : (leBytes 8 amount.toNat).length = 8 := length_leBytes _ _
  have htake : (leBytes 8 amount.toNat ++ [decimals]).take 8 = leBytes 8 amount.toNat :=
    List.take_left' hlength
  have hlast : (leBytes 8 amount.toNat ++ [decimals]).getD 8 0 = decimals := by
    rw [List.getD_append_right _ _ _ _ (by rw [hlength]), hlength]
    rfl
  have hvalue : leNat (leBytes 8 amount.toNat) = amount.toNat := by
    rw [leNat_leBytes]
    exact Nat.mod_eq_of_lt amount.isLt
  rw [transferCheckedData, unpackTransferChecked, if_pos (by simp [hlength]), htake, hlast, hvalue,
    BitVec.ofNat_toNat, BitVec.setWidth_eq]

/-! ## The crates -/

/-- `spl_token::ID`. -/
def SPL_TOKEN_ID : Pubkey := 0x06ddf6e1d765a193d9cbe146ceeb79ac1cb485ed5f5b37913a8cf5857eff00a9

/-- The token program is the one there is; a public key is the base58 of thirty-two octets; base64
is the padded standard one; a legacy message is serialised in its wire form and deserialised from
it; and a packed checked transfer is unpacked. -/
structure SolanaCrate.Documented (sol : SolanaCrate) : Prop where
  spl_token : sol.spl_token_id = SPL_TOKEN_ID
  pubkey : ∀ s k, sol.pubkey_from_str s = some k ↔
    s.length ≤ 44 ∧ base58Decode s = some (bytesOf k)
  base64 : ∀ bs, sol.base64_decode (base64Encode bs) = some bs
  serializes : ∀ m : SolanaMessage, m.Fits → sol.message_serialize m = m.wire
  deserializes : ∀ m : SolanaMessage, m.Fits → sol.message_deserialize m.wire = some m
  transferChecked : ∀ amount decimals, sol.token_instruction_unpack
    (transferCheckedData amount decimals) = some (.transferChecked amount decimals)

/-- A public key, written. -/
def keyText (k : Pubkey) : Text := base58Encode (bytesOf k)

theorem base58Decode_keyText (k : Pubkey) : base58Decode (keyText k) = some (bytesOf k) :=
  base58Decode_encode _

theorem keyText_inj {k l : Pubkey} (h : keyText k = keyText l) : k = l := by
  have hbytes : some (bytesOf k) = some (bytesOf l) := by
    rw [← base58Decode_keyText, ← base58Decode_keyText, h]
  exact BitVec.eq_of_toNat_eq (beBytes_inj (k := 32) k.isLt l.isLt (Option.some.inj hbytes))

/-- Thirty-two octets are those of a key. -/
theorem exists_bytesOf {bs : Bytes} (h : bs.length = 32) : ∃ k : Pubkey, bytesOf k = bs := by
  refine ⟨BitVec.ofNat 256 (beNat bs), ?_⟩
  have hlt := beNat_lt bs
  rw [h] at hlt
  rw [bytesOf, BitVec.toNat_ofNat, Nat.mod_eq_of_lt (Nat.lt_of_lt_of_le hlt (by decide)), ← h,
    beBytes_beNat]

theorem SolanaCrate.Documented.reads_key {sol : SolanaCrate} (h : sol.Documented) (k : Pubkey) :
    sol.pubkey_from_str (keyText k) = some k :=
  (h.pubkey _ _).mpr ⟨length_base58Encode_le (by simp), base58Decode_keyText k⟩

/-- The wire form, read and written. -/
def wireSolana : SolanaCrate :=
  { plainSolana with
    pubkey_from_str := plainPubkey
    base64_decode := base64Decode
    message_deserialize := fun bs => (SolanaMessage.read bs).map Prod.fst
    message_serialize := SolanaMessage.wire
    token_instruction_unpack := unpackTransferChecked
    spl_token_id := SPL_TOKEN_ID }

theorem wireSolana_documented : wireSolana.Documented where
  spl_token := rfl
  pubkey := plainPubkey_iff
  base64 := base64Decode_encode
  serializes _ _ := rfl
  deserializes m h := by
    have hread := h.reads []
    rw [List.append_nil] at hread
    show (SolanaMessage.read m.wire).map Prod.fst = some m
    rw [hread]
    rfl
  transferChecked := unpack_transferChecked

end Beanie.Api
