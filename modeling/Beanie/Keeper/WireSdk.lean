/-
# `Beanie.Keeper.WireSdk` — a Solana SDK to run

An executable `Sdk`: the wire form of a legacy transaction, the order in which
its keys are compiled, and a signature that names its key and the front of the
message.  What is written reads back (`wireSdk_roundTrip`).
-/
import Beanie.Keeper.SolanaIndexer

namespace Beanie.Keeper

open Beanie.Solana

/-! ## Short vectors -/

/-- A length in base 128, least significant digits first; the top bit announces another digit. -/
def shortLen (n : Nat) : Bytes :=
  if n < 128 then [UInt8.ofNat n]
  else if n < 16384 then [UInt8.ofNat (n % 128 + 128), UInt8.ofNat (n / 128)]
  else [UInt8.ofNat (n % 128 + 128), UInt8.ofNat (n / 128 % 128 + 128), UInt8.ofNat (n / 16384)]

def shortLen.read : Reader UInt8 Nat := do
  let a ← Reader.symbol
  if a.toNat < 128 then pure a.toNat
  else do
    let b ← Reader.symbol
    if b.toNat < 128 then pure (a.toNat % 128 + 128 * b.toNat)
    else do
      let c ← Reader.symbol
      Reader.guard (c.toNat < 4)
      pure (a.toNat % 128 + 128 * (b.toNat % 128) + 16384 * c.toNat)

theorem toNat_ofNat {n : Nat} (h : n < 256) : (UInt8.ofNat n).toNat = n := by
  rw [UInt8.toNat_ofNat', Nat.mod_eq_of_lt h]

theorem reads_shortLen {n : Nat} (h : n < 2 ^ 16) : Reads shortLen.read (shortLen n) n := by
  intro rest
  unfold shortLen
  split_ifs with h₁ h₂
  · have ha : (UInt8.ofNat n).toNat = n := toNat_ofNat (by omega)
    show (if _ then _ else _ : Reader UInt8 Nat) rest = _
    rw [ha, if_pos h₁]
    rfl
  · have ha : (UInt8.ofNat (n % 128 + 128)).toNat = n % 128 + 128 := toNat_ofNat (by omega)
    have hb : (UInt8.ofNat (n / 128)).toNat = n / 128 := toNat_ofNat (by omega)
    show (if _ then _ else _ : Reader UInt8 Nat) (UInt8.ofNat (n / 128) :: rest) = _
    rw [ha, if_neg (by omega)]
    show (if _ then _ else _ : Reader UInt8 Nat) rest = _
    rw [hb, if_pos (by omega)]
    show some (_, rest) = some (_, rest)
    rw [show (n % 128 + 128) % 128 + 128 * (n / 128) = n by omega]
  · have ha : (UInt8.ofNat (n % 128 + 128)).toNat = n % 128 + 128 := toNat_ofNat (by omega)
    have hb : (UInt8.ofNat (n / 128 % 128 + 128)).toNat = n / 128 % 128 + 128 :=
      toNat_ofNat (by omega)
    have hc : (UInt8.ofNat (n / 16384)).toNat = n / 16384 := toNat_ofNat (by omega)
    show (if _ then _ else _ : Reader UInt8 Nat) (_ :: _ :: rest) = _
    rw [ha, if_neg (by omega)]
    show (if _ then _ else _ : Reader UInt8 Nat) (_ :: rest) = _
    rw [hb, if_neg (by omega)]
    show (Reader.guard _ rest).bind _ = _
    rw [hc, Reader.guard, if_pos (by omega)]
    show some (_, rest) = some (_, rest)
    rw [show (n % 128 + 128) % 128 + 128 * ((n / 128 % 128 + 128) % 128) + 16384 * (n / 16384)
      = n by omega]

section
variable {α : Type}

def shortVec (enc : α → Bytes) (as : List α) : Bytes := shortLen as.length ++ as.flatMap enc

def shortVec.read (r : Reader UInt8 α) : Reader UInt8 (List α) := do
  let n ← shortLen.read
  Reader.many r n

theorem reads_shortVec {r : Reader UInt8 α} {enc : α → Bytes} {as : List α}
    (hlen : as.length < 2 ^ 16) (h : ∀ a ∈ as, Reads r (enc a) a) :
    Reads (shortVec.read r) (shortVec enc as) as :=
  (reads_shortLen hlen).bind (.many h)

end

/-! ## The wire form -/

/-- A position in the key list, in one byte. -/
def index (n : Nat) : Bytes := [UInt8.ofNat n]

def index.read : Reader UInt8 Nat := UInt8.toNat <$> Reader.symbol

theorem reads_index {n : Nat} (h : n < 256) : Reads index.read (index n) n := by
  have hread := (Reads.symbol (UInt8.ofNat n)).map UInt8.toNat
  rwa [toNat_ofNat h] at hread

def octet (b : UInt8) : Bytes := [b]

def CompiledInstruction.wire (c : CompiledInstruction) : Bytes :=
  index c.program_id_index ++ (shortVec index c.accounts ++ shortVec octet c.data)

def CompiledInstruction.read : Reader UInt8 CompiledInstruction := do
  let program_id_index ← index.read
  let accounts ← shortVec.read index.read
  let data ← shortVec.read Reader.symbol
  pure ⟨program_id_index, accounts, data⟩

structure CompiledInstruction.Fits (c : CompiledInstruction) : Prop where
  program : c.program_id_index < 256
  accounts : c.accounts.length < 2 ^ 16 ∧ ∀ i ∈ c.accounts, i < 256
  data : c.data.length < 2 ^ 16

instance (c : CompiledInstruction) : Decidable c.Fits :=
  decidable_of_iff (c.program_id_index < 256 ∧
      (c.accounts.length < 2 ^ 16 ∧ ∀ i ∈ c.accounts, i < 256) ∧ c.data.length < 2 ^ 16)
    ⟨fun h => ⟨h.1, h.2.1, h.2.2⟩, fun h => ⟨h.program, h.accounts, h.data⟩⟩

theorem CompiledInstruction.Fits.reads {c : CompiledInstruction} (h : c.Fits) :
    Reads CompiledInstruction.read c.wire c := by
  have hword := (reads_index h.program).bind
    (f := fun program_id_index => do
      let accounts ← shortVec.read index.read
      let data ← shortVec.read Reader.symbol
      pure (⟨program_id_index, accounts, data⟩ : CompiledInstruction))
    ((reads_shortVec h.accounts.1 (fun i hi => reads_index (h.accounts.2 i hi))).bind
      ((reads_shortVec h.data (fun b _ => .symbol b)).bind (.pure _)))
  rwa [List.append_nil] at hword

def Message.wire (m : Message) : Bytes :=
  index m.num_required_signatures ++ (index m.num_readonly_signed_accounts
    ++ (index m.num_readonly_unsigned_accounts ++ (shortVec bytesOf m.account_keys
      ++ (bytesOf m.recent_blockhash ++ shortVec CompiledInstruction.wire m.instructions))))

def Message.read : Reader UInt8 Message := do
  let num_required_signatures ← index.read
  let num_readonly_signed_accounts ← index.read
  let num_readonly_unsigned_accounts ← index.read
  let account_keys ← shortVec.read Borsh.array32
  let recent_blockhash ← Borsh.array32
  let instructions ← shortVec.read CompiledInstruction.read
  pure ⟨num_required_signatures, num_readonly_signed_accounts, num_readonly_unsigned_accounts,
    account_keys, recent_blockhash, instructions⟩

structure Message.Fits (m : Message) : Prop where
  signers : m.num_required_signatures < 256
  readonlySigned : m.num_readonly_signed_accounts < 256
  readonlyUnsigned : m.num_readonly_unsigned_accounts < 256
  keys : m.account_keys.length < 2 ^ 16
  instructions : m.instructions.length < 2 ^ 16 ∧ ∀ c ∈ m.instructions, c.Fits

theorem Message.Fits.reads {m : Message} (h : m.Fits) : Reads Message.read m.wire m := by
  have hword := (reads_index h.signers).bind
    (f := fun num_required_signatures => do
      let num_readonly_signed_accounts ← index.read
      let num_readonly_unsigned_accounts ← index.read
      let account_keys ← shortVec.read Borsh.array32
      let recent_blockhash ← Borsh.array32
      let instructions ← shortVec.read CompiledInstruction.read
      pure (⟨num_required_signatures, num_readonly_signed_accounts,
        num_readonly_unsigned_accounts, account_keys, recent_blockhash, instructions⟩ : Message))
    ((reads_index h.readonlySigned).bind ((reads_index h.readonlyUnsigned).bind
      ((reads_shortVec h.keys (fun k _ => Borsh.reads_array32 k)).bind
        ((Borsh.reads_array32 m.recent_blockhash).bind
          ((reads_shortVec h.instructions.1 (fun c hc => (h.instructions.2 c hc).reads)).bind
            (.pure _))))))
  rwa [List.append_nil] at hword

def Transaction.wire (tx : Transaction) : Bytes := shortVec id tx.signatures ++ tx.message.wire

def Transaction.read : Reader UInt8 Transaction := do
  let signatures ← shortVec.read (Reader.take 64)
  let message ← Message.read
  pure ⟨signatures, message⟩

structure Transaction.Fits (tx : Transaction) : Prop where
  signatures : tx.signatures.length < 2 ^ 16 ∧ ∀ s ∈ tx.signatures, s.length = 64
  message : tx.message.Fits

theorem Transaction.Fits.reads {tx : Transaction} (h : tx.Fits) :
    Reads Transaction.read tx.wire tx := by
  have hword := (@reads_shortVec _ _ id _ h.signatures.1
    (fun s hs => Reads.take (h.signatures.2 s hs))).bind
    (f := fun signatures => do
      let message ← Message.read
      pure (⟨signatures, message⟩ : Transaction))
    (h.message.reads.bind (.pure _))
  rwa [List.append_nil] at hword

/-! ## Compiling -/

/-- The rights of one key, over all the places it is listed. -/
def mergeMeta (metas : List AccountMeta) (key : Pubkey) : AccountMeta where
  key := key
  isSigner := metas.any fun m => m.key = key && m.isSigner
  isWritable := metas.any fun m => m.key = key && m.isWritable

/-- The keys of a transaction: the payer, then by rights (writable signers, signers, writable,
the rest), and by key within each. -/
def compileKeys (ixs : List Instruction) (payer : Pubkey) : List AccountMeta :=
  let metas := .new payer true :: ixs.flatMap fun ix => ix.accounts ++ [.newReadonly ix.programId false]
  let others := ((metas.map (·.key)).dedup.filter (· ≠ payer)).insertionSort (·.toNat ≤ ·.toNat)
  let merged := others.map (mergeMeta metas)
  mergeMeta metas payer :: (merged.filter (fun m => m.isSigner && m.isWritable)
    ++ merged.filter (fun m => m.isSigner && !m.isWritable)
    ++ merged.filter (fun m => !m.isSigner && m.isWritable)
    ++ merged.filter (fun m => !m.isSigner && !m.isWritable))

def compile (ixs : List Instruction) (payer : Pubkey) (blockhash : Bytes32) : Message :=
  let metas := compileKeys ixs payer
  let keys := metas.map (·.key)
  { num_required_signatures := metas.countP (·.isSigner)
    num_readonly_signed_accounts := metas.countP fun m => m.isSigner && !m.isWritable
    num_readonly_unsigned_accounts := metas.countP fun m => !m.isSigner && !m.isWritable
    account_keys := keys
    recent_blockhash := blockhash
    instructions := ixs.map fun ix =>
      ⟨keys.idxOf ix.programId, ix.accounts.map (fun m => keys.idxOf m.key), ix.data⟩ }

/-- A signature: the key, and the front of the message. -/
def wireSignature (key : Pubkey) (m : Message) : Bytes :=
  bytesOf key ++ bytesOf (BitVec.ofNat 256 (leNat (m.wire.take 32)))

def wireSdk : Sdk where
  serialize := Transaction.wire
  deserialize bs := (Transaction.read bs).map Prod.fst
  newSignedWithPayer ixs payer signing blockhash :=
    let message := compile ixs payer blockhash
    ⟨(message.account_keys.take message.num_required_signatures).map fun key =>
      if key ∈ signing then wireSignature key message else List.replicate 64 0, message⟩
  verify key m s := s = wireSignature key m

/-- What is written reads back. -/
theorem wireSdk_roundTrip {tx : Transaction} (h : tx.Fits) :
    wireSdk.deserialize (wireSdk.serialize tx) = some tx := by
  have hread := h.reads []
  rw [List.append_nil] at hread
  show (Transaction.read tx.wire).map Prod.fst = some tx
  rw [hread]
  rfl

/-- A transaction whose instructions were compiled to positions of its own keys, and which fits its
wire form, is one the SDK builds. -/
theorem wireSdk_builds {ixs : List Instruction} {payer : Pubkey} {signing : List Pubkey}
    {blockhash : Bytes32}
    (hfits : (wireSdk.newSignedWithPayer ixs payer signing blockhash).Fits)
    (hkeys : ∀ ix ∈ ixs, ix.programId ∈ (compileKeys ixs payer).map (·.key) ∧
      ∀ m ∈ ix.accounts, m.key ∈ (compileKeys ixs payer).map (·.key)) :
    wireSdk.Builds ixs (wireSdk.newSignedWithPayer ixs payer signing blockhash) where
  roundTrip := wireSdk_roundTrip hfits
  compiles := by
    show List.Forall₂ _ ixs (ixs.map _)
    rw [List.forall₂_map_right_iff, List.forall₂_same]
    intro ix hix
    obtain ⟨hprogram, haccounts⟩ := hkeys ix hix
    refine ⟨List.getElem?_idxOf hprogram, rfl, ?_⟩
    rw [List.forall₂_map_right_iff, List.forall₂_same]
    intro m hm
    exact List.getElem?_idxOf (haccounts m hm)

end Beanie.Keeper
