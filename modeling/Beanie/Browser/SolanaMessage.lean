/-
# `Beanie.Browser.SolanaMessage` — the messages and transactions the browser writes

The byte half of `solana.js`, and the message of `stealth.claim.js`: both write
one instruction behind its keys, and what they write is the wire form of a
legacy message (`oneInstruction_eq_wire`).  A transaction is as many slots of
64 octets as its length says, and then the message; `parseTransaction` takes it
apart again.

    parseTransaction_transaction    any slots, below 2 ^ 16 of them, and any message
-/
import Beanie.Api.SolanaWire
import Beanie.Browser.Identity

namespace Beanie.Browser

open Beanie.Solana (Pubkey bytesOf)
open Beanie.Keeper (octet shortLen shortVec)
open Beanie.Api (CompiledInstruction MessageHeader SolanaMessage keyText base58Decode_keyText)

/-! ## Octets -/

def TOKEN_PROGRAM : Text := "TokenkegQfeZyiNwAJbNbGKPFXCWuBvf9Ss623VQ5DA".toList

/-- It throws unless there are 32 octets. -/
def pubkeyBytes (address : Text) : Option Bytes := do
  let b ← base58Bytes address
  if b.length = 32 then some b else none

def shortvecLoop : Nat → Nat → Bytes
  | 0, _ => []
  | fuel + 1, n =>
      let b := n % 128
      let n := n / 128
      if n = 0 then [UInt8.ofNat b] else UInt8.ofNat (b + 128) :: shortvecLoop fuel n

/-- Seven bits an octet.  Five octets hold any number of 32 bits. -/
def shortvec (n : Nat) : Bytes := shortvecLoop 5 n

def u64le (value : Int) : Option Bytes :=
  if value < 0 ∨ 2 ^ 64 ≤ value then none else some (leBytes 8 value.toNat)

/-! ## Messages -/

/-- Header, keys, blockhash and one instruction. -/
def oneInstruction (header : Bytes) (keys : List Bytes) (hash : Bytes) (program : UInt8)
    (ixAccounts data : Bytes) : Bytes :=
  header ++ shortvec keys.length ++ keys.flatten ++ hash ++ shortvec 1 ++ [program]
    ++ shortvec ixAccounts.length ++ ixAccounts ++ shortvec data.length ++ data

/-- What `buildTransferCheckedMessage` is given. -/
structure TransferChecked where
  feePayer : Text
  owner : Text
  source : Text
  destination : Text
  mint : Text
  amount : Int
  decimals : UInt8
  blockhash : Text

def buildTransferCheckedMessage (t : TransferChecked) : Option Bytes := do
  let names := [t.feePayer, t.owner, t.source, t.destination, t.mint, TOKEN_PROGRAM]
  let keys ← names.mapM pubkeyBytes
  if names.dedup.length ≠ 6 then none
  else do
    let hash ← pubkeyBytes t.blockhash
    let amount ← u64le t.amount
    let data := 12 :: (amount ++ [t.decimals])
    some (oneInstruction [2, 1, 2] keys hash 5 [2, 4, 3, 1] data)

/-- What `buildSolanaMessage` is given. -/
structure ClaimTransfer where
  relayer : Text
  client : Text
  cosigner : Text
  source : Text
  destination : Text
  mint : Text
  amount : Int
  blockhash : Text
  authority : Text

def USDC_DECIMALS : UInt8 := 6

def buildSolanaMessage (t : ClaimTransfer) : Option Bytes := do
  let accountBytes := [t.relayer, t.client, t.cosigner, t.source, t.destination, t.mint,
    TOKEN_PROGRAM, t.authority]
  if accountBytes.dedup.length ≠ 8 then none
  else do
    let rawKeys ← accountBytes.mapM pubkeyBytes
    let amount ← u64le t.amount
    let ixData := 12 :: (amount ++ [USDC_DECIMALS])
    let hash ← pubkeyBytes t.blockhash
    some (oneInstruction [3, 2, 3] rawKeys hash 6 [3, 5, 4, 7, 1, 2] ixData)

/-! ## Transactions -/

/-- The slots behind their number, and the message. -/
def transaction (slots : List Bytes) (message : Bytes) : Bytes :=
  shortvec slots.length ++ slots.flatten ++ message

def unsignedTransaction (message : Bytes) (signers : Nat) : Bytes :=
  shortvec signers ++ List.replicate (64 * signers) 0 ++ message

/-- The slots of a transaction, written over. -/
def fillSlots (slots : List Bytes) (tx : Bytes) : Bytes :=
  let start := (shortvec slots.length).length
  tx.take start ++ slots.flatten ++ tx.drop (start + 64 * slots.length)

/-- `{ signatures, message }` -/
structure Parsed where
  signatures : List Bytes
  message : Bytes
deriving DecidableEq

/-- The first loop: the number, and the position behind it.  Bits are put together in 32, and a
shift counts modulo 32. -/
def readLength : Bytes → BitVec 32 → Nat → Nat → Option (BitVec 32 × Nat)
  | [], _, _, _ => none
  | b :: bytes, n, shift, i =>
      let n := n ||| BitVec.ofNat 32 (b.toNat % 128) <<< (shift % 32)
      if b.toNat < 128 then some (n, i + 1) else readLength bytes n (shift + 7) (i + 1)

/-- `bytes.slice(start, stop)`: a negative position counts from the end. -/
def slice (bytes : Bytes) (start stop : Int) : Bytes :=
  let place (k : Int) : Nat := ((if k < 0 then bytes.length + k else k).toNat).min bytes.length
  (bytes.take (place stop)).drop (place start)

/-- It throws on octets that end inside the number or before the last slot does. -/
def parseTransaction (bytes : Bytes) : Option Parsed := do
  let (n, i) ← readLength bytes 0 0 0
  let n := n.toInt
  if bytes.length < i + n * 64 then none
  else
    some
      { signatures := (List.range n.toNat).map fun (k : Nat) =>
          slice bytes ((i + k * 64 : Nat) : Int) ((i + (k + 1) * 64 : Nat) : Int)
        message := slice bytes (i + n * 64) bytes.length }

/-! ## Lengths -/

theorem shortvecLoop_succ (fuel n : Nat) :
    shortvecLoop (fuel + 1) n = if n / 128 = 0 then [UInt8.ofNat (n % 128)]
      else UInt8.ofNat (n % 128 + 128) :: shortvecLoop fuel (n / 128) := rfl

/-- On lengths that fit it is the crate's short vector. -/
theorem shortvec_eq_shortLen {n : Nat} (h : n < 2 ^ 16) : shortvec n = shortLen n := by
  rw [shortvec, shortLen]
  by_cases h₁ : n < 128
  · rw [if_pos h₁, shortvecLoop_succ, if_pos (by omega), Nat.mod_eq_of_lt h₁]
  · rw [if_neg h₁, shortvecLoop_succ, if_neg (by omega)]
    by_cases h₂ : n < 16384
    · rw [if_pos h₂, shortvecLoop_succ, if_pos (by omega),
        Nat.mod_eq_of_lt (show n / 128 < 128 by omega)]
    · rw [if_neg h₂, shortvecLoop_succ, if_neg (by omega), shortvecLoop_succ, if_pos (by omega),
        Nat.div_div_eq_div_mul, Nat.mod_eq_of_lt (show n / (128 * 128) < 128 by omega)]

/-- The bits read so far stand below the next seven. -/
theorem or_shift {acc b shift : Nat} (hacc : acc < 2 ^ shift) (hfits : acc + 2 ^ shift * b < 2 ^ 32) :
    BitVec.ofNat 32 acc ||| BitVec.ofNat 32 b <<< shift = BitVec.ofNat 32 (acc + 2 ^ shift * b) := by
  have hb : 2 ^ shift * b < 2 ^ 32 := by omega
  have hlow : b < 2 ^ 32 :=
    Nat.lt_of_le_of_lt (Nat.le_mul_of_pos_left b (Nat.two_pow_pos shift)) hb
  refine BitVec.eq_of_toNat_eq ?_
  rw [BitVec.toNat_or, BitVec.toNat_shiftLeft, BitVec.toNat_ofNat, BitVec.toNat_ofNat,
    BitVec.toNat_ofNat, Nat.mod_eq_of_lt hlow, Nat.shiftLeft_eq, Nat.mul_comm b,
    Nat.mod_eq_of_lt hb, Nat.mod_eq_of_lt hfits, Nat.mod_eq_of_lt (by omega), Nat.or_comm,
    ← Nat.two_pow_add_eq_or_of_lt hacc, Nat.add_comm]

/-- Induction on the octets: `acc` is what has been read of the number, `v` what is to come. -/
theorem readLength_shortvecLoop (fuel : Nat) :
    ∀ (v acc shift i : Nat) (rest : Bytes), v < 128 ^ (fuel + 1) → shift < 32 → acc < 2 ^ shift →
      acc + 2 ^ shift * v < 2 ^ 32 →
      readLength (shortvecLoop (fuel + 1) v ++ rest) (BitVec.ofNat 32 acc) shift i
        = some (BitVec.ofNat 32 (acc + 2 ^ shift * v), i + (shortvecLoop (fuel + 1) v).length) := by
  induction fuel with
  | zero =>
      intro v acc shift i rest hv hshift hacc hfits
      have hv : v < 128 := by omega
      have hb : (UInt8.ofNat (v % 128)).toNat = v := by
        rw [Keeper.toNat_ofNat (by omega), Nat.mod_eq_of_lt hv]
      rw [shortvecLoop_succ, if_pos (by omega), List.singleton_append, readLength, hb,
        if_pos hv, Nat.mod_eq_of_lt hv, Nat.mod_eq_of_lt hshift, or_shift hacc hfits]
      rfl
  | succ fuel ih =>
      intro v acc shift i rest hv hshift hacc hfits
      rw [shortvecLoop_succ]
      split_ifs with hlast
      · have hv : v < 128 := by omega
        have hb : (UInt8.ofNat (v % 128)).toNat = v := by
          rw [Keeper.toNat_ofNat (by omega), Nat.mod_eq_of_lt hv]
        rw [List.singleton_append, readLength, hb, if_pos hv, Nat.mod_eq_of_lt hv,
          Nat.mod_eq_of_lt hshift, or_shift hacc hfits]
        rfl
      · have hb : (UInt8.ofNat (v % 128 + 128)).toNat = v % 128 + 128 :=
          Keeper.toNat_ofNat (by omega)
        have hdigits : 2 ^ shift * v = 2 ^ shift * (v % 128) + 2 ^ (shift + 7) * (v / 128) := by
          conv_lhs => rw [← Nat.mod_add_div v 128]
          rw [Nat.mul_add, Nat.pow_add, Nat.mul_assoc]
        have hnext : shift + 7 < 32 := by
          by_contra hge
          have hpow : 2 ^ 32 ≤ 2 ^ (shift + 7) := Nat.pow_le_pow_right (by decide) (by omega)
          have hpos : 2 ^ (shift + 7) ≤ 2 ^ (shift + 7) * (v / 128) :=
            Nat.le_mul_of_pos_right _ (Nat.pos_of_ne_zero hlast)
          omega
        have hread : acc + 2 ^ shift * (v % 128) < 2 ^ (shift + 7) := by
          have hdigit : 2 ^ shift * (v % 128) ≤ 2 ^ shift * 127 :=
            Nat.mul_le_mul_left _ (by omega)
          rw [Nat.pow_add]
          omega
        have hrest := ih (v / 128) (acc + 2 ^ shift * (v % 128)) (shift + 7) (i + 1) rest
          (by rw [Nat.pow_succ] at hv; omega) hnext hread (by omega)
        rw [List.cons_append, readLength, hb, if_neg (by omega),
          show (v % 128 + 128) % 128 = v % 128 by omega, Nat.mod_eq_of_lt hshift,
          or_shift hacc (by omega), hrest, hdigits, List.length_cons, Nat.add_assoc acc,
          Nat.add_assoc i, Nat.add_comm 1]

theorem readLength_shortvec {n : Nat} (h : n < 2 ^ 16) (rest : Bytes) :
    readLength (shortvec n ++ rest) 0 0 0 = some (BitVec.ofNat 32 n, (shortvec n).length) := by
  have hread : readLength (shortvec n ++ rest) 0 0 0
      = some (BitVec.ofNat 32 (0 + 2 ^ 0 * n), 0 + (shortvec n).length) :=
    readLength_shortvecLoop 4 n 0 0 0 rest (by omega) (by decide) (by decide) (by omega)
  rwa [Nat.pow_zero, Nat.one_mul, Nat.zero_add, Nat.zero_add] at hread

/-! ## Slots -/

theorem length_flatten_slots {slots : List Bytes} (h : ∀ s ∈ slots, s.length = 64) :
    slots.flatten.length = slots.length * 64 := by
  rw [List.length_flatten, List.map_eq_replicate_iff.mpr h, List.sum_replicate, smul_eq_mul]

/-- The first slots together, and the others. -/
theorem take_flatten_slots {slots : List Bytes} (h : ∀ s ∈ slots, s.length = 64) (k : Nat)
    (hk : k ≤ slots.length) (message : Bytes) :
    (slots.flatten ++ message).take (k * 64) = (slots.take k).flatten ∧
      (slots.flatten ++ message).drop (k * 64) = (slots.drop k).flatten ++ message := by
  have hfront : (slots.take k).flatten.length = k * 64 := by
    rw [length_flatten_slots fun s hs => h s (List.mem_of_mem_take hs), List.length_take,
      Nat.min_eq_left hk]
  have hsplit : slots.flatten ++ message
      = (slots.take k).flatten ++ ((slots.drop k).flatten ++ message) := by
    rw [← List.append_assoc, ← List.flatten_append, List.take_append_drop]
  rw [hsplit, List.take_left' hfront, List.drop_left' hfront]
  exact ⟨rfl, rfl⟩

theorem slice_eq {bytes : Bytes} {start stop : Nat} (h : stop ≤ bytes.length)
    (hle : start ≤ stop) : slice bytes start stop = (bytes.take stop).drop start := by
  have hplace : ∀ k : Nat, k ≤ bytes.length →
      ((if (k : Int) < 0 then bytes.length + (k : Int) else k).toNat).min bytes.length = k := by
    intro k hk
    rw [if_neg (by omega), Int.toNat_natCast]
    exact Nat.min_eq_left hk
  simp only [slice]
  rw [hplace stop h, hplace start (Nat.le_trans hle h)]

/-- **Taking apart.**  Whatever stands in the slots, they and the message are found again. -/
theorem parseTransaction_transaction {slots : List Bytes} (hlen : slots.length < 2 ^ 16)
    (h : ∀ s ∈ slots, s.length = 64) (message : Bytes) :
    parseTransaction (transaction slots message) = some ⟨slots, message⟩ := by
  have hread := readLength_shortvec hlen (slots.flatten ++ message)
  rw [← List.append_assoc] at hread
  have hn : (BitVec.ofNat 32 slots.length).toInt = slots.length := by
    rw [BitVec.toInt_eq_toNat_of_lt] <;> rw [BitVec.toNat_ofNat, Nat.mod_eq_of_lt (by omega)]
    omega
  have hslots := length_flatten_slots h
  generalize hhead : shortvec slots.length = head at hread
  have hbytes : transaction slots message = head ++ (slots.flatten ++ message) := by
    rw [transaction, hhead, List.append_assoc]
  rw [List.append_assoc, ← hbytes] at hread
  have hlength : (transaction slots message).length
      = head.length + (slots.length * 64 + message.length) := by
    rw [hbytes, List.length_append, List.length_append, hslots]
  rw [parseTransaction, hread]
  show (if _ then none else some _) = _
  rw [hn, if_neg (by omega)]
  refine congrArg some ?_
  have hbehind : ∀ k : Nat, k ≤ slots.length →
      (transaction slots message).drop (head.length + k * 64)
        = (slots.drop k).flatten ++ message := by
    intro k hk
    rw [hbytes, List.drop_append, List.drop_of_length_le (by omega), List.nil_append,
      Nat.add_sub_cancel_left]
    exact (take_flatten_slots h k hk message).2
  refine Parsed.mk.injEq .. |>.mpr ⟨?_, ?_⟩
  · refine List.ext_getElem (by simp) ?_
    intro k hk hk'
    rw [List.getElem_map, List.getElem_range]
    rw [slice_eq (by omega) (by omega), List.drop_take, hbehind k (by omega), List.drop_eq_getElem_cons hk',
      List.flatten_cons, List.append_assoc]
    exact List.take_left' (by rw [h _ (List.getElem_mem hk')]; omega)
  · have hslice := @slice_eq (transaction slots message) (head.length + slots.length * 64)
      (transaction slots message).length (by omega) (by omega)
    push_cast at hslice
    rw [hslice, List.take_length, hbehind _ (Nat.le_refl _), List.drop_length]
    rfl

theorem unsignedTransaction_eq (message : Bytes) (signers : Nat) :
    unsignedTransaction message signers
      = transaction (List.replicate signers (List.replicate 64 0)) message := by
  rw [unsignedTransaction, transaction, List.length_replicate, List.flatten_replicate_replicate,
    Nat.mul_comm]

theorem fillSlots_unsigned {slots : List Bytes} (message : Bytes) :
    fillSlots slots (unsignedTransaction message slots.length) = transaction slots message := by
  have htake : (unsignedTransaction message slots.length).take (shortvec slots.length).length
      = shortvec slots.length := by
    rw [unsignedTransaction, List.append_assoc, List.take_left]
  have hdrop : (unsignedTransaction message slots.length).drop
      ((shortvec slots.length).length + 64 * slots.length) = message := by
    rw [unsignedTransaction, List.drop_left']
    rw [List.length_append, List.length_replicate]
  simp only [fillSlots]
  rw [htake, hdrop, transaction]

/-! ## The wire form -/

theorem flatMap_octet (bs : Bytes) : bs.flatMap octet = bs := by
  induction bs with
  | nil => rfl
  | cons b bs ih => exact congrArg (b :: ·) ih

/-- What is written is the message's wire form. -/
theorem oneInstruction_eq_wire (header : MessageHeader) {keys : List Pubkey} (hash : Bytes)
    (program : UInt8) {ixAccounts data : Bytes} (hkeys : keys.length < 2 ^ 16)
    (haccounts : ixAccounts.length < 2 ^ 16) (hdata : data.length < 2 ^ 16) :
    oneInstruction header.wire (keys.map bytesOf) hash program ixAccounts data
      = (⟨header, keys, hash, [⟨program, ixAccounts, data⟩]⟩ : SolanaMessage).wire := by
  rw [oneInstruction, List.length_map, shortvec_eq_shortLen hkeys, shortvec_eq_shortLen haccounts,
    shortvec_eq_shortLen hdata, shortvec_eq_shortLen (by decide)]
  have hix : [(⟨program, ixAccounts, data⟩ : CompiledInstruction)].flatMap CompiledInstruction.wire
      = [program] ++ (shortLen ixAccounts.length ++ ixAccounts
        ++ (shortLen data.length ++ data)) := by
    rw [List.flatMap_cons, List.flatMap_nil, List.append_nil, CompiledInstruction.wire, shortVec,
      shortVec, flatMap_octet, flatMap_octet]
    rfl
  rw [SolanaMessage.wire, shortVec, shortVec, hix, List.flatMap_def]
  simp only [List.append_assoc]
  rfl

/-- The texts of keys are read as their octets. -/
theorem pubkeyBytes_keyText (k : Pubkey) : pubkeyBytes (keyText k) = some (bytesOf k) := by
  have hdecode := base58Decode_keyText k
  have hne : keyText k ≠ [] := by
    intro hnil
    rw [hnil] at hdecode
    have hlength := congrArg List.length (Option.some.inj hdecode)
    rw [Solana.length_bytesOf] at hlength
    cases hlength
  rw [pubkeyBytes, base58Bytes, if_neg hne, hdecode]
  show (if (bytesOf k).length = 32 then some (bytesOf k) else none) = some (bytesOf k)
  rw [if_pos (Solana.length_bytesOf k)]

/-- And every text that is read is that of a key. -/
theorem exists_keyText {address : Text} {bs : Bytes} (h : pubkeyBytes address = some bs) :
    ∃ k : Pubkey, address = keyText k ∧ bs = bytesOf k := by
  obtain ⟨b, hb, h⟩ := Option.bind_eq_some_iff.mp h
  split at h
  case isFalse => cases h
  case isTrue hlength =>
    obtain rfl := Option.some.inj h
    obtain ⟨k, rfl⟩ := Api.exists_bytesOf hlength
    refine ⟨k, ?_, rfl⟩
    rw [base58Bytes] at hb
    split at hb
    · cases hb
    · exact (base58Encode_decode hb).symm

theorem keyText_SPL_TOKEN_ID : keyText Api.SPL_TOKEN_ID = TOKEN_PROGRAM := by decide +kernel

theorem mapM_pubkeyBytes (keys : List Pubkey) :
    (keys.map keyText).mapM pubkeyBytes = some (keys.map bytesOf) := by
  induction keys with
  | nil => rfl
  | cons k keys ih =>
      rw [List.map_cons, List.mapM_cons, pubkeyBytes_keyText, ih]
      rfl

theorem length_dedup_keyText {keys : List Pubkey} (h : keys.Nodup) :
    (keys.map keyText).dedup.length = keys.length := by
  rw [(List.nodup_map_iff fun _ _ => Api.keyText_inj).mpr h |>.dedup, List.length_map]

theorem u64le_ofBitVec (amount : BitVec 64) : u64le amount.toNat = some (leBytes 8 amount.toNat) := by
  have hlt := amount.isLt
  rw [u64le, if_neg (by omega), Int.toNat_natCast]

end Beanie.Browser
