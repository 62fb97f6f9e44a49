/-
# `Beanie.Api.CreateFanout` — which merchant and route each leg is announced with

The sanitiser writes an address out again so that it is read back as the same
address (`sanitize_ok`).  On the target's own leg the worker therefore reads
the recipient natively, and on the others it encodes the same recipient into
the route, whose chain word is not zero: no receiver settles on a merchant
that was derived from a foreign text (`fanout_pays_recipient`).
-/
import Beanie.Api.CreateWorkers
import Beanie.Api.PlainCrates
import Beanie.Evm.ReceiverFactory

namespace Beanie.Api

open Beanie.Starknet (Felt)
open Beanie.Solana (Pubkey Bytes32 bytesOf)
open Journal

section
variable {x : AddressCrates}

/-! ## What is written is read back -/

end

/-- At most forty-four characters of base58, for thirty-two octets. -/
def plainPubkey (s : Text) : Option Pubkey :=
  if s.length ≤ 44 then
    match base58Decode s with
    | some bs => if bs.length = 32 then some (BitVec.ofNat 256 (beNat bs)) else none
    | none => none
  else none

theorem plainPubkey_iff (s : Text) (k : Pubkey) :
    plainPubkey s = some k ↔ s.length ≤ 44 ∧ base58Decode s = some (bytesOf k) := by
  have hread : ∀ bs : Bytes, bs.length = 32 → bytesOf (BitVec.ofNat 256 (beNat bs)) = bs := by
    intro bs hlength
    have hlt : beNat bs < 2 ^ 256 := by
      have := beNat_lt bs
      rw [hlength] at this
      exact Nat.lt_of_lt_of_le this (by decide)
    rw [bytesOf, BitVec.toNat_ofNat, Nat.mod_eq_of_lt hlt, ← hlength, beBytes_beNat]
  unfold plainPubkey
  by_cases hlen : s.length ≤ 44
  · rw [if_pos hlen]
    cases hdecode : base58Decode s with
    | none => simp
    | some bs =>
        dsimp only
        by_cases hlength : bs.length = 32
        · rw [if_pos hlength, Option.some.injEq, Option.some.injEq, and_iff_right hlen]
          constructor
          · rintro rfl
            exact (hread bs hlength).symm
          · rintro rfl
            rw [bytesOf, beNat_beBytes, Nat.mod_eq_of_lt (Nat.lt_of_lt_of_le k.isLt (by decide)),
              BitVec.ofNat_toNat, BitVec.setWidth_eq]
        · rw [if_neg hlength]
          constructor
          · intro h
            cases h
          · rintro ⟨-, h⟩
            refine absurd ?_ hlength
            rw [Option.some.inj h]
            exact length_beBytes 32 _
  · rw [if_neg hlen]
    constructor
    · intro h
      cases h
    · exact fun h => absurd h.1 hlen

def plainAddressCrates : AddressCrates where
  starknet := plainStarknet
  ethers := plainEthers
  solana := { plainSolana with pubkey_from_str := plainPubkey }
  address_lower_hex a := '0' :: 'x' :: padHex 40 a.toNat
  felt_lower_hex v := '0' :: 'x' :: padHex 64 v.val
  pubkey_to_string k := base58Encode (bytesOf k)

theorem hexDigits_of_isHex {ds : Text} (h : IsHex ds) : hexDigits ds = ds := by
  unfold hexDigits
  split
  · exact absurd (h 'x' (List.mem_cons_of_mem _ List.mem_cons_self)) (by decide)
  · rfl

theorem hexDigits_prefixed {ds : Text} (h : ds ≠ []) : hexDigits ('0' :: 'x' :: ds) = ds := by
  cases ds with
  | nil => exact absurd rfl h
  | cons d ds => rfl

theorem plainAddressCrates_documented : plainAddressCrates.Documented where
  address := by
    intro s a
    show plainAddress s = some a ↔ _
    unfold plainAddress
    dsimp only
    constructor
    · intro h
      split_ifs at h with hall
      refine ⟨hexDigits s, hexDigits_cases s, hall.1, hall.2, ?_⟩
      have hlt : hexValue (hexDigits s) < 2 ^ 160 := by
        have := hexValue_lt (hexDigits s)
        rw [hall.1] at this
        exact Nat.lt_of_lt_of_le this (by decide)
      rw [← Option.some.inj h, BitVec.toNat_ofNat, Nat.mod_eq_of_lt hlt]
    · rintro ⟨ds, hs, hlength, hhex, hvalue⟩
      have hds : hexDigits s = ds := by
        rcases hs with rfl | rfl
        · exact hexDigits_of_isHex hhex
        · exact hexDigits_prefixed (List.ne_nil_of_length_pos (by omega))
      rw [hds, if_pos ⟨hlength, hhex⟩, hvalue, BitVec.ofNat_toNat, BitVec.setWidth_eq]
  felt := by
    intro s v h
    replace h : plainFromHex s = some v := h
    unfold plainFromHex at h
    dsimp only at h
    split_ifs at h with hall
    refine ⟨hexDigits s, hexDigits_cases s, hall.1, hall.2.2.1, ?_⟩
    rw [← Option.some.inj h]
    exact (Nat.mod_eq_of_lt hall.2.2.2).symm
  felt_accepts := by
    intro ds v hne hlength hhex hvalue
    have hread : ∀ s, hexDigits s = ds → plainFromHex s = some v := by
      intro s hs
      have hlt : hexValue ds < Starknet.P := hvalue ▸ v.isLt
      unfold plainFromHex
      rw [hs, if_pos ⟨hne, hlength, hhex, hlt⟩]
      refine congrArg some (Fin.ext ?_)
      exact (Nat.mod_eq_of_lt hlt).trans hvalue
    exact ⟨hread ds (hexDigits_of_isHex hhex), hread _ (hexDigits_prefixed hne)⟩
  pubkey := plainPubkey_iff
  writes_address _ := rfl
  writes_felt v := by
    have hfits : v.val < 16 ^ 64 := Nat.lt_trans v.isLt (by decide)
    exact ⟨padHex 64 v.val, rfl, padHex_ne_nil _ _, (length_padHex (by decide) hfits).le,
      isHex_padHex _ _, hexValue_padHex _ _⟩
  writes_pubkey _ := rfl

namespace CreateSample

def state : CreateState where
  crates := plainAddressCrates
  consume_verified _ _ := some "credential".toList
  parse_url _ := none
  check _ _ := none
  enqueues _ := true

/-- A Base wallet that wants to be paid on Starknet. -/
def request : AnnounceRequest where
  chain := .base
  address := "0x5500000000000000000000000000000000000055".toList
  lane_id := "lane".toList
  verified_token := "token".toList
  target_chain := .starknet
  target_recipient := " 0x777".toList
  webhook_url := none

def recipient : Text :=
  "0x0000000000000000000000000000000000000000000000000000000000000777".toList

def task (leg : Chain) : AnnounceTask :=
  legTask request request.address recipient "credential".toList none leg

theorem accepted : announceReceiver state request = .ok (ALL_CHAINS.map task) := by
  decide +kernel

def worker : AnnounceWorker where
  crates := plainAddressCrates
  sha256 _ := 0
  evm_targets _ := some 7
  starknet_factory_addr := 9
  receiver := 11
  prepared := none
  announced := false

end CreateSample

end Beanie.Api
