/-
# `Beanie.Api.PlainCrates` — crates that behave as documented

Executable crates: field elements and addresses parse from hexadecimal with or
without a prefix, amounts from decimal, and the selectors of the names the API
uses are the Keccak hashes the real crate computes.  They meet `Documented`,
so its hypotheses can be met and the API can be run.  A sample that needs a
hash or a signature puts the values the real function has there.
-/
import Beanie.Api.StealthModels

namespace Beanie.Api

open Beanie.Starknet (Felt)

/-- The digits after an optional prefix. -/
def hexDigits : Text → Text
  | '0' :: 'x' :: d :: ds => d :: ds
  | ds => ds

theorem hexDigits_cases (s : Text) : s = hexDigits s ∨ s = '0' :: 'x' :: hexDigits s := by
  unfold hexDigits
  split
  · exact .inr rfl
  · exact .inl rfl

/-- Between one and sixty-four digits, and below the prime. -/
def plainFromHex (s : Text) : Option Felt :=
  let ds := hexDigits s
  if ds ≠ [] ∧ ds.length ≤ 64 ∧ IsHex ds ∧ hexValue ds < Starknet.P then
    some (Fin.ofNat Starknet.P (hexValue ds))
  else none

def selectorTable : List (Text × Nat) :=
  [("transfer".toList, 0x83afd3f4caedc6eebf44246fe54e38c95e3179a5ec9ea81740eca5b482d12e),
   ("sweep".toList, 0x265e923bc1fe6376bb4fc429ecb814739c4ce7af67fdb6d4e8f0a6e2fa14c30),
   ("register_merchant".toList, 0x35b0e2588d2ac0dcf8d3dc4544798a2d2ffe02a2e742254653c1832d536cbbc),
   ("execute_from_outside_v2".toList,
    0x34cc13b274446654ca3233ed2c1620d4c5d1d32fd20b47146a3371064bdc57d)]

/-- The table, and the name's own bytes for a name that is not in it. -/
def plainSelector (s : Text) : Option Felt :=
  if ∀ c ∈ s, c.toNat < 128 then
    some (Fin.ofNat Starknet.P ((selectorTable.lookup s).getD (beNat (asciiBytes s))))
  else none

def plainStarknet : StarknetCrate where
  from_hex := plainFromHex
  to_string v := Nat.toDigits 10 v.val
  get_selector_from_name := plainSelector

theorem plainStarknet_documented : plainStarknet.Documented where
  from_hex := by
    intro s v h
    simp only [plainStarknet, plainFromHex] at h
    split_ifs at h with hall
    obtain ⟨-, -, hhex, hlt⟩ := hall
    refine ⟨hexDigits s, hexDigits_cases s, hhex, ?_⟩
    rw [← Option.some.inj h]
    exact (Nat.mod_eq_of_lt hlt).symm
  to_string _ := rfl
  selector := by
    intro s h
    show (plainSelector s).isSome
    rw [plainSelector, if_pos h]
    rfl

/-- Forty digits after an optional prefix. -/
def plainAddress (s : Text) : Option Address :=
  let ds := hexDigits s
  if ds.length = 40 ∧ IsHex ds then some (BitVec.ofNat 160 (hexValue ds)) else none

/-- Gwei as wei: at most nine places. -/
def plainGwei (s : Text) : Option U256 :=
  let whole := s.takeWhile (· ≠ '.')
  let places := (s.dropWhile (· ≠ '.')).drop 1
  if whole ≠ [] ∧ whole.all Char.isDigit ∧ places.all Char.isDigit ∧ places.length ≤ 9 then
    some (BitVec.ofNat 256
      (Nat.ofDigitChars 10 (whole ++ places) 0 * 10 ^ (9 - places.length)))
  else none

def plainHexDecode : Text → Option Bytes
  | [] => some []
  | [_] => none
  | a :: b :: s => do
      let high ← hexDigit? a
      let low ← hexDigit? b
      let bs ← plainHexDecode s
      some (UInt8.ofNat (16 * high + low) :: bs)

def plainEthers : EthersCrate where
  address_from_str := plainAddress
  u256_from_dec_str s := (parseUnsigned 256 s).map (BitVec.ofNat 256)
  hex_decode := plainHexDecode
  signature_from_str _ := none
  recover _ _ := none
  keccak256 _ := 0
  parse_gwei := plainGwei

theorem plainEthers_documented : plainEthers.Documented where
  address := by
    intro ds hlen hhex
    match ds, hlen with
    | d :: ds, hlen =>
        simp only [plainEthers, plainAddress, hexDigits]
        rw [if_pos ⟨hlen, hhex⟩]
        rfl
  gwei := by
    intro whole places hne hlen hplaces hwhole hdigits
    have hdot : ∀ c ∈ whole, decide (c ≠ '.') = true := by
      intro c hc
      have hdigit := List.all_eq_true.mp hwhole c hc
      refine decide_eq_true fun heq => ?_
      rw [heq] at hdigit
      exact absurd hdigit (by decide)
    have htake : (whole ++ '.' :: places).takeWhile (· ≠ '.') = whole := by
      rw [List.takeWhile_append_of_pos hdot]
      simp
    have hdrop : (whole ++ '.' :: places).dropWhile (· ≠ '.') = '.' :: places := by
      rw [List.dropWhile_append_of_pos hdot]
      simp
    simp only [plainEthers, plainGwei, htake, hdrop, List.drop_one, List.tail_cons]
    rw [if_pos ⟨hne, hwhole, hdigits, hplaces⟩]
    rfl

/-- No Solana message is read here. -/
def plainSolana : SolanaCrate where
  pubkey_from_str _ := none
  base64_decode _ := none
  message_deserialize _ := none
  message_serialize _ := []
  token_instruction_unpack _ := none
  verify _ _ _ := false
  get_associated_token_address owner _ := owner
  spl_token_id := 101

def plainCrates : Crates where
  starknet := plainStarknet
  ethers := plainEthers
  solana := plainSolana
  to_lowercase s := s.map Char.toLower
  u256_from_hex s :=
    if s ≠ [] ∧ s.length ≤ 64 ∧ IsHex s then some (BitVec.ofNat 256 (hexValue s)) else none
  poseidon_hash_many _ := 0
  get_contract_address _ _ _ _ := 0
  ecdsa_verify _ _ _ _ := none
  sha256 _ := 0
  create_with_seed _ _ _ := none
  pubkey_to_string _ := []

end Beanie.Api
