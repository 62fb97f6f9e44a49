/-
# `Beanie.Starknet.StealthSignature` — when the Cairo account answers a signature

`_is_valid_signature` of `stealth_account.cairo`, and the seven felts that
`relay_starknet` puts into a claim.  The client's signature is checked first;
then the five felts of the cosigner's are narrowed to `u128` and `u32` with
`unwrap`, so that a felt that does not fit makes the account panic where it
should have said no.

    rebuild_starknetTx      the worker's felts rebuild the cosignature
    signature_answered_iff  the account answers exactly where the client has
                            not signed or the felts fit
-/
import Beanie.Api.StarknetCosigner

namespace Beanie.Starknet

open Api (Address H256 StarknetPlan Secp256k1Cosig starknetTx STARKNET_V_OFFSET be32ToLowHigh)

/-- `starknet::secp256_trait::Signature`. -/
structure Signature where
  r : U256
  s : U256
  y_parity : Bool
deriving DecidableEq

/-- `signature_from_vrs`. -/
def signature_from_vrs (v : Nat) (r s : U256) : Signature := ⟨r, s, v % 2 = 0⟩

/-- What the account calls of Cairo's core library. -/
structure CoreLib where
  /-- Message, public key, `r`, `s`. -/
  check_ecdsa_signature : Felt → Felt → Felt → Felt → Bool
  /-- The Ethereum address of the public key that `recover_public_key` finds. -/
  recover_eth_address : U256 → Signature → Option Address

/-- The account's storage. -/
structure StealthAccount where
  client_pubkey : Felt
  cosigner_eth_address : Address

/-- `try_into().unwrap()` to `bits` bits. -/
def narrow (bits : Nat) (f : Felt) : Except Panic Nat :=
  if f.val < 2 ^ bits then .ok f.val else .error .unwrapNone

def u256OfLimbs (low high : Nat) : U256 := BitVec.ofNat 256 (high * 2 ^ 128 + low)

/-- A `felt252` as a `u256`. -/
def u256OfFelt (f : Felt) : U256 := BitVec.ofNat 256 f.val

namespace StealthAccount

/-- `_is_valid_signature`. -/
def isValidSignature (x : CoreLib) (a : StealthAccount) (hash : Felt) (signature : List Felt) :
    Except Panic Bool :=
  match signature with
  | [r1, s1, r2_low, r2_high, s2_low, s2_high, v2] =>
      if ¬ x.check_ecdsa_signature hash a.client_pubkey r1 s1 then .ok false
      else do
        let r2_low ← narrow 128 r2_low
        let r2_high ← narrow 128 r2_high
        let s2_low ← narrow 128 s2_low
        let s2_high ← narrow 128 s2_high
        let v2 ← narrow 32 v2
        let cosigner_sig := signature_from_vrs v2 (u256OfLimbs r2_low r2_high)
          (u256OfLimbs s2_low s2_high)
        match x.recover_eth_address (u256OfFelt hash) cosigner_sig with
        | some recovered_address => .ok (recovered_address = a.cosigner_eth_address)
        | none => .ok false
  | _ => .ok false

end StealthAccount

/-! ## What a signature says -/

/-- The client's two felts and the cosigner's signature. -/
structure SignaturePair where
  r1 : Felt
  s1 : Felt
  cosigner_sig : Signature
deriving DecidableEq

/-- The felts that are narrowed fit. -/
def LimbsFit (r2_low r2_high s2_low s2_high v2 : Felt) : Prop :=
  r2_low.val < 2 ^ 128 ∧ r2_high.val < 2 ^ 128 ∧ s2_low.val < 2 ^ 128 ∧ s2_high.val < 2 ^ 128 ∧
    v2.val < 2 ^ 32

instance (r2_low r2_high s2_low s2_high v2 : Felt) :
    Decidable (LimbsFit r2_low r2_high s2_low s2_high v2) := by
  unfold LimbsFit
  infer_instance

/-- The signature in seven felts. -/
def rebuild : List Felt → Option SignaturePair
  | [r1, s1, r2_low, r2_high, s2_low, s2_high, v2] =>
      if LimbsFit r2_low r2_high s2_low s2_high v2 then
        some ⟨r1, s1, signature_from_vrs v2.val (u256OfLimbs r2_low.val r2_high.val)
          (u256OfLimbs s2_low.val s2_high.val)⟩
      else none
  | _ => none

/-- Both have signed the hash. -/
def SignedByBoth (x : CoreLib) (a : StealthAccount) (hash : Felt) (signature : List Felt) : Prop :=
  ∃ p, rebuild signature = some p ∧
    x.check_ecdsa_signature hash a.client_pubkey p.r1 p.s1 = true ∧
    x.recover_eth_address (u256OfFelt hash) p.cosigner_sig = some a.cosigner_eth_address

/-- The account says of every signature whether both have signed. -/
def AnswersSignature (x : CoreLib) (a : StealthAccount) (hash : Felt) (signature : List Felt) :
    Prop :=
  (SignedByBoth x a hash signature → a.isValidSignature x hash signature = .ok true) ∧
  (¬ SignedByBoth x a hash signature → a.isValidSignature x hash signature = .ok false)

/-- Seven felts, of which the first two are not the client's signature or the others fit. -/
def ClientFailsOrFits (x : CoreLib) (a : StealthAccount) (hash : Felt) : List Felt → Prop
  | [r1, s1, r2_low, r2_high, s2_low, s2_high, v2] =>
      x.check_ecdsa_signature hash a.client_pubkey r1 s1 = false ∨
        LimbsFit r2_low r2_high s2_low s2_high v2
  | _ => True

/-! ## Narrowing -/

theorem narrow_ok {bits : Nat} {f : Felt} (h : f.val < 2 ^ bits) : narrow bits f = .ok f.val :=
  if_pos h

theorem narrow_error {bits : Nat} {f : Felt} (h : ¬ f.val < 2 ^ bits) :
    narrow bits f = .error .unwrapNone := if_neg h

section
variable {x : CoreLib} {a : StealthAccount} {hash : Felt}
  {r1 s1 r2_low r2_high s2_low s2_high v2 : Felt}

/-- Without the client's signature, the rest is not looked at. -/
theorem isValidSignature_of_client_fails
    (h : x.check_ecdsa_signature hash a.client_pubkey r1 s1 = false) :
    a.isValidSignature x hash [r1, s1, r2_low, r2_high, s2_low, s2_high, v2] = .ok false :=
  if_pos (by rw [h]; decide)

/-- With felts that fit, the recovered address decides. -/
theorem isValidSignature_of_fits
    (hclient : x.check_ecdsa_signature hash a.client_pubkey r1 s1 = true)
    (h : LimbsFit r2_low r2_high s2_low s2_high v2) :
    a.isValidSignature x hash [r1, s1, r2_low, r2_high, s2_low, s2_high, v2] =
      .ok (x.recover_eth_address (u256OfFelt hash) (signature_from_vrs v2.val
        (u256OfLimbs r2_low.val r2_high.val) (u256OfLimbs s2_low.val s2_high.val))
          = some a.cosigner_eth_address) := by
  obtain ⟨hrl, hrh, hsl, hsh, hv⟩ := h
  rw [StealthAccount.isValidSignature, if_neg (not_not.mpr hclient), narrow_ok hrl, ok_bind,
    narrow_ok hrh, ok_bind, narrow_ok hsl, ok_bind, narrow_ok hsh, ok_bind, narrow_ok hv, ok_bind]
  dsimp only
  cases x.recover_eth_address (u256OfFelt hash) (signature_from_vrs v2.val
      (u256OfLimbs r2_low.val r2_high.val) (u256OfLimbs s2_low.val s2_high.val)) with
  | none => simp
  | some recovered_address => simp

/-- A felt that does not fit makes the account panic. -/
theorem isValidSignature_panics
    (hclient : x.check_ecdsa_signature hash a.client_pubkey r1 s1 = true)
    (h : ¬ LimbsFit r2_low r2_high s2_low s2_high v2) :
    a.isValidSignature x hash [r1, s1, r2_low, r2_high, s2_low, s2_high, v2]
      = .error .unwrapNone := by
  rw [StealthAccount.isValidSignature, if_neg (not_not.mpr hclient)]
  by_cases hrl : r2_low.val < 2 ^ 128
  · rw [narrow_ok hrl, ok_bind]
    by_cases hrh : r2_high.val < 2 ^ 128
    · rw [narrow_ok hrh, ok_bind]
      by_cases hsl : s2_low.val < 2 ^ 128
      · rw [narrow_ok hsl, ok_bind]
        by_cases hsh : s2_high.val < 2 ^ 128
        · rw [narrow_ok hsh, ok_bind, narrow_error fun hv => h ⟨hrl, hrh, hsl, hsh, hv⟩]
          rfl
        · rw [narrow_error hsh]
          rfl
      · rw [narrow_error hsl]
        rfl
    · rw [narrow_error hrh]
      rfl
  · rw [narrow_error hrl]
    rfl

/-! ## Which signatures are answered -/

theorem rebuild_of_fits (h : LimbsFit r2_low r2_high s2_low s2_high v2) :
    rebuild [r1, s1, r2_low, r2_high, s2_low, s2_high, v2] =
      some ⟨r1, s1, signature_from_vrs v2.val (u256OfLimbs r2_low.val r2_high.val)
        (u256OfLimbs s2_low.val s2_high.val)⟩ := if_pos h

theorem rebuild_of_not_fits (h : ¬ LimbsFit r2_low r2_high s2_low s2_high v2) :
    rebuild [r1, s1, r2_low, r2_high, s2_low, s2_high, v2] = none := if_neg h

/-- The case of seven felts. -/
theorem answersSignature_seven :
    AnswersSignature x a hash [r1, s1, r2_low, r2_high, s2_low, s2_high, v2] ↔
      x.check_ecdsa_signature hash a.client_pubkey r1 s1 = false ∨
        LimbsFit r2_low r2_high s2_low s2_high v2 := by
  cases hclient : x.check_ecdsa_signature hash a.client_pubkey r1 s1 with
  | false =>
      have hfalse := @isValidSignature_of_client_fails x a hash r1 s1 r2_low r2_high s2_low s2_high
        v2 hclient
      refine ⟨fun _ => .inl rfl, fun _ => ⟨?_, fun _ => hfalse⟩⟩
      rintro ⟨p, hp, hsigned, -⟩
      have hr1 : p.r1 = r1 ∧ p.s1 = s1 := by
        by_cases hfits : LimbsFit r2_low r2_high s2_low s2_high v2
        · rw [rebuild_of_fits hfits] at hp
          cases hp
          exact ⟨rfl, rfl⟩
        · rw [rebuild_of_not_fits hfits] at hp
          cases hp
      rw [hr1.1, hr1.2, hclient] at hsigned
      cases hsigned
  | true =>
      by_cases hfits : LimbsFit r2_low r2_high s2_low s2_high v2
      · refine ⟨fun _ => .inr hfits, fun _ => ?_⟩
        rw [AnswersSignature, isValidSignature_of_fits hclient hfits, SignedByBoth,
          rebuild_of_fits hfits]
        constructor
        · rintro ⟨p, hp, -, hrecovered⟩
          cases hp
          rw [decide_eq_true hrecovered]
        · intro h
          rw [decide_eq_false fun hrecovered => h ⟨_, rfl, hclient, hrecovered⟩]
      · constructor
        · rintro ⟨-, hfalse⟩
          have hunsigned : ¬ SignedByBoth x a hash
              [r1, s1, r2_low, r2_high, s2_low, s2_high, v2] := by
            rintro ⟨p, hp, -⟩
            rw [rebuild_of_not_fits hfits] at hp
            cases hp
          have hanswer := hfalse hunsigned
          rw [isValidSignature_panics hclient hfits] at hanswer
          cases hanswer
        · rintro (h | h)
          · cases h
          · exact absurd h hfits

end

/-- Every other number of felts is answered with `false`. -/
theorem answersSignature_iff {x : CoreLib} {a : StealthAccount} {hash : Felt}
    (signature : List Felt) :
    AnswersSignature x a hash signature ↔ ClientFailsOrFits x a hash signature := by
  unfold ClientFailsOrFits
  split
  · exact answersSignature_seven
  · rename_i hseven
    refine ⟨fun _ => trivial, fun _ => ⟨?_, fun _ => ?_⟩⟩
    · rintro ⟨p, hp, -⟩
      unfold rebuild at hp
      split at hp
      · exact absurd rfl (hseven _ _ _ _ _ _ _)
      · cases hp
    · unfold StealthAccount.isValidSignature
      split
      · exact absurd rfl (hseven _ _ _ _ _ _ _)
      · rfl

/-! ## The worker's layout -/

theorem u256OfLimbs_be32ToLowHigh (b : H256) :
    u256OfLimbs (be32ToLowHigh b).1.toNat (be32ToLowHigh b).2.toNat = b := by
  apply BitVec.eq_of_toNat_eq
  have hlt : b.toNat < 2 ^ 256 := b.isLt
  have hlow : (be32ToLowHigh b).1.toNat = b.toNat % 2 ^ 128 := BitVec.toNat_setWidth ..
  have hhigh : (be32ToLowHigh b).2.toNat = b.toNat / 2 ^ 128 := by
    rw [be32ToLowHigh, BitVec.toNat_setWidth, BitVec.toNat_ushiftRight, Nat.shiftRight_eq_div_pow]
    exact Nat.mod_eq_of_lt (by omega)
  rw [u256OfLimbs, BitVec.toNat_ofNat, hlow, hhigh]
  omega

/-- A number below the prime is a felt. -/
theorem val_felt {n : Nat} (h : n < 2 ^ 128) : (Fin.ofNat P n).val = n := by
  have hP : 2 ^ 128 < P := by decide
  exact Nat.mod_eq_of_lt (by omega)

/-- The seven felts of a cosigned claim rebuild the client's two felts, `r`, `s` and the parity
that recovered. -/
theorem rebuild_starknetTx (plan : StarknetPlan) {co : Secp256k1Cosig}
    (h : co.recid = 0 ∨ co.recid = 1) :
    rebuild (starknetTx plan co).signature =
      some ⟨plan.r1, plan.s1, ⟨co.r, co.s, co.recid = 1⟩⟩ := by
  have hv : (STARKNET_V_OFFSET + co.recid).toNat < 2 ^ 32 := by
    rcases h with h | h <;> rw [h] <;> decide
  have hparity : decide ((STARKNET_V_OFFSET + co.recid).toNat % 2 = 0) = decide (co.recid = 1) := by
    rcases h with h | h <;> rw [h] <;> decide
  have hrl := val_felt (be32ToLowHigh co.r).1.isLt
  have hrh := val_felt (be32ToLowHigh co.r).2.isLt
  have hsl := val_felt (be32ToLowHigh co.s).1.isLt
  have hsh := val_felt (be32ToLowHigh co.s).2.isLt
  have hv2 := val_felt (Nat.lt_trans hv (by decide))
  have hfits : LimbsFit (Fin.ofNat P (be32ToLowHigh co.r).1.toNat)
      (Fin.ofNat P (be32ToLowHigh co.r).2.toNat) (Fin.ofNat P (be32ToLowHigh co.s).1.toNat)
      (Fin.ofNat P (be32ToLowHigh co.s).2.toNat)
      (Fin.ofNat P (STARKNET_V_OFFSET + co.recid).toNat) := by
    rw [LimbsFit, hrl, hrh, hsl, hsh, hv2]
    exact ⟨BitVec.isLt _, BitVec.isLt _, BitVec.isLt _, BitVec.isLt _, hv⟩
  have hrebuild := @rebuild_of_fits plan.r1 plan.s1 _ _ _ _ _ hfits
  rw [hrl, hrh, hsl, hsh, hv2, u256OfLimbs_be32ToLowHigh, u256OfLimbs_be32ToLowHigh,
    signature_from_vrs, hparity] at hrebuild
  exact hrebuild

/-- **Which signatures the Cairo account answers.**  The worker's felts rebuild every cosignature;
and of a list of felts the account says whether both have signed if and only if the list has not
seven elements, the client has not signed, or the five felts of the cosigner's signature fit. -/
theorem signature_answered_iff (x : CoreLib) (a : StealthAccount) :
    (∀ plan co, co.recid = 0 ∨ co.recid = 1 →
      rebuild (starknetTx plan co).signature =
        some ⟨plan.r1, plan.s1, ⟨co.r, co.s, co.recid = 1⟩⟩) ∧
    ∀ hash signature,
      AnswersSignature x a hash signature ↔ ClientFailsOrFits x a hash signature :=
  ⟨fun plan _ h => rebuild_starknetTx plan h, fun _ signature => answersSignature_iff signature⟩

namespace SignatureSample

open Api.StarknetSample (client hash signatures)

/-- The client's two signatures of its hash are valid; the recovery finds nobody. -/
def core : CoreLib where
  check_ecdsa_signature message public_key r s :=
    message = hash ∧ public_key = client ∧ (r, s) ∈ signatures
  recover_eth_address _ _ := none

def account : StealthAccount := ⟨client, 0x14791697260e4c9a71f18484c9f997b308e59325⟩

/-- The client's signature, and a limb of 129 bits. -/
def wide : List Felt :=
  [0x2202275e27873286b71dae62930bbf6420d2e933bbc7cb08e09019e7218ad9c,
   0x1e5397e7b0f50f83f516d49e6ae01e2c7c1b2cffc3c47b6e3e586c6068da21c,
   0x100000000000000000000000000000000, 0, 1, 0, 27]

end SignatureSample

open SignatureSample in
/-- A signed hash with a wide limb: the account panics. -/
theorem wide_limb_panics :
    ¬ AnswersSignature core account Api.StarknetSample.hash wide ∧
    account.isValidSignature core Api.StarknetSample.hash wide = .error .unwrapNone := by
  have hpanic : account.isValidSignature core Api.StarknetSample.hash wide = .error .unwrapNone := by
    decide +kernel
  refine ⟨fun hanswers => ?_, hpanic⟩
  have hunsigned : ¬ SignedByBoth core account Api.StarknetSample.hash wide := by
    rintro ⟨p, hp, -⟩
    have hnone : rebuild wide = none := by decide +kernel
    rw [hnone] at hp
    cases hp
  have hfalse := hanswers.2 hunsigned
  rw [hpanic] at hfalse
  cases hfalse

end Beanie.Starknet
