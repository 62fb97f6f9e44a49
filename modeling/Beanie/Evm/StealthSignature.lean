/-
# `Beanie.Evm.StealthSignature` — when the account answers a signature

`StealthAccount.sol`: `isValidSignature` (ERC-1271) and `validateUserOp`
(ERC-4337).  Both go through `_isValid2Of2Signature`, which recovers the two
halves with OpenZeppelin's `ECDSA.recover`.  That function reverts where the
`ecrecover` precompile finds no signer or `s` is in the upper half; the account
then reverts as well and never reaches the value its callers wait for.

    answers_every_signature_iff   the account answers a signature as the two
                                  standards ask exactly when each half that it
                                  recovers has a signer
-/
import Beanie.Evm.StealthAccount
import Beanie.Lib.Keccak

namespace Beanie.Evm

def SIG_VALIDATION_SUCCESS : Nat := 0
def SIG_VALIDATION_FAILED : Nat := 1

/-- The field of the operation that the account reads. -/
structure PackedUserOperation where
  signature : Bytes

/-- What `validateUserOp` returns, and the wei it has sent to its caller. -/
structure Validation where
  validationData : Nat
  sent : Nat
deriving DecidableEq

namespace StealthAccount

/-- `validateUserOp`, called by `sender`.  `call to value` says whether a plain transfer of `value`
to `to` succeeds. -/
def validateUserOp (x : StealthLib) (call : Address → Nat → Bool) (a : StealthAccount)
    (sender : Address) (userOp : PackedUserOperation) (userOpHash : Bytes32)
    (missingAccountFunds : Nat) : Except Revert Validation := do
  require (sender = a.entryPoint) .unauthorized
  let hash := toEthSignedMessageHash x userOpHash
  let valid ← a.isValid2Of2Signature x hash userOp.signature
  if ¬ valid then .ok ⟨SIG_VALIDATION_FAILED, 0⟩
  else if 0 < missingAccountFunds then do
    require (call sender missingAccountFunds) (.reason "missing account funds transfer failed")
    .ok ⟨SIG_VALIDATION_SUCCESS, missingAccountFunds⟩
  else .ok ⟨SIG_VALIDATION_SUCCESS, 0⟩

end StealthAccount

/-! ## What OpenZeppelin documents -/

/-- The `ecrecover` precompile: hash, `v`, `r` and `s`; zero where there is no signer. -/
abbrev Ecrecover := Bytes32 → UInt8 → Nat → Nat → Address

/-- Half the order of secp256k1. -/
def secp256k1HalfN : Nat := 0x7FFFFFFFFFFFFFFFFFFFFFFFFFFFFFFF5D576E7357A4501DDFE92F46681B20A0

/-- Of the 65 bytes of a signature, `r`, `s` and `v`. -/
def sigR (sig : Bytes) : Nat := beNat (sig.take 32)
def sigS (sig : Bytes) : Nat := beNat ((sig.drop 32).take 32)
def sigV (sig : Bytes) : UInt8 := sig.getD 64 0

/-- The signer the precompile finds. -/
def signerOf (ecrecover : Ecrecover) (hash : Bytes32) (sig : Bytes) : Address :=
  ecrecover hash (sigV sig) (sigR sig) (sigS sig)

/-- Somebody's signature: 65 bytes, `s` in the lower half, and a signer. -/
def Recoverable (ecrecover : Ecrecover) (hash : Bytes32) (sig : Bytes) : Prop :=
  sig.length = 65 ∧ sigS sig ≤ secp256k1HalfN ∧ signerOf ecrecover hash sig ≠ 0

instance (ecrecover : Ecrecover) (hash : Bytes32) (sig : Bytes) :
    Decidable (Recoverable ecrecover hash sig) := by
  unfold Recoverable
  infer_instance

/-- A valid signature of `hash` by `signer`. -/
def SignedBy (ecrecover : Ecrecover) (hash : Bytes32) (sig : Bytes) (signer : Address) : Prop :=
  Recoverable ecrecover hash sig ∧ signerOf ecrecover hash sig = signer

instance (ecrecover : Ecrecover) (hash : Bytes32) (sig : Bytes) (signer : Address) :
    Decidable (SignedBy ecrecover hash sig signer) := by
  unfold SignedBy
  infer_instance

/-- `ECDSA.recover` returns the signer of a low-`s` signature of 65 bytes and reverts on
everything else. -/
def StealthLib.RecoverDocumented (x : StealthLib) (ecrecover : Ecrecover) : Prop :=
  ∀ hash sig, if Recoverable ecrecover hash sig
    then x.recover hash sig = .ok (signerOf ecrecover hash sig)
    else ∃ e, x.recover hash sig = .error e

/-! ## The two halves -/

def clientHalf (signature : Bytes) : Bytes := signature.take 65
def cosignerHalf (signature : Bytes) : Bytes := (signature.drop 65).take 65

/-- 130 bytes: the client's signature of the hash, then the cosigner's. -/
def ValidPair (ecrecover : Ecrecover) (a : StealthAccount) (hash : Bytes32) (signature : Bytes) :
    Prop :=
  signature.length = 130 ∧ SignedBy ecrecover hash (clientHalf signature) a.clientPubkey ∧
    SignedBy ecrecover hash (cosignerHalf signature) a.cosignerPubkey

/-- Of 130 bytes, the first half is somebody's signature, and where it is the client's the second
half is somebody's as well. -/
def HalvesRecoverable (ecrecover : Ecrecover) (a : StealthAccount) (hash : Bytes32)
    (signature : Bytes) : Prop :=
  signature.length = 130 → Recoverable ecrecover hash (clientHalf signature) ∧
    (signerOf ecrecover hash (clientHalf signature) = a.clientPubkey →
      Recoverable ecrecover hash (cosignerHalf signature))

section
variable {x : StealthLib} {ecrecover : Ecrecover}

theorem RecoverDocumented.ok (hx : x.RecoverDocumented ecrecover) {hash : Bytes32} {sig : Bytes}
    (h : Recoverable ecrecover hash sig) :
    x.recover hash sig = .ok (signerOf ecrecover hash sig) := by
  have hdoc := hx hash sig
  rwa [if_pos h] at hdoc

theorem RecoverDocumented.error (hx : x.RecoverDocumented ecrecover) {hash : Bytes32}
    {sig : Bytes} (h : ¬ Recoverable ecrecover hash sig) : ∃ e, x.recover hash sig = .error e := by
  have hdoc := hx hash sig
  rwa [if_neg h] at hdoc

/-- A signature of the wanted signer passes the account's comparison. -/
theorem Recoverable.accepted {hash : Bytes32} {sig : Bytes} {signer : Address}
    (h : Recoverable ecrecover hash sig) (hsigner : signerOf ecrecover hash sig = signer) :
    ¬ (signerOf ecrecover hash sig = 0 ∨ signerOf ecrecover hash sig ≠ signer) := by
  rintro (hzero | hne)
  · exact h.2.2 hzero
  · exact hne hsigner

variable {a : StealthAccount} {hash : Bytes32} {signature : Bytes}

theorem ValidPair.halvesRecoverable (h : ValidPair ecrecover a hash signature) :
    HalvesRecoverable ecrecover a hash signature := by
  obtain ⟨-, ⟨hclient, -⟩, ⟨hcosigner, -⟩⟩ := h
  exact fun _ => ⟨hclient, fun _ => hcosigner⟩

/-- Where the recoveries do not revert, the check decides the pair. -/
theorem isValid2Of2Signature_eq (hx : x.RecoverDocumented ecrecover)
    (h : HalvesRecoverable ecrecover a hash signature) :
    ∃ valid, a.isValid2Of2Signature x hash signature = .ok valid ∧
      (valid = true ↔ ValidPair ecrecover a hash signature) := by
  rw [StealthAccount.isValid2Of2Signature]
  by_cases hlen : signature.length = 130
  · obtain ⟨hclient, hcosigner⟩ := h hlen
    rw [if_neg (not_not.mpr hlen)]
    change ∃ valid, (x.recover hash (clientHalf signature) >>= _) = _ ∧ _
    rw [RecoverDocumented.ok hx hclient, ok_bind]
    by_cases hsigner : signerOf ecrecover hash (clientHalf signature) = a.clientPubkey
    · rw [if_neg (hclient.accepted hsigner)]
      change ∃ valid, (x.recover hash (cosignerHalf signature) >>= _) = _ ∧ _
      have hcosigner := hcosigner hsigner
      rw [RecoverDocumented.ok hx hcosigner, ok_bind]
      by_cases hsigner' : signerOf ecrecover hash (cosignerHalf signature) = a.cosignerPubkey
      · rw [if_neg (hcosigner.accepted hsigner')]
        exact ⟨true, rfl, fun _ => ⟨hlen, ⟨hclient, hsigner⟩, hcosigner, hsigner'⟩, fun _ => rfl⟩
      · rw [if_pos (.inr hsigner')]
        exact ⟨false, rfl, fun h => absurd h (by decide), fun hvalid => absurd hvalid.2.2.2 hsigner'⟩
    · rw [if_pos (.inr hsigner)]
      exact ⟨false, rfl, fun h => absurd h (by decide), fun hvalid => absurd hvalid.2.1.2 hsigner⟩
  · rw [if_pos hlen]
    exact ⟨false, rfl, fun h => absurd h (by decide), fun hvalid => absurd hvalid.1 hlen⟩

/-- Where one of the recoveries reverts, the check reverts. -/
theorem isValid2Of2Signature_reverts (hx : x.RecoverDocumented ecrecover)
    (h : ¬ HalvesRecoverable ecrecover a hash signature) :
    ∃ e, a.isValid2Of2Signature x hash signature = .error e := by
  simp only [HalvesRecoverable, Classical.not_imp, not_and] at h
  obtain ⟨hlen, h⟩ := h
  rw [StealthAccount.isValid2Of2Signature, if_neg (not_not.mpr hlen)]
  change ∃ e, (x.recover hash (clientHalf signature) >>= _) = _
  by_cases hclient : Recoverable ecrecover hash (clientHalf signature)
  · obtain ⟨hsigner, hcosigner⟩ := h hclient
    obtain ⟨e, he⟩ := RecoverDocumented.error hx hcosigner
    rw [RecoverDocumented.ok hx hclient, ok_bind,
      if_neg (hclient.accepted hsigner)]
    change ∃ e, (x.recover hash (cosignerHalf signature) >>= _) = _
    exact ⟨e, by rw [he]; rfl⟩
  · obtain ⟨e, he⟩ := RecoverDocumented.error hx hclient
    exact ⟨e, by rw [he]; rfl⟩

/-- The account answers a signature as ERC-1271 and ERC-4337 ask: the magic value for a valid pair;
for everything else the invalid value, and to the entry point the failure flag with nothing
sent. -/
def AnswersSignature (x : StealthLib) (ecrecover : Ecrecover) (a : StealthAccount) (hash : Bytes32)
    (signature : Bytes) : Prop :=
  (ValidPair ecrecover a (toEthSignedMessageHash x hash) signature →
    a.isValidSignature x hash signature = .ok ERC1271_MAGIC_VALUE) ∧
  (¬ ValidPair ecrecover a (toEthSignedMessageHash x hash) signature →
    a.isValidSignature x hash signature = .ok ERC1271_INVALID ∧
    ∀ call missingAccountFunds,
      a.validateUserOp x call a.entryPoint ⟨signature⟩ hash missingAccountFunds
        = .ok ⟨SIG_VALIDATION_FAILED, 0⟩)

theorem answersSignature_of_halvesRecoverable (hx : x.RecoverDocumented ecrecover)
    (h : HalvesRecoverable ecrecover a (toEthSignedMessageHash x hash) signature) :
    AnswersSignature x ecrecover a hash signature := by
  obtain ⟨valid, hcheck, hvalid⟩ := isValid2Of2Signature_eq hx h
  constructor
  · intro hpair
    rw [StealthAccount.isValidSignature, hcheck, hvalid.mpr hpair]
    rfl
  · intro hpair
    have hfalse : valid = false := Bool.eq_false_iff.mpr fun htrue => hpair (hvalid.mp htrue)
    refine ⟨?_, fun call missingAccountFunds => ?_⟩
    · rw [StealthAccount.isValidSignature, hcheck, hfalse]
      rfl
    · rw [StealthAccount.validateUserOp, require_bind_of rfl]
      dsimp only
      rw [hcheck, hfalse]
      rfl

/-- **The account answers what it can recover.**  Under the library's documentation, the account
answers a signature as the standards ask if and only if none of the halves it recovers makes the
recovery revert. -/
theorem answers_every_signature_iff (hx : x.RecoverDocumented ecrecover) (a : StealthAccount)
    (hash : Bytes32) (signature : Bytes) :
    AnswersSignature x ecrecover a hash signature ↔
      HalvesRecoverable ecrecover a (toEthSignedMessageHash x hash) signature := by
  constructor
  · intro hanswers
    by_contra h
    obtain ⟨e, he⟩ := isValid2Of2Signature_reverts hx h
    have hpair : ¬ ValidPair ecrecover a (toEthSignedMessageHash x hash) signature :=
      fun hpair => h hpair.halvesRecoverable
    have hinvalid := (hanswers.2 hpair).1
    rw [StealthAccount.isValidSignature, he] at hinvalid
    cases hinvalid
  · exact answersSignature_of_halvesRecoverable hx

end

/-! ## A signature and its reading -/

namespace SignatureSample

/-- The precompile on the two signatures below. -/
def ecrecover : Ecrecover := fun hash v r s =>
  if hash ≠ 0xc9798da569c6ded6bd4b17373ef332b7c84d68cdec3f420f583dcd7b441ae31d then 0
  else if v = 28 ∧ r = 0xbf661a15f8962aa89f5e432500a61e4725db6097fb94df1c01cc2f8d75a3bda1 ∧
      s = 0x56dbee9fc1e4f558636a7f0766c716872d82deee6dd9d5ee85771bdb78b64117 then
    0xe05fcc23807536bee418f142d19fa0d21bb0cff7
  else if v = 28 ∧ r = 0x56422a1a6cefd9f3614af672a6d2f9337e2600113d0b282c83dc77cf46eb3cd0 ∧
      s = 0x61bbc0d3ff645ef585d3d8291a158bb8c2db6adacdbf173c47e78fbcee19cf92 then
    0xc9cffbf775114d0bc572cbfa1137bebf027fe15f
  else 0

def lib : StealthLib where
  keccak256 bs := BitVec.ofNat 256 (beNat (Keccak.keccak256 bs))
  recover hash sig :=
    if Recoverable ecrecover hash sig then .ok (signerOf ecrecover hash sig) else .error .external
  creationCode := []

theorem lib_documented : lib.RecoverDocumented ecrecover := by
  intro hash sig
  by_cases h : Recoverable ecrecover hash sig
  · rw [if_pos h]
    exact if_pos h
  · rw [if_neg h]
    exact ⟨.external, if_neg h⟩

def account : StealthAccount where
  entryPoint := 0x0000000071727De22E5E9d8BAf0edAc6f37da032
  clientPubkey := 0xe05fcc23807536bee418f142d19fa0d21bb0cff7
  cosignerPubkey := 0xc9cffbf775114d0bc572cbfa1137bebf027fe15f

/-- Both signatures of the hash 1. -/
def pair : Bytes :=
  beBytes 32 0xbf661a15f8962aa89f5e432500a61e4725db6097fb94df1c01cc2f8d75a3bda1
    ++ beBytes 32 0x56dbee9fc1e4f558636a7f0766c716872d82deee6dd9d5ee85771bdb78b64117 ++ [28]
    ++ beBytes 32 0x56422a1a6cefd9f3614af672a6d2f9337e2600113d0b282c83dc77cf46eb3cd0
    ++ beBytes 32 0x61bbc0d3ff645ef585d3d8291a158bb8c2db6adacdbf173c47e78fbcee19cf92 ++ [28]

theorem digest : toEthSignedMessageHash lib 1 =
    0xc9798da569c6ded6bd4b17373ef332b7c84d68cdec3f420f583dcd7b441ae31d := by
  decide +kernel

end SignatureSample

open SignatureSample in
/-- The account answers its two signers' signatures. -/
theorem answers_every_signature_pair : AnswersSignature lib ecrecover account 1 pair := by
  refine (answers_every_signature_iff lib_documented account 1 pair).mpr ?_
  rw [digest]
  exact fun _ => ⟨by decide +kernel, fun _ => by decide +kernel⟩

open SignatureSample in
/-- 130 zero bytes: there is no signer, and the account reverts to both callers. -/
theorem zero_signature_reverts :
    ¬ AnswersSignature lib ecrecover account 1 (List.replicate 130 0) ∧
    account.isValidSignature lib 1 (List.replicate 130 0) = .error .external ∧
    account.validateUserOp lib (fun _ _ => true) account.entryPoint ⟨List.replicate 130 0⟩ 1 0
      = .error .external := by
  have hsigned : account.isValidSignature lib 1 (List.replicate 130 0) = .error .external := by
    rw [StealthAccount.isValidSignature, digest]
    decide +kernel
  have hvalidated : account.validateUserOp lib (fun _ _ => true) account.entryPoint
      ⟨List.replicate 130 0⟩ 1 0 = .error .external := by
    rw [StealthAccount.validateUserOp, digest]
    decide +kernel
  refine ⟨fun hanswers => ?_, hsigned, hvalidated⟩
  have hpair : ¬ ValidPair ecrecover account (toEthSignedMessageHash lib 1)
      (List.replicate 130 0) := by
    rintro ⟨-, ⟨⟨-, -, hsigner⟩, -⟩, -⟩
    rw [digest] at hsigner
    exact hsigner (by decide +kernel)
  have hinvalid := (hanswers.2 hpair).1
  rw [hsigned] at hinvalid
  cases hinvalid

end Beanie.Evm
