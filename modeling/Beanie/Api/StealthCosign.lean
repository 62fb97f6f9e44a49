/-
# `Beanie.Api.StealthCosign` — cosigning a 32-byte digest with secp256k1

The EVM and the Starknet chains share the cosigner.  A signature's `s` is
brought to the low half first, and the parity is then searched by recovery,
so what `cosignSecp256k1` returns recovers to the registered cosigner over
the very digest it was given (`cosignSecp256k1_ok`).
-/
import Beanie.Api.StealthModels

namespace Beanie.Api

/-- The order of secp256k1. -/
def secpN : Nat := 0xFFFFFFFFFFFFFFFFFFFFFFFFFFFFFFFEBAAEDCE6AF48A03BBFD25E8CD0364141

/-- `s` in the low half, and whether it was flipped. -/
def lowS (s : H256) : Except Trace (H256 × Bool) :=
  if secpN / 2 < s.toNat then
    -- the library's subtraction panics below zero
    if s.toNat ≤ secpN then .ok (BitVec.ofNat 256 (secpN - s.toNat), true)
    else .error ["arithmetic operation overflow"]
  else .ok (s, false)

theorem lowS_ok {s low : H256} {flipped : Bool} (h : lowS s = .ok (low, flipped)) :
    low.toNat ≤ secpN / 2 := by
  unfold lowS at h
  split_ifs at h with hhigh hle
  · obtain ⟨rfl, -⟩ := Prod.mk.inj (Except.ok.inj h)
    have hlt : secpN < 2 ^ 256 := by decide
    have hval : (BitVec.ofNat 256 (secpN - s.toNat)).toNat = secpN - s.toNat := by
      rw [BitVec.toNat_ofNat]
      exact Nat.mod_eq_of_lt (by omega)
    omega
  · obtain ⟨rfl, -⟩ := Prod.mk.inj (Except.ok.inj h)
    omega

/-- `r`, `s` and `v`, with `v` in Ethereum's convention. -/
def packSig65 (r s : H256) (v : UInt8) : Bytes :=
  beBytes 32 r.toNat ++ beBytes 32 s.toNat ++ [if v < 27 then v + 27 else v]

@[simp] theorem length_packSig65 (r s : H256) (v : UInt8) : (packSig65 r s v).length = 65 := by
  simp [packSig65]

structure Secp256k1Cosig where
  r : H256
  s : H256
  recid : UInt8
deriving DecidableEq

section
variable (cr : Crates)

def signSecp256k1With (wallet : LocalWallet) (expected : Address) (digest : H256) :
    Except Trace Secp256k1Cosig := do
  let sig ← okOr (wallet.sign_hash digest) ["cosigner signing failed"]
  let r := sig.r
  let (s, _) ← lowS sig.s
  let recovers (recid : UInt8) : Bool :=
    cr.ethers.recover ⟨r, s, 27 + BitVec.ofNat 64 recid.toNat⟩ digest = some expected
  let recid ← okOr ([0, 1].find? recovers)
    ["cosignature does not recover to the registered cosigner"]
  .ok ⟨r, s, recid⟩

def cosignSecp256k1 (rt : ChainRuntime) (digest : H256) : Except Trace Secp256k1Cosig :=
  match rt.cosigner with
  | .ed25519 _ => .error ["cosigner is not a secp256k1 address"]
  | .eth expected =>
      match rt.key with
      | .ed25519 _ => .error ["cosigner key is not secp256k1"]
      | .secp256k1 wallet => signSecp256k1With cr wallet expected digest

end

/-- What a cosignature is worth: low `s`, and a parity that recovers to the cosigner. -/
structure Cosigned (cr : Crates) (expected : Address) (digest : H256) (co : Secp256k1Cosig) :
    Prop where
  low : co.s.toNat ≤ secpN / 2
  recid : co.recid = 0 ∨ co.recid = 1
  recovers : cr.ethers.recover ⟨co.r, co.s, 27 + BitVec.ofNat 64 co.recid.toNat⟩ digest
    = some expected

section
variable {cr : Crates} {rt : ChainRuntime} {digest : H256} {co : Secp256k1Cosig}

theorem signSecp256k1With_ok {wallet : LocalWallet} {expected : Address}
    (h : signSecp256k1With cr wallet expected digest = .ok co) :
    Cosigned cr expected digest co := by
  obtain ⟨sig, -, h⟩ := bind_ok.mp h
  obtain ⟨⟨s, flipped⟩, hlow, h⟩ := bind_ok.mp h
  obtain ⟨recid, hfind, h⟩ := bind_ok.mp h
  obtain rfl := Except.ok.inj h
  have hfind := okOr_ok.mp hfind
  refine ⟨lowS_ok hlow, ?_, by simpa using List.find?_some hfind⟩
  simpa using List.mem_of_find?_eq_some hfind

theorem cosignSecp256k1_ok (h : cosignSecp256k1 cr rt digest = .ok co) :
    ∃ expected wallet, rt.cosigner = .eth expected ∧ rt.key = .secp256k1 wallet ∧
      (wallet.sign_hash digest).isSome ∧ Cosigned cr expected digest co := by
  unfold cosignSecp256k1 at h
  cases hid : rt.cosigner with
  | ed25519 _ =>
      rw [hid] at h
      exact nomatch h
  | eth expected =>
      rw [hid] at h
      cases hkey : rt.key with
      | ed25519 _ =>
          rw [hkey] at h
          exact nomatch h
      | secp256k1 wallet =>
          rw [hkey] at h
          obtain ⟨sig, hsign, -⟩ := bind_ok.mp h
          exact ⟨expected, wallet, rfl, rfl, by rw [okOr_ok.mp hsign]; rfl,
            signSecp256k1With_ok h⟩

end

end Beanie.Api
