/-
# `Beanie.Api.CosignerKeys` — the cosigners' keys

`derive_key_bytes` hashes a frame of the algorithm, the label and the secret
material, with a counter behind it, until a hash is a key.  The two lengths make
the frame readable, so the inputs stay apart whatever the counters they end on
(`derived_keys_separate`).
-/
import Beanie.Api.StealthModels
import Beanie.Lib.Hex
import Mathlib.Data.Set.Function

namespace Beanie.Api

inductive SigAlgo
  | ecdsaSecp256k1
  | ed25519
deriving DecidableEq

/-- `algo as u8` -/
def SigAlgo.byte : SigAlgo → UInt8
  | .ecdsaSecp256k1 => 0
  | .ed25519 => 1

def KEY_PURPOSE : Text := "beanie-cosigner-v1".toList

/-- `len() as u32`, then the bytes. -/
def frame (bs : Bytes) : Bytes := beBytes 4 bs.length ++ bs

/-- What goes into the hash. -/
def keyPreimage (algo : SigAlgo) (label : Text) (material : Bytes) (ctr : Nat) : Bytes :=
  utf8 KEY_PURPOSE ++ algo.byte :: (frame (utf8 label) ++ (frame material ++ [UInt8.ofNat ctr]))

section
variable (sha256 : Bytes → H256) (from_bytes : H256 → Bool)

/-- Is the hash taken?  `from_bytes` says whether `LocalWallet::from_bytes` is `Ok`. -/
def takes (algo : SigAlgo) (out : H256) : Bool :=
  match algo with
  | .ed25519 => true
  | .ecdsaSecp256k1 => from_bytes out

/-- So many counters, from this one on. -/
def deriveLoop (algo : SigAlgo) (label : Text) (material : Bytes) : Nat → Nat → Except String H256
  | 0, _ => .error "no valid key derived"
  | left + 1, ctr =>
      let out := sha256 (keyPreimage algo label material ctr)
      if takes from_bytes algo out then .ok out
      else deriveLoop algo label material left (ctr + 1)

def deriveKeyBytes (algo : SigAlgo) (label : Text) (material : Bytes) : Except String H256 :=
  deriveLoop sha256 from_bytes algo label material 256 0

/-- The hash at a counter. -/
def keyCandidate (algo : SigAlgo) (label : Text) (material : Bytes) (ctr : Nat) : H256 :=
  sha256 (keyPreimage algo label material ctr)

/-- What is hashed until a key is found. -/
def keyPreimages (algo : SigAlgo) (label : Text) (material : Bytes) : Set Bytes :=
  {bs | ∃ ctr, bs = keyPreimage algo label material ctr ∧
    ∀ c < ctr, takes from_bytes algo (keyCandidate sha256 algo label material c) = false}

end

/-! ## Frames -/

/-- A frame is read off what stands before the rest. -/
theorem frame_append_inj {bs cs rest rest' : Bytes} (hbs : bs.length < 2 ^ 32)
    (hcs : cs.length < 2 ^ 32) (h : frame bs ++ rest = frame cs ++ rest') :
    bs = cs ∧ rest = rest' := by
  simp only [frame, List.append_assoc] at h
  obtain ⟨hfront, h⟩ := List.append_inj h (by rw [length_beBytes, length_beBytes])
  have hlength : bs.length = cs.length := beBytes_inj (k := 4) hbs hcs hfront
  exact List.append_inj h hlength

theorem SigAlgo.byte_inj {algo algo' : SigAlgo} (h : algo.byte = algo'.byte) : algo = algo' := by
  cases algo <;> cases algo'
  · rfl
  · exact absurd h (by decide)
  · exact absurd h (by decide)
  · rfl

/-- A text is one text's bytes. -/
theorem keyPreimage_inj {algo algo' : SigAlgo} {label label' : Text} {material material' : Bytes}
    {ctr ctr' : Nat} (hlabel : (utf8 label).length < 2 ^ 32) (hlabel' : (utf8 label').length < 2 ^ 32)
    (hmaterial : material.length < 2 ^ 32) (hmaterial' : material'.length < 2 ^ 32)
    (h : keyPreimage algo label material ctr = keyPreimage algo' label' material' ctr') :
    algo = algo' ∧ utf8 label = utf8 label' ∧ material = material' := by
  obtain ⟨halgo, h⟩ := List.cons.inj (List.append_cancel_left h)
  obtain ⟨hlabels, h⟩ := frame_append_inj hlabel hlabel' h
  exact ⟨SigAlgo.byte_inj halgo, hlabels, (frame_append_inj hmaterial hmaterial' h).1⟩

/-! ## The loop -/

section
variable {sha256 : Bytes → H256} {from_bytes : H256 → Bool} {algo : SigAlgo} {label : Text}
  {material : Bytes}

theorem deriveLoop_succ (left ctr : Nat) :
    deriveLoop sha256 from_bytes algo label material (left + 1) ctr
      = if takes from_bytes algo (keyCandidate sha256 algo label material ctr) then
          .ok (keyCandidate sha256 algo label material ctr)
        else deriveLoop sha256 from_bytes algo label material left (ctr + 1) := rfl

theorem deriveLoop_ok {left ctr : Nat} {key : H256} :
    deriveLoop sha256 from_bytes algo label material left ctr = .ok key ↔
      ∃ c, ctr ≤ c ∧ c < ctr + left ∧ key = keyCandidate sha256 algo label material c ∧
        takes from_bytes algo key = true ∧
        ∀ c', ctr ≤ c' → c' < c → takes from_bytes algo (keyCandidate sha256 algo label material c') = false := by
  induction left generalizing ctr with
  | zero =>
      constructor
      · intro h
        cases h
      · rintro ⟨c, hge, hlt, -⟩
        omega
  | succ left ih =>
      rw [deriveLoop_succ]
      by_cases htakes : takes from_bytes algo (keyCandidate sha256 algo label material ctr) = true
      · rw [if_pos htakes]
        constructor
        · intro h
          obtain rfl := Except.ok.inj h
          exact ⟨ctr, Nat.le_refl _, by omega, rfl, htakes, fun c' hge hlt => by omega⟩
        · rintro ⟨c, hge, hlt, rfl, -, hnone⟩
          by_cases hc : c = ctr
          · rw [hc]
          · rw [hnone ctr (Nat.le_refl _) (by omega)] at htakes
            cases htakes
      · rw [if_neg htakes, ih]
        constructor
        · rintro ⟨c, hge, hlt, hkey, htaken, hnone⟩
          refine ⟨c, by omega, by omega, hkey, htaken, ?_⟩
          intro c' hge' hlt'
          by_cases hc : c' = ctr
          · rw [hc]
            exact Bool.eq_false_of_not_eq_true htakes
          · exact hnone c' (by omega) hlt'
        · rintro ⟨c, hge, hlt, rfl, htaken, hnone⟩
          have hne : c ≠ ctr := by
            rintro rfl
            exact htakes htaken
          exact ⟨c, by omega, by omega, rfl, htaken, fun c' hge' => hnone c' (by omega)⟩

/-- The key is the first hash in the counters' order that is taken. -/
theorem deriveKeyBytes_ok {key : H256} :
    deriveKeyBytes sha256 from_bytes algo label material = .ok key ↔
      ∃ c < 256, key = keyCandidate sha256 algo label material c ∧ takes from_bytes algo key = true ∧
        ∀ c' < c, takes from_bytes algo (keyCandidate sha256 algo label material c') = false := by
  rw [deriveKeyBytes, deriveLoop_ok]
  constructor
  · rintro ⟨c, -, hlt, hkey, htaken, hnone⟩
    exact ⟨c, by omega, hkey, htaken, fun c' hlt' => hnone c' (Nat.zero_le _) hlt'⟩
  · rintro ⟨c, hlt, hkey, htaken, hnone⟩
    exact ⟨c, Nat.zero_le _, by omega, hkey, htaken, fun c' _ hlt' => hnone c' hlt'⟩

end

/-- **The keys of different inputs differ.**  A derived key is the first candidate in counter order
that is taken.  Where SHA-256 does not collide on what is hashed, inputs of less than 2^32 bytes that
differ in the algorithm, the label or the material have different keys. -/
theorem derived_keys_separate (sha256 : Bytes → H256) (from_bytes : H256 → Bool) :
    (∀ algo label material key,
      deriveKeyBytes sha256 from_bytes algo label material = .ok key ↔
        ∃ c < 256, key = keyCandidate sha256 algo label material c ∧
          takes from_bytes algo key = true ∧
          ∀ c' < c, takes from_bytes algo (keyCandidate sha256 algo label material c') = false) ∧
    ∀ algo label material algo' label' material' key key',
      (utf8 label).length < 2 ^ 32 → (utf8 label').length < 2 ^ 32 →
      material.length < 2 ^ 32 → material'.length < 2 ^ 32 →
      Set.InjOn sha256 (keyPreimages sha256 from_bytes algo label material
        ∪ keyPreimages sha256 from_bytes algo' label' material') →
      deriveKeyBytes sha256 from_bytes algo label material = .ok key →
      deriveKeyBytes sha256 from_bytes algo' label' material' = .ok key' →
      (algo, label, material) ≠ (algo', label', material') → key ≠ key' := by
  refine ⟨fun algo label material key => deriveKeyBytes_ok, ?_⟩
  intro algo label material algo' label' material' key key' hlabel hlabel' hmaterial hmaterial'
    hinj hkey hkey' hdiffer hsame
  obtain ⟨c, -, rfl, -, hbefore⟩ := deriveKeyBytes_ok.mp hkey
  obtain ⟨c', -, rfl, -, hbefore'⟩ := deriveKeyBytes_ok.mp hkey'
  have hpreimage := hinj (.inl ⟨c, rfl, hbefore⟩) (.inr ⟨c', rfl, hbefore'⟩) hsame
  obtain ⟨halgo, hlabels, hmaterials⟩ :=
    keyPreimage_inj hlabel hlabel' hmaterial hmaterial' hpreimage
  exact hdiffer (by rw [halgo, utf8_inj hlabels, hmaterials])

/-! ## Two inputs with the same letters -/

namespace KeySample

/-- `LocalWallet::from_bytes`: the order of secp256k1 bounds a scalar. -/
def fromBytes (key : H256) : Bool :=
  0 < key.toNat ∧
    key.toNat < 0xfffffffffffffffffffffffffffffffebaaedce6af48a03bbfd25e8cd0364141

def ab : H256 := 0x5cff7a41b46890f72cd3ad71e3ee8017e3019697968ed4d6d5c8a00b1ab159a3
def a : H256 := 0x4db323074e5d4d58ba1c43542290d912fddf7cbc07650dfc2288d39c146b0bc0

/-- SHA-256 on the first preimage of each. -/
def sha256 (bs : Bytes) : H256 :=
  if bs = keyPreimage .ecdsaSecp256k1 ['a', 'b'] (utf8 ['c']) 0 then ab
  else if bs = keyPreimage .ecdsaSecp256k1 ['a'] (utf8 ['b', 'c']) 0 then a
  else 0

/-- Only the first counter is tried. -/
theorem hashed {label : Text} {material : Bytes} {bs : Bytes}
    (htaken : fromBytes (keyCandidate sha256 .ecdsaSecp256k1 label material 0) = true)
    (h : bs ∈ keyPreimages sha256 fromBytes .ecdsaSecp256k1 label material) :
    bs = keyPreimage .ecdsaSecp256k1 label material 0 := by
  obtain ⟨ctr, rfl, hnone⟩ := h
  cases ctr with
  | zero => rfl
  | succ ctr =>
      have hfirst : fromBytes _ = false := hnone 0 (Nat.succ_pos _)
      rw [htaken] at hfirst
      cases hfirst

end KeySample

open KeySample in
theorem derived_keys_separate_sample :
    deriveKeyBytes sha256 fromBytes .ecdsaSecp256k1 ['a', 'b'] (utf8 ['c']) = .ok ab ∧
      deriveKeyBytes sha256 fromBytes .ecdsaSecp256k1 ['a'] (utf8 ['b', 'c']) = .ok a ∧ ab ≠ a := by
  have hab : keyCandidate sha256 .ecdsaSecp256k1 ['a', 'b'] (utf8 ['c']) 0 = ab := by decide +kernel
  have ha : keyCandidate sha256 .ecdsaSecp256k1 ['a'] (utf8 ['b', 'c']) 0 = a := by decide +kernel
  obtain ⟨hfirst, hseparate⟩ := derived_keys_separate sha256 fromBytes
  have hkey := (hfirst .ecdsaSecp256k1 ['a', 'b'] (utf8 ['c']) ab).mpr
    ⟨0, by decide, hab.symm, by decide, fun c' h => absurd h (Nat.not_lt_zero c')⟩
  have hkey' := (hfirst .ecdsaSecp256k1 ['a'] (utf8 ['b', 'c']) a).mpr
    ⟨0, by decide, ha.symm, by decide, fun c' h => absurd h (Nat.not_lt_zero c')⟩
  refine ⟨hkey, hkey', hseparate _ _ _ _ _ _ _ _ (by decide) (by decide) (by decide) (by decide) ?_
    hkey hkey' (by decide)⟩
  have hpreimage : ∀ bs ∈ keyPreimages sha256 fromBytes .ecdsaSecp256k1 ['a', 'b'] (utf8 ['c'])
      ∪ keyPreimages sha256 fromBytes .ecdsaSecp256k1 ['a'] (utf8 ['b', 'c']),
      bs = keyPreimage .ecdsaSecp256k1 ['a', 'b'] (utf8 ['c']) 0 ∨
        bs = keyPreimage .ecdsaSecp256k1 ['a'] (utf8 ['b', 'c']) 0 := by
    intro bs hbs
    refine hbs.imp (hashed ?_) (hashed ?_)
    · rw [hab]
      decide
    · rw [ha]
      decide
  intro bs hbs bs' hbs' heq
  rcases hpreimage bs hbs with rfl | rfl
  · rcases hpreimage bs' hbs' with rfl | rfl
    · rfl
    · exact absurd (hab.symm.trans (heq.trans ha)) (by decide)
  · rcases hpreimage bs' hbs' with rfl | rfl
    · exact absurd (ha.symm.trans (heq.trans hab)) (by decide)
    · rfl

end Beanie.Api
