/-
# `Beanie.Api.TransferDigest` — what an EIP-3009 digest binds

The digest is computed twice, for payments with 64-bit times and for stealth
claims with 256-bit ones, over a domain separator that is a hash of hashes
itself.  Every preimage is a row of words or a text, so no two of them spell the
same bytes; where the hash tells the preimages in question apart, the digest
tells the domains and the authorisations apart (`digest_binds_fields`).
-/
import Beanie.Api.EvmCosigner
import Beanie.Lib.Hex

namespace Beanie.Api

/-! ## The domain -/

/-- A token's name, version, chain and address. -/
structure TokenDomain where
  name : Text
  version : Text
  chain_id : BitVec 64
  verifying_contract : Address
deriving DecidableEq

def EIP712_DOMAIN : Text :=
  ("EIP712Domain(string name,string version,uint256 chainId," ++
    "address verifyingContract)").toList

section
variable (cr : Crates)

/-- `eip712_domain_separator` -/
def eip712DomainSeparator (name version : Text) (chain_id : BitVec 64)
    (verifying_contract : Address) : H256 :=
  let keccak256 := cr.ethers.keccak256
  keccak256 (abiWords [(keccak256 (asciiBytes EIP712_DOMAIN)).toNat, (keccak256 (utf8 name)).toNat,
    (keccak256 (utf8 version)).toNat, chain_id.toNat, verifying_contract.toNat])

def TokenDomain.separator (d : TokenDomain) : H256 :=
  eip712DomainSeparator cr d.name d.version d.chain_id d.verifying_contract

/-! ## Preimages -/

/-- The words of the separator. -/
def TokenDomain.encoded (d : TokenDomain) : Bytes :=
  abiWords [(cr.ethers.keccak256 (asciiBytes EIP712_DOMAIN)).toNat,
    (cr.ethers.keccak256 (utf8 d.name)).toNat, (cr.ethers.keccak256 (utf8 d.version)).toNat,
    d.chain_id.toNat, d.verifying_contract.toNat]

/-- The words of the struct hash. -/
def TransferAuth.encoded (a : TransferAuth) : Bytes :=
  abiWords [(cr.ethers.keccak256 (asciiBytes TRANSFER_WITH_AUTHORIZATION)).toNat, a.sender.toNat,
    a.recipient.toNat, a.value.toNat, a.valid_after.toNat, a.valid_before.toNat, a.nonce.toNat]

/-- The digest's own preimage. -/
def TransferAuth.message (domain_separator : H256) (a : TransferAuth) : Bytes :=
  [0x19, 0x01] ++ beBytes 32 domain_separator.toNat
    ++ beBytes 32 (cr.ethers.keccak256 (a.encoded cr)).toNat

def TransferAuth.preimages (domain_separator : H256) (a : TransferAuth) : Set Bytes :=
  {a.encoded cr, a.message cr domain_separator}

def TokenDomain.preimages (d : TokenDomain) : Set Bytes :=
  {utf8 d.name, utf8 d.version, d.encoded cr}

end

section
variable {cr : Crates}

/-- A row of words is read off again. -/
theorem abiWords_inj {ws vs : List Nat} (hws : ∀ w ∈ ws, w < 256 ^ 32) (hvs : ∀ v ∈ vs, v < 256 ^ 32)
    (h : abiWords ws = abiWords vs) : ws = vs := by
  induction ws generalizing vs with
  | nil =>
      cases vs with
      | nil => rfl
      | cons v vs =>
          have hlength := congrArg List.length h
          simp [abiWords] at hlength
          omega
  | cons w ws ih =>
      cases vs with
      | nil =>
          have hlength := congrArg List.length h
          simp [abiWords] at hlength
      | cons v vs =>
          obtain ⟨hw, hws⟩ := List.forall_mem_cons.mp hws
          obtain ⟨hv, hvs⟩ := List.forall_mem_cons.mp hvs
          obtain ⟨hword, hrest⟩ := List.append_inj (show beBytes 32 w ++ abiWords ws
            = beBytes 32 v ++ abiWords vs from h) (by rw [length_beBytes, length_beBytes])
          rw [beBytes_inj hw hv hword, ih hws hvs hrest]

/-- A value of at most 256 bits is a word. -/
theorem toNat_lt_word {n : Nat} (hn : n ≤ 256) (v : BitVec n) : v.toNat < 256 ^ 32 := by
  calc v.toNat < 2 ^ n := v.isLt
    _ ≤ 2 ^ 256 := Nat.pow_le_pow_right (by decide) hn
    _ = 256 ^ 32 := by decide

theorem TransferAuth.encoded_inj {a a' : TransferAuth} (h : a.encoded cr = a'.encoded cr) :
    a = a' := by
  have hword : ∀ (b : TransferAuth), ∀ w ∈ [(cr.ethers.keccak256
      (asciiBytes TRANSFER_WITH_AUTHORIZATION)).toNat, b.sender.toNat, b.recipient.toNat,
      b.value.toNat, b.valid_after.toNat, b.valid_before.toNat, b.nonce.toNat], w < 256 ^ 32 := by
    intro b w hw
    simp only [List.mem_cons, List.not_mem_nil, or_false] at hw
    rcases hw with rfl | rfl | rfl | rfl | rfl | rfl | rfl
    all_goals exact toNat_lt_word (by decide) _
  have hwords := abiWords_inj (hword a) (hword a') h
  simp only [List.cons.injEq, BitVec.toNat_inj] at hwords
  obtain ⟨-, hsender, hrecipient, hvalue, hafter, hbefore, hnonce, -⟩ := hwords
  obtain ⟨sender, recipient, value, valid_after, valid_before, nonce⟩ := a
  subst hsender hrecipient hvalue hafter hbefore hnonce
  rfl

theorem TransferAuth.message_inj {ds ds' : H256} {a a' : TransferAuth}
    (h : a.message cr ds = a'.message cr ds') :
    ds = ds' ∧ cr.ethers.keccak256 (a.encoded cr) = cr.ethers.keccak256 (a'.encoded cr) := by
  unfold TransferAuth.message at h
  obtain ⟨hfront, hstruct⟩ := List.append_inj h (by simp)
  exact ⟨beBytes_toNat_inj rfl (List.append_cancel_left hfront), beBytes_toNat_inj rfl hstruct⟩

/-- The words of a domain, as far as its texts' hashes tell. -/
theorem TokenDomain.encoded_inj {d d' : TokenDomain} (h : d.encoded cr = d'.encoded cr) :
    cr.ethers.keccak256 (utf8 d.name) = cr.ethers.keccak256 (utf8 d'.name) ∧
      cr.ethers.keccak256 (utf8 d.version) = cr.ethers.keccak256 (utf8 d'.version) ∧
      d.chain_id = d'.chain_id ∧ d.verifying_contract = d'.verifying_contract := by
  have hword : ∀ (e : TokenDomain), ∀ w ∈ [(cr.ethers.keccak256 (asciiBytes EIP712_DOMAIN)).toNat,
      (cr.ethers.keccak256 (utf8 e.name)).toNat, (cr.ethers.keccak256 (utf8 e.version)).toNat,
      e.chain_id.toNat, e.verifying_contract.toNat], w < 256 ^ 32 := by
    intro e w hw
    simp only [List.mem_cons, List.not_mem_nil, or_false] at hw
    rcases hw with rfl | rfl | rfl | rfl | rfl
    all_goals exact toNat_lt_word (by decide) _
  have hwords := abiWords_inj (hword d) (hword d') h
  simp only [List.cons.injEq, BitVec.toNat_inj] at hwords
  exact ⟨hwords.2.1, hwords.2.2.1, hwords.2.2.2.1, hwords.2.2.2.2.1⟩

/-- A digest is one separator's and one authorisation's. -/
theorem TransferAuth.digest_inj {ds ds' : H256} {a a' : TransferAuth}
    (hinj : Set.InjOn cr.ethers.keccak256 (a.preimages cr ds ∪ a'.preimages cr ds'))
    (h : a.digest cr ds = a'.digest cr ds') : ds = ds' ∧ a = a' := by
  have hmessage := hinj (.inl (.inr rfl)) (.inr (.inr rfl)) h
  obtain ⟨hds, hstruct⟩ := message_inj hmessage
  exact ⟨hds, encoded_inj (hinj (.inl (.inl rfl)) (.inr (.inl rfl)) hstruct)⟩

/-- A separator is one domain's. -/
theorem TokenDomain.separator_inj {d d' : TokenDomain}
    (hinj : Set.InjOn cr.ethers.keccak256 (d.preimages cr ∪ d'.preimages cr))
    (h : d.separator cr = d'.separator cr) : d = d' := by
  have hencoded := hinj (.inl (.inr (.inr rfl))) (.inr (.inr (.inr rfl))) h
  obtain ⟨hname, hversion, hchain, hcontract⟩ := encoded_inj hencoded
  have hname := utf8_inj (hinj (.inl (.inl rfl)) (.inr (.inl rfl)) hname)
  have hversion := utf8_inj (hinj (.inl (.inr (.inl rfl))) (.inr (.inr (.inl rfl))) hversion)
  obtain ⟨name, version, chain_id, verifying_contract⟩ := d
  subst hname hversion hchain hcontract
  rfl

end

/-- **Both digests are one, and it binds every field.**  With 64-bit times the two computations
agree.  Where the hash does not collide on what is hashed, a digest is that of one separator and one
authorisation, and of one token if the separators are the tokens'. -/
theorem digest_binds_fields (cr : Crates) :
    (∀ (ds : H256) (a : TransferAuth),
      a.valid_after.toNat < 2 ^ 64 → a.valid_before.toNat < 2 ^ 64 →
        transferAuthDigest cr.ethers a.sender a.recipient a.value (a.valid_after.setWidth 64)
          (a.valid_before.setWidth 64) a.nonce ds = a.digest cr ds) ∧
    (∀ (ds ds' : H256) (a a' : TransferAuth),
      Set.InjOn cr.ethers.keccak256 (a.preimages cr ds ∪ a'.preimages cr ds') →
        (ds ≠ ds' ∨ a ≠ a') → a.digest cr ds ≠ a'.digest cr ds') ∧
    ∀ (d d' : TokenDomain) (a a' : TransferAuth),
      Set.InjOn cr.ethers.keccak256 (a.preimages cr (d.separator cr)
        ∪ a'.preimages cr (d'.separator cr) ∪ (d.preimages cr ∪ d'.preimages cr)) →
        (d ≠ d' ∨ a ≠ a') → a.digest cr (d.separator cr) ≠ a'.digest cr (d'.separator cr) := by
  refine ⟨?_, ?_, ?_⟩
  · intro ds a hafter hbefore
    have htimes : (a.valid_after.setWidth 64).toNat = a.valid_after.toNat ∧
        (a.valid_before.setWidth 64).toNat = a.valid_before.toNat :=
      ⟨by rw [BitVec.toNat_setWidth, Nat.mod_eq_of_lt hafter],
        by rw [BitVec.toNat_setWidth, Nat.mod_eq_of_lt hbefore]⟩
    unfold transferAuthDigest TransferAuth.digest
    rw [htimes.1, htimes.2]
  · intro ds ds' a a' hinj hdiffer hsame
    obtain ⟨hds, ha⟩ := TransferAuth.digest_inj hinj hsame
    exact hdiffer.elim (fun h => h hds) (fun h => h ha)
  · intro d d' a a' hinj hdiffer hsame
    obtain ⟨hseparator, ha⟩ := TransferAuth.digest_inj (hinj.mono Set.subset_union_left) hsame
    have hd := TokenDomain.separator_inj (hinj.mono Set.subset_union_right) hseparator
    exact hdiffer.elim (fun h => h hd) (fun h => h ha)

/-! ## USD Coin on two chains -/

namespace DigestSample

def onBase : TokenDomain := ⟨"USD Coin".toList, "2".toList, 8453, EvmSample.usdc⟩
def onMainnet : TokenDomain := { onBase with chain_id := 1 }

/-- Keccak on what is hashed for the two. -/
def keccak256 (bs : Bytes) : H256 :=
  let typehash : H256 := 0x7c7c6cdb67a18743f49ec6fa9b35f50d52ed05cbed4cc592e13b44501c1a2267
  let domain : H256 := 0x8b73c3c69bb8fe3d512ecc4cf759cc79239f7b179b0ffacaa9a75d522b39400f
  let name : H256 := 0x52878b207aaddbfc15ea7bebcda681eb8ccd306e2227b61cef68505c8c056341
  let version : H256 := 0xad7c5bef027816a800da1736444fb58a807ef4c9603b7848673f7e3a68eb14a5
  let base : H256 := 0x02fa7265e7c5d81118673727957699e4d68f74cd74b7db77da710fe8a2c7834f
  let mainnet : H256 := 0x694129c9b89b1537857edfc2b9fdde704cbbbc502a56579e7881168cafa69df0
  let struct_hash : H256 := 0xe6633bf37b4be788ece20fab0367673c7a491b0763ba4fa05334873f1806264a
  let table : List (Bytes × H256) :=
    [(asciiBytes TRANSFER_WITH_AUTHORIZATION, typehash),
      (asciiBytes EIP712_DOMAIN, domain),
      (utf8 onBase.name, name),
      (utf8 onBase.version, version),
      (abiWords [domain.toNat, name.toNat, version.toNat, 8453, EvmSample.usdc.toNat], base),
      (abiWords [domain.toNat, name.toNat, version.toNat, 1, EvmSample.usdc.toNat], mainnet),
      (abiWords [typehash.toNat, EvmSample.account.toNat, EvmSample.recipient.toNat, 250000000, 0,
        1900000000, EvmSample.auth.nonce.toNat], struct_hash),
      ([0x19, 0x01] ++ abiWords [base.toNat, struct_hash.toNat],
        0x640f54acc512700f4d45f5eaee6c038d15b63b7d3d6f300da20aa0563e202886),
      ([0x19, 0x01] ++ abiWords [mainnet.toNat, struct_hash.toNat],
        0x0699a65ad957f4ea80cc94a751254b9e72997e57f50acce3a9eee6eb28ca9c3e)]
  (table.lookup bs).getD 0

def crates : Crates := { plainCrates with ethers := { plainEthers with keccak256 := keccak256 } }

/-- All that is hashed but the two types. -/
def hashed : List Bytes :=
  [EvmSample.auth.encoded crates, EvmSample.auth.message crates (onBase.separator crates),
    EvmSample.auth.message crates (onMainnet.separator crates), utf8 onBase.name,
    utf8 onBase.version, onBase.encoded crates, onMainnet.encoded crates]

theorem hashed_apart : (hashed.map keccak256).Nodup := by decide +kernel

end DigestSample

open DigestSample in
theorem digest_binds_fields_sample :
    transferAuthDigest crates.ethers EvmSample.account EvmSample.recipient 250000000 0 1900000000
      EvmSample.auth.nonce (onBase.separator crates)
        = EvmSample.auth.digest crates (onBase.separator crates) ∧
      EvmSample.auth.digest crates (onBase.separator crates)
        ≠ EvmSample.auth.digest crates (onMainnet.separator crates) := by
  obtain ⟨hagree, -, hbinds⟩ := digest_binds_fields crates
  refine ⟨hagree _ EvmSample.auth (by decide) (by decide), ?_⟩
  refine hbinds onBase onMainnet EvmSample.auth EvmSample.auth ?_ (.inl (by decide))
  intro bs hbs bs' hbs' heq
  have hmem : ∀ bs ∈ EvmSample.auth.preimages crates (onBase.separator crates)
      ∪ EvmSample.auth.preimages crates (onMainnet.separator crates)
      ∪ (onBase.preimages crates ∪ onMainnet.preimages crates), bs ∈ hashed := by
    rintro bs (((rfl | rfl) | (rfl | rfl)) | ((rfl | rfl | rfl) | (rfl | rfl | rfl)))
    all_goals simp [hashed, onMainnet]
  exact List.inj_on_of_nodup_map hashed_apart (hmem bs hbs) (hmem bs' hbs') heq

end Beanie.Api
