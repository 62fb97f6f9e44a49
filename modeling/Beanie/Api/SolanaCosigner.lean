/-
# `Beanie.Api.SolanaCosigner` — what a cosigned Solana claim can do

An accepted message is taken apart once (`precheckSolana_ok`).  Its three
required signers are then found to be the relayer, the client and the cosigner
(`signer_slots`): the two signer accounts of the transfer are required signers
other than the fee payer, and there are only two of these.  From the slots
follow both what the token program can be made to accept and where the
assembled signatures stand.
-/
import Beanie.Api.StealthSolana
import Beanie.Api.PlainCrates

namespace Beanie.Api

open Beanie.Solana (Pubkey bytesOf)

/-! ## Accepted messages -/

/-- One allowlisted `TransferChecked` out of the multisig, paid for by the relayer. -/
structure MultisigTransfer (cr : Crates) (m : SolanaMessage) (relayer multisig : Pubkey)
    (allowed_mints : List Text) (ix : CompiledInstruction) : Prop where
  only : m.instructions = [ix]
  required : m.header.num_required_signatures = 3
  fee_payer : m.account_keys.head? = some relayer
  program : m.account_keys[ix.program_id_index.toNat]? = some cr.solana.spl_token_id
  transfer : ∃ amount decimals,
    cr.solana.token_instruction_unpack ix.data = some (.transferChecked amount decimals)
  mint : ∃ mint, acct m ix 1 = .ok mint ∧ cr.pubkey_to_string mint ∈ allowed_mints
  authority : acct m ix 3 = .ok multisig

/-- The two signer accounts of the transfer. -/
def MultisigSigners (cr : Crates) (m : SolanaMessage) (client cosigner : Pubkey)
    (ix : CompiledInstruction) : Prop :=
  (ix.accounts.drop 4).length = 2 ∧ ∃ found, foundSigners cr m (ix.accounts.drop 4) = .ok found ∧
    client ∈ found ∧ cosigner ∈ found

structure SolanaScreened (cr : Crates) (rt : ChainRuntime) (relayer : Pubkey) (task : StealthTask)
    (plan : SolanaPlan) (multisig : Pubkey) (ix : CompiledInstruction) : Prop where
  identity : rt.cosigner = .ed25519 plan.cosigner
  bytes : task.message_bytes = some plan.bytes
  canonical : cr.solana.message_serialize plan.message = plan.bytes
  client : cr.solana.pubkey_from_str task.derived_address = some plan.client
  derived : ∃ seed, deriveMultisig cr plan.client plan.cosigner = .ok (multisig, seed)
  transfer : MultisigTransfer cr plan.message relayer multisig rt.cfg.allowed_targets ix
  signers : MultisigSigners cr plan.message plan.client plan.cosigner ix
  verified : cr.solana.verify plan.client_sig plan.client plan.bytes = true

section
variable {cr : Crates} {rt : ChainRuntime} {task : StealthTask} {plan : SolanaPlan}
  {m : SolanaMessage} {relayer multisig client cosigner : Pubkey} {ix : CompiledInstruction}

theorem isTransferChecked_iff {t : TokenInstruction} :
    t.isTransferChecked = true ↔ ∃ amount decimals, t = .transferChecked amount decimals := by
  cases t with
  | transfer _ => simp [TokenInstruction.isTransferChecked]
  | transferChecked amount decimals => simp [TokenInstruction.isTransferChecked]
  | other => simp [TokenInstruction.isTransferChecked]

theorem validateMultisigTransfer_ok {allowed_mints : List Text}
    (h : validateMultisigTransfer cr m relayer multisig client cosigner allowed_mints = .ok ()) :
    ∃ ix, MultisigTransfer cr m relayer multisig allowed_mints ix ∧
      MultisigSigners cr m client cosigner ix := by
  unfold validateMultisigTransfer at h
  split at h
  case h_2 => cases h
  case h_1 ix hixs =>
    obtain ⟨_, hrequired, h⟩ := bind_ok.mp h
    obtain ⟨_, hpayer, h⟩ := bind_ok.mp h
    obtain ⟨program, hprogram, h⟩ := bind_ok.mp h
    obtain ⟨_, htoken, h⟩ := bind_ok.mp h
    obtain ⟨token_ix, hunpack, h⟩ := bind_ok.mp h
    obtain ⟨_, hchecked, h⟩ := bind_ok.mp h
    obtain ⟨mint, hmint, h⟩ := bind_ok.mp h
    obtain ⟨_, hallowed, h⟩ := bind_ok.mp h
    obtain ⟨authority, hauthority, h⟩ := bind_ok.mp h
    obtain ⟨_, heq, h⟩ := bind_ok.mp h
    obtain ⟨_, htwo, h⟩ := bind_ok.mp h
    obtain ⟨found, hfound, hsigners⟩ := bind_ok.mp h
    obtain ⟨amount, decimals, htransfer⟩ := isTransferChecked_iff.mp (require_ok.mp hchecked)
    refine ⟨ix, ⟨hixs, require_ok.mp hrequired, require_ok.mp hpayer, ?_, ?_, ?_, ?_⟩, ?_⟩
    · rw [← require_ok.mp htoken]
      exact okOr_ok.mp hprogram
    · rw [htransfer] at hunpack
      exact ⟨amount, decimals, okOr_ok.mp hunpack⟩
    · exact ⟨mint, hmint, require_ok.mp hallowed⟩
    · rw [← require_ok.mp heq]
      exact hauthority
    · exact ⟨require_ok.mp htwo, found, hfound, require_ok.mp hsigners⟩

theorem precheckSolana_ok (h : precheckSolana cr rt relayer task = .ok plan) :
    ∃ multisig ix, SolanaScreened cr rt relayer task plan multisig ix := by
  unfold precheckSolana at h
  cases hid : rt.cosigner with
  | eth _ =>
      rw [hid] at h
      exact nomatch h
  | ed25519 cosigner =>
      rw [hid] at h
      obtain ⟨bytes, hbytes, h⟩ := bind_ok.mp h
      obtain ⟨_, -, h⟩ := bind_ok.mp h
      obtain ⟨message, -, h⟩ := bind_ok.mp h
      obtain ⟨_, hcanonical, h⟩ := bind_ok.mp h
      obtain ⟨tx_hash, -, h⟩ := bind_ok.mp h
      obtain ⟨_, -, h⟩ := bind_ok.mp h
      obtain ⟨client, hclient, h⟩ := bind_ok.mp h
      obtain ⟨⟨multisig, seed⟩, hderived, h⟩ := bind_ok.mp h
      obtain ⟨_, hvalid, h⟩ := bind_ok.mp h
      cases hsig : task.client_sig with
      | ecdsa _ _ _ =>
          rw [hsig] at h
          exact nomatch h
      | ed25519 sig_hex =>
          rw [hsig] at h
          obtain ⟨sig_bytes, -, h⟩ := bind_ok.mp h
          obtain ⟨client_sig, -, h⟩ := bind_ok.mp h
          obtain ⟨_, hverified, h⟩ := bind_ok.mp h
          obtain rfl := Except.ok.inj h
          obtain ⟨ix, htransfer, hsigners⟩ := validateMultisigTransfer_ok hvalid
          exact ⟨multisig, ix, hid, okOr_ok.mp hbytes, require_ok.mp hcanonical,
            okOr_ok.mp hclient, ⟨seed, hderived⟩, htransfer, hsigners, require_ok.mp hverified⟩

/-! ## The three signers -/

/-- The first three keys of the message are the relayer, then client and cosigner in one of the
two orders. -/
def Slots (m : SolanaMessage) (relayer client cosigner : Pubkey) : Prop :=
  ∃ rest, m.account_keys = relayer :: client :: cosigner :: rest ∨
    m.account_keys = relayer :: cosigner :: client :: rest

/-- What the loop has seen of one signer index. -/
structure SignerAt (m : SolanaMessage) (idx : UInt8) (pk : Pubkey) : Prop where
  key : m.account_keys[idx.toNat]? = some pk
  signs : m.is_signer idx.toNat = true

theorem foundSigners_ok {idxs : List UInt8} {found : List Pubkey}
    (h : foundSigners cr m idxs = .ok found) : List.Forall₂ (SignerAt m) idxs found := by
  induction idxs generalizing found with
  | nil =>
      obtain rfl := Except.ok.inj h
      exact .nil
  | cons idx idxs ih =>
      obtain ⟨pk, hpk, h⟩ := bind_ok.mp h
      obtain ⟨_, hsigner, h⟩ := bind_ok.mp h
      obtain ⟨found', hfound, h⟩ := bind_ok.mp h
      obtain rfl := Except.ok.inj h
      exact .cons ⟨okOr_ok.mp hpk, require_ok.mp hsigner⟩ (ih hfound)

/-- The keys at the signer accounts are the client and the cosigner. -/
theorem MultisigSigners.pair (hne : client ≠ cosigner)
    (h : MultisigSigners cr m client cosigner ix) :
    ∃ i j, ix.accounts.drop 4 = [i, j] ∧
      (SignerAt m i client ∧ SignerAt m j cosigner ∨
        SignerAt m i cosigner ∧ SignerAt m j client) := by
  obtain ⟨htwo, found, hfound, hclient, hcosigner⟩ := h
  obtain ⟨i, j, hij⟩ := List.length_eq_two.mp htwo
  have hat := foundSigners_ok hfound
  rw [hij] at hat
  cases hat with
  | cons hi hat =>
      cases hat with
      | cons hj hat =>
          cases hat
          refine ⟨i, j, hij, ?_⟩
          rcases List.mem_pair.mp hclient with rfl | rfl
          · rcases List.mem_pair.mp hcosigner with rfl | rfl
            · exact absurd rfl hne
            · exact .inl ⟨hi, hj⟩
          · rcases List.mem_pair.mp hcosigner with rfl | rfl
            · exact .inr ⟨hi, hj⟩
            · exact absurd rfl hne

/-- A signer other than the fee payer stands at index one or two. -/
theorem SignerAt.slot {idx : UInt8} {pk : Pubkey}
    (hrequired : m.header.num_required_signatures = 3) (hpayer : m.account_keys.head? = some relayer)
    (hne : relayer ≠ pk) (h : SignerAt m idx pk) : idx.toNat = 1 ∨ idx.toNat = 2 := by
  have hlt : idx.toNat < 3 := by
    have hsigns := h.signs
    rw [SolanaMessage.is_signer, hrequired] at hsigns
    exact of_decide_eq_true hsigns
  have hzero : idx.toNat ≠ 0 := by
    intro h0
    have hkey := h.key
    rw [h0, ← List.head?_eq_getElem?, hpayer] at hkey
    exact hne (Option.some.inj hkey)
  omega

theorem getElem?_slots {keys : List Pubkey} {a b c : Pubkey} (h0 : keys.head? = some a)
    (h1 : keys[1]? = some b) (h2 : keys[2]? = some c) : ∃ rest, keys = a :: b :: c :: rest := by
  match keys, h0, h1, h2 with
  | _ :: _ :: _ :: rest, h0, h1, h2 =>
      obtain rfl := Option.some.inj h0
      obtain rfl := Option.some.inj h1
      obtain rfl := Option.some.inj h2
      exact ⟨rest, rfl⟩

theorem signer_slots (hrequired : m.header.num_required_signatures = 3)
    (hpayer : m.account_keys.head? = some relayer)
    (hdistinct : [relayer, client, cosigner].Nodup)
    (h : MultisigSigners cr m client cosigner ix) : Slots m relayer client cosigner := by
  simp only [List.nodup_cons, List.mem_cons, List.not_mem_nil, or_false, not_or] at hdistinct
  obtain ⟨⟨hclient, hcosigner⟩, hne, -⟩ := hdistinct
  -- both stand at index one or two, at different ones since they differ
  have key : ∀ {a b : Pubkey} {i j : UInt8}, a ≠ b → relayer ≠ a → relayer ≠ b →
      SignerAt m i a → SignerAt m j b →
      ∃ rest, m.account_keys = relayer :: a :: b :: rest ∨
        m.account_keys = relayer :: b :: a :: rest := by
    intro a b i j hab ha hb hi hj
    have hsame : i.toNat ≠ j.toNat := by
      intro heq
      have hkey := hi.key
      rw [heq, hj.key] at hkey
      exact hab (Option.some.inj hkey).symm
    have hkeya := hi.key
    have hkeyb := hj.key
    rcases hi.slot hrequired hpayer ha with h1 | h2
    · rcases hj.slot hrequired hpayer hb with h1' | h2'
      · omega
      · rw [h1] at hkeya
        rw [h2'] at hkeyb
        obtain ⟨rest, hrest⟩ := getElem?_slots hpayer hkeya hkeyb
        exact ⟨rest, .inl hrest⟩
    · rcases hj.slot hrequired hpayer hb with h1' | h2'
      · rw [h2] at hkeya
        rw [h1'] at hkeyb
        obtain ⟨rest, hrest⟩ := getElem?_slots hpayer hkeyb hkeya
        exact ⟨rest, .inr hrest⟩
      · omega
  obtain ⟨i, j, -, hpair⟩ := h.pair hne
  rcases hpair with ⟨hi, hj⟩ | ⟨hi, hj⟩
  · exact key hne hclient hcosigner hi hj
  · exact key hne hclient hcosigner hj hi

/-! ## What the signatures authorise -/

/-- An account as the token program sees it, with some keys' signatures withheld. -/
def passed (m : SolanaMessage) (withheld : Pubkey → Bool) (idx : UInt8) : Option Passed :=
  m.account_keys[idx.toNat]?.map fun k => (k, m.is_signer idx.toNat && !withheld k)

/-- The token program takes the transfer's authority as given. -/
def transferAuthorized (tp : TokenProgram) (ms : Multisig) (m : SolanaMessage)
    (ix : CompiledInstruction) (withheld : Pubkey → Bool) : Bool :=
  match ix.accounts[3]?.bind (passed m withheld) with
  | none => false
  | some owner =>
      tp.validate_owner (some ms) owner ((ix.accounts.drop 4).filterMap (passed m withheld))

theorem SignerAt.passed {idx : UInt8} {pk : Pubkey} (h : SignerAt m idx pk)
    (withheld : Pubkey → Bool) : Api.passed m withheld idx = some (pk, !withheld pk) := by
  rw [Api.passed, h.key, Option.map_some, h.signs, Bool.true_and]

/-- The transfer is authorised exactly if neither the client's nor the cosigner's signature is
withheld: no other signature of the transaction counts. -/
theorem transferAuthorized_iff {tp : TokenProgram} (htp : tp.Documented) (hne : client ≠ cosigner)
    (hauthority : acct m ix 3 = .ok multisig) (h : MultisigSigners cr m client cosigner ix)
    (withheld : Pubkey → Bool) :
    transferAuthorized tp ⟨2, [client, cosigner]⟩ m ix withheld = true ↔
      withheld client = false ∧ withheld cosigner = false := by
  obtain ⟨idx, hidx, hkey⟩ := bind_ok.mp hauthority
  have howner : ix.accounts[3]?.bind (passed m withheld)
      = some (multisig, m.is_signer idx.toNat && !withheld multisig) := by
    rw [okOr_ok.mp hidx, Option.bind_some, passed, okOr_ok.mp hkey, Option.map_some]
  obtain ⟨i, j, hij, hpair⟩ := h.pair hne
  rw [transferAuthorized, howner, hij]
  rcases hpair with ⟨hi, hj⟩ | ⟨hi, hj⟩
  · have hpassed : [i, j].filterMap (passed m withheld)
        = [(client, !withheld client), (cosigner, !withheld cosigner)] := by
      simp [hi.passed withheld, hj.passed withheld]
    dsimp only
    rw [hpassed, htp.multisig _ _ _ _ hne (by simpa using hne)]
    simp [hne, hne.symm]
  · have hpassed : [i, j].filterMap (passed m withheld)
        = [(cosigner, !withheld cosigner), (client, !withheld client)] := by
      simp [hi.passed withheld, hj.passed withheld]
    dsimp only
    rw [hpassed, htp.multisig _ _ _ _ hne (by simpa using hne.symm)]
    simp [hne, hne.symm]

/-! ## The assembled transaction -/

theorem cosignEd25519_ok {msg co : Bytes} (hid : rt.cosigner = .ed25519 cosigner)
    (h : cosignEd25519 cr rt msg = .ok co) : cr.solana.verify co cosigner msg = true := by
  unfold cosignEd25519 at h
  rw [hid] at h
  cases hkey : rt.key with
  | secp256k1 _ =>
      rw [hkey] at h
      exact nomatch h
  | ed25519 kp =>
      rw [hkey] at h
      obtain ⟨_, hverified, h⟩ := bind_ok.mp h
      obtain rfl := Except.ok.inj h
      exact require_ok.mp hverified

/-- Where client and cosigner stand, and the signatures in that order. -/
structure InOrder (m : SolanaMessage) (relayer client cosigner : Pubkey) (rs cs co : Bytes)
    (sigs : List Bytes) : Prop where
  slots : ∃ rest,
    m.account_keys = relayer :: client :: cosigner :: rest ∧ sigs = [rs, cs, co] ∨
      m.account_keys = relayer :: cosigner :: client :: rest ∧ sigs = [rs, co, cs]

/-- A key is found where it first occurs. -/
theorem signerPosition_eq (before : List Pubkey) {rest : List Pubkey} {pk : Pubkey}
    (hkeys : m.account_keys = before ++ pk :: rest) (hbefore : pk ∉ before)
    (hlt : before.length < m.header.num_required_signatures.toNat) :
    signerPosition cr m pk = .ok before.length := by
  have hnone : before.findIdx? (fun k => decide (k = pk)) = none := by
    rw [List.findIdx?_eq_none_iff]
    intro k hk
    exact decide_eq_false fun heq => hbefore (heq ▸ hk)
  have hfind : m.account_keys.findIdx? (fun k => decide (k = pk)) = some before.length := by
    rw [hkeys, List.findIdx?_append, hnone, List.findIdx?_cons]
    simp
  rw [signerPosition, hfind, okOr_some, ok_bind]
  exact require_bind_of hlt

/-- The fee payer signs at index zero. -/
theorem partialSign_payer {kp : Keypair} {tx : SolanaTransaction} {rest : List Pubkey}
    (hkeys : tx.message.account_keys = kp.pubkey :: rest)
    (hpos : 0 < tx.message.header.num_required_signatures.toNat) :
    partialSign cr kp tx
      = .ok (tx.setSignature 0 (kp.sign_message (cr.solana.message_serialize tx.message))) := by
  obtain ⟨n, hn⟩ := Nat.exists_eq_succ_of_ne_zero (Nat.pos_iff_ne_zero.mp hpos)
  have hfind : (tx.message.account_keys.take
      tx.message.header.num_required_signatures.toNat).findIdx? (fun k => decide (k = kp.pubkey))
      = some 0 := by
    rw [hkeys, hn, List.take_succ_cons, List.findIdx?_cons]
    simp
  rw [partialSign, hfind]
  rfl

/-- With the slots as they are, assembly only needs the multisig and the cosignature. -/
theorem assembleSolana_eq {kp : Keypair} {ensured : Except Trace Pubkey} {ms : Pubkey} {co : Bytes}
    (hrequired : plan.message.header.num_required_signatures = 3)
    (hdistinct : [kp.pubkey, plan.client, plan.cosigner].Nodup)
    (hslots : Slots plan.message kp.pubkey plan.client plan.cosigner)
    (hensured : ensured = .ok ms) (hco : cosignEd25519 cr rt plan.bytes = .ok co) :
    ∃ sigs, assembleSolana cr rt kp ensured plan = .ok ⟨sigs, plan.message⟩ ∧
      InOrder plan.message kp.pubkey plan.client plan.cosigner
        (kp.sign_message (cr.solana.message_serialize plan.message)) plan.client_sig co sigs := by
  simp only [List.nodup_cons, List.mem_cons, List.not_mem_nil, or_false, not_or] at hdistinct
  obtain ⟨⟨hclient, hcosigner⟩, hne, -⟩ := hdistinct
  have hthree : plan.message.header.num_required_signatures.toNat = 3 := by rw [hrequired]; rfl
  have hunsigned : newUnsigned plan.message
      = ⟨List.replicate 3 (List.replicate 64 0), plan.message⟩ := by rw [newUnsigned, hthree]
  obtain ⟨rest, hkeys | hkeys⟩ := hslots
  · have hci : signerPosition cr plan.message plan.client = .ok 1 :=
      signerPosition_eq [kp.pubkey] hkeys (by simpa using Ne.symm hclient)
        (by simp [hthree])
    have hki : signerPosition cr plan.message plan.cosigner = .ok 2 :=
      signerPosition_eq [kp.pubkey, plan.client] hkeys
        (by simpa using ⟨Ne.symm hcosigner, Ne.symm hne⟩) (by simp [hthree])
    refine ⟨_, ?_, ⟨rest, .inl ⟨hkeys, rfl⟩⟩⟩
    rw [assembleSolana, hensured, ok_bind, hco, ok_bind, hci, ok_bind, hki, ok_bind, hunsigned]
    exact partialSign_payer hkeys (show 0 < plan.message.header.num_required_signatures.toNat by
      omega)
  · have hki : signerPosition cr plan.message plan.cosigner = .ok 1 :=
      signerPosition_eq [kp.pubkey] hkeys (by simpa using Ne.symm hcosigner)
        (by simp [hthree])
    have hci : signerPosition cr plan.message plan.client = .ok 2 :=
      signerPosition_eq [kp.pubkey, plan.cosigner] hkeys
        (by simpa using ⟨Ne.symm hclient, hne⟩) (by simp [hthree])
    refine ⟨_, ?_, ⟨rest, .inr ⟨hkeys, rfl⟩⟩⟩
    rw [assembleSolana, hensured, ok_bind, hco, ok_bind, hci, ok_bind, hki, ok_bind, hunsigned]
    exact partialSign_payer hkeys (show 0 < plan.message.header.num_required_signatures.toNat by
      omega)

/-- Three signatures over the bytes, each valid for the key at its index. -/
structure Complete (cr : Crates) (bytes : Bytes) (tx : SolanaTransaction) : Prop where
  three : tx.signatures.length = 3
  serialized : cr.solana.message_serialize tx.message = bytes
  valid : ∀ i < 3, ∃ key sig, tx.message.account_keys[i]? = some key ∧
    tx.signatures[i]? = some sig ∧ cr.solana.verify sig key bytes = true

theorem InOrder.complete {bytes rs cs co : Bytes} {sigs : List Bytes}
    (h : InOrder m relayer client cosigner rs cs co sigs)
    (hbytes : cr.solana.message_serialize m = bytes)
    (hrs : cr.solana.verify rs relayer bytes = true) (hcs : cr.solana.verify cs client bytes = true)
    (hco : cr.solana.verify co cosigner bytes = true) : Complete cr bytes ⟨sigs, m⟩ := by
  obtain ⟨rest, ⟨hkeys, rfl⟩ | ⟨hkeys, rfl⟩⟩ := h.slots
  · refine ⟨rfl, hbytes, fun i hi => ?_⟩
    match i, hi with
    | 0, _ => exact ⟨relayer, rs, by rw [hkeys]; rfl, rfl, hrs⟩
    | 1, _ => exact ⟨client, cs, by rw [hkeys]; rfl, rfl, hcs⟩
    | 2, _ => exact ⟨cosigner, co, by rw [hkeys]; rfl, rfl, hco⟩
  · refine ⟨rfl, hbytes, fun i hi => ?_⟩
    match i, hi with
    | 0, _ => exact ⟨relayer, rs, by rw [hkeys]; rfl, rfl, hrs⟩
    | 1, _ => exact ⟨cosigner, co, by rw [hkeys]; rfl, rfl, hco⟩
    | 2, _ => exact ⟨client, cs, by rw [hkeys]; rfl, rfl, hcs⟩

/-! ## Cosigner and relayer safety -/

/-- What `ensure_multisig` initialises. -/
def multisigAccount (client cosigner : Pubkey) : Multisig := ⟨2, [client, cosigner]⟩

/-- What screening has established: one allowlisted transfer out of the multisig derived for the
client and our cosigner, over bytes the client signed, which the token program lets pass exactly
if both of them have signed. -/
structure SolanaSafe (cr : Crates) (tp : TokenProgram) (rt : ChainRuntime) (relayer : Pubkey)
    (task : StealthTask) (plan : SolanaPlan) (multisig : Pubkey) (ix : CompiledInstruction) :
    Prop where
  screened : SolanaScreened cr rt relayer task plan multisig ix
  slots : Slots plan.message relayer plan.client plan.cosigner
  authorized : ∀ withheld : Pubkey → Bool,
    transferAuthorized tp (multisigAccount plan.client plan.cosigner) plan.message ix withheld = true
      ↔ withheld plan.client = false ∧ withheld plan.cosigner = false

/-- **Cosigner and relayer safety.**  An accepted message is one allowlisted transfer that client
and cosigner authorise and the relayer does not; and it is sent, as soon as it is cosigned, with
three signatures over the bytes the client signed, each valid at its index. -/
theorem solana_cosigner_safety {kp : Keypair} {tp : TokenProgram} (htp : tp.Documented)
    (hkey : ∀ msg, cr.solana.verify (kp.sign_message msg) kp.pubkey msg = true)
    (h : precheckSolana cr rt kp.pubkey task = .ok plan)
    (hdistinct : [kp.pubkey, plan.client, plan.cosigner].Nodup) :
    (∃ multisig ix, SolanaSafe cr tp rt kp.pubkey task plan multisig ix) ∧
    (∀ ensured tx, assembleSolana cr rt kp ensured plan = .ok tx →
      tx.message = plan.message ∧ Complete cr plan.bytes tx) ∧
    ∀ ms co, cosignEd25519 cr rt plan.bytes = .ok co →
      Succeeds (assembleSolana cr rt kp (.ok ms) plan) := by
  obtain ⟨multisig, ix, hscreened⟩ := precheckSolana_ok h
  have hrequired := hscreened.transfer.required
  have hslots : Slots plan.message kp.pubkey plan.client plan.cosigner :=
    signer_slots hrequired hscreened.transfer.fee_payer hdistinct hscreened.signers
  have hne : plan.client ≠ plan.cosigner := by
    intro heq
    simp [heq] at hdistinct
  refine ⟨⟨multisig, ix, hscreened, hslots, ?_⟩, ?_, ?_⟩
  · exact transferAuthorized_iff htp hne hscreened.transfer.authority hscreened.signers
  · intro ensured tx htx
    obtain ⟨ms, hensured, hrest⟩ := bind_ok.mp htx
    obtain ⟨co, hco, -⟩ := bind_ok.mp hrest
    obtain ⟨sigs, hassembled, horder⟩ := assembleSolana_eq hrequired hdistinct hslots hensured hco
    obtain rfl := Except.ok.inj (hassembled.symm.trans htx)
    refine ⟨rfl, horder.complete hscreened.canonical ?_ hscreened.verified
      (cosignEd25519_ok hscreened.identity hco)⟩
    rw [hscreened.canonical]
    exact hkey _
  · intro ms co hco
    obtain ⟨sigs, hassembled, -⟩ := assembleSolana_eq hrequired hdistinct hslots
      (rfl : (.ok ms : Except Trace Pubkey) = .ok ms) hco
    exact ⟨_, hassembled⟩

end

/-! ## A transfer of one USDC -/

namespace SolanaSample

def relayer : Pubkey := 0x07f0fbcb4a818154aa6792e3d8d696e122a4e18a716c703d4cc6c1624924ea9c
def client : Pubkey := 0x9dc1301eac63b0b5d266352e92bb116af0566bd3d0aff5dc934e9555f9cd8bcb
def cosigner : Pubkey := 0xf5b3d05ae20c7a41975c9438f43e1196694cc30315793dbf4171f66d0c1f7b73
def multisig : Pubkey := 0x2c6ba37cd8d5818959e9d71bee2c45ec225adf4992623958cc777ac299768d4f
def mint : Pubkey := 0xc6fa7af3bedbad3a3d65f36aabc97431b1bbe4c2d2f6e0e47ca60203452f5d61
def tokenProgram : Pubkey := 0x06ddf6e1d765a193d9cbe146ceeb79ac1cb485ed5f5b37913a8cf5857eff00a9

def message : SolanaMessage where
  header := ⟨3, 2, 3⟩
  account_keys := [relayer, client, cosigner,
    0x41cf6794ba4200b839c53531555f0f3998df4cbb01a4d5cb0b94e3ca5e23947d,
    0xb5c755aaab1038b3d5627bbde7f47ca80c5f5c0481c6d33f04139d07aa1530e7, multisig, mint,
    tokenProgram]
  recent_blockhash :=
    beBytes 32 0x395bf727f9aac5e80911591073fcf9c826f428804131ca089beba3869421749a
  instructions := [⟨7, [3, 6, 4, 5, 1, 2], 12 :: leBytes 8 1000000 ++ [6]⟩]

/-- The serialisation of a message whose lists are shorter than 128. -/
def serialize (m : SolanaMessage) : Bytes :=
  let short (n : Nat) : Bytes := [UInt8.ofNat n]
  [m.header.num_required_signatures, m.header.num_readonly_signed_accounts,
    m.header.num_readonly_unsigned_accounts]
    ++ short m.account_keys.length ++ m.account_keys.flatMap bytesOf ++ m.recent_blockhash
    ++ short m.instructions.length
    ++ m.instructions.flatMap fun ix => ix.program_id_index :: short ix.accounts.length
      ++ ix.accounts ++ short ix.data.length ++ ix.data

def relayerSignature : Bytes :=
  beBytes 64 0x3edec361e38591a704e2c74dacef7764396ee29b23b5b8ab70f122700877c68e8ff2665795d78f578740c08ad952dc248eba058a2d36ce2a38e948efddb9c407

def clientSignature : Bytes :=
  beBytes 64 0x7d5ce5d4d51ab19339836108acee6e2e146672e96c962c66ef66c200d0bf1c5ee5fce5da25af305f3fedfe230a0dd5193ee61669b63f2926f7deb0263492dc01

def cosignerSignature : Bytes :=
  beBytes 64 0xedec62c0504e232fafe558a7e9aa62179f1f1bc35bbb3967050efd873d47742eb5eb18c5e40916a656bd02c4404470af0769be1e436c083288db4a8cc3e0c10f

/-- A key that signs the sample message as it really does. -/
def keypair (pubkey : Pubkey) (sig : Bytes) : Keypair where
  pubkey := pubkey
  sign_message msg := if msg = serialize message then sig else List.replicate 64 0

def relayerKeypair : Keypair := keypair relayer relayerSignature

/-- The relayer's signatures verify, and the two the others make here. -/
def verifies (sig : Bytes) (key : Pubkey) (msg : Bytes) : Bool :=
  if key = relayer then decide (sig = relayerKeypair.sign_message msg)
  else decide ((sig, key, msg) ∈ [(clientSignature, client, serialize message),
    (cosignerSignature, cosigner, serialize message)])

theorem verifies_relayer (msg : Bytes) :
    verifies (relayerKeypair.sign_message msg) relayer msg = true := by
  rw [verifies, if_pos rfl]
  exact decide_eq_true rfl

def crates : Crates :=
  { plainCrates with
    solana :=
      { plainSolana with
        pubkey_from_str := fun s =>
          if s = "BcosAkQFXEwounwudwJ8bvtv7hKjr8DZp7XNUc8SvapA".toList then some client else none
        message_deserialize := fun bs => if bs = serialize message then some message else none
        message_serialize := serialize
        token_instruction_unpack := fun bs =>
          match bs with
          | 12 :: rest =>
              if rest.length = 9 then
                some (.transferChecked (BitVec.ofNat 64 (leNat (rest.take 8))) (rest.getD 8 0))
              else none
          | _ => none
        verify := verifies
        spl_token_id := tokenProgram }
    sha256 := fun bs =>
      if bs = MULTISIG_SEED_DOMAIN ++ bytesOf client then
        0xcdda1c421d63fb339d7e0284d1decfb75f07bce19d4c2487b74fc25fa21990c9
      else if bs = serialize message then
        0xc3514a31649babe4f3853dbf3780a6255aad487866f0e8152bdbe4f3365a3765
      else 0
    create_with_seed := fun base seed owner =>
      if base = cosigner ∧ seed = "cdda1c421d63fb339d7e0284d1decfb7".toList ∧ owner = tokenProgram then
        some multisig
      else none
    pubkey_to_string := fun k =>
      if k = mint then "EPjFWdd5AufqSSqeM2qN1xzybapC8G4wEGGkZwyTDt1v".toList else [] }

def runtime : ChainRuntime where
  cfg := ⟨normSet crates ["EPjFWdd5AufqSSqeM2qN1xzybapC8G4wEGGkZwyTDt1v".toList], []⟩
  cosigner := .ed25519 cosigner
  key := .ed25519 (keypair cosigner cosignerSignature)

def task : StealthTask where
  chain := .solana
  tx_hash := "c3514a31649babe4f3853dbf3780a6255aad487866f0e8152bdbe4f3365a3765".toList
  derived_address := "BcosAkQFXEwounwudwJ8bvtv7hKjr8DZp7XNUc8SvapA".toList
  client_sig := .ed25519 (hexEncode clientSignature)
  calls := ⟨[], nil_fits⟩
  auth3009 := none
  starknet := none
  message_bytes := some (serialize message)

def plan : SolanaPlan := ⟨message, serialize message, client, cosigner, clientSignature⟩

/-- Counts the multisig's signers that are passed and have signed. -/
def countingToken : TokenProgram where
  validate_owner account owner passed :=
    match account with
    | some ms => ms.m ≤ (ms.signers.filter fun k => (k, true) ∈ passed).length
    | none => owner.2

theorem countingToken_documented : countingToken.Documented where
  multisig a b owner passed hab _ := by
    simp only [countingToken, decide_eq_true_eq]
    by_cases ha : (a, true) ∈ passed
    · by_cases hb : (b, true) ∈ passed
      · simp [ha, hb]
      · simp [ha, hb]
    · by_cases hb : (b, true) ∈ passed
      · simp [ha, hb]
      · simp [ha, hb]

end SolanaSample

open SolanaSample in
/-- One USDC, accepted, cosigned and signed three times. -/
theorem solana_cosigner_safety_transfer :
    precheckSolana crates runtime relayer task = .ok plan ∧
    (∃ multisig ix, SolanaSafe crates countingToken runtime relayer task plan multisig ix) ∧
    assembleSolana crates runtime relayerKeypair (.ok multisig) plan
      = .ok ⟨[relayerSignature, clientSignature, cosignerSignature], message⟩ ∧
    Complete crates plan.bytes ⟨[relayerSignature, clientSignature, cosignerSignature], message⟩ := by
  have hplan : precheckSolana crates runtime relayerKeypair.pubkey task = .ok plan := by
    decide +kernel
  have hassembled : assembleSolana crates runtime relayerKeypair (.ok multisig) plan
      = .ok ⟨[relayerSignature, clientSignature, cosignerSignature], message⟩ := by
    decide +kernel
  obtain ⟨hsafe, hcomplete, -⟩ := solana_cosigner_safety countingToken_documented verifies_relayer hplan
    (by decide)
  exact ⟨hplan, hsafe, hassembled, (hcomplete _ _ hassembled).2⟩

end Beanie.Api
