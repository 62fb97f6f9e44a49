/-
# `Beanie.Api.KeeperSafety` — what the keeper's signature on a payment is good for

The keeper signs bytes that a payer has built.  Of the transaction it sends,
only one token transfer executes, and beside the fee it moves what the route
checked and nothing else.  The keeper's own signature authorises that transfer
in one case only: the owner is an SPL multisig that has the keeper among its
signers, and the instruction passes the keeper behind the authority
(`keeper_safe_iff`).
-/
import Beanie.Api.PaymentAssembly

namespace Beanie.Api

open Beanie.Solana (Pubkey Bank TokenAccount AccountData AccountMeta Transferable)
open Journal

/-! ## The chain -/

/-- What is stored, the lamports, and the SPL multisigs. -/
structure SolanaChain where
  bank : Bank
  lamports : Pubkey → Nat
  multisig : Pubkey → Option Multisig

/-- The programs on the chain. -/
structure SolanaPrograms where
  /-- The fee of a message, in lamports. -/
  fee : SolanaMessage → Nat
  /-- The mint of wrapped SOL. -/
  native_mint : Pubkey
  decimals : Pubkey → Option UInt8
  /-- The token program. -/
  token : SolanaChain → List AccountMeta → TokenInstruction → Option SolanaChain
  /-- Every other program, by its address. -/
  invoke : Pubkey → SolanaChain → List AccountMeta → Bytes → Option SolanaChain

/-- Every signer that is passed has signed, and enough of them are passed. -/
def Multisig.Quorum (ms : Multisig) (passed : List AccountMeta) : Prop :=
  (∀ a ∈ passed, a.key ∈ ms.signers → a.isSigner = true) ∧
    ms.m ≤ (ms.signers.filter fun k => k ∈ passed.map (·.key)).length

/-- `validate_owner`: the authority has signed, or is a multisig whose quorum has. -/
def SolanaChain.Signs (chain : SolanaChain) (authority : AccountMeta) (passed : List AccountMeta) :
    Prop :=
  match chain.multisig authority.key with
  | some ms => ms.Quorum passed
  | none => authority.isSigner = true

/-- A transfer that succeeds between two accounts, or from one to itself. -/
structure Movable (chain : SolanaChain) (src dst authority : Pubkey) (n : Nat) (s d : TokenAccount) :
    Prop where
  between : src ≠ dst → Transferable chain.bank src dst authority n s d
  itself : src = dst → chain.bank.token? src = some s ∧ n ≤ s.amount ∧ s.Authorizes authority n

/-- What it does.  The lamports of a wrapped SOL account are its tokens. -/
def SolanaChain.afterTransfer (chain : SolanaChain) (native_mint src dst authority : Pubkey)
    (n : Nat) (s d : TokenAccount) : SolanaChain :=
  if src = dst then chain
  else
    { chain with
      bank := chain.bank.afterTransfer src dst authority n s d
      lamports := if s.mint = native_mint then Ledger.move chain.lamports src dst n
        else chain.lamports }

/-- The authority of a transfer and the accounts behind it. -/
def authorityAccounts (accounts : List AccountMeta) : TokenInstruction → List AccountMeta
  | .transfer _ => accounts.drop 2
  | .transferChecked .. => accounts.drop 3
  | .other => []

/-- The same key, as writable as before. -/
def SameAccount (a a' : AccountMeta) : Prop := a.key = a'.key ∧ a.isWritable = a'.isWritable

/-- The token program's documented behaviour. -/
structure SolanaPrograms.Documented (programs : SolanaPrograms) : Prop where
  transfer : ∀ {chain accounts amount chain'},
    programs.token chain accounts (.transfer amount) = some chain' →
      ∃ src dst authority passed s d, accounts = src :: dst :: authority :: passed ∧
        Movable chain src.key dst.key authority.key amount.toNat s d ∧
        chain.Signs authority passed ∧
        chain' = chain.afterTransfer programs.native_mint src.key dst.key authority.key
          amount.toNat s d
  transferChecked : ∀ {chain accounts amount decimals chain'},
    programs.token chain accounts (.transferChecked amount decimals) = some chain' →
      ∃ src mint dst authority passed s d, accounts = src :: mint :: dst :: authority :: passed ∧
        Movable chain src.key dst.key authority.key amount.toNat s d ∧
        chain.Signs authority passed ∧ s.mint = mint.key ∧
        programs.decimals mint.key = some decimals ∧
        chain' = chain.afterTransfer programs.native_mint src.key dst.key authority.key
          amount.toNat s d
  /-- Who has signed matters to `validate_owner` only. -/
  signers : ∀ {chain accounts accounts' ix chain' authority passed},
    programs.token chain accounts ix = some chain' →
    List.Forall₂ SameAccount accounts accounts' →
    authorityAccounts accounts' ix = authority :: passed → chain.Signs authority passed →
      programs.token chain accounts' ix = some chain'

/-! ## The runtime -/

section
variable (sol : SolanaCrate) (programs : SolanaPrograms)

/-- The account at an index: the header says who signs and what is writable. -/
def SolanaMessage.accountMeta (m : SolanaMessage) (i : UInt8) : Option AccountMeta :=
  m.account_keys[i.toNat]?.map fun key =>
    let signed := m.header.num_required_signatures.toNat
    { key := key
      isSigner := decide (i.toNat < signed)
      isWritable := decide (i.toNat < signed - m.header.num_readonly_signed_accounts.toNat ∨
        signed ≤ i.toNat ∧ i.toNat
          < m.account_keys.length - m.header.num_readonly_unsigned_accounts.toNat) }

def SolanaMessage.accountMetas (m : SolanaMessage) (ix : CompiledInstruction) :
    Option (List AccountMeta) :=
  ix.accounts.mapM m.accountMeta

/-- One instruction: its program, on its accounts. -/
def runInstruction (m : SolanaMessage) (chain : SolanaChain) (ix : CompiledInstruction) :
    Option SolanaChain := do
  let program ← m.account_keys[ix.program_id_index.toNat]?
  let accounts ← m.accountMetas ix
  if program = sol.spl_token_id then
    let token_ix ← sol.token_instruction_unpack ix.data
    programs.token chain accounts token_ix
  else programs.invoke program chain accounts ix.data

/-- The fee payer's lamports, less the fee. -/
def SolanaChain.charge (chain : SolanaChain) (payer : Pubkey) (fee : Nat) : SolanaChain :=
  { chain with lamports := Function.update chain.lamports payer (chain.lamports payer - fee) }

/-- A transaction that executes; `none` where it does not land or one of its instructions fails. -/
def execute (chain : SolanaChain) (tx : SolanaTransaction) : Option SolanaChain :=
  let m := tx.message
  if tx.signatures.length = m.header.num_required_signatures.toNat ∧
      verifyTransaction sol tx = true ∧ m.account_keys.Nodup then do
    let payer ← m.account_keys[0]?
    if programs.fee m ≤ chain.lamports payer then
      m.instructions.foldlM (runInstruction sol programs m) (chain.charge payer (programs.fee m))
    else none
  else none

end

/-! ## The transfer -/

/-- The accounts with the keeper's signature taken away. -/
def withoutSignature (keeper : Pubkey) (accounts : List AccountMeta) : List AccountMeta :=
  accounts.map fun a => if a.key = keeper then { a with isSigner := false } else a

/-- Beside the fee the amount moves from the owner's account of the configured mint to the receiver,
on the owner's authority, and would if the keeper had not signed the instruction. -/
structure KeeperSafe (programs : SolanaPrograms) (keeper mint : Pubkey) (charged : SolanaChain)
    (accounts : List AccountMeta) (token_ix : TokenInstruction) (t : Transfers)
    (chain' : SolanaChain) : Prop where
  moves : ∃ s d, Movable charged t.source t.destination t.authority t.amount.toNat s d ∧
    s.mint = mint ∧ chain' = charged.afterTransfer programs.native_mint t.source t.destination
      t.authority t.amount.toNat s d
  unsigned : programs.token charged (withoutSignature keeper accounts) token_ix = some chain'

section
variable {programs : SolanaPrograms} {message : SolanaMessage} {ix : CompiledInstruction}
  {accounts : List AccountMeta} {keeper key : Pubkey} {chain chain' : SolanaChain}

theorem accountIs_key {k : Nat} (haccounts : message.accountMetas ix = some accounts)
    (h : AccountIs message ix k key) : (accounts[k]?).map (·.key) = some key := by
  obtain ⟨i, hi, hkey⟩ := h
  have hall := forall₂_of_mapM_some haccounts
  obtain ⟨hlt, rfl⟩ := List.getElem?_eq_some_iff.mp hi
  have hlt' : k < accounts.length := hall.length_eq ▸ hlt
  have hmeta := List.Forall₂.get hall hlt hlt'
  rw [SolanaMessage.accountMeta, List.get_eq_getElem, hkey, Option.map_some] at hmeta
  rw [List.getElem?_eq_getElem hlt', Option.map_some]
  exact congrArg (some ·.key) (Option.some.inj hmeta).symm

theorem sameAccount_withoutSignature (accounts : List AccountMeta) :
    List.Forall₂ SameAccount accounts (withoutSignature keeper accounts) := by
  rw [withoutSignature, List.forall₂_map_right_iff, List.forall₂_same]
  intro a _
  split_ifs
  · exact ⟨rfl, rfl⟩
  · exact ⟨rfl, rfl⟩

theorem authorityAccounts_withoutSignature (accounts : List AccountMeta) (ix : TokenInstruction) :
    authorityAccounts (withoutSignature keeper accounts) ix
      = withoutSignature keeper (authorityAccounts accounts ix) := by
  cases ix with
  | transfer _ => exact (List.map_drop ..).symm
  | transferChecked _ _ => exact (List.map_drop ..).symm
  | other => rfl

@[simp] theorem keys_withoutSignature (accounts : List AccountMeta) :
    (withoutSignature keeper accounts).map (·.key) = accounts.map (·.key) := by
  rw [withoutSignature, List.map_map]
  refine List.map_congr_left ?_
  intro a _
  show (if a.key = keeper then { a with isSigner := false } else a).key = a.key
  split_ifs
  · rfl
  · rfl

/-- A quorum outlives the keeper's signature unless the keeper is one of its signers. -/
theorem Multisig.quorum_withoutSignature {ms : Multisig} (h : ms.Quorum accounts) :
    ms.Quorum (withoutSignature keeper accounts) ↔
      (keeper ∈ ms.signers → keeper ∉ accounts.map (·.key)) := by
  constructor
  · intro hwithout hkeeper hmem
    obtain ⟨a, ha, rfl⟩ := List.mem_map.mp hmem
    have hsigned := hwithout.1 { a with isSigner := false }
      (List.mem_map.mpr ⟨a, ha, if_pos rfl⟩) hkeeper
    cases hsigned
  · intro hkeeper
    refine ⟨?_, ?_⟩
    · intro a' ha' hsigner
      obtain ⟨a, ha, rfl⟩ := List.mem_map.mp ha'
      by_cases hkey : a.key = keeper
      · simp only [if_pos hkey] at hsigner
        rw [hkey] at hsigner
        exact absurd (List.mem_map.mpr ⟨a, ha, hkey⟩) (hkeeper hsigner)
      · simp only [if_neg hkey] at hsigner ⊢
        exact h.1 a ha hsigner
    · rw [keys_withoutSignature]
      exact h.2

/-- Who authorises a transfer that succeeded, once the keeper's signature is taken away. -/
theorem SolanaChain.signs_withoutSignature {authority : AccountMeta}
    (h : chain.Signs authority accounts) :
    chain.Signs authority (withoutSignature keeper accounts) ↔
      ∀ ms, chain.multisig authority.key = some ms → keeper ∈ ms.signers →
        keeper ∉ accounts.map (·.key) := by
  unfold SolanaChain.Signs at h ⊢
  cases hms : chain.multisig authority.key with
  | none =>
      rw [hms] at h
      exact iff_of_true h nofun
  | some ms =>
      rw [hms] at h
      dsimp only at h ⊢
      rw [Multisig.quorum_withoutSignature h]
      constructor
      · intro hkeeper ms' hms'
        obtain rfl := Option.some.inj hms'
        exact hkeeper
      · intro hkeeper
        exact hkeeper ms rfl

/-- A transfer that succeeds, by the accounts the route looked at. -/
theorem token_ok (hdoc : programs.Documented) {token_ix : TokenInstruction} {t : Transfers}
    (haccounts : message.accountMetas ix = some accounts) (ht : TransferAt message ix t token_ix)
    (h : programs.token chain accounts token_ix = some chain') :
    ∃ authority passed s d, authorityAccounts accounts token_ix = authority :: passed ∧
      authority.key = t.authority ∧ chain.Signs authority passed ∧
      Movable chain t.source t.destination t.authority t.amount.toNat s d ∧
      chain' = chain.afterTransfer programs.native_mint t.source t.destination t.authority
        t.amount.toNat s d := by
  cases token_ix with
  | other => cases ht
  | transfer amount =>
      obtain ⟨hamount, -, hsource, hdestination, hauthority⟩ := ht
      have hsource := accountIs_key haccounts hsource
      have hdestination := accountIs_key haccounts hdestination
      have hauthority := accountIs_key haccounts hauthority
      obtain ⟨src, dst, authority, passed, s, d, rfl, hmovable, hsigns, rfl⟩ := hdoc.transfer h
      have hsource : src.key = t.source := Option.some.inj hsource
      have hdestination : dst.key = t.destination := Option.some.inj hdestination
      have hauthority : authority.key = t.authority := Option.some.inj hauthority
      rw [hsource, hdestination, hauthority, ← hamount] at hmovable
      rw [hsource, hdestination, hauthority, ← hamount]
      exact ⟨authority, passed, s, d, rfl, hauthority, hsigns, hmovable, rfl⟩
  | transferChecked amount decimals =>
      obtain ⟨hamount, -, hsource, hdestination, hauthority⟩ := ht
      have hsource := accountIs_key haccounts hsource
      have hdestination := accountIs_key haccounts hdestination
      have hauthority := accountIs_key haccounts hauthority
      obtain ⟨src, mint, dst, authority, passed, s, d, rfl, hmovable, hsigns, -, -, rfl⟩ :=
        hdoc.transferChecked h
      have hsource : src.key = t.source := Option.some.inj hsource
      have hdestination : dst.key = t.destination := Option.some.inj hdestination
      have hauthority : authority.key = t.authority := Option.some.inj hauthority
      rw [hsource, hdestination, hauthority, ← hamount] at hmovable
      rw [hsource, hdestination, hauthority, ← hamount]
      exact ⟨authority, passed, s, d, rfl, hauthority, hsigns, hmovable, rfl⟩

/-- Whoever has signed it, a transfer that succeeds is signed for. -/
theorem token_signs (hdoc : programs.Documented) {token_ix : TokenInstruction}
    (hother : token_ix ≠ .other) (h : programs.token chain accounts token_ix = some chain') :
    ∃ authority passed, authorityAccounts accounts token_ix = authority :: passed ∧
      chain.Signs authority passed := by
  cases token_ix with
  | other => exact absurd rfl hother
  | transfer amount =>
      obtain ⟨_, _, authority, passed, _, _, rfl, -, hsigns, -⟩ := hdoc.transfer h
      exact ⟨authority, passed, rfl, hsigns⟩
  | transferChecked amount decimals =>
      obtain ⟨_, _, _, authority, passed, _, _, rfl, -, hsigns, -⟩ := hdoc.transferChecked h
      exact ⟨authority, passed, rfl, hsigns⟩

/-- The source of a transfer that succeeded. -/
theorem Movable.source {src dst authority : Pubkey} {n : Nat} {s d : TokenAccount}
    (h : Movable chain src dst authority n s d) : chain.bank.token? src = some s := by
  by_cases hne : src = dst
  · exact (h.itself hne).1
  · exact (h.between hne).source

/-- A transaction with one token instruction, once it has executed. -/
theorem execute_one {sol : SolanaCrate} {tx : SolanaTransaction} {token_ix : TokenInstruction}
    {payer : Pubkey} (hpayer : tx.message.account_keys[0]? = some payer)
    (hixs : tx.message.instructions = [ix])
    (hprogram : tx.message.account_keys[ix.program_id_index.toNat]? = some sol.spl_token_id)
    (hunpack : sol.token_instruction_unpack ix.data = some token_ix)
    (h : execute sol programs chain tx = some chain') :
    ∃ accounts, tx.message.accountMetas ix = some accounts ∧
      programs.token (chain.charge payer (programs.fee tx.message)) accounts token_ix
        = some chain' := by
  simp only [execute, hpayer, hixs, Option.bind_eq_bind, Option.bind_some, List.foldlM_cons,
    List.foldlM_nil] at h
  split_ifs at h
  obtain ⟨_, hrun, hpure⟩ := Option.bind_eq_some_iff.mp h
  obtain rfl := Option.some.inj hpure
  simp only [runInstruction, hprogram, hunpack, Option.bind_eq_bind, Option.bind_some, if_true,
    Option.bind_eq_some_iff] at hrun
  exact hrun

/-- Of a transfer that succeeded, the keeper's signature was needed only by a multisig that counts
the keeper and is passed the keeper. -/
theorem keeperSafe_iff (hdoc : programs.Documented) {token_ix : TokenInstruction} {t : Transfers}
    {mint : Pubkey} (haccounts : message.accountMetas ix = some accounts)
    (ht : TransferAt message ix t token_ix) (hne : t.authority ≠ keeper)
    (hmint : ∀ s, chain.bank.token? t.source = some s → s.mint = mint)
    (h : programs.token chain accounts token_ix = some chain') :
    KeeperSafe programs keeper mint chain accounts token_ix t chain' ↔
      ∀ ms, chain.multisig t.authority = some ms → keeper ∈ ms.signers →
        keeper ∉ (authorityAccounts accounts token_ix).tail.map (·.key) := by
  obtain ⟨authority, passed, s, d, hbehind, hauthority, hsigns, hmovable, heffect⟩ :=
    token_ok hdoc haccounts ht h
  have hsame : authority.key ≠ keeper := hauthority ▸ hne
  have hwithout : authorityAccounts (withoutSignature keeper accounts) token_ix
      = authority :: withoutSignature keeper passed := by
    rw [authorityAccounts_withoutSignature, hbehind, withoutSignature, List.map_cons,
      if_neg hsame]
    rfl
  rw [hbehind, List.tail_cons, ← hauthority, ← SolanaChain.signs_withoutSignature hsigns]
  constructor
  · intro hsafe
    have hother : token_ix ≠ .other := by
      rintro rfl
      cases ht
    obtain ⟨_, _, hsigned, hsigns'⟩ := token_signs hdoc hother hsafe.unsigned
    obtain ⟨rfl, rfl⟩ := List.cons.inj (hwithout.symm.trans hsigned)
    exact hsigns'
  · intro hsigned
    exact ⟨⟨s, d, hmovable, hmint s hmovable.source, heffect⟩,
      hdoc.signers h (sameAccount_withoutSignature accounts) hwithout hsigned⟩

end

/-- **What the keeper's signature is good for.**  When a transaction the worker sends for an accepted
payment executes, it has charged the keeper the fee, and otherwise has done one token instruction;
that instruction is safe for the keeper if and only if the owner is not an SPL multisig that has
the keeper among its signers and is passed the keeper behind the authority. -/
theorem keeper_safe_iff {st : AppState} {payload : IncomingPaymentRequest} {task : PaymentTask}
    {w : Worker} {keypair : Keypair} {auth : SolanaAuth} {tx : SolanaTransaction}
    {programs : SolanaPrograms} {chain chain' : SolanaChain} (hdoc : programs.Documented)
    (hsame : w.solana = st.solana) (hsign : w.partial_sign = coSign w.solana keypair)
    (h : receivePayment st payload = .ok task) (hauth : task.solana_auth = some auth)
    (hsent : .sendSolana tx ∈ (processTask w task).log)
    (hexecuted : execute st.solana programs chain tx = some chain')
    (hata : ∀ owner s, chain.bank.token? (st.solana.get_associated_token_address owner st.mint)
      = some s → s.mint = st.mint)
    (howner : ∀ owner, st.solana.pubkey_from_str auth.owner = some owner →
      owner ≠ st.keeper_wallet) :
    ∃ ix token_ix accounts t, tx.message.instructions = [ix] ∧
      st.solana.token_instruction_unpack ix.data = some token_ix ∧
      tx.message.accountMetas ix = some accounts ∧
      st.solana.pubkey_from_str auth.owner = some t.authority ∧
      st.solana.pubkey_from_str payload.receiver_address = some t.destination ∧
      parseUnsigned 64 payload.amount_raw = some t.amount.toNat ∧
      t.source = st.solana.get_associated_token_address t.authority st.mint ∧
      TransferAt tx.message ix t token_ix ∧
      (KeeperSafe programs st.keeper_wallet st.mint
          (chain.charge st.keeper_wallet (programs.fee tx.message)) accounts token_ix t chain' ↔
        ∀ ms, chain.multisig t.authority = some ms → st.keeper_wallet ∈ ms.signers →
          st.keeper_wallet ∉ (authorityAccounts accounts token_ix).tail.map (·.key)) := by
  obtain ⟨-, hchain, bytes, message, signature, ix, token_ix, t, hverified⟩ :=
    receivePayment_solana h hauth
  obtain ⟨hfresh, -⟩ := receivePayment_fresh h
  obtain rfl : tx.message = message := sent_message hsame hsign hfresh hchain hauth hverified hsent
  obtain ⟨accounts, haccounts, htoken⟩ := execute_one hverified.fee_payer hverified.instructions
    hverified.program hverified.unpacks hexecuted
  refine ⟨ix, token_ix, accounts, t, hverified.instructions, hverified.unpacks, haccounts,
    hverified.reads_owner, hverified.reads_receiver, hverified.reads_amount, hverified.source,
    hverified.transfer, ?_⟩
  refine keeperSafe_iff hdoc haccounts hverified.transfer (howner _ hverified.reads_owner) ?_ htoken
  intro s hs
  rw [hverified.source] at hs
  exact hata _ _ hs

/-! ## A multisig of the keeper's -/

namespace MultisigSample

open AssemblySample (keeper owner source receiver)

/-- A plain transfer that passes the keeper behind the authority. -/
def message : SolanaMessage where
  header := ⟨2, 0, 1⟩
  account_keys := [keeper, owner, source, receiver, SolanaSample.tokenProgram]
  recent_blockhash :=
    beBytes 32 0x395bf727f9aac5e80911591073fcf9c826f428804131ca089beba3869421749a
  instructions := [⟨4, [2, 3, 1, 0], 3 :: leBytes 8 1000000⟩]

def bytes : Bytes := SolanaSample.serialize message

def ownerSignature : Bytes :=
  beBytes 64 0x25fe804f969d71123de150e287d010c38999255926ec4f2920beb23e1b8b21a84e3104173c33d77a348ab9958c6975511006a0971223c928768b5be29522e30b

def keeperSignature : Bytes :=
  beBytes 64 0x003aa6baf71e9df1ba492190a7b8c8ffae27903d4029c0fbe1149328d1fffa58c46d8ca2cab2743855da87a8e70d0fea0b736300735ec5e5c7bd50afce62270a

/-- The keeper's key, which signs the sample message as it really does. -/
def keypair : Keypair where
  pubkey := keeper
  sign_message msg := if msg = bytes then keeperSignature else List.replicate 64 0

def solana : SolanaCrate :=
  { AssemblySample.solana with
    base64_decode := fun s => [bytes, ownerSignature].find? fun bs =>
      decide (AssemblySample.base64Encode bs = s)
    message_deserialize := fun bs => if bs = bytes then some message else none
    token_instruction_unpack := fun
      | 3 :: rest =>
          if 8 ≤ rest.length then some (.transfer (BitVec.ofNat 64 (leNat (rest.take 8))))
          else none
      | _ => none
    verify := fun sig key msg =>
      decide ((sig, key, msg) ∈ [(keeperSignature, keeper, bytes), (ownerSignature, owner, bytes)]) }

def auth : SolanaAuth := AssemblySample.auth bytes ownerSignature

def state : AppState :=
  { AssemblySample.state bytes ownerSignature with solana := solana }

def task : PaymentTask := AssemblySample.task bytes ownerSignature

def worker : Worker := { Sample.worker with solana := solana, partial_sign := coSign solana keypair }

/-- What the worker sends. -/
def tx : SolanaTransaction := ⟨[keeperSignature, ownerSignature], message⟩

def ix : CompiledInstruction := ⟨4, [2, 3, 1, 0], 3 :: leBytes 8 1000000⟩

def accounts : List AccountMeta :=
  [⟨source, false, true⟩, ⟨receiver, false, true⟩, ⟨owner, true, true⟩, ⟨keeper, true, true⟩]

def transfers : Transfers := ⟨source, none, receiver, owner, 1000000⟩

theorem verified :
    SolanaVerified state AssemblySample.request auth bytes message ownerSignature ix
      (.transfer 1000000) transfers where
  reads_owner := by decide +kernel
  sent_from := by decide +kernel
  reads_receiver := by decide +kernel
  reads_amount := by decide +kernel
  decodes := by decide +kernel
  deserializes := by decide +kernel
  fee_payer := by decide +kernel
  instructions := rfl
  program := by decide +kernel
  unpacks := by decide +kernel
  transfer := ⟨rfl, rfl, ⟨2, rfl, rfl⟩, ⟨3, rfl, rfl⟩, ⟨1, rfl, rfl⟩⟩
  source := by decide +kernel
  configured := nofun
  signs := ⟨ownerSignature, by decide +kernel, by decide +kernel⟩
  verifies := by decide +kernel

theorem sent : .sendSolana tx ∈ (processTask worker task).log := by
  rw [processTask_solana rfl rfl]
  exact (@mem_processSolana _ _ { task with attempts := 1 } _ _ _ _ _ _ _ _ rfl rfl verified tx).mpr
    ⟨1, by decide +kernel, by decide +kernel, by decide +kernel⟩

/-! The token program, as far as a transfer goes. -/

instance (ms : Multisig) (passed : List AccountMeta) : Decidable (ms.Quorum passed) :=
  inferInstanceAs (Decidable (_ ∧ _))

instance (chain : SolanaChain) (authority : AccountMeta) (passed : List AccountMeta) :
    Decidable (chain.Signs authority passed) :=
  match h : chain.multisig authority.key with
  | some ms => decidable_of_iff (ms.Quorum passed) (by rw [SolanaChain.Signs, h])
  | none => decidable_of_iff (authority.isSigner = true) (by rw [SolanaChain.Signs, h])

def native : Pubkey := 0x069b8857feab8184fb687f634618c035dac439dc1aeb3b5598a0f00000000001

def transfer (chain : SolanaChain) (src dst authority : AccountMeta) (passed : List AccountMeta)
    (n : Nat) : Option SolanaChain := do
  let s ← chain.bank.token? src.key
  let d ← chain.bank.token? dst.key
  if (s.frozen = false ∧ d.frozen = false) ∧ s.mint = d.mint ∧ n ≤ s.amount ∧
      s.Authorizes authority.key n ∧ (src.key ≠ dst.key → d.amount + n < 2 ^ 64) ∧
      chain.Signs authority passed then
    some (chain.afterTransfer native src.key dst.key authority.key n s d)
  else none

def decimals (mint : Pubkey) : Option UInt8 := if mint = SolanaSample.mint then some 6 else none

def token (chain : SolanaChain) : List AccountMeta → TokenInstruction → Option SolanaChain
  | src :: dst :: authority :: passed, .transfer amount =>
      transfer chain src dst authority passed amount.toNat
  | src :: mint :: dst :: authority :: passed, .transferChecked amount d =>
      if decimals mint.key = some d ∧ (chain.bank.token? src.key).map (·.mint) = some mint.key then
        transfer chain src dst authority passed amount.toNat
      else none
  | _, _ => none

/-- A signature costs 5000 lamports. -/
def programs : SolanaPrograms where
  fee m := 5000 * m.header.num_required_signatures.toNat
  native_mint := native
  decimals := decimals
  token := token
  invoke _ _ _ _ := none

theorem transfer_some {chain chain' : SolanaChain} {src dst authority : AccountMeta}
    {passed : List AccountMeta} {n : Nat}
    (h : transfer chain src dst authority passed n = some chain') :
    ∃ s d, Movable chain src.key dst.key authority.key n s d ∧ chain.Signs authority passed ∧
      chain.bank.token? src.key = some s ∧
      chain' = chain.afterTransfer native src.key dst.key authority.key n s d := by
  obtain ⟨s, hs, h⟩ := Option.bind_eq_some_iff.mp h
  obtain ⟨d, hd, h⟩ := Option.bind_eq_some_iff.mp h
  split_ifs at h with hok
  obtain ⟨hthawed, hmint, hfunds, hauthority, hfits, hsigns⟩ := hok
  refine ⟨s, d, ⟨?_, ?_⟩, hsigns, hs, (Option.some.inj h).symm⟩
  · intro hne
    exact ⟨hs, hd, hthawed, hmint, hfunds, hauthority, hfits hne⟩
  · intro _
    exact ⟨hs, hfunds, hauthority⟩

/-- Only the keys and the authority's signers matter. -/
theorem transfer_signers {chain chain' : SolanaChain} {src dst authority src' dst' authority' : AccountMeta}
    {passed passed' : List AccountMeta} {n : Nat} (hsrc : src.key = src'.key)
    (hdst : dst.key = dst'.key) (hauthority : authority.key = authority'.key)
    (hsigns : chain.Signs authority' passed')
    (h : transfer chain src dst authority passed n = some chain') :
    transfer chain src' dst' authority' passed' n = some chain' := by
  obtain ⟨s, hs, h⟩ := Option.bind_eq_some_iff.mp h
  obtain ⟨d, hd, h⟩ := Option.bind_eq_some_iff.mp h
  split_ifs at h with hok
  obtain ⟨hthawed, hmint, hfunds, hmay, hfits, -⟩ := hok
  rw [hsrc] at hs
  rw [hdst] at hd
  rw [hsrc, hdst] at hfits
  rw [hauthority] at hmay
  rw [hsrc, hdst, hauthority] at h
  refine Option.bind_eq_some_iff.mpr ⟨s, hs, Option.bind_eq_some_iff.mpr ⟨d, hd, ?_⟩⟩
  rw [if_pos ⟨hthawed, hmint, hfunds, hmay, hfits, hsigns⟩]
  exact h

theorem documented : programs.Documented where
  transfer h := by
    rename_i chain accounts amount chain'
    change token _ _ _ = _ at h
    unfold token at h
    split at h
    case h_1 src dst authority passed _ heq =>
      cases heq
      obtain ⟨s, d, hmovable, hsigns, -, heffect⟩ := transfer_some h
      exact ⟨src, dst, authority, passed, s, d, rfl, hmovable, hsigns, heffect⟩
    case h_2 heq => cases heq
    case h_3 => cases h
  transferChecked h := by
    rename_i chain accounts amount dec chain'
    change token _ _ _ = _ at h
    unfold token at h
    split at h
    case h_1 heq => cases heq
    case h_2 src mint dst authority passed _ _ heq =>
      cases heq
      split_ifs at h with hmint
      obtain ⟨s, d, hmovable, hsigns, hs, heffect⟩ := transfer_some h
      rw [hs] at hmint
      exact ⟨src, mint, dst, authority, passed, s, d, rfl, hmovable, hsigns,
        Option.some.inj hmint.2, hmint.1, heffect⟩
    case h_3 => cases h
  signers h hsame hbehind hsigns := by
    rename_i chain accounts accounts' token_ix chain' authority passed
    change token _ _ _ = _ at h
    show token _ _ _ = _
    unfold token at h
    split at h
    case h_1 =>
      obtain _ | ⟨hsrc, _ | ⟨hdst, _ | ⟨hauthority, hpassed⟩⟩⟩ := hsame
      obtain ⟨rfl, rfl⟩ := List.cons.inj hbehind
      exact transfer_signers hsrc.1 hdst.1 hauthority.1 hsigns h
    case h_2 =>
      obtain _ | ⟨hsrc, _ | ⟨hmint, _ | ⟨hdst, _ | ⟨hauthority, hpassed⟩⟩⟩⟩ := hsame
      obtain ⟨rfl, rfl⟩ := List.cons.inj hbehind
      split_ifs at h with hok
      rw [hsrc.1, hmint.1] at hok
      exact (if_pos hok).trans (transfer_signers hsrc.1 hdst.1 hauthority.1 hsigns h)
    case h_3 => cases h

def usdc (holder : Pubkey) (amount : Nat) : AccountData :=
  .token ⟨SolanaSample.mint, holder, amount, none, 0, false, none⟩

/-- The owner holds two USDC; `multisig` is what is stored at the owner's own address. -/
def chain (multisig : Option Multisig) : SolanaChain where
  bank := ⟨fun k => if k = source then usdc owner 2000000 else if k = receiver then usdc receiver 0
    else .empty, [], [], 0⟩
  lamports k := if k = keeper then 1000000 else 0
  multisig k := if k = owner then multisig else none

theorem chain_mint {multisig : Option Multisig} {key : Pubkey} {s : TokenAccount}
    (h : (chain multisig).bank.token? key = some s) : s.mint = SolanaSample.mint := by
  unfold Bank.token? at h
  split at h
  case h_1 t heq =>
    obtain rfl := Option.some.inj h
    change (if key = source then usdc owner 2000000 else if key = receiver then usdc receiver 0
      else .empty) = _ at heq
    split_ifs at heq
    · cases heq
      rfl
    · cases heq
      rfl
  case h_2 => cases h

theorem owner_ne {o : Pubkey} (h : state.solana.pubkey_from_str auth.owner = some o) :
    o ≠ state.keeper_wallet := by
  rw [verified.reads_owner] at h
  rw [← Option.some.inj h]
  decide

end MultisigSample

open MultisigSample in
/-- An owner with a key of its own: the keeper behind the authority is ignored. -/
theorem keeper_safe_plain :
    ∃ chain', execute solana programs (chain none) tx = some chain' ∧
      KeeperSafe programs state.keeper_wallet state.mint
        ((chain none).charge state.keeper_wallet (programs.fee tx.message)) accounts
        (.transfer 1000000) transfers chain' := by
  have hruns : (execute solana programs (chain none) tx).isSome = true := by decide +kernel
  obtain ⟨chain', hexecuted⟩ := Option.isSome_iff_exists.mp hruns
  have haccepted : receivePayment state AssemblySample.request = .ok task := by decide +kernel
  obtain ⟨ix', token_ix, accounts', t, hixs, hunpack, haccounts, howner, hreceiver, -, hsource,
    htransfer, hiff⟩ := @keeper_safe_iff state AssemblySample.request task worker keypair auth tx
      programs (chain none) chain' documented rfl rfl haccepted rfl sent hexecuted
      (fun _ _ => chain_mint) (fun _ => owner_ne)
  obtain rfl : ix = ix' := (List.cons.inj hixs).1
  obtain rfl := Option.some.inj (verified.unpacks.symm.trans hunpack)
  have hpassed : tx.message.accountMetas ix = some accounts := by decide +kernel
  obtain rfl := Option.some.inj (hpassed.symm.trans haccounts)
  have howner := Option.some.inj (verified.reads_owner.symm.trans howner)
  have hreceiver := Option.some.inj (verified.reads_receiver.symm.trans hreceiver)
  rw [← howner, ← verified.source] at hsource
  obtain ⟨hamount, hmint, -⟩ := htransfer
  obtain rfl : transfers = t :=
    Transfers.ext hsource.symm hmint.symm hreceiver howner hamount.symm
  refine ⟨chain', hexecuted, hiff.mpr ?_⟩
  intro ms hms
  cases hms

open AssemblySample (keeper) in
open MultisigSample in
/-- The owner a multisig of the keeper alone: the transfer goes through, and would not without the
keeper's signature. -/
theorem keeper_unsafe_multisig :
    programs.Documented ∧ receivePayment state AssemblySample.request = .ok task ∧
      .sendSolana tx ∈ (processTask worker task).log ∧ tx.message.accountMetas ix = some accounts ∧
      ∃ chain', execute solana programs (chain (some ⟨1, [keeper]⟩)) tx = some chain' ∧
        ¬ KeeperSafe programs keeper SolanaSample.mint
          ((chain (some ⟨1, [keeper]⟩)).charge keeper (programs.fee tx.message))
          accounts (.transfer 1000000) transfers chain' := by
  have hruns : (execute solana programs (chain (some ⟨1, [keeper]⟩)) tx).isSome = true := by
    decide +kernel
  obtain ⟨chain', hexecuted⟩ := Option.isSome_iff_exists.mp hruns
  refine ⟨documented, by decide +kernel, sent, by decide +kernel, chain', hexecuted, ?_⟩
  intro hsafe
  have hfails : (programs.token
      ((chain (some ⟨1, [keeper]⟩)).charge keeper (programs.fee tx.message))
      (withoutSignature keeper accounts) (.transfer 1000000)).isSome = false := by decide +kernel
  rw [hsafe.unsigned] at hfails
  cases hfails

end Beanie.Api
