/-
# `Beanie.Solana.Program` — the deposit-receiver program, instruction by instruction

Anchor reads an instruction in three steps, and so does this file: the account
list is consumed position by position (`tryAccounts`: the types first, then the
constraints, both in field order), the arguments are read off the data, and the
handler runs.  `process` selects the instruction by the first eight bytes.

An instruction that fails changes nothing, so each function returns the bank
after it or the reason it failed.
-/
import Beanie.Lib.FeeSchedule
import Beanie.Lib.Reader
import Beanie.Solana.Accounts

namespace Beanie.Solana

def FEE_BPS : Nat := 50
def BPS_DENOM : Nat := 10000
def CALLER_SHARE_BPS : Nat := 1000
def MAX_RECEIVERS_PER_MERCHANT : Nat := 32
def CCTP_MAX_FEE_BPS : Nat := 3
def CCTP_MIN_FINALITY_THRESHOLD : BitVec 32 := 1000
def MAX_REG_TX_BYTES : Nat := 1024
def SAME_CHAIN_DOMAIN_SENTINEL : BitVec 32 := BitVec.allOnes 32

def FACTORY_SEED : Bytes := asciiBytes "factory".toList
def CONFIG_SEED : Bytes := asciiBytes "config".toList
def PENDING_SEED : Bytes := asciiBytes "pending".toList
def REGISTRY_SEED : Bytes := asciiBytes "registry".toList

def CCTP_TOKEN_MESSENGER_MINTER_V2 : List Char :=
  "CCTPV2vPZJS2u2BBsUoscuikbYjnpFmbFsvVuJdgUMQe".toList
def CCTP_MESSAGE_TRANSMITTER_V2 : List Char :=
  "CCTPV2Sm4AdWt5296sk4P66VBZ7bEhcARwFaaS9YPbeC".toList

/-- The schedule the constants spell out. -/
def rates : FeeRates where
  feeBps := FEE_BPS
  callerShareBps := CALLER_SHARE_BPS
  denom := BPS_DENOM
  denom_pos := by decide
  feeBps_lt := by decide
  callerShareBps_le := by decide

/-- `checked_mul` on `u64`. -/
def checkedMul (a b : Nat) : Except ProgramError Nat :=
  if a * b < 2 ^ 64 then .ok (a * b) else .error (.deposit .arithmeticOverflow)

/-- `checked_sub` on `u64`. -/
def checkedSub (a b : Nat) : Except ProgramError Nat :=
  if b ≤ a then .ok (a - b) else .error (.deposit .arithmeticOverflow)

theorem checkedMul_ok {a b n : Nat} : checkedMul a b = .ok n ↔ a * b < 2 ^ 64 ∧ a * b = n := by
  unfold checkedMul
  split_ifs with h
  · exact ⟨fun e => ⟨h, Except.ok.inj e⟩, fun e => congrArg _ e.2⟩
  · exact ⟨nofun, fun e => absurd e.1 h⟩

theorem checkedSub_ok {a b n : Nat} : checkedSub a b = .ok n ↔ b ≤ a ∧ a - b = n := by
  by_cases h : b ≤ a <;> simp [checkedSub, h]

/-! ## Routes -/

/-- `resolve_domain`. -/
def resolveDomain (factory : FactoryConfig) (chain : Bytes32) : Option (BitVec 32) :=
  if chain = bytes32Literal "STARKNET".toList then some factory.starknet_domain
  else if chain = bytes32Literal "BASE".toList then some factory.base_domain
  else if chain = bytes32Literal "ETHEREUM".toList then some factory.ethereum_domain
  else if chain = bytes32Literal "MONAD".toList then some factory.monad_domain
  else if chain = bytes32Literal "ARBITRUM".toList then some factory.arbitrum_domain
  else none

/-- `validate_route`. -/
def validateRoute (factory : FactoryConfig) (chain recipient : Bytes32) :
    Except ProgramError (BitVec 32) :=
  if chain ≠ 0 then do
    require (recipient ≠ 0) (.deposit .crossChainRequiresRecipient)
    okOr (resolveDomain factory chain) (.deposit .invalidDomain)
  else do
    require (recipient = 0) (.deposit .sameChainRecipientMustBeZero)
    .ok SAME_CHAIN_DOMAIN_SENTINEL

/-- The seeds of the two accounts bound to a full route. -/
def routeSeeds (kind : Bytes) (merchant receiver : Pubkey) (chain recipient : Bytes32) :
    List Bytes :=
  [kind, bytesOf merchant, bytesOf receiver, bytesOf chain, bytesOf recipient]

/-! ## Anchor's account types and constraints -/

/-- `Signer`. -/
def signer (m : AccountMeta) : Except ProgramError Unit :=
  require (m.isSigner = true) .accountNotSigner

/-- `#[account(mut)]`. -/
def mutable (m : AccountMeta) : Except ProgramError Unit :=
  require (m.isWritable = true) .constraintMut

/-- `Program<'info, T>`. -/
def program (m : AccountMeta) (id : Pubkey) : Except ProgramError Unit :=
  require (m.key = id) .invalidProgramId

/-- `Account<'info, TokenAccount>`. -/
def tokenAccount (b : Bank) (m : AccountMeta) : Except ProgramError TokenAccount :=
  okOr (b.token? m.key) .accountNotInitialized

/-- `Account<'info, Mint>`. -/
def mintAccount (b : Bank) (m : AccountMeta) : Except ProgramError Unit :=
  require (b.accounts m.key = .mint) .accountNotInitialized

/-- `Account<'info, FactoryConfig>`. -/
def factoryAccount (b : Bank) (m : AccountMeta) : Except ProgramError FactoryConfig :=
  match b.accounts m.key with
  | .factoryConfig c => .ok c
  | _ => .error .accountNotInitialized

/-- `Account<'info, ReceiverConfig>`. -/
def receiverConfigAccount (b : Bank) (m : AccountMeta) : Except ProgramError ReceiverConfig :=
  match b.accounts m.key with
  | .receiverConfig c => .ok c
  | _ => .error .accountNotInitialized

/-- `Account<'info, PendingRegistration>`. -/
def pendingAccount (b : Bank) (m : AccountMeta) : Except ProgramError PendingRegistration :=
  match b.accounts m.key with
  | .pending p => .ok p
  | _ => .error .accountNotInitialized

/-- `Option<T>`: the program's own id stands for `None`. -/
def optional {α : Type} (rt : Runtime) (m : AccountMeta) (type : Except ProgramError α) :
    Except ProgramError (Option α) :=
  if m.key = rt.programId then .ok none
  else do
    let a ← type
    .ok (some a)

/-- `UncheckedAccount`. -/
def unchecked (m : AccountMeta) : Except ProgramError Pubkey := .ok m.key

/-- `#[account(mut)]` on an `Option`. -/
def mutableIfSome (rt : Runtime) (m : AccountMeta) : Except ProgramError Unit :=
  if m.key = rt.programId then .ok () else mutable m

/-- `seeds = [..], bump = stored`. -/
def seedsWithBump (rt : Runtime) (m : AccountMeta) (seeds : List Bytes) (bump : UInt8) :
    Except ProgramError Unit :=
  require (rt.createProgramAddress (seeds ++ [[bump]]) rt.programId = some m.key) .constraintSeeds

/-- `init, seeds = [..], bump`: the address is the canonical one, and it is free.  Returns the
canonical bump. -/
def initAccount (rt : Runtime) (b : Bank) (m : AccountMeta) (seeds : List Bytes) :
    Except ProgramError UInt8 := do
  let found := rt.findProgramAddress seeds rt.programId
  require (m.key = found.1) .constraintSeeds
  mutable m
  require (b.accounts m.key = .empty) .accountAlreadyInUse
  .ok found.2

@[simp] theorem signer_new (k : Pubkey) : signer (.new k true) = .ok () := rfl
@[simp] theorem mutable_new (k : Pubkey) (signs : Bool) : mutable (.new k signs) = .ok () := rfl
@[simp] theorem program_newReadonly (k : Pubkey) (signs : Bool) :
    program (.newReadonly k signs) k = .ok () := require_of _ rfl

theorem initAccount_of {rt : Runtime} {b : Bank} {m : AccountMeta} {seeds : List Bytes}
    (hkey : m.key = (rt.findProgramAddress seeds rt.programId).1) (hmut : m.isWritable = true)
    (hfree : b.accounts m.key = .empty) :
    initAccount rt b m seeds = .ok (rt.findProgramAddress seeds rt.programId).2 := by
  simp only [initAccount, mutable]
  rw [require_of _ hkey, ok_bind, require_of _ hmut, ok_bind, require_of _ hfree, ok_bind]

structure InitializeFactoryArgs where
  starknet_domain : BitVec 32
  base_domain : BitVec 32
  ethereum_domain : BitVec 32
  monad_domain : BitVec 32
  arbitrum_domain : BitVec 32
deriving DecidableEq

def u32 : Reader UInt8 (BitVec 32) := BitVec.ofNat 32 <$> Borsh.uint 4

def InitializeFactoryArgs.read : Reader UInt8 InitializeFactoryArgs := do
  let starknet ← u32
  let base ← u32
  let ethereum ← u32
  let monad ← u32
  let arbitrum ← u32
  pure ⟨starknet, base, ethereum, monad, arbitrum⟩

def initializeFactory (rt : Runtime) (b : Bank) (metas : List AccountMeta)
    (args : InitializeFactoryArgs) : Except ProgramError Bank :=
  match metas with
  | payer :: mint :: treasury :: factory :: system :: _ => do
      signer payer
      mintAccount b mint
      let treasury_token_account ← tokenAccount b treasury
      program system rt.systemProgram
      mutable payer
      require (treasury_token_account.mint = mint.key) (.deposit .wrongMint)
      let bump ← initAccount rt b factory [FACTORY_SEED]
      require ([args.starknet_domain, args.base_domain, args.ethereum_domain, args.monad_domain,
        args.arbitrum_domain].Pairwise (· ≠ ·)) (.deposit .duplicateDomains)
      let cfg : FactoryConfig :=
        ⟨mint.key, treasury.key, args.starknet_domain, args.base_domain, args.ethereum_domain,
          args.monad_domain, args.arbitrum_domain, bump⟩
      .ok ((b.set factory.key (.factoryConfig cfg)).emit
        (.factoryInitialized mint.key treasury.key args.starknet_domain args.base_domain
          args.ethereum_domain args.monad_domain args.arbitrum_domain))
  | _ => .error .accountNotEnoughKeys

/-! ## `announce_merchant` -/

structure AnnounceArgs where
  merchant : Pubkey
  cctp_mint_chain : Bytes32
  cctp_mint_recipient : Bytes32
  receiver : Pubkey
  reg_tx : Bytes
deriving DecidableEq

def AnnounceArgs.read : Reader UInt8 AnnounceArgs := do
  let merchant ← Borsh.array32
  let chain ← Borsh.array32
  let recipient ← Borsh.array32
  let receiver ← Borsh.array32
  let reg_tx ← Borsh.vec
  pure ⟨merchant, chain, recipient, receiver, reg_tx⟩

/-- The `AnnounceMerchant` context, validated: the factory configuration, the pending account's
key and its bump. -/
def announceAccounts (rt : Runtime) (b : Bank) (metas : List AccountMeta) (args : AnnounceArgs) :
    Except ProgramError (FactoryConfig × Pubkey × UInt8) :=
  match metas with
  | payer :: factory :: pending :: system :: _ => do
      signer payer
      let factory_config ← factoryAccount b factory
      program system rt.systemProgram
      mutable payer
      seedsWithBump rt factory [FACTORY_SEED] factory_config.bump
      let bump ← initAccount rt b pending (routeSeeds PENDING_SEED args.merchant args.receiver
        args.cctp_mint_chain args.cctp_mint_recipient)
      .ok (factory_config, pending.key, bump)
  | _ => .error .accountNotEnoughKeys

def announceMerchant (rt : Runtime) (b : Bank) (metas : List AccountMeta) (args : AnnounceArgs) :
    Except ProgramError Bank := do
  let (factory_config, pending, bump) ← announceAccounts rt b metas args
  require (args.reg_tx ≠ []) (.deposit .emptyRegTx)
  require (args.reg_tx.length ≤ MAX_REG_TX_BYTES) (.deposit .regTxTooLarge)
  let _ ← validateRoute factory_config args.cctp_mint_chain args.cctp_mint_recipient
  let mint := factory_config.mint
  let receiver_config := (rt.findProgramAddress (routeSeeds CONFIG_SEED args.merchant
    args.receiver args.cctp_mint_chain args.cctp_mint_recipient) rt.programId).1
  .ok ((b.set pending (.pending ⟨bump, args.reg_tx⟩)).emit
    (.receiverAnnounced args.merchant args.receiver (rt.ata args.receiver mint) receiver_config
      (rt.ata receiver_config mint) pending args.cctp_mint_chain args.cctp_mint_recipient))

/-! ## `register_merchant` -/

structure RegisterArgs where
  merchant : Pubkey
  cctp_mint_chain : Bytes32
  cctp_mint_recipient : Bytes32
deriving DecidableEq

def RegisterArgs.read : Reader UInt8 RegisterArgs := do
  let merchant ← Borsh.array32
  let chain ← Borsh.array32
  let recipient ← Borsh.array32
  pure ⟨merchant, chain, recipient⟩

/-- The `RegisterMerchant` context, validated. -/
structure RegisterMerchant where
  receiver : Pubkey
  factory_config : FactoryConfig
  receiver_token_account : Pubkey
  merchant_token_account : Pubkey
  receiver_config : Pubkey
  receiver_config_bump : UInt8
  merchant_registry : Pubkey
  registry : MerchantRegistry
  pending_registration : Pubkey

/-- `init_if_needed` on the registry: created empty when it is not there. -/
def initRegistry (rt : Runtime) (b : Bank) (m : AccountMeta) (seeds : List Bytes) :
    Except ProgramError MerchantRegistry := do
  require (m.key = (rt.findProgramAddress seeds rt.programId).1) .constraintSeeds
  mutable m
  match b.accounts m.key with
  | .empty => .ok ⟨0, []⟩
  | .registry r => .ok r
  | _ => .error .accountNotInitialized

def registerAccounts (rt : Runtime) (b : Bank) (metas : List AccountMeta) (args : RegisterArgs) :
    Except ProgramError (Bank × RegisterMerchant) :=
  match metas with
  | payer :: receiver :: factory :: receiver_ta :: merchant_ta :: config :: staging :: registry ::
      pending :: system :: token :: _ => do
      signer payer
      signer receiver
      let factory_config ← factoryAccount b factory
      let receiver_token_account ← tokenAccount b receiver_ta
      let merchant_token_account ← tokenAccount b merchant_ta
      let staging_account ← tokenAccount b staging
      let pending_registration ← pendingAccount b pending
      program system rt.systemProgram
      program token rt.tokenProgram
      mutable payer
      seedsWithBump rt factory [FACTORY_SEED] factory_config.bump
      mutable receiver_ta
      require (receiver_token_account.mint = factory_config.mint) (.deposit .wrongMint)
      require (receiver_token_account.owner = receiver.key) (.deposit .wrongReceiver)
      require (receiver_ta.key = rt.ata receiver.key factory_config.mint)
        (.deposit .nonCanonicalReceiverAta)
      require (merchant_token_account.mint = factory_config.mint) (.deposit .wrongMint)
      let bump ← initAccount rt b config (routeSeeds CONFIG_SEED args.merchant receiver.key
        args.cctp_mint_chain args.cctp_mint_recipient)
      let b := b.set config.key (.receiverConfig ⟨0, 0, 0, 0, 0, 0, 0, 0⟩)
      require (staging_account.mint = factory_config.mint) (.deposit .wrongMint)
      require (staging.key = rt.ata config.key factory_config.mint) (.deposit .wrongStagingAccount)
      let merchant_registry ← initRegistry rt b registry [REGISTRY_SEED, bytesOf args.merchant]
      mutable pending
      seedsWithBump rt pending (routeSeeds PENDING_SEED args.merchant receiver.key
        args.cctp_mint_chain args.cctp_mint_recipient) pending_registration.bump
      .ok (b,
        { receiver := receiver.key
          factory_config := factory_config
          receiver_token_account := receiver_ta.key
          merchant_token_account := merchant_ta.key
          receiver_config := config.key
          receiver_config_bump := bump
          merchant_registry := registry.key
          registry := merchant_registry
          pending_registration := pending.key })
  | _ => .error .accountNotEnoughKeys

def registerMerchant (rt : Runtime) (b : Bank) (metas : List AccountMeta) (args : RegisterArgs) :
    Except ProgramError Bank := do
  let (b, a) ← registerAccounts rt b metas args
  require (a.registry.receivers.length < MAX_RECEIVERS_PER_MERCHANT)
    (.deposit .maxReceiversExceeded)
  let cctp_domain_id ← validateRoute a.factory_config args.cctp_mint_chain args.cctp_mint_recipient
  let b ← rt.tokenApprove b a.receiver_token_account a.receiver_config a.receiver (2 ^ 64 - 1)
  let b ← rt.tokenSetCloseAuthority b a.receiver_token_account a.receiver a.receiver_config
  let cfg : ReceiverConfig :=
    { receiver := a.receiver
      merchant := args.merchant
      mint := a.factory_config.mint
      merchant_token_account := a.merchant_token_account
      cctp_mint_chain := args.cctp_mint_chain
      cctp_mint_recipient := args.cctp_mint_recipient
      cctp_domain_id := cctp_domain_id
      bump := a.receiver_config_bump }
  let registry : MerchantRegistry :=
    { merchant := if a.registry.merchant = 0 then args.merchant else a.registry.merchant
      receivers := a.registry.receivers ++ [a.receiver_config] }
  -- on exit Anchor writes the two accounts back and closes the pending one
  .ok ((((b.set a.receiver_config (.receiverConfig cfg)).set a.merchant_registry
    (.registry registry)).set a.pending_registration .empty).emit
    (.receiverRegistered args.merchant a.receiver a.receiver_config a.receiver_token_account
      args.cctp_mint_chain args.cctp_mint_recipient))

/-! ## `sweep` -/

/-- The `Sweep` context, validated. -/
structure Sweep where
  caller : Pubkey
  caller_token_account : Pubkey
  receiver_token_account : Pubkey
  factory_config : FactoryConfig
  treasury_token_account : Pubkey
  receiver_config_key : Pubkey
  receiver_config : ReceiverConfig
  merchant_token_account : Option Pubkey
  cctp_burn_staging_account : Option Pubkey
  event_rent_payer : Option Pubkey
  message_sent_event_data : Option Pubkey
  burn_token_mint : Option Pubkey
  cctp_sender_authority_pda : Option Pubkey
  cctp_denylist_account : Option Pubkey
  cctp_message_transmitter : Option Pubkey
  cctp_token_messenger : Option Pubkey
  cctp_remote_token_messenger : Option Pubkey
  cctp_token_minter : Option Pubkey
  cctp_local_token : Option Pubkey
  cctp_event_authority : Option Pubkey
  cctp_message_transmitter_program : Option Pubkey
  cctp_token_messenger_minter_program : Option Pubkey

/-- A typed account, kept by its key. -/
def keyed {α : Type} (m : AccountMeta) (type : Except ProgramError α) :
    Except ProgramError Pubkey := do
  let _ ← type
  .ok m.key

def sweepAccounts (rt : Runtime) (b : Bank) (metas : List AccountMeta) :
    Except ProgramError Sweep :=
  match metas with
  | caller :: caller_ta :: receiver_ta :: factory :: treasury_ta :: config :: merchant_ta ::
      staging :: rent_payer :: event_data :: burn_mint :: sender_authority :: denylist ::
      transmitter :: messenger :: remote_messenger :: minter :: local_token :: event_authority ::
      transmitter_program :: minter_program :: token :: system :: _ => do
      signer caller
      let caller_token_account ← tokenAccount b caller_ta
      let _ ← tokenAccount b receiver_ta
      let factory_config ← factoryAccount b factory
      let _ ← tokenAccount b treasury_ta
      let receiver_config ← receiverConfigAccount b config
      let merchant_token_account ←
        optional rt merchant_ta (keyed merchant_ta (tokenAccount b merchant_ta))
      let cctp_burn_staging_account ← optional rt staging (keyed staging (tokenAccount b staging))
      let event_rent_payer ← optional rt rent_payer (keyed rent_payer (signer rent_payer))
      let message_sent_event_data ← optional rt event_data (keyed event_data (signer event_data))
      let burn_token_mint ← optional rt burn_mint (keyed burn_mint (mintAccount b burn_mint))
      let cctp_sender_authority_pda ← optional rt sender_authority (unchecked sender_authority)
      let cctp_denylist_account ← optional rt denylist (unchecked denylist)
      let cctp_message_transmitter ← optional rt transmitter (unchecked transmitter)
      let cctp_token_messenger ← optional rt messenger (unchecked messenger)
      let cctp_remote_token_messenger ← optional rt remote_messenger (unchecked remote_messenger)
      let cctp_token_minter ← optional rt minter (unchecked minter)
      let cctp_local_token ← optional rt local_token (unchecked local_token)
      let cctp_event_authority ← optional rt event_authority (unchecked event_authority)
      let cctp_message_transmitter_program ←
        optional rt transmitter_program (unchecked transmitter_program)
      let cctp_token_messenger_minter_program ←
        optional rt minter_program (unchecked minter_program)
      program token rt.tokenProgram
      program system rt.systemProgram
      mutable caller_ta
      require (caller_token_account.owner = caller.key) (.deposit .wrongCaller)
      require (caller_token_account.mint = factory_config.mint) (.deposit .wrongMint)
      mutable receiver_ta
      require (receiver_ta.key = rt.ata receiver_config.receiver factory_config.mint)
        (.deposit .wrongReceiver)
      seedsWithBump rt factory [FACTORY_SEED] factory_config.bump
      mutable treasury_ta
      require (treasury_ta.key = factory_config.treasury_token_account) (.deposit .wrongTreasury)
      seedsWithBump rt config (routeSeeds CONFIG_SEED receiver_config.merchant
        receiver_config.receiver receiver_config.cctp_mint_chain
        receiver_config.cctp_mint_recipient) receiver_config.bump
      mutableIfSome rt merchant_ta
      mutableIfSome rt staging
      mutableIfSome rt rent_payer
      mutableIfSome rt event_data
      mutableIfSome rt burn_mint
      mutableIfSome rt transmitter
      mutableIfSome rt local_token
      .ok
        { caller := caller.key
          caller_token_account := caller_ta.key
          receiver_token_account := receiver_ta.key
          factory_config := factory_config
          treasury_token_account := treasury_ta.key
          receiver_config_key := config.key
          receiver_config := receiver_config
          merchant_token_account := merchant_token_account
          cctp_burn_staging_account := cctp_burn_staging_account
          event_rent_payer := event_rent_payer
          message_sent_event_data := message_sent_event_data
          burn_token_mint := burn_token_mint
          cctp_sender_authority_pda := cctp_sender_authority_pda
          cctp_denylist_account := cctp_denylist_account
          cctp_message_transmitter := cctp_message_transmitter
          cctp_token_messenger := cctp_token_messenger
          cctp_remote_token_messenger := cctp_remote_token_messenger
          cctp_token_minter := cctp_token_minter
          cctp_local_token := cctp_local_token
          cctp_event_authority := cctp_event_authority
          cctp_message_transmitter_program := cctp_message_transmitter_program
          cctp_token_messenger_minter_program := cctp_token_messenger_minter_program }
  | _ => .error .accountNotEnoughKeys

/-- `token::transfer` out of the receiver's token account, signed by the configuration's seeds. -/
def transferSigned (rt : Runtime) (b : Bank) (a : Sweep) (dst : Pubkey) (amount : Nat) :
    Except ProgramError Bank := do
  let cfg := a.receiver_config
  require (rt.createProgramAddress (routeSeeds CONFIG_SEED cfg.merchant cfg.receiver
    cfg.cctp_mint_chain cfg.cctp_mint_recipient ++ [[cfg.bump]]) rt.programId
      = some a.receiver_config_key) .privilegeEscalation
  rt.tokenTransfer b a.receiver_token_account dst a.receiver_config_key amount

/-- A fee payment, skipped at zero. -/
def payIfPositive (rt : Runtime) (b : Bank) (a : Sweep) (dst : Pubkey) (amount : Nat) :
    Except ProgramError Bank :=
  if 0 < amount then transferSigned rt b a dst amount else .ok b

/-- The same-chain branch. -/
def settleSameChain (rt : Runtime) (b : Bank) (a : Sweep) (net : Nat) :
    Except ProgramError Bank := do
  let merchant_token_account ← okOr a.merchant_token_account (.deposit .missingMerchantAccount)
  require (merchant_token_account = a.receiver_config.merchant_token_account)
    (.deposit .wrongMerchant)
  transferSigned rt b a merchant_token_account net

/-- The account list of the CCTP call. -/
def cctpAccounts (rt : Runtime) (a : Sweep) (staging rent_payer event_data burn_mint
    sender_authority denylist transmitter messenger remote_messenger minter local_token
    event_authority transmitter_program minter_program : Pubkey) : List AccountMeta :=
  [.newReadonly a.receiver_config_key true, .new rent_payer true,
   .newReadonly sender_authority false, .new staging false, .newReadonly denylist false,
   .new transmitter false, .newReadonly messenger false, .newReadonly remote_messenger false,
   .newReadonly minter false, .new local_token false, .new burn_mint false,
   .new event_data true, .newReadonly transmitter_program false,
   .newReadonly minter_program false, .newReadonly rt.tokenProgram false,
   .newReadonly rt.systemProgram false, .newReadonly event_authority false,
   .newReadonly minter_program false]

/-- The cross-chain branch: move the net amount to the staging account and burn it there. -/
def settleCrossChain (rt : Runtime) (b : Bank) (a : Sweep) (balance net : Nat) :
    Except ProgramError (Bank × Nat) := do
  let missing : ProgramError := .deposit .missingCctpAccounts
  let staging ← okOr a.cctp_burn_staging_account missing
  let rent_payer ← okOr a.event_rent_payer missing
  let event_data ← okOr a.message_sent_event_data missing
  let burn_mint ← okOr a.burn_token_mint missing
  let sender_authority ← okOr a.cctp_sender_authority_pda missing
  let denylist ← okOr a.cctp_denylist_account missing
  let transmitter ← okOr a.cctp_message_transmitter missing
  let messenger ← okOr a.cctp_token_messenger missing
  let remote_messenger ← okOr a.cctp_remote_token_messenger missing
  let minter ← okOr a.cctp_token_minter missing
  let local_token ← okOr a.cctp_local_token missing
  let event_authority ← okOr a.cctp_event_authority missing
  let transmitter_program ← okOr a.cctp_message_transmitter_program missing
  let minter_program ← okOr a.cctp_token_messenger_minter_program missing
  require (minter_program = rt.fromStr CCTP_TOKEN_MESSENGER_MINTER_V2) (.deposit .wrongCctpProgram)
  require (transmitter_program = rt.fromStr CCTP_MESSAGE_TRANSMITTER_V2)
    (.deposit .wrongCctpProgram)
  require (staging = rt.ata a.receiver_config_key a.factory_config.mint)
    (.deposit .wrongStagingAccount)
  let b ← transferSigned rt b a staging net
  let max_fee := (← checkedMul balance CCTP_MAX_FEE_BPS) / BPS_DENOM
  let params : DepositForBurnParams :=
    { amount := net
      destination_domain := a.receiver_config.cctp_domain_id
      mint_recipient := a.receiver_config.cctp_mint_recipient
      destination_caller := 0
      max_fee := max_fee
      min_finality_threshold := CCTP_MIN_FINALITY_THRESHOLD }
  let b ← rt.invokeCctp b
    { programId := minter_program
      accounts := cctpAccounts rt a staging rent_payer event_data burn_mint sender_authority
        denylist transmitter messenger remote_messenger minter local_token event_authority
        transmitter_program minter_program
      data := rt.anchorDiscriminator "deposit_for_burn".toList ++ params.toVec }
  .ok (b, max_fee)

/-- The handler. -/
def sweepHandler (rt : Runtime) (b : Bank) (a : Sweep) : Except ProgramError Bank := do
  let balance := b.amount a.receiver_token_account
  if balance = 0 then .ok b
  else do
    let fee := (← checkedMul balance FEE_BPS) / BPS_DENOM
    let net ← checkedSub balance fee
    let fee_to_caller := (← checkedMul fee CALLER_SHARE_BPS) / BPS_DENOM
    let fee_to_treasury ← checkedSub fee fee_to_caller
    let b ← payIfPositive rt b a a.caller_token_account fee_to_caller
    let b ← payIfPositive rt b a a.treasury_token_account fee_to_treasury
    if a.receiver_config.cctp_mint_chain = 0 then do
      let b ← settleSameChain rt b a net
      .ok (b.emit (.swept a.receiver_config_key a.receiver_config.receiver balance net fee
        fee_to_caller fee_to_treasury b.slot))
    else do
      let (b, max_fee) ← settleCrossChain rt b a balance net
      .ok (b.emit (.sweptCrossChain a.receiver_config_key a.receiver_config.receiver balance net
        fee fee_to_caller fee_to_treasury a.receiver_config.cctp_domain_id max_fee))

def sweep (rt : Runtime) (b : Bank) (metas : List AccountMeta) : Except ProgramError Bank := do
  let a ← sweepAccounts rt b metas
  sweepHandler rt b a

/-! ## Dispatch -/

/-- The arguments after the discriminator; what follows them is ignored. -/
def readArgs {α : Type} (r : Reader UInt8 α) (data : Bytes) : Except ProgramError α :=
  okOr ((r (data.drop 8)).map Prod.fst) .instructionDidNotDeserialize

/-- One instruction. -/
def process (rt : Runtime) (b : Bank) (ix : Instruction) : Except ProgramError Bank :=
  if ix.data.take 8 = rt.anchorDiscriminator "initialize_factory".toList then do
    initializeFactory rt b ix.accounts (← readArgs InitializeFactoryArgs.read ix.data)
  else if ix.data.take 8 = rt.anchorDiscriminator "announce_merchant".toList then do
    announceMerchant rt b ix.accounts (← readArgs AnnounceArgs.read ix.data)
  else if ix.data.take 8 = rt.anchorDiscriminator "register_merchant".toList then do
    registerMerchant rt b ix.accounts (← readArgs RegisterArgs.read ix.data)
  else if ix.data.take 8 = rt.anchorDiscriminator "sweep".toList then
    sweep rt b ix.accounts
  else .error .instructionFallbackNotFound

/-- A transaction of one instruction: an error leaves the bank as it was. -/
def transact (rt : Runtime) (b : Bank) (ix : Instruction) : Bank :=
  match process rt b ix with
  | .ok b' => b'
  | .error _ => b

end Beanie.Solana
