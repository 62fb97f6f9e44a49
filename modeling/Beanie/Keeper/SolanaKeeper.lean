/-
# `Beanie.Keeper.SolanaKeeper` — the instructions the keeper builds

`solana_keeper.rs`: address derivations, argument encodings and account lists,
kept by hand in a crate that does not depend on the program.  They are written
here as the keeper writes them; that they match the program is proved in
`Beanie.Keeper.SolanaAcceptance`.
-/
import Beanie.Solana.Accounts

namespace Beanie.Keeper

open Beanie.Solana

def FACTORY_SEED : Bytes := asciiBytes "factory".toList
def CONFIG_SEED : Bytes := asciiBytes "config".toList
def PENDING_SEED : Bytes := asciiBytes "pending".toList
def REGISTRY_SEED : Bytes := asciiBytes "registry".toList

def CCTP_SENDER_AUTHORITY_SEED : Bytes := asciiBytes "sender_authority".toList
def CCTP_DENYLIST_SEED : Bytes := asciiBytes "denylist_account".toList
def CCTP_MESSAGE_TRANSMITTER_SEED : Bytes := asciiBytes "message_transmitter".toList
def CCTP_TOKEN_MESSENGER_SEED : Bytes := asciiBytes "token_messenger".toList
def CCTP_REMOTE_TOKEN_MESSENGER_SEED : Bytes := asciiBytes "remote_token_messenger".toList
def CCTP_TOKEN_MINTER_SEED : Bytes := asciiBytes "token_minter".toList
def CCTP_LOCAL_TOKEN_SEED : Bytes := asciiBytes "local_token".toList
def CCTP_EVENT_AUTHORITY_SEED : Bytes := asciiBytes "__event_authority".toList

def CCTP_TOKEN_MESSENGER_MINTER_V2 : List Char :=
  "CCTPV2vPZJS2u2BBsUoscuikbYjnpFmbFsvVuJdgUMQe".toList
def CCTP_MESSAGE_TRANSMITTER_V2 : List Char :=
  "CCTPV2Sm4AdWt5296sk4P66VBZ7bEhcARwFaaS9YPbeC".toList

section
variable (rt : Runtime)

/-! ## Derivations -/

def deriveFactoryConfig (program_id : Pubkey) : Pubkey :=
  (rt.findProgramAddress [FACTORY_SEED] program_id).1

def deriveReceiverConfig (program_id merchant receiver : Pubkey) (chain recipient : Bytes32) :
    Pubkey :=
  (rt.findProgramAddress [CONFIG_SEED, bytesOf merchant, bytesOf receiver, bytesOf chain,
    bytesOf recipient] program_id).1

def derivePendingRegistration (program_id merchant receiver : Pubkey)
    (chain recipient : Bytes32) : Pubkey :=
  (rt.findProgramAddress [PENDING_SEED, bytesOf merchant, bytesOf receiver, bytesOf chain,
    bytesOf recipient] program_id).1

def deriveMerchantRegistry (program_id merchant : Pubkey) : Pubkey :=
  (rt.findProgramAddress [REGISTRY_SEED, bytesOf merchant] program_id).1

def cctpTokenMessengerMinterId : Pubkey := rt.fromStr CCTP_TOKEN_MESSENGER_MINTER_V2

def cctpMessageTransmitterId : Pubkey := rt.fromStr CCTP_MESSAGE_TRANSMITTER_V2

/-- The addresses that belong to Circle's token messenger. -/
def deriveMinterPda (seeds : List Bytes) : Pubkey :=
  (rt.findProgramAddress seeds (cctpTokenMessengerMinterId rt)).1

def deriveCctpSenderAuthorityPda : Pubkey := deriveMinterPda rt [CCTP_SENDER_AUTHORITY_SEED]

def deriveCctpDenylistAccount (owner : Pubkey) : Pubkey :=
  deriveMinterPda rt [CCTP_DENYLIST_SEED, bytesOf owner]

def deriveCctpMessageTransmitter : Pubkey :=
  (rt.findProgramAddress [CCTP_MESSAGE_TRANSMITTER_SEED] (cctpMessageTransmitterId rt)).1

def deriveCctpTokenMessenger : Pubkey := deriveMinterPda rt [CCTP_TOKEN_MESSENGER_SEED]

/-- The domain enters the seed in decimal. -/
def deriveCctpRemoteTokenMessenger (domain : BitVec 32) : Pubkey :=
  deriveMinterPda rt
    [CCTP_REMOTE_TOKEN_MESSENGER_SEED, asciiBytes (Nat.toDigits 10 domain.toNat)]

def deriveCctpTokenMinter : Pubkey := deriveMinterPda rt [CCTP_TOKEN_MINTER_SEED]

def deriveCctpLocalToken (mint : Pubkey) : Pubkey :=
  deriveMinterPda rt [CCTP_LOCAL_TOKEN_SEED, bytesOf mint]

def deriveCctpEventAuthority : Pubkey := deriveMinterPda rt [CCTP_EVENT_AUTHORITY_SEED]

/-! ## Arguments -/

def encodeRegisterMerchantArgs (merchant : Pubkey) (chain recipient : Bytes32) : Bytes :=
  rt.anchorDiscriminator "register_merchant".toList
    ++ (bytesOf merchant ++ (bytesOf chain ++ bytesOf recipient))

def encodeAnnounceMerchantArgs (merchant : Pubkey) (chain recipient : Bytes32)
    (receiver : Pubkey) (reg_tx : Bytes) : Bytes :=
  rt.anchorDiscriminator "announce_merchant".toList
    ++ (bytesOf merchant ++ (bytesOf chain ++ (bytesOf recipient ++ (bytesOf receiver
      ++ (leBytes 4 reg_tx.length ++ reg_tx)))))

/-! ## Account lists -/

/-- The `register_merchant` instruction of `prepare_registration`. -/
def registerIx (keeper receiver_pk program_id merchant : Pubkey) (chain recipient : Bytes32)
    (usdc_mint : Pubkey) : Instruction :=
  let receiver_config := deriveReceiverConfig rt program_id merchant receiver_pk chain recipient
  { programId := program_id
    accounts :=
      [.new keeper true,
       .newReadonly receiver_pk true,
       .newReadonly (deriveFactoryConfig rt program_id) false,
       .new (rt.ata receiver_pk usdc_mint) false,
       .newReadonly (rt.ata merchant usdc_mint) false,
       .new receiver_config false,
       .newReadonly (rt.ata receiver_config usdc_mint) false,
       .new (deriveMerchantRegistry rt program_id merchant) false,
       .new (derivePendingRegistration rt program_id merchant receiver_pk chain recipient) false,
       .newReadonly rt.tokenProgram false,
       .newReadonly rt.systemProgram false]
    data := encodeRegisterMerchantArgs rt merchant chain recipient }

/-- The instruction of `announce_merchant`. -/
def announceIx (keeper program_id merchant : Pubkey) (chain recipient : Bytes32)
    (receiver : Pubkey) (reg_tx : Bytes) : Instruction where
  programId := program_id
  accounts :=
    [.new keeper true,
     .newReadonly (deriveFactoryConfig rt program_id) false,
     .new (derivePendingRegistration rt program_id merchant receiver chain recipient) false,
     .newReadonly rt.systemProgram false]
  data := encodeAnnounceMerchantArgs rt merchant chain recipient receiver reg_tx

structure SameChainSweepAccounts where
  caller : Pubkey
  caller_token_account : Pubkey
  receiver_token_account : Pubkey
  factory_config : Pubkey
  treasury_token_account : Pubkey
  receiver_config : Pubkey
  merchant_token_account : Pubkey

/-- `build_same_chain_sweep_ix`: the fourteen CCTP slots hold the program's id. -/
def buildSameChainSweepIx (program_id : Pubkey) (a : SameChainSweepAccounts) : Instruction where
  programId := program_id
  accounts :=
    [.newReadonly a.caller true,
     .new a.caller_token_account false,
     .new a.receiver_token_account false,
     .newReadonly a.factory_config false,
     .new a.treasury_token_account false,
     .newReadonly a.receiver_config false,
     .new a.merchant_token_account false,
     .newReadonly program_id false,
     .newReadonly program_id false,
     .newReadonly program_id false,
     .newReadonly program_id false,
     .newReadonly program_id false,
     .newReadonly program_id false,
     .newReadonly program_id false,
     .newReadonly program_id false,
     .newReadonly program_id false,
     .newReadonly program_id false,
     .newReadonly program_id false,
     .newReadonly program_id false,
     .newReadonly program_id false,
     .newReadonly program_id false,
     .newReadonly rt.tokenProgram false,
     .newReadonly rt.systemProgram false]
  data := rt.anchorDiscriminator "sweep".toList

structure CrossChainSweepAccounts where
  caller : Pubkey
  caller_token_account : Pubkey
  receiver_token_account : Pubkey
  factory_config : Pubkey
  treasury_token_account : Pubkey
  receiver_config : Pubkey
  cctp_burn_staging_account : Pubkey
  event_rent_payer : Pubkey
  message_sent_event_data : Pubkey
  burn_token_mint : Pubkey
  cctp_sender_authority_pda : Pubkey
  cctp_denylist_account : Pubkey
  cctp_message_transmitter : Pubkey
  cctp_token_messenger : Pubkey
  cctp_remote_token_messenger : Pubkey
  cctp_token_minter : Pubkey
  cctp_local_token : Pubkey
  cctp_event_authority : Pubkey

/-- `build_cross_chain_sweep_ix`. -/
def buildCrossChainSweepIx (program_id : Pubkey) (a : CrossChainSweepAccounts) : Instruction where
  programId := program_id
  accounts :=
    [.newReadonly a.caller true,
     .new a.caller_token_account false,
     .new a.receiver_token_account false,
     .newReadonly a.factory_config false,
     .new a.treasury_token_account false,
     .newReadonly a.receiver_config false,
     .newReadonly program_id false,
     .new a.cctp_burn_staging_account false,
     .new a.event_rent_payer true,
     .new a.message_sent_event_data true,
     .new a.burn_token_mint false,
     .newReadonly a.cctp_sender_authority_pda false,
     .newReadonly a.cctp_denylist_account false,
     .new a.cctp_message_transmitter false,
     .newReadonly a.cctp_token_messenger false,
     .newReadonly a.cctp_remote_token_messenger false,
     .newReadonly a.cctp_token_minter false,
     .new a.cctp_local_token false,
     .newReadonly a.cctp_event_authority false,
     .newReadonly (cctpMessageTransmitterId rt) false,
     .newReadonly (cctpTokenMessengerMinterId rt) false,
     .newReadonly rt.tokenProgram false,
     .newReadonly rt.systemProgram false]
  data := rt.anchorDiscriminator "sweep".toList

/-! ## The keeper's own configuration and records -/

/-- What `SolanaConfig` holds for these instructions. -/
structure SolanaConfig where
  program_id : Pubkey
  mint : Pubkey
  keeper_wallet : Pubkey
  factory_config : Pubkey
  caller_token_account : Pubkey
  treasury_token_account : Pubkey

/-- What `SolanaReceiverRecord` holds for these instructions. -/
structure SolanaReceiverRecord where
  merchant : Pubkey
  receiver : Pubkey
  receiver_token_account : Pubkey
  receiver_config : Pubkey

/-- The instruction of `multicall_sweep_same_chain` for one record. -/
def sameChainSweep (cfg : SolanaConfig) (rec : SolanaReceiverRecord) (merchant_ta : Pubkey) :
    Instruction :=
  buildSameChainSweepIx rt cfg.program_id
    { caller := cfg.keeper_wallet
      caller_token_account := cfg.caller_token_account
      receiver_token_account := rec.receiver_token_account
      factory_config := cfg.factory_config
      treasury_token_account := cfg.treasury_token_account
      receiver_config := rec.receiver_config
      merchant_token_account := merchant_ta }

/-- The instruction of `sweep_cross_chain_receiver`, with the domain it read from the
configuration and the fresh key it drew. -/
def crossChainSweep (cfg : SolanaConfig) (rec : SolanaReceiverRecord) (domain : BitVec 32)
    (event_data : Pubkey) : Instruction :=
  buildCrossChainSweepIx rt cfg.program_id
    { caller := cfg.keeper_wallet
      caller_token_account := cfg.caller_token_account
      receiver_token_account := rec.receiver_token_account
      factory_config := cfg.factory_config
      treasury_token_account := cfg.treasury_token_account
      receiver_config := rec.receiver_config
      cctp_burn_staging_account := rt.ata rec.receiver_config cfg.mint
      event_rent_payer := cfg.keeper_wallet
      message_sent_event_data := event_data
      burn_token_mint := cfg.mint
      cctp_sender_authority_pda := deriveCctpSenderAuthorityPda rt
      cctp_denylist_account := deriveCctpDenylistAccount rt rec.receiver_config
      cctp_message_transmitter := deriveCctpMessageTransmitter rt
      cctp_token_messenger := deriveCctpTokenMessenger rt
      cctp_remote_token_messenger := deriveCctpRemoteTokenMessenger rt domain
      cctp_token_minter := deriveCctpTokenMinter rt
      cctp_local_token := deriveCctpLocalToken rt cfg.mint
      cctp_event_authority := deriveCctpEventAuthority rt }

end

end Beanie.Keeper
