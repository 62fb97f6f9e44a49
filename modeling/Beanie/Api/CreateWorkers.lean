/-
# `Beanie.Api.CreateWorkers` — what the announce worker announces

`create_workers.rs`: the settlement route of a leg, and the loop that
announces one leg after the other.  Each arm reads the merchant as an address
of its own chain, or else derives one from the text, and leaves the leg out
when the route cannot be encoded.
-/
import Beanie.Api.CreateRoutes
import Beanie.Api.PaymentWorkers
import Beanie.Starknet.ReceiverFactory

namespace Beanie.Api

open Beanie.Starknet (Felt)
open Beanie.Solana (Pubkey Bytes32 bytesOf)
open Journal

/-! ## Routes -/

def sameChain (a b : Chain) : Bool :=
  match a, b with
  | .base, .base | .ethereum, .ethereum | .arbitrum, .arbitrum | .monad, .monad
  | .starknet, .starknet | .solana, .solana => true
  | _, _ => false

def chainKey : Chain → Option Text
  | .base => some "BASE".toList
  | .ethereum => some "ETHEREUM".toList
  | .arbitrum => some "ARBITRUM".toList
  | .monad => some "MONAD".toList
  | .starknet => some "STARKNET".toList
  | .solana => some "SOLANA".toList

section
variable (x : AddressCrates)

/-- `recipient_bytes32`: an address ends the word, the others fill it. -/
def recipientBytes32 (target : Chain) (recipient : Text) : Option Bytes32 :=
  match target with
  | .base | .ethereum | .arbitrum | .monad => do
      let addr ← x.ethers.address_from_str recipient
      some (addr.setWidth 256)
  | .starknet => do
      let felt ← x.starknet.from_hex recipient
      some (BitVec.ofNat 256 felt.val)
  | .solana => x.solana.pubkey_from_str recipient

def evmRoute (source target : Chain) (recipient : Text) : Option (Bytes32 × Bytes32) :=
  if sameChain source target then some (0, 0)
  else do
    let name ← chainKey target
    let r ← recipientBytes32 x target recipient
    some (bytes32Literal name, r)

/-- The chain's name as a short string, and the recipient's low and high halves. -/
def starknetRoute (source target : Chain) (recipient : Text) : Option (Felt × Felt × Felt) :=
  if sameChain source target then some (0, 0, 0)
  else do
    let name ← chainKey target
    let r ← recipientBytes32 x target recipient
    some (Starknet.shortString name, Starknet.lowFelt r, Starknet.highFelt r)

def solanaRoute (source target : Chain) (recipient : Text) : Option (Bytes32 × Bytes32) :=
  if sameChain source target then some (0, 0)
  else do
    let name ← chainKey target
    let r ← recipientBytes32 x target recipient
    some (bytes32Literal name, r)

/-! ## Merchants -/

/-- `derive_felt_from_foreign_address`: the last twenty octets of the hash. -/
def deriveFeltFromForeignAddress (addr : Text) : Felt :=
  Fin.ofNat Starknet.P ((x.ethers.keccak256 (utf8 addr)).toNat % 2 ^ 160)

/-- `derive_pubkey_from_foreign_address`. -/
def derivePubkeyFromForeignAddress (sha256 : Bytes → Bytes32) (address : Text) : Pubkey :=
  sha256 (utf8 address)

def evmMerchant (merchant_address : Text) : Address :=
  match x.ethers.address_from_str merchant_address with
  | some addr => addr
  | none => (x.ethers.keccak256 (utf8 merchant_address)).setWidth 160

def starknetMerchant (merchant_address : Text) : Felt :=
  match x.starknet.from_hex merchant_address with
  | some felt => felt
  | none => deriveFeltFromForeignAddress x merchant_address

def solanaMerchant (sha256 : Bytes → Bytes32) (merchant_address : Text) : Pubkey :=
  match x.solana.pubkey_from_str merchant_address with
  | some pubkey => pubkey
  | none => derivePubkeyFromForeignAddress sha256 merchant_address

end

/-! ## The loop -/

inductive AnnounceEffect
  | announceReceiver (factory merchant : Address) (cctp_chain cctp_recipient : Bytes32)
  | executeV3 (calls : List Starknet.Call)
  /-- `prepare_registration`: the setup, and the registration signed for these arguments -/
  | prepareRegistration (merchant receiver : Pubkey) (chain recipient : Bytes32)
  | announceMerchant (merchant receiver : Pubkey) (chain recipient : Bytes32) (reg_tx : Bytes)
  | broadcast (reg_tx : Bytes)

/-- The worker, and what the network answers while a task is processed. -/
structure AnnounceWorker where
  crates : AddressCrates
  sha256 : Bytes → Bytes32
  evm_targets : Chain → Option Address
  starknet_factory_addr : Felt
  /-- `Keypair::new()` -/
  receiver : Pubkey
  /-- `prepare_registration`'s bytes -/
  prepared : Option Bytes
  /-- whether `announce_merchant` is confirmed -/
  announced : Bool

section
variable (w : AnnounceWorker)

def announceEvm (task : AnnounceTask) : Journal AnnounceEffect Unit := do
  let merchant := evmMerchant w.crates task.merchant_address
  let factory_addr ← orSkip (w.evm_targets task.chain)
  let (cctp_chain, cctp_recipient) ← orSkip
    (evmRoute w.crates task.chain task.target_chain task.target_recipient)
  tell (.announceReceiver factory_addr merchant cctp_chain cctp_recipient)

def announceStarknet (task : AnnounceTask) : Journal AnnounceEffect Unit := do
  let merchant := starknetMerchant w.crates task.merchant_address
  let selector ← orSkip (w.crates.starknet.get_selector_from_name "announce_receiver".toList)
  let (cctp_chain, recipient_low, recipient_high) ← orSkip
    (starknetRoute w.crates task.chain task.target_chain task.target_recipient)
  tell (.executeV3 [⟨w.starknet_factory_addr, selector,
    [merchant, cctp_chain, recipient_low, recipient_high]⟩])

def announceSolana (task : AnnounceTask) : Journal AnnounceEffect Unit := do
  let merchant := solanaMerchant w.crates w.sha256 task.merchant_address
  let (chain_buf, recipient_buf) ← orSkip
    (solanaRoute w.crates task.chain task.target_chain task.target_recipient)
  tell (.prepareRegistration merchant w.receiver chain_buf recipient_buf)
  let reg_tx_bytes ← orSkip w.prepared
  tell (.announceMerchant merchant w.receiver chain_buf recipient_buf reg_tx_bytes)
  if w.announced then tell (.broadcast reg_tx_bytes) else pure ()

/-- One task of `run_announce_worker`. -/
def announceTask (task : AnnounceTask) : Journal AnnounceEffect Unit :=
  match task.chain with
  | .base | .ethereum | .arbitrum | .monad => announceEvm w task
  | .starknet => announceStarknet w task
  | .solana => announceSolana w task

end

/-- `run_announce_worker`, over the tasks it is given and what it is answered for each. -/
def runAnnounceWorker (tasks : List (AnnounceWorker × AnnounceTask)) :
    Journal AnnounceEffect Unit :=
  loop (fun e => announceTask e.1 e.2) tasks

/-! ## What a leg announces -/

/-- A merchant and a route, as a leg's chain has them. -/
inductive Announcement
  | evm (merchant : Address) (chain recipient : Bytes32)
  | starknet (merchant chain recipient_low recipient_high : Felt)
  | solana (merchant : Pubkey) (chain recipient : Bytes32)

/-- What is announced by an effect, to the factory at its address. -/
def AnnounceEffect.announces : AnnounceEffect → Option Announcement
  | .announceReceiver _ merchant chain recipient => some (.evm merchant chain recipient)
  | .executeV3 [⟨_, _, [merchant, chain, low, high]⟩] => some (.starknet merchant chain low high)
  | .executeV3 _ => none
  | .prepareRegistration merchant _ chain recipient => some (.solana merchant chain recipient)
  | .announceMerchant merchant _ chain recipient _ => some (.solana merchant chain recipient)
  | .broadcast _ => none

end Beanie.Api
