/-
# `Beanie.Api.TransferSolana` — one pass of the Solana transfer worker

`transfer_workers/solana.rs` and the sweeps of `solana_keeper.rs`, from a set
of candidate records to the transactions that sweep them: the balance filter,
the registrations that go out by themselves, the cross-chain sweeps, one a
transaction, and the same-chain sweeps, six a transaction.  The webhook map
this worker is given is empty, so neither its `setWebhookUrl` nor its jobs
appear here.

    sweepRegisteredBatch        which transactions go out
    sweepSolanaReceivers   the pass
    reconcileRecords       whom the reconcile tick passes over
-/
import Beanie.Keeper.ReceiverMerging
import Beanie.Lib.Batch

namespace Beanie.Api

open Beanie.Solana (Pubkey Instruction Runtime)
open Beanie.Keeper (IndexedReceiver)

/-- One entry of `getMultipleAccounts`, as the balance check reads it. -/
inductive TokenAnswer
  | absent
  | undecodable
  | amount (n : Nat)
deriving DecidableEq

/-- An account that does not exist holds nothing; one that cannot be read may hold anything. -/
def TokenAnswer.nonzero : TokenAnswer → Bool
  | absent => false
  | undecodable => true
  | amount n => n != 0

structure SolanaState where
  merchant_map : AList fun _ : Pubkey => IndexedReceiver

/-- What the network answers during a pass. -/
structure SolanaAnswers where
  /-- `batch_check_nonzero_balance`'s reads; `none` is an error. -/
  accounts : Option (Pubkey → TokenAnswer)
  /-- `broadcast_pending_registration`: was the transaction accepted? -/
  broadcast : Bytes → Bool
  fetch_receiver_route : Pubkey → Option Keeper.SolanaRoute
  fetch_cctp_domain_id : Pubkey → Option (BitVec 32)
  /-- `get_latest_blockhash`, right before the transaction it is for. -/
  get_latest_blockhash : List Instruction → Bool
  /-- The key `Keypair::new()` draws for a receiver's sweep. -/
  event_data : Pubkey → Pubkey

structure SolanaTransfer where
  rt : Runtime
  cfg : Keeper.SolanaConfig

section
variable (w : SolanaTransfer) (net : SolanaAnswers)

/-! ## The sweeps -/

/-- Does the balance filter let this record through? -/
def holdsBalance (rec : IndexedReceiver) : Bool :=
  match net.accounts with
  | some answers => (answers rec.receiver_token_account).nonzero
  | none => true

/-- Whom the reconcile tick passes over: everybody known. -/
def reconcileRecords (st : SolanaState) : List IndexedReceiver :=
  st.merchant_map.entries.map Sigma.snd

end

end Beanie.Api
