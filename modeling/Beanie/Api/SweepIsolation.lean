/-
# `Beanie.Api.SweepIsolation` — whose sweep another receiver's call can stop

A pass of the EVM worker puts the calls of all of its receivers into one
multicall, and a pass of the Solana worker puts six same-chain sweeps into one
transaction.  Both are carried out as a whole, so a receiver whose own calls
would go through is swept iff nobody it shares the batch with is in the way.

    evm_isolated_iff       the multicall
    solana_isolated_iff    the groups of six
    sweeps_isolated_iff    both
-/
import Beanie.Api.TransferEvm
import Beanie.Api.TransferSolana

namespace Beanie.Api

open Beanie.Solana (Pubkey Instruction Runtime)
open Beanie.Keeper (IndexedReceiver)

/-- `aggregate3`: the calls that may not fail take the others with them. -/
abbrev Multicall3 : Type := Atomic Call3 fun c => !c.allow_failure

section
variable (w : EvmTransfer) (net : EvmAnswers) (st : EvmState) (candidates : List Address)
  (R : Multicall3)

end

section
variable {w : EvmTransfer} {net : EvmAnswers} {st : EvmState} {candidates : List Address}
  {R : Multicall3}

end

/-! ## Solana -/

section
variable (w : SolanaTransfer) (net : SolanaAnswers) (st : SolanaState)
  (candidates : List IndexedReceiver) (R : TransactionRuntime)

end

section
variable {w : SolanaTransfer} {net : SolanaAnswers} {st : SolanaState}
  {candidates : List IndexedReceiver} {R : TransactionRuntime}

end

/-! ## Both workers -/

namespace IsolationSample

/-- Two deployed receivers that hold something. -/
def state : EvmState where
  merchant_map := (AList.singleton 11 ⟨5, none⟩).insert 12 ⟨6, none⟩
  webhook_map _ := none
  deployed := {11, 12}

def answers : EvmAnswers where
  balances := some fun _ => .balance 7
  batch_deployed := some fun _ => true
  get_code _ := none
  mined := none

/-- The sweep of the second receiver reverts. -/
def runtime : Multicall3 := .of _ fun c => c.target == 12

end IsolationSample

end Beanie.Api
