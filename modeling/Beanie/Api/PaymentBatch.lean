/-
# `Beanie.Api.PaymentBatch` — what is in the multicall of a payment

The EVM arm of the payment worker sends at most one multicall: the optional
registration, the optional webhook update, `transferWithAuthorization` and
`sweep`, in that order.  `EvmBatch` says so of one multicall, and
`batch_of_mem` of every multicall the arm sends.
-/
import Beanie.Api.PaymentBinding
import Beanie.Api.PaymentWebhooks

namespace Beanie.Api

open Journal

/-- The arguments of `transferWithAuthorization`. -/
structure TransferArgs where
  sender : Address
  recipient : Address
  value : U256
  valid_after : BitVec 64
  valid_before : BitVec 64
  nonce : H256
  v : UInt8
  r : H256
  s : H256
deriving DecidableEq

def TransferArgs.call (a : TransferArgs) : EvmCall :=
  .transferWithAuthorization a.sender a.recipient a.value a.valid_after a.valid_before a.nonce a.v
    a.r a.s

/-- The arguments the worker reads off a task. -/
def transferArgs (eth : EthersCrate) (task : PaymentTask) : Option TransferArgs := do
  let receiver_addr ← eth.address_from_str task.receiver_address
  let auth ← task.evm_auth
  let sig ← eth.signature_from_str (trimHexPrefix auth.signature)
  let value ← eth.u256_from_dec_str task.amount_raw
  let from_addr ← eth.address_from_str task.from_address
  some ⟨from_addr, receiver_addr, value, auth.valid_after, auth.valid_before, auth.nonce,
    UInt8.ofNat sig.v.toNat, sig.r, sig.s⟩

section
variable (w : Worker) (task : PaymentTask)

/-- The code-size query finds a contract.  A query that fails finds none. -/
def codeFound (a : Address) : Bool :=
  match w.net.get_code a with
  | some bytes => !bytes.isEmpty
  | none => false

/-- Whether the worker takes the receiver to be missing. -/
def evmMissing (a : Address) : Bool := !codeFound w a && task.create_if_missing

/-- One multicall of the arm. -/
structure EvmBatch (a : Address) (cfg : EvmConfig) (args : TransferArgs) (calls : List Call3) :
    Prop where
  address : w.ethers.address_from_str task.receiver_address = some a
  target : w.evm_targets task.source_chain = some cfg
  reads : transferArgs w.ethers task = some args
  calls : ∃ register transfer sweep,
    (registerCalls w cfg (w.evm_registries task.source_chain a) (evmMissing w task a)).result
        = .ok register ∧
      w.calldata args.call = some transfer ∧ w.calldata .sweep = some sweep ∧
        calls = register
          ++ webhookCalls w task (w.evm_registries task.source_chain a) (evmMissing w task a)
          ++ [⟨cfg.token_address, false, transfer⟩, ⟨a, false, sweep⟩]

end

section
variable {w : Worker} {task : PaymentTask}

/-- What `registerCalls` returns: nothing for a receiver that is there, the one registration for a
missing receiver with a route. -/
theorem registerCalls_result {cfg : EvmConfig} {info : Option EvmReceiverInfo} {missing : Bool}
    {register : List Call3} :
    (registerCalls w cfg info missing).result = .ok register ↔
      (missing = false ∧ register = []) ∨
        (missing = true ∧ ∃ i route bytes, info = some i ∧ i.route = some route ∧
          w.calldata (.registerMerchant i.merchant route.chain route.recipient) = some bytes ∧
            register = [⟨cfg.factory_address, false, bytes⟩]) := by
  unfold registerCalls
  cases missing with
  | false =>
      rw [if_neg Bool.false_ne_true]
      constructor
      · intro h
        exact .inl ⟨rfl, (Except.ok.inj h).symm⟩
      · rintro (⟨-, rfl⟩ | ⟨h, -⟩)
        · rfl
        · cases h
  | true =>
      rw [if_pos rfl]
      simp only [result_bind, result_orSkip, Bool.true_eq_false, false_and, false_or, true_and]
      constructor
      · rintro ⟨i, hi, route, hroute, bytes, hbytes, h⟩
        exact ⟨i, route, bytes, hi, hroute, hbytes, (Except.ok.inj h).symm⟩
      · rintro ⟨i, route, bytes, hi, hroute, hbytes, rfl⟩
        exact ⟨i, hi, route, hroute, bytes, hbytes, rfl⟩

theorem aggregate3_not_mem_notify {multicall : Address} {calls : List Call3} {priority fee : Nat}
    (chain to_ tx_hash : Text) (n : BitVec 64) (sweep_tx : Option Text) :
    Effect.aggregate3 multicall calls priority fee
      ∉ (notify task chain to_ tx_hash n sweep_tx).log := by
  unfold notify
  split
  · simp
  · simp

theorem batch_of_mem {multicall : Address} {calls : List Call3} {priority fee : Nat}
    (h : .aggregate3 multicall calls priority fee ∈ (processEvm w task).log) :
    ∃ a cfg args, EvmBatch w task a cfg args calls := by
  unfold processEvm at h
  cases ha : w.ethers.address_from_str task.receiver_address with
  | none =>
      rw [ha] at h
      cases h
  | some a =>
      rw [ha] at h
      dsimp only at h
      simp only [mem_log_bind, log_orSkip, log_unwrap, log_registerCalls, List.not_mem_nil,
        false_or, result_orSkip, result_unwrap] at h
      obtain ⟨cfg, hcfg, register, hregister, auth, hauth, sig, hsig, value, hvalue, sender,
        hsender, transfer, htransfer, sweep, hsweep, m, -, p, -, f, -, h⟩ := h
      refine ⟨a, cfg, ⟨sender, a, value, auth.valid_after, auth.valid_before, auth.nonce,
        UInt8.ofNat sig.v.toNat, sig.r, sig.s⟩, ha, hcfg, ?_, ?_⟩
      · simp [transferArgs, ha, hauth, hsig, hvalue, hsender]
      · refine ⟨register, transfer, sweep, hregister, htransfer, hsweep, ?_⟩
        rcases h with h | ⟨_, -, h⟩
        · obtain ⟨-, hcalls, -, -⟩ := Effect.aggregate3.inj (List.mem_singleton.mp h)
          exact hcalls
        · cases hreceipt : w.net.receipt with
          | none =>
              rw [hreceipt] at h
              cases h
          | some receipt =>
              rw [hreceipt] at h
              exact absurd h (aggregate3_not_mem_notify _ _ _ _ _)

theorem aggregate3_not_mem_processStarknet {multicall : Address} {calls : List Call3}
    {priority fee : Nat} :
    Effect.aggregate3 multicall calls priority fee ∉ (processStarknet w task).log := by
  have hbase : ∀ merchant, Effect.aggregate3 multicall calls priority fee
      ∉ (setWebhookOnBase w task merchant).log := by
    intro merchant hmem
    obtain ⟨_, _, _, heq⟩ := setWebhookOnBase_only merchant _ hmem
    cases heq
  have hregister : ∀ receiver, Effect.aggregate3 multicall calls priority fee
      ∉ (registerStarknet w task receiver).log := by
    intro receiver
    unfold registerStarknet
    split
    · simp [mem_log_bind, hbase]
    · simp
  intro h
  unfold processStarknet at h
  split at h
  · cases h
  · simp only [mem_log_bind, hregister, log_orSkip, log_serialiseExecution, List.not_mem_nil,
      false_or, submitStarknet] at h
    obtain ⟨_, -, _, -, _, -, _, -, _, -, _, -, h | ⟨_, -, h⟩⟩ := h
    · cases List.mem_singleton.mp h
    · split at h
      · exact absurd h (aggregate3_not_mem_notify _ _ _ _ _)
      · cases h

theorem aggregate3_not_mem_processSolana {multicall : Address} {calls : List Call3}
    {priority fee : Nat} :
    Effect.aggregate3 multicall calls priority fee ∉ (processSolana w task).log := by
  intro h
  rcases mem_log_processSolana h with ⟨_, h⟩ | h | ⟨_, _, _, h⟩ | ⟨_, h, -⟩
  · cases h
  · cases hrec : taskRecord w task with
    | none =>
        rw [sweepAfterSolanaPayment_eq, hrec] at h
        cases h
    | some rec =>
        rcases (sweepsRecord_sweepAfter hrec).only _ h with ⟨_, h⟩ | ⟨_, _, h, -⟩
        · cases h
        · cases h
  · cases h
  · cases h

/-- Of the worker's three arms only this one sends a multicall. -/
theorem batch_of_mem_processTask {multicall : Address} {calls : List Call3} {priority fee : Nat}
    (h : .aggregate3 multicall calls priority fee ∈ (processTask w task).log) :
    ∃ a cfg args, EvmBatch w task a cfg args calls := by
  unfold processTask at h
  rw [mem_log_bind, log_unwrap] at h
  rcases h with h | ⟨attempts, -, h⟩
  · cases h
  · have hevm : .aggregate3 multicall calls priority fee
        ∈ (processEvm w { task with attempts := attempts }).log →
          ∃ a cfg args, EvmBatch w task a cfg args calls := by
      intro hmem
      obtain ⟨a, cfg, args, hbatch⟩ := batch_of_mem hmem
      exact ⟨a, cfg, args, hbatch.address, hbatch.target, hbatch.reads, hbatch.calls⟩
    unfold runArm at h
    split at h
    · exact hevm h
    · exact hevm h
    · exact hevm h
    · exact hevm h
    · exact absurd h aggregate3_not_mem_processStarknet
    · exact absurd h aggregate3_not_mem_processSolana

end

end Beanie.Api
