/-
# `Beanie.Api.PaymentWebhooks` — what the payment worker says of a sweep

The payment worker notifies of a sweep once it has a receipt, or once the
transaction is accepted, or with the hash that the confirmed sweep returned.

    webhook_processEvm, .._processStarknet, .._processSolana
                           when a webhook is sent, and what its transaction does
    payment_settled_iff    when what it says is true
-/
import Beanie.Api.PaymentSurvival

namespace Beanie.Api

open Beanie.Starknet (Felt)
open Beanie.Solana (Pubkey Instruction)
open Journal

section
variable (w : Worker) (succeeds : Text → Prop)

/-- Some transaction of the journal has this hash and sweeps the receiver. -/
def Carries (log : List Effect) (receiver h : Text) : Prop :=
  (∃ receipt multicall calls priority fee a bytes, w.net.receipt = some receipt ∧
      receipt.transaction_hash = h ∧ .aggregate3 multicall calls priority fee ∈ log ∧
        w.show_address a = receiver ∧ w.calldata .sweep = some bytes ∧
          (⟨a, false, bytes⟩ : Call3) ∈ calls) ∨
    (∃ calls r sweep, w.net.starknet_tx = some h ∧ .executeV3 calls ∈ log ∧
      w.show_felt r = receiver ∧ w.starknet.get_selector_from_name "sweep".toList = some sweep ∧
        (⟨r, sweep, []⟩ : Starknet.Call) ∈ calls) ∨
      ∃ ix signers account, w.net.sweep_tx = some h ∧ .sendSweep ix signers ∈ log ∧
        w.solana.pubkey_from_str receiver = some account ∧
          (ix.accounts[2]?).map (·.key) = some account

/-- The transaction of the job succeeded, and sweeps the deposit's receiver. -/
def JobSettled (log : List Effect) (job : WebhookJob) : Prop :=
  ∀ h, job.sweep_tx = some h → succeeds h ∧ Carries w log job.deposit.receiver h

/-- The EVM arm gets to its multicall: everything parses and encodes. -/
structure EvmPays (task : PaymentTask) (a : Address) (cfg : EvmConfig) : Prop where
  address : w.ethers.address_from_str task.receiver_address = some a
  target : w.evm_targets task.source_chain = some cfg
  register : (!(match w.net.get_code a with
      | some bytes => !bytes.isEmpty
      | none => false) && task.create_if_missing) = true →
    ∃ info route, w.evm_registries task.source_chain a = some info ∧ info.route = some route ∧
      (w.calldata (.registerMerchant info.merchant route.chain route.recipient)).isSome
  authorised : ∃ auth sig value sender, task.evm_auth = some auth ∧
    w.ethers.signature_from_str (trimHexPrefix auth.signature) = some sig ∧
      w.ethers.u256_from_dec_str task.amount_raw = some value ∧
        w.ethers.address_from_str task.from_address = some sender ∧
          (w.calldata (.transferWithAuthorization sender a value auth.valid_after
            auth.valid_before auth.nonce (UInt8.ofNat sig.v.toNat) sig.r sig.s)).isSome
  sweep : (w.calldata .sweep).isSome
  multicall : (w.ethers.address_from_str MULTICALL3_ADDRESS).isSome
  priority : (w.ethers.parse_gwei "0.005".toList).isSome
  fee_cap : (w.ethers.parse_gwei "0.1".toList).isSome

/-- The Starknet arm gets to its transaction. -/
structure StarknetPays (task : PaymentTask) (receiver : Felt) : Prop where
  address : w.starknet.from_hex task.receiver_address = some receiver
  register : task.create_if_missing = true →
    ∃ info, w.starknet_registry receiver = some info ∧ info.route.isSome ∧
      (w.starknet.get_selector_from_name "register_merchant".toList).isSome
  authorised : ∃ auth, task.starknet_auth = some auth ∧
    (w.starknet.from_hex auth.user_address).isSome ∧
      ∃ oe signature, Serialised w.starknet auth oe signature
  execute : (w.starknet.get_selector_from_name "execute_from_outside_v2".toList).isSome
  sweep : (w.starknet.get_selector_from_name "sweep".toList).isSome

/-- The Solana arm gets its payment through. -/
structure SolanaPays (task : PaymentTask) : Prop where
  signed : ∃ auth bytes message owner sig_bytes sig owner_idx tx,
    task.solana_auth = some auth ∧ w.solana.base64_decode auth.message = some bytes ∧
      w.solana.message_deserialize bytes = some message ∧
        w.solana.pubkey_from_str auth.owner = some owner ∧
          w.solana.base64_decode auth.signature = some sig_bytes ∧
            solanaSignature sig_bytes = some sig ∧
              message.account_keys.findIdx? (· = owner) = some owner_idx ∧
                owner_idx < message.header.num_required_signatures.toNat ∧
                  w.partial_sign ⟨(List.replicate message.header.num_required_signatures.toNat
                    (List.replicate 64 0)).set owner_idx sig, message⟩ = some tx
  sent : w.net.solana_tx.isSome

/-- The record of the receiver that owns the account a task pays. -/
def taskRecord (task : PaymentTask) : Option SolanaReceiver :=
  let owner := do
    let account ← w.solana.pubkey_from_str task.receiver_address
    let data ← w.net.get_account account
    w.unpack_owner data
  owner.bind w.solana_registry

/-- The receiver is registered, or can be by the transaction it was announced with, or was by
somebody else. -/
def Registrable (rec : SolanaReceiver) : Prop :=
  match rec.status, rec.reg_tx with
  | .announced, none => False
  | .announced, some reg_tx =>
      (w.is_transaction reg_tx = true ∧ w.net.broadcast_tx.isSome) ∨ w.net.config_exists = true
  | .registered, _ => True

/-- The route of the receiver can be read, and on the cross-chain route its domain. -/
def Routable (rec : SolanaReceiver) : Prop :=
  ∃ route, (receiverRoute w rec).result = .ok (some route) ∧
    (route.chain ≠ List.replicate 32 0 →
      ∃ domain, (fetchCctpDomainId w rec.record.receiver_config).result = .ok (some domain))

/-- What has to be so for the webhook of a task to be true. -/
def TaskSettles (task : PaymentTask) : Prop :=
  task.webhook_url.isSome →
    match task.source_chain with
    | .base | .ethereum | .arbitrum | .monad =>
        ∀ receipt a cfg, w.net.receipt = some receipt → EvmPays w task a cfg →
          succeeds receipt.transaction_hash
    | .starknet =>
        ∀ h receiver, w.net.starknet_tx = some h → StarknetPays w task receiver → succeeds h
    | .solana =>
        ∀ h rec, w.net.sweep_tx = some h → SolanaPays w task → taskRecord w task = some rec →
          Registrable w rec → Routable w rec → w.net.get_latest_blockhash = true →
            w.solana.pubkey_from_str task.receiver_address
              = some rec.record.receiver_token_account

end

section
variable {w : Worker} {task : PaymentTask}

theorem mem_notify {chain receiver tx_hash : Text} {n : BitVec 64} {sweep_tx : Option Text}
    {job : WebhookJob} :
    .webhook job ∈ (notify task chain receiver tx_hash n sweep_tx).log ↔
      ∃ url, task.webhook_url = some url ∧
        job = ⟨url, ⟨chain, tx_hash, task.from_address, receiver, task.amount_raw, n⟩,
          sweep_tx, 5⟩ := by
  unfold notify
  cases task.webhook_url with
  | none => simp
  | some url => simp

theorem log_registerCalls (cfg : EvmConfig) (info : Option EvmReceiverInfo) (missing : Bool) :
    (registerCalls w cfg info missing).log = [] := by
  unfold registerCalls
  split
  · exact log_bind_eq_nil (by simp) fun _ => log_bind_eq_nil (by simp) fun _ =>
      log_bind_eq_nil (by simp) fun _ => rfl
  · rfl

theorem registerCalls_ok {cfg : EvmConfig} {info : Option EvmReceiverInfo} {missing : Bool} :
    (∃ calls, (registerCalls w cfg info missing).result = .ok calls) ↔
      (missing = true → ∃ i route, info = some i ∧ i.route = some route ∧
        (w.calldata (.registerMerchant i.merchant route.chain route.recipient)).isSome) := by
  unfold registerCalls
  cases missing with
  | false => exact iff_of_true ⟨_, rfl⟩ nofun
  | true =>
      constructor
      · rintro ⟨calls, hcalls⟩ -
        obtain ⟨i, hi, hcalls⟩ := result_bind.mp hcalls
        obtain ⟨route, hroute, hcalls⟩ := result_bind.mp hcalls
        obtain ⟨bytes, hbytes, -⟩ := result_bind.mp hcalls
        exact ⟨i, route, result_orSkip.mp hi, result_orSkip.mp hroute,
          Option.isSome_iff_exists.mpr ⟨bytes, result_orSkip.mp hbytes⟩⟩
      · intro h
        obtain ⟨i, route, hi, hroute, hbytes⟩ := h rfl
        obtain ⟨bytes, hbytes⟩ := Option.isSome_iff_exists.mp hbytes
        refine ⟨[⟨cfg.factory_address, false, bytes⟩], ?_⟩
        exact result_bind.mpr ⟨i, result_orSkip.mpr hi, result_bind.mpr ⟨route,
          result_orSkip.mpr hroute, result_bind.mpr ⟨bytes, result_orSkip.mpr hbytes, rfl⟩⟩⟩

/-- The EVM arm does nothing, or sends one multicall that ends with the sweep of the receiver, and
with a receipt notifies of it. -/
theorem log_processEvm (w : Worker) (task : PaymentTask) :
    (processEvm w task).log = [] ∨
      ∃ a cfg multicall calls priority fee sweep, EvmPays w task a cfg ∧
        w.calldata .sweep = some sweep ∧ (⟨a, false, sweep⟩ : Call3) ∈ calls ∧
          (processEvm w task).log = .aggregate3 multicall calls priority fee ::
            match w.net.receipt with
            | some receipt => (notify task cfg.chain_name (w.show_address a)
                receipt.transaction_hash (receipt.block_number.getD 0)
                (some receipt.transaction_hash)).log
            | none => [] := by
  unfold processEvm
  cases ha : w.ethers.address_from_str task.receiver_address with
  | none => exact .inl rfl
  | some a =>
      dsimp only
      rcases log_bind_cases (log_orSkip (w.evm_targets task.source_chain)) _ with h | ⟨cfg, hcfg, h⟩
      · exact .inl h
      rw [h]
      rcases log_bind_cases (log_registerCalls cfg _ _) _ with h | ⟨register, hregister, h⟩
      · exact .inl h
      rw [h]
      rcases log_bind_cases (log_orSkip task.evm_auth) _ with h | ⟨auth, hauth, h⟩
      · exact .inl h
      rw [h]
      rcases log_bind_cases (log_orSkip _) _ with h | ⟨sig, hsig, h⟩
      · exact .inl h
      rw [h]
      rcases log_bind_cases (log_orSkip _) _ with h | ⟨value, hvalue, h⟩
      · exact .inl h
      rw [h]
      rcases log_bind_cases (log_orSkip _) _ with h | ⟨sender, hsender, h⟩
      · exact .inl h
      rw [h]
      rcases log_bind_cases (log_orSkip _) _ with h | ⟨transfer, htransfer, h⟩
      · exact .inl h
      rw [h]
      rcases log_bind_cases (log_orSkip _) _ with h | ⟨sweep, hsweep, h⟩
      · exact .inl h
      rw [h]
      rcases log_bind_cases (log_unwrap _) _ with h | ⟨multicall, hmulticall, h⟩
      · exact .inl h
      rw [h]
      rcases log_bind_cases (log_unwrap _) _ with h | ⟨priority, hpriority, h⟩
      · exact .inl h
      rw [h]
      rcases log_bind_cases (log_unwrap _) _ with h | ⟨cap, hcap, h⟩
      · exact .inl h
      rw [h]
      rw [result_orSkip] at hcfg hauth hsig hvalue hsender htransfer hsweep
      rw [result_unwrap] at hmulticall hpriority hcap
      have hpays : EvmPays w task a cfg :=
        { address := ha
          target := hcfg
          register := registerCalls_ok.mp ⟨register, hregister⟩
          authorised := ⟨auth, sig, value, sender, hauth, hsig, hvalue, hsender,
            Option.isSome_iff_exists.mpr ⟨transfer, htransfer⟩⟩
          sweep := Option.isSome_iff_exists.mpr ⟨sweep, hsweep⟩
          multicall := Option.isSome_iff_exists.mpr ⟨multicall, hmulticall⟩
          priority := Option.isSome_iff_exists.mpr ⟨priority, hpriority⟩
          fee_cap := Option.isSome_iff_exists.mpr ⟨cap, hcap⟩ }
      have hcalls : ∀ pre : List Call3, (⟨a, false, sweep⟩ : Call3) ∈
          pre ++ [⟨cfg.token_address, false, transfer⟩, ⟨a, false, sweep⟩] := fun pre =>
        List.mem_append_right _ (List.mem_cons_of_mem _ (List.mem_singleton_self _))
      cases hreceipt : w.net.receipt with
      | none =>
          refine .inr ⟨a, cfg, multicall, _, _, _, sweep, hpays, hsweep, ?_, rfl⟩
          exact hcalls _
      | some receipt =>
          refine .inr ⟨a, cfg, multicall, _, _, _, sweep, hpays, hsweep, ?_, rfl⟩
          exact hcalls _

/-- The webhook of an EVM payment. -/
theorem webhook_processEvm {job : WebhookJob} (h : .webhook job ∈ (processEvm w task).log) :
    ∃ receipt a cfg, w.net.receipt = some receipt ∧ EvmPays w task a cfg ∧
      task.webhook_url.isSome ∧ job.sweep_tx = some receipt.transaction_hash ∧
        Carries w (processEvm w task).log job.deposit.receiver receipt.transaction_hash := by
  rcases log_processEvm w task with
    hlog | ⟨a, cfg, multicall, calls, priority, fee, sweep, hpays, hsweep, hcall, hlog⟩
  · rw [hlog] at h
    cases h
  · have hsent : Effect.aggregate3 multicall calls priority fee ∈ (processEvm w task).log := by
      rw [hlog]
      exact List.mem_cons_self
    rw [hlog] at h
    rcases List.mem_cons.mp h with h | h
    · cases h
    · cases hreceipt : w.net.receipt with
      | none =>
          rw [hreceipt] at h
          cases h
      | some receipt =>
          rw [hreceipt] at h
          obtain ⟨url, hurl, rfl⟩ := mem_notify.mp h
          exact ⟨receipt, a, cfg, rfl, hpays, by rw [hurl]; rfl, rfl, .inl ⟨receipt, multicall,
            calls, priority, fee, a, sweep, hreceipt, rfl, hsent, rfl, hsweep, hcall⟩⟩

/-- An EVM payment that gets through is notified of. -/
theorem EvmPays.notified {a : Address} {cfg : EvmConfig} {receipt : Receipt} {url : Text}
    (h : EvmPays w task a cfg) (hreceipt : w.net.receipt = some receipt)
    (hurl : task.webhook_url = some url) :
    ∃ job, .webhook job ∈ (processEvm w task).log ∧
      job.sweep_tx = some receipt.transaction_hash := by
  obtain ⟨register, hregister⟩ := (@registerCalls_ok w cfg _ _).mpr h.register
  obtain ⟨auth, sig, value, sender, hauth, hsig, hvalue, hsender, htransfer⟩ := h.authorised
  obtain ⟨transfer, htransfer⟩ := Option.isSome_iff_exists.mp htransfer
  obtain ⟨sweep, hsweep⟩ := Option.isSome_iff_exists.mp h.sweep
  obtain ⟨multicall, hmulticall⟩ := Option.isSome_iff_exists.mp h.multicall
  obtain ⟨priority, hpriority⟩ := Option.isSome_iff_exists.mp h.priority
  obtain ⟨cap, hcap⟩ := Option.isSome_iff_exists.mp h.fee_cap
  refine ⟨⟨url, ⟨cfg.chain_name, receipt.transaction_hash, task.from_address, w.show_address a,
    task.amount_raw, receipt.block_number.getD 0⟩, some receipt.transaction_hash, 5⟩, ?_, rfl⟩
  unfold processEvm
  rw [h.address]
  dsimp only
  refine mem_log_bind.mpr (.inr ⟨cfg, result_orSkip.mpr h.target, ?_⟩)
  refine mem_log_bind.mpr (.inr ⟨register, hregister, ?_⟩)
  refine mem_log_bind.mpr (.inr ⟨auth, result_orSkip.mpr hauth, ?_⟩)
  refine mem_log_bind.mpr (.inr ⟨sig, result_orSkip.mpr hsig, ?_⟩)
  refine mem_log_bind.mpr (.inr ⟨value, result_orSkip.mpr hvalue, ?_⟩)
  refine mem_log_bind.mpr (.inr ⟨sender, result_orSkip.mpr hsender, ?_⟩)
  refine mem_log_bind.mpr (.inr ⟨transfer, result_orSkip.mpr htransfer, ?_⟩)
  refine mem_log_bind.mpr (.inr ⟨sweep, result_orSkip.mpr hsweep, ?_⟩)
  refine mem_log_bind.mpr (.inr ⟨multicall, result_unwrap.mpr hmulticall, ?_⟩)
  refine mem_log_bind.mpr (.inr ⟨priority, result_unwrap.mpr hpriority, ?_⟩)
  refine mem_log_bind.mpr (.inr ⟨cap, result_unwrap.mpr hcap, ?_⟩)
  refine mem_log_bind.mpr (.inr ⟨(), rfl, ?_⟩)
  rw [hreceipt]
  exact mem_notify.mpr ⟨url, hurl, rfl⟩

theorem webhook_not_mem_setWebhookOnBase {job : WebhookJob} (merchant : Option Address) :
    Effect.webhook job ∉ (setWebhookOnBase w task merchant).log := by
  unfold setWebhookOnBase
  split <;> simp

theorem webhook_not_mem_registerStarknet {job : WebhookJob} (receiver : Felt) :
    Effect.webhook job ∉ (registerStarknet w task receiver).log := by
  unfold registerStarknet
  split <;> simp [mem_log_bind, webhook_not_mem_setWebhookOnBase]

theorem webhook_not_mem_serialiseCalls {job : WebhookJob} (cs : List CallDto) :
    Effect.webhook job ∉ (serialiseCalls w cs).log := by
  have hcall : ∀ c, Effect.webhook job ∉ (serialiseCall w c).log := by
    intro c
    unfold serialiseCall
    simp [mem_log_bind]
  induction cs with
  | nil => exact List.not_mem_nil
  | cons c cs ih =>
      unfold serialiseCalls
      simp [mem_log_bind, hcall, ih]

theorem webhook_not_mem_serialiseExecution {job : WebhookJob} (auth : StarknetAuth) :
    Effect.webhook job ∉ (serialiseExecution w auth).log := by
  unfold serialiseExecution
  simp [mem_log_bind, webhook_not_mem_serialiseCalls]

theorem registerStarknet_iff {receiver : Felt} :
    (∃ calls, (registerStarknet w task receiver).result = .ok calls) ↔
      (task.create_if_missing = true → ∃ info, w.starknet_registry receiver = some info ∧
        info.route.isSome ∧
          (w.starknet.get_selector_from_name "register_merchant".toList).isSome) := by
  have hwebhook : ∀ merchant, (setWebhookOnBase w task merchant).result = .ok () := by
    intro merchant
    unfold setWebhookOnBase
    split <;> rfl
  unfold registerStarknet
  by_cases hcreate : task.create_if_missing = true
  · rw [if_pos hcreate]
    constructor
    · rintro ⟨calls, hcalls⟩ -
      obtain ⟨info, hinfo, hcalls⟩ := result_bind.mp hcalls
      obtain ⟨route, hroute, hcalls⟩ := result_bind.mp hcalls
      obtain ⟨selector, hselector, -⟩ := result_bind.mp hcalls
      exact ⟨info, result_orSkip.mp hinfo,
        Option.isSome_iff_exists.mpr ⟨route, result_orSkip.mp hroute⟩,
        Option.isSome_iff_exists.mpr ⟨selector, result_orSkip.mp hselector⟩⟩
    · intro h
      obtain ⟨info, hinfo, hroute, hselector⟩ := h hcreate
      obtain ⟨route, hroute⟩ := Option.isSome_iff_exists.mp hroute
      obtain ⟨selector, hselector⟩ := Option.isSome_iff_exists.mp hselector
      refine ⟨[⟨w.starknet_factory, selector, [info.merchant, route.chain, route.recipient_low,
        route.recipient_high]⟩], result_bind.mpr ⟨info, result_orSkip.mpr hinfo, ?_⟩⟩
      refine result_bind.mpr ⟨route, result_orSkip.mpr hroute, ?_⟩
      refine result_bind.mpr ⟨selector, result_orSkip.mpr hselector, ?_⟩
      exact result_bind.mpr ⟨(), hwebhook _, rfl⟩
  · rw [if_neg hcreate]
    exact iff_of_true ⟨_, rfl⟩ fun h => absurd h hcreate

/-- The webhook of a Starknet payment. -/
theorem webhook_processStarknet {job : WebhookJob}
    (h : .webhook job ∈ (processStarknet w task).log) :
    ∃ tx_hash receiver, w.net.starknet_tx = some tx_hash ∧ StarknetPays w task receiver ∧
      task.webhook_url.isSome ∧ job.sweep_tx = some tx_hash ∧
        Carries w (processStarknet w task).log job.deposit.receiver tx_hash := by
  unfold processStarknet at h ⊢
  cases hreceiver : w.starknet.from_hex task.receiver_address with
  | none =>
      rw [hreceiver] at h
      cases h
  | some receiver =>
      rw [hreceiver] at h
      dsimp only at h ⊢
      rcases mem_log_bind.mp h with h | ⟨register, hregister, h⟩
      · exact absurd h (webhook_not_mem_registerStarknet receiver)
      rcases mem_log_bind.mp h with h | ⟨auth, hauth, h⟩
      · simp at h
      rcases mem_log_bind.mp h with h | ⟨user, huser, h⟩
      · simp at h
      rcases mem_log_bind.mp h with h | ⟨selector, hselector, h⟩
      · simp at h
      rcases mem_log_bind.mp h with h | ⟨calldata, hcalldata, h⟩
      · exact absurd h (webhook_not_mem_serialiseExecution auth)
      rcases mem_log_bind.mp h with h | ⟨sweep, hsweep, h⟩
      · simp at h
      rcases mem_log_bind.mp h with h | ⟨-, -, h⟩
      · simp at h
      cases hsent : w.net.starknet_tx with
      | none =>
          rw [hsent] at h
          cases h
      | some tx_hash =>
          rw [hsent] at h
          obtain ⟨url, hurl, rfl⟩ := mem_notify.mp h
          obtain ⟨oe, signature, hserialised, -⟩ := serialiseExecution_ok.mp hcalldata
          have hpays : StarknetPays w task receiver :=
            { address := hreceiver
              register := registerStarknet_iff.mp ⟨register, hregister⟩
              authorised := ⟨auth, result_orSkip.mp hauth,
                Option.isSome_iff_exists.mpr ⟨user, result_orSkip.mp huser⟩,
                oe, signature, hserialised⟩
              execute := Option.isSome_iff_exists.mpr ⟨selector, result_orSkip.mp hselector⟩
              sweep := Option.isSome_iff_exists.mpr ⟨sweep, result_orSkip.mp hsweep⟩ }
          refine ⟨tx_hash, receiver, rfl, hpays, by rw [hurl]; rfl, rfl, .inr (.inl ⟨register ++
            [⟨user, selector, calldata⟩, ⟨receiver, sweep, []⟩], receiver, sweep, hsent, ?_, rfl,
            result_orSkip.mp hsweep, ?_⟩)⟩
          · refine mem_log_bind.mpr (.inr ⟨register, hregister, ?_⟩)
            refine mem_log_bind.mpr (.inr ⟨auth, hauth, ?_⟩)
            refine mem_log_bind.mpr (.inr ⟨user, huser, ?_⟩)
            refine mem_log_bind.mpr (.inr ⟨selector, hselector, ?_⟩)
            refine mem_log_bind.mpr (.inr ⟨calldata, hcalldata, ?_⟩)
            refine mem_log_bind.mpr (.inr ⟨sweep, hsweep, ?_⟩)
            exact mem_log_bind.mpr (.inl (List.mem_singleton_self _))
          · exact List.mem_append_right _ (List.mem_cons_of_mem _ (List.mem_singleton_self _))

/-- A Starknet payment that gets through is notified of. -/
theorem StarknetPays.notified {receiver : Felt} {tx_hash url : Text}
    (h : StarknetPays w task receiver) (hsent : w.net.starknet_tx = some tx_hash)
    (hurl : task.webhook_url = some url) :
    ∃ job, .webhook job ∈ (processStarknet w task).log ∧ job.sweep_tx = some tx_hash := by
  obtain ⟨register, hregister⟩ := registerStarknet_iff.mpr h.register
  obtain ⟨auth, hauth, huser, oe, signature, hserialised⟩ := h.authorised
  obtain ⟨user, huser⟩ := Option.isSome_iff_exists.mp huser
  obtain ⟨selector, hselector⟩ := Option.isSome_iff_exists.mp h.execute
  obtain ⟨sweep, hsweep⟩ := Option.isSome_iff_exists.mp h.sweep
  refine ⟨⟨url, ⟨w.starknet_chain_name, tx_hash, task.from_address, w.show_felt receiver,
    task.amount_raw, 0⟩, some tx_hash, 5⟩, ?_, rfl⟩
  unfold processStarknet
  rw [h.address]
  dsimp only
  refine mem_log_bind.mpr (.inr ⟨register, hregister, ?_⟩)
  refine mem_log_bind.mpr (.inr ⟨auth, result_orSkip.mpr hauth, ?_⟩)
  refine mem_log_bind.mpr (.inr ⟨user, result_orSkip.mpr huser, ?_⟩)
  refine mem_log_bind.mpr (.inr ⟨selector, result_orSkip.mpr hselector, ?_⟩)
  refine mem_log_bind.mpr (.inr ⟨oe.encode signature,
    serialiseExecution_ok.mpr ⟨oe, signature, hserialised, rfl⟩, ?_⟩)
  refine mem_log_bind.mpr (.inr ⟨sweep, result_orSkip.mpr hsweep, ?_⟩)
  refine mem_log_bind.mpr (.inr ⟨(), rfl, ?_⟩)
  rw [hsent]
  exact mem_notify.mpr ⟨url, hurl, rfl⟩

/-! ## Solana -/

/-- A step of the arm that does nothing but register the record's receiver and sweep it. -/
structure SweepsRecord (w : Worker) (x : Journal Effect (Option Text)) (rec : SolanaReceiver) :
    Prop where
  sent : ∀ h, x.result = .ok (some h) → ∃ ix signers, .sendSweep ix signers ∈ x.log
  only : ∀ e ∈ x.log, (∃ reg_tx, e = .broadcast reg_tx) ∨ ∃ ix signers, e = .sendSweep ix signers ∧
    (ix.accounts[2]?).map (·.key) = some rec.record.receiver_token_account

theorem log_newSignedWithPayer (ix : Instruction) (payer : Pubkey) (signers : List Pubkey) :
    (newSignedWithPayer ix payer signers).log = [] := by
  unfold newSignedWithPayer
  split_ifs <;> rfl

theorem sweepsRecord_sendSweep {rec : SolanaReceiver} {ix : Instruction} {signers : List Pubkey}
    (hix : (ix.accounts[2]?).map (·.key) = some rec.record.receiver_token_account) :
    SweepsRecord w (sendSweep w ix signers) rec := by
  unfold sendSweep
  by_cases hhash : w.net.get_latest_blockhash = true
  · rw [if_pos hhash]
    refine ⟨?_, ?_⟩
    · intro h hresult
      obtain ⟨_, hok, -⟩ := result_bind.mp hresult
      refine ⟨ix, signers, mem_log_bind.mpr (.inr ⟨_, hok, ?_⟩)⟩
      exact mem_log_bind.mpr (.inl (List.mem_singleton_self _))
    · intro e he
      rcases mem_log_bind.mp he with he | ⟨_, -, he⟩
      · rw [log_newSignedWithPayer] at he
        cases he
      · rcases mem_log_bind.mp he with he | ⟨_, -, he⟩
        · exact .inr ⟨ix, signers, List.mem_singleton.mp he, hix⟩
        · cases he
  · rw [if_neg hhash]
    exact ⟨nofun, nofun⟩

/-- With the signers its instruction asks for, a sweep returns the hash it was sent under. -/
theorem result_sendSweep {ix : Instruction} {signers : List Pubkey} {h : Text}
    (hsigners : ∀ k, k ∈ requiredSigners ix w.solana_cfg.keeper_wallet ↔ k ∈ signers) :
    (sendSweep w ix signers).result = .ok (some h) ↔
      w.net.get_latest_blockhash = true ∧ w.net.sweep_tx = some h := by
  unfold sendSweep
  by_cases hhash : w.net.get_latest_blockhash = true
  · rw [if_pos hhash]
    have hsigned : (newSignedWithPayer ix w.solana_cfg.keeper_wallet signers).result = .ok () := by
      unfold newSignedWithPayer
      rw [if_pos ⟨fun k => (hsigners k).mp, fun k => (hsigners k).mpr⟩]
      rfl
    constructor
    · intro hresult
      obtain ⟨_, -, hresult⟩ := result_bind.mp hresult
      obtain ⟨_, -, hresult⟩ := result_bind.mp hresult
      exact ⟨hhash, Except.ok.inj hresult⟩
    · rintro ⟨-, hsweep⟩
      refine result_bind.mpr ⟨(), hsigned, result_bind.mpr ⟨(), rfl, ?_⟩⟩
      rw [hsweep]
      rfl
  · rw [if_neg hhash]
    exact ⟨nofun, fun h => absurd h.1 hhash⟩

/-- Reading the chain first changes nothing. -/
theorem SweepsRecord.after {α : Type} {rec : SolanaReceiver} {x : Journal Effect α}
    {f : α → Journal Effect (Option Text)}
    (hx : ∀ e ∈ x.log, ∃ reg_tx, e = Effect.broadcast reg_tx)
    (hf : ∀ a, SweepsRecord w (f a) rec) : SweepsRecord w (x >>= f) rec := by
  refine ⟨?_, ?_⟩
  · intro h hresult
    obtain ⟨a, ha, hresult⟩ := result_bind.mp hresult
    obtain ⟨ix, signers, hmem⟩ := (hf a).sent h hresult
    exact ⟨ix, signers, mem_log_bind.mpr (.inr ⟨a, ha, hmem⟩)⟩
  · intro e he
    rcases mem_log_bind.mp he with he | ⟨a, -, he⟩
    · exact .inl (hx e he)
    · exact (hf a).only e he

theorem SweepsRecord.afterRead {α : Type} {rec : SolanaReceiver} {x : Journal Effect α}
    {f : α → Journal Effect (Option Text)} (hx : x.log = [])
    (hf : ∀ a, SweepsRecord w (f a) rec) : SweepsRecord w (x >>= f) rec := by
  refine SweepsRecord.after ?_ hf
  rw [hx]
  nofun

theorem sweepsRecord_none (rec : SolanaReceiver) : SweepsRecord w (pure none) rec :=
  ⟨nofun, nofun⟩

theorem log_fetchReceiverRoute (key : Pubkey) : (fetchReceiverRoute w key).log = [] := by
  unfold fetchReceiverRoute
  split
  · rfl
  · exact log_bind_eq_nil (by simp) fun _ => log_bind_eq_nil (by simp) fun _ => rfl

theorem log_fetchCctpDomainId (key : Pubkey) : (fetchCctpDomainId w key).log = [] := by
  unfold fetchCctpDomainId
  split
  · rfl
  · exact log_bind_eq_nil (by simp) fun _ => rfl

theorem log_receiverRoute (rec : SolanaReceiver) : (receiverRoute w rec).log = [] := by
  unfold receiverRoute
  split
  · rfl
  · exact log_fetchReceiverRoute _

theorem sweepsRecord_sweepRegistered (rec : SolanaReceiver) :
    SweepsRecord w (sweepRegistered w rec) rec := by
  refine SweepsRecord.afterRead (log_receiverRoute rec) fun route => ?_
  cases route with
  | none => exact sweepsRecord_none rec
  | some route =>
      dsimp only
      split_ifs
      · exact sweepsRecord_sendSweep rfl
      · refine SweepsRecord.afterRead (log_fetchCctpDomainId _) fun domain => ?_
        cases domain with
        | none => exact sweepsRecord_none rec
        | some domain => exact sweepsRecord_sendSweep rfl

theorem sweepRegistered_ok {rec : SolanaReceiver} {h : Text} :
    (sweepRegistered w rec).result = .ok (some h) ↔
      Routable w rec ∧ w.net.get_latest_blockhash = true ∧ w.net.sweep_tx = some h := by
  unfold sweepRegistered Routable
  rw [result_bind]
  constructor
  · rintro ⟨route, hroute, hresult⟩
    cases route with
    | none => cases hresult
    | some route =>
        dsimp only at hresult
        by_cases hsame : route.chain = List.replicate 32 0
        · rw [if_pos hsame, result_sendSweep (requiredSigners_sameChain _ _ _ _)] at hresult
          exact ⟨⟨route, hroute, fun hne => absurd hsame hne⟩, hresult⟩
        · rw [if_neg hsame] at hresult
          obtain ⟨domain, hdomain, hresult⟩ := result_bind.mp hresult
          cases domain with
          | none => cases hresult
          | some domain =>
              rw [result_sendSweep (requiredSigners_crossChain _ _ _ _ _)] at hresult
              exact ⟨⟨route, hroute, fun _ => ⟨domain, hdomain⟩⟩, hresult⟩
  · rintro ⟨⟨route, hroute, hdomain⟩, hsent⟩
    refine ⟨some route, hroute, ?_⟩
    dsimp only
    by_cases hsame : route.chain = List.replicate 32 0
    · rw [if_pos hsame]
      exact (result_sendSweep (requiredSigners_sameChain _ _ _ _)).mpr hsent
    · rw [if_neg hsame]
      obtain ⟨domain, hdomain⟩ := hdomain hsame
      refine result_bind.mpr ⟨some domain, hdomain, ?_⟩
      exact (result_sendSweep (requiredSigners_crossChain _ _ _ _ _)).mpr hsent

/-! The sweep after a payment is of the record that the paid account belongs to. -/

theorem broadcastPendingRegistration_only (reg_tx : Bytes) :
    ∀ e ∈ (broadcastPendingRegistration w reg_tx).log, ∃ tx, e = Effect.broadcast tx := by
  unfold broadcastPendingRegistration
  split_ifs
  · intro e he
    rcases mem_log_bind.mp he with he | ⟨_, -, he⟩
    · exact ⟨reg_tx, List.mem_singleton.mp he⟩
    · cases he
  · nofun

theorem broadcastPendingRegistration_ok {reg_tx : Bytes} {sig : Option Text} :
    (broadcastPendingRegistration w reg_tx).result = .ok sig ↔
      sig = if w.is_transaction reg_tx then w.net.broadcast_tx else none := by
  unfold broadcastPendingRegistration
  split_ifs
  · constructor
    · intro h
      obtain ⟨_, -, h⟩ := result_bind.mp h
      exact (Except.ok.inj h).symm
    · rintro rfl
      exact result_bind.mpr ⟨(), rfl, rfl⟩
  · constructor
    · intro h
      exact (Except.ok.inj h).symm
    · rintro rfl
      rfl

theorem sweepAfterSolanaPayment_eq (w : Worker) (task : PaymentTask) :
    sweepAfterSolanaPayment w task = match taskRecord w task with
      | none => pure none
      | some rec =>
          match rec.status, rec.reg_tx with
          | .announced, none => pure none
          | .announced, some reg_tx => do
              match ← broadcastPendingRegistration w reg_tx with
              | some _ => sweepRegistered w rec
              | none => if w.net.config_exists then sweepRegistered w rec else pure none
          | .registered, _ => sweepRegistered w rec := by
  rfl

theorem sweepsRecord_sweepAfter {rec : SolanaReceiver} (hrec : taskRecord w task = some rec) :
    SweepsRecord w (sweepAfterSolanaPayment w task) rec := by
  rw [sweepAfterSolanaPayment_eq, hrec]
  dsimp only
  split
  · exact sweepsRecord_none rec
  · refine SweepsRecord.after (broadcastPendingRegistration_only _) fun sig => ?_
    cases sig with
    | some _ => exact sweepsRecord_sweepRegistered rec
    | none =>
        dsimp only
        split_ifs
        · exact sweepsRecord_sweepRegistered rec
        · exact sweepsRecord_none rec
  · exact sweepsRecord_sweepRegistered rec

theorem sweepAfter_ok {h : Text} :
    (sweepAfterSolanaPayment w task).result = .ok (some h) ↔
      ∃ rec, taskRecord w task = some rec ∧ Registrable w rec ∧ Routable w rec ∧
        w.net.get_latest_blockhash = true ∧ w.net.sweep_tx = some h := by
  rw [sweepAfterSolanaPayment_eq]
  cases hrec : taskRecord w task with
  | none => simp
  | some rec =>
      simp only [Option.some.injEq, exists_eq_left']
      unfold Registrable
      cases hstatus : rec.status with
      | registered =>
          refine sweepRegistered_ok.trans ?_
          exact ⟨fun h => ⟨trivial, h⟩, And.right⟩
      | announced =>
          cases hreg : rec.reg_tx with
          | none => simp
          | some reg_tx =>
              dsimp only
              rw [result_bind]
              constructor
              · rintro ⟨sig, hsig, hresult⟩
                rw [broadcastPendingRegistration_ok] at hsig
                cases sig with
                | some sig =>
                    refine ⟨.inl ?_, sweepRegistered_ok.mp hresult⟩
                    by_cases htx : w.is_transaction reg_tx = true
                    · rw [if_pos htx] at hsig
                      exact ⟨htx, by rw [← hsig]; rfl⟩
                    · rw [if_neg htx] at hsig
                      cases hsig
                | none =>
                    dsimp only at hresult
                    by_cases hconfig : w.net.config_exists = true
                    · rw [if_pos hconfig] at hresult
                      exact ⟨.inr hconfig, sweepRegistered_ok.mp hresult⟩
                    · rw [if_neg hconfig] at hresult
                      cases hresult
              · rintro ⟨hregistrable, hswept⟩
                have hresult := sweepRegistered_ok.mpr hswept
                refine ⟨_, broadcastPendingRegistration_ok.mpr rfl, ?_⟩
                rcases hregistrable with ⟨htx, hsig⟩ | hconfig
                · obtain ⟨sig, hsig⟩ := Option.isSome_iff_exists.mp hsig
                  rw [if_pos htx, hsig]
                  exact hresult
                · rw [hconfig, if_pos rfl]
                  split <;> exact hresult

/-- The Solana arm does nothing, or sends the payment, and once that is confirmed sweeps and
notifies. -/
theorem log_processSolana (w : Worker) (task : PaymentTask) :
    (processSolana w task).log = [] ∨
      ∃ tx, (w.net.solana_tx.isSome → SolanaPays w task) ∧
        (processSolana w task).log = .sendSolana tx ::
          match w.net.solana_tx with
          | none => []
          | some tx_sig => (do
              let sweep_tx ← sweepAfterSolanaPayment w task
              setWebhookOnBase w task (if task.create_if_missing
                then w.ethers.address_from_str task.merchant_address else none)
              notify task w.solana_chain_name task.receiver_address tx_sig 0 sweep_tx).log := by
  unfold processSolana
  rcases log_bind_cases (log_orSkip _) _ with h | ⟨auth, hauth, h⟩
  · exact .inl h
  rw [h]
  rcases log_bind_cases (log_orSkip _) _ with h | ⟨bytes, hbytes, h⟩
  · exact .inl h
  rw [h]
  rcases log_bind_cases (log_orSkip _) _ with h | ⟨message, hmessage, h⟩
  · exact .inl h
  rw [h]
  rcases log_bind_cases (log_orSkip _) _ with h | ⟨owner, howner, h⟩
  · exact .inl h
  rw [h]
  rcases log_bind_cases (log_orSkip _) _ with h | ⟨sig_bytes, hsig_bytes, h⟩
  · exact .inl h
  rw [h]
  rcases log_bind_cases (log_orSkip _) _ with h | ⟨sig, hsig, h⟩
  · exact .inl h
  rw [h]
  rcases log_bind_cases (log_orSkip _) _ with h | ⟨owner_idx, hidx, h⟩
  · exact .inl h
  rw [h]
  by_cases hle : message.header.num_required_signatures.toNat ≤ owner_idx
  · rw [if_pos hle]
    exact .inl rfl
  rw [if_neg hle, setSignature, if_pos (by rw [List.length_replicate]; exact Nat.lt_of_not_le hle)]
  rcases log_bind_cases (log_pure _) _ with h | ⟨signatures, hsignatures, h⟩
  · exact .inl h
  rw [h]
  rcases log_bind_cases (log_orSkip _) _ with h | ⟨tx, htx, h⟩
  · exact .inl h
  rw [h]
  rw [result_orSkip] at hauth hbytes hmessage howner hsig_bytes hsig hidx htx
  obtain rfl := Except.ok.inj hsignatures
  refine .inr ⟨tx, fun hsent => ⟨⟨auth, bytes, message, owner, sig_bytes, sig, owner_idx, tx, hauth,
    hbytes, hmessage, howner, hsig_bytes, hsig, hidx, Nat.lt_of_not_le hle, htx⟩, hsent⟩, ?_⟩
  cases w.net.solana_tx with
  | none => rfl
  | some tx_sig => rfl

theorem setWebhookOnBase_only (merchant : Option Address) :
    ∀ e ∈ (setWebhookOnBase w task merchant).log, ∃ r m u, e = Effect.setWebhookUrl r m u := by
  unfold setWebhookOnBase
  split
  · intro e he
    exact ⟨_, _, _, List.mem_singleton.mp he⟩
  · nofun

theorem webhook_not_mem_sweepAfter {job : WebhookJob} :
    Effect.webhook job ∉ (sweepAfterSolanaPayment w task).log := by
  intro h
  cases hrec : taskRecord w task with
  | none =>
      rw [sweepAfterSolanaPayment_eq, hrec] at h
      cases h
  | some rec =>
      rcases (sweepsRecord_sweepAfter hrec).only _ h with ⟨reg_tx, h⟩ | ⟨ix, signers, h, -⟩
      · cases h
      · cases h

/-- Everything the Solana arm does. -/
theorem mem_log_processSolana {e : Effect} (h : e ∈ (processSolana w task).log) :
    (∃ tx, e = .sendSolana tx) ∨ e ∈ (sweepAfterSolanaPayment w task).log ∨
      (∃ r m u, e = .setWebhookUrl r m u) ∨
        ∃ job, e = .webhook job ∧ SolanaPays w task ∧ task.webhook_url.isSome ∧
          job.deposit.receiver = task.receiver_address ∧
            (sweepAfterSolanaPayment w task).result = .ok job.sweep_tx := by
  rcases log_processSolana w task with hlog | ⟨tx, hpays, hlog⟩
  · rw [hlog] at h
    cases h
  rw [hlog] at h
  rcases List.mem_cons.mp h with h | h
  · exact .inl ⟨tx, h⟩
  cases hsent : w.net.solana_tx with
  | none =>
      rw [hsent] at h
      cases h
  | some tx_sig =>
      rw [hsent] at h hpays
      rcases mem_log_bind.mp h with h | ⟨sweep_tx, hresult, h⟩
      · exact .inr (.inl h)
      rcases mem_log_bind.mp h with h | ⟨_, -, h⟩
      · exact .inr (.inr (.inl (setWebhookOnBase_only _ e h)))
      · refine .inr (.inr (.inr ?_))
        unfold notify at h
        cases hurl : task.webhook_url with
        | none =>
            rw [hurl] at h
            cases h
        | some url =>
            rw [hurl] at h
            exact ⟨_, List.mem_singleton.mp h, hpays rfl, rfl, rfl, hresult⟩

/-- The webhook of a Solana payment. -/
theorem webhook_processSolana {job : WebhookJob} (h : .webhook job ∈ (processSolana w task).log) :
    SolanaPays w task ∧ task.webhook_url.isSome ∧ job.deposit.receiver = task.receiver_address ∧
      (sweepAfterSolanaPayment w task).result = .ok job.sweep_tx := by
  rcases mem_log_processSolana h with ⟨tx, h⟩ | h | ⟨r, m, u, h⟩ | ⟨job', h, hjob⟩
  · cases h
  · exact absurd h webhook_not_mem_sweepAfter
  · cases h
  · cases h
    exact hjob

/-- What follows the payment is done once the payment is confirmed. -/
theorem SolanaPays.mem_log (hpays : SolanaPays w task) {tx_sig : Text}
    (hsent : w.net.solana_tx = some tx_sig) {e : Effect}
    (he : e ∈ (do
      let sweep_tx ← sweepAfterSolanaPayment w task
      setWebhookOnBase w task (if task.create_if_missing
        then w.ethers.address_from_str task.merchant_address else none)
      notify task w.solana_chain_name task.receiver_address tx_sig 0 sweep_tx).log) :
    e ∈ (processSolana w task).log := by
  obtain ⟨auth, bytes, message, owner, sig_bytes, sig, owner_idx, tx, hauth, hbytes, hmessage,
    howner, hsig_bytes, hsig, hidx, hlt, htx⟩ := hpays.signed
  unfold processSolana
  refine mem_log_bind.mpr (.inr ⟨auth, result_orSkip.mpr hauth, ?_⟩)
  refine mem_log_bind.mpr (.inr ⟨bytes, result_orSkip.mpr hbytes, ?_⟩)
  refine mem_log_bind.mpr (.inr ⟨message, result_orSkip.mpr hmessage, ?_⟩)
  refine mem_log_bind.mpr (.inr ⟨owner, result_orSkip.mpr howner, ?_⟩)
  refine mem_log_bind.mpr (.inr ⟨sig_bytes, result_orSkip.mpr hsig_bytes, ?_⟩)
  refine mem_log_bind.mpr (.inr ⟨sig, result_orSkip.mpr hsig, ?_⟩)
  refine mem_log_bind.mpr (.inr ⟨owner_idx, result_orSkip.mpr hidx, ?_⟩)
  rw [if_neg (Nat.not_le_of_lt hlt), setSignature,
    if_pos (by rw [List.length_replicate]; exact hlt)]
  refine mem_log_bind.mpr (.inr ⟨_, rfl, ?_⟩)
  refine mem_log_bind.mpr (.inr ⟨tx, result_orSkip.mpr htx, ?_⟩)
  refine mem_log_bind.mpr (.inr ⟨(), rfl, ?_⟩)
  rw [hsent]
  exact he

/-- The arm sends nothing to another chain, and sweeps no other record. -/
theorem sweeps_processSolana {rec : SolanaReceiver} (hrec : taskRecord w task = some rec) {e : Effect}
    (h : e ∈ (processSolana w task).log) :
    match e with
    | .aggregate3 .. | .executeV3 .. => False
    | .sendSweep ix _ => (ix.accounts[2]?).map (·.key) = some rec.record.receiver_token_account
    | _ => True := by
  rcases mem_log_processSolana h with ⟨tx, rfl⟩ | h | ⟨r, m, u, rfl⟩ | ⟨job, rfl, -⟩
  · trivial
  · rcases (sweepsRecord_sweepAfter hrec).only e h with ⟨reg_tx, rfl⟩ | ⟨ix, signers, rfl, hix⟩
    · trivial
    · exact hix
  · trivial
  · trivial

/-- The sweep after a payment is of the account that was paid iff the record of its owner names
that account. -/
theorem carries_processSolana {rec : SolanaReceiver} {h : Text}
    (hrec : taskRecord w task = some rec)
    (hresult : (sweepAfterSolanaPayment w task).result = .ok (some h))
    (hpays : SolanaPays w task) :
    Carries w (processSolana w task).log task.receiver_address h ↔
      w.solana.pubkey_from_str task.receiver_address
        = some rec.record.receiver_token_account := by
  constructor
  · rintro (⟨-, multicall, calls, priority, fee, -, -, -, -, hmem, -⟩ |
      ⟨calls, -, -, -, hmem, -⟩ | ⟨ix, signers, account, -, hmem, haccount, hix⟩)
    · exact (sweeps_processSolana hrec hmem).elim
    · exact (sweeps_processSolana hrec hmem).elim
    · rw [haccount, ← hix]
      exact sweeps_processSolana hrec hmem
  · intro haccount
    obtain ⟨ix, signers, hmem⟩ := (sweepsRecord_sweepAfter hrec).sent h hresult
    obtain ⟨-, -, -, -, -, hsent⟩ := sweepAfter_ok.mp hresult
    obtain ⟨tx_sig, htx_sig⟩ := Option.isSome_iff_exists.mp hpays.sent
    have hmem := hpays.mem_log htx_sig (mem_log_bind.mpr (.inl hmem))
    exact .inr (.inr ⟨ix, signers, _, hsent, hmem, haccount, sweeps_processSolana hrec hmem⟩)

/-- A Solana payment that gets through is notified of, with the hash of its sweep. -/
theorem SolanaPays.notified {sweep_tx : Option Text} {url : Text} (h : SolanaPays w task)
    (hresult : (sweepAfterSolanaPayment w task).result = .ok sweep_tx)
    (hurl : task.webhook_url = some url) :
    ∃ job, .webhook job ∈ (processSolana w task).log ∧
      job.deposit.receiver = task.receiver_address ∧ job.sweep_tx = sweep_tx := by
  obtain ⟨tx_sig, htx_sig⟩ := Option.isSome_iff_exists.mp h.sent
  have hwebhook : ∀ merchant, (setWebhookOnBase w task merchant).result = .ok () := by
    intro merchant
    unfold setWebhookOnBase
    split <;> rfl
  refine ⟨⟨url, ⟨w.solana_chain_name, tx_sig, task.from_address, task.receiver_address,
    task.amount_raw, 0⟩, sweep_tx, 5⟩, h.mem_log htx_sig ?_, rfl, rfl⟩
  refine mem_log_bind.mpr (.inr ⟨sweep_tx, hresult, ?_⟩)
  refine mem_log_bind.mpr (.inr ⟨(), hwebhook _, ?_⟩)
  exact mem_notify.mpr ⟨url, hurl, rfl⟩

end

/-! ## The arms together -/

section
variable (w : Worker) (succeeds : Text → Prop)

/-- On the EVM chains and on Starknet a webhook is as true as its transaction is successful. -/
theorem jobs_settled_iff {log : List Effect} (sends : Prop) (h : Text)
    (hjob : ∀ job, .webhook job ∈ log → sends ∧ job.sweep_tx = some h ∧
      Carries w log job.deposit.receiver h)
    (hsends : sends → ∃ job, .webhook job ∈ log ∧ job.sweep_tx = some h) :
    (∀ job, .webhook job ∈ log → JobSettled w succeeds log job) ↔ (sends → succeeds h) := by
  constructor
  · intro hall hsent
    obtain ⟨job, hmem, hsweep⟩ := hsends hsent
    exact (hall job hmem h hsweep).1
  · intro hsucceeds job hmem hash hhash
    obtain ⟨hsent, hsweep, hcarries⟩ := hjob job hmem
    obtain rfl := Option.some.inj (hsweep.symm.trans hhash)
    exact ⟨hsucceeds hsent, hcarries⟩

variable (task : PaymentTask)

theorem evm_payment_iff :
    (∀ job, .webhook job ∈ (processEvm w task).log →
        JobSettled w succeeds (processEvm w task).log job) ↔
      (task.webhook_url.isSome → ∀ receipt a cfg, w.net.receipt = some receipt →
        EvmPays w task a cfg → succeeds receipt.transaction_hash) := by
  cases hreceipt : w.net.receipt with
  | none =>
      refine iff_of_true ?_ nofun
      intro job hmem
      obtain ⟨receipt, a, cfg, hsome, -⟩ := webhook_processEvm hmem
      rw [hreceipt] at hsome
      cases hsome
  | some receipt =>
      refine (jobs_settled_iff w succeeds (task.webhook_url.isSome ∧
        ∃ a cfg, EvmPays w task a cfg) receipt.transaction_hash ?_ ?_).trans ?_
      · intro job hmem
        obtain ⟨receipt', a, cfg, hsome, hpays, hurl, hsweep, hcarries⟩ := webhook_processEvm hmem
        obtain rfl := Option.some.inj (hreceipt.symm.trans hsome)
        exact ⟨⟨hurl, a, cfg, hpays⟩, hsweep, hcarries⟩
      · rintro ⟨hurl, a, cfg, hpays⟩
        obtain ⟨url, hurl⟩ := Option.isSome_iff_exists.mp hurl
        exact hpays.notified hreceipt hurl
      · constructor
        · intro h hurl receipt' a cfg hsome hpays
          obtain rfl := Option.some.inj hsome
          exact h ⟨hurl, a, cfg, hpays⟩
        · rintro h ⟨hurl, a, cfg, hpays⟩
          exact h hurl receipt a cfg rfl hpays

theorem starknet_payment_iff :
    (∀ job, .webhook job ∈ (processStarknet w task).log →
        JobSettled w succeeds (processStarknet w task).log job) ↔
      (task.webhook_url.isSome → ∀ h receiver, w.net.starknet_tx = some h →
        StarknetPays w task receiver → succeeds h) := by
  cases hsent : w.net.starknet_tx with
  | none =>
      refine iff_of_true ?_ nofun
      intro job hmem
      obtain ⟨h, receiver, hsome, -⟩ := webhook_processStarknet hmem
      rw [hsent] at hsome
      cases hsome
  | some h =>
      refine (jobs_settled_iff w succeeds (task.webhook_url.isSome ∧
        ∃ receiver, StarknetPays w task receiver) h ?_ ?_).trans ?_
      · intro job hmem
        obtain ⟨h', receiver, hsome, hpays, hurl, hsweep, hcarries⟩ := webhook_processStarknet hmem
        obtain rfl := Option.some.inj (hsent.symm.trans hsome)
        exact ⟨⟨hurl, receiver, hpays⟩, hsweep, hcarries⟩
      · rintro ⟨hurl, receiver, hpays⟩
        obtain ⟨url, hurl⟩ := Option.isSome_iff_exists.mp hurl
        exact hpays.notified hsent hurl
      · constructor
        · intro h' hurl hash receiver hsome hpays
          obtain rfl := Option.some.inj hsome
          exact h' ⟨hurl, receiver, hpays⟩
        · rintro h' ⟨hurl, receiver, hpays⟩
          exact h' hurl h receiver rfl hpays

/-- `send_and_confirm_transaction` returns the hash of a transaction that succeeded. -/
theorem solana_payment_iff (hconfirmed : ∀ h, w.net.sweep_tx = some h → succeeds h) :
    (∀ job, .webhook job ∈ (processSolana w task).log →
        JobSettled w succeeds (processSolana w task).log job) ↔
      (task.webhook_url.isSome → ∀ h rec, w.net.sweep_tx = some h → SolanaPays w task →
        taskRecord w task = some rec → Registrable w rec → Routable w rec →
          w.net.get_latest_blockhash = true →
            w.solana.pubkey_from_str task.receiver_address
              = some rec.record.receiver_token_account) := by
  constructor
  · intro hall hurl h rec hsweep hpays hrec hregistrable hroutable hhash
    obtain ⟨url, hurl⟩ := Option.isSome_iff_exists.mp hurl
    have hresult := sweepAfter_ok.mpr ⟨rec, hrec, hregistrable, hroutable, hhash, hsweep⟩
    obtain ⟨job, hmem, hreceiver, hjob⟩ := hpays.notified hresult hurl
    have hcarries := (hall job hmem h hjob).2
    rw [hreceiver] at hcarries
    exact (carries_processSolana hrec hresult hpays).mp hcarries
  · intro hall job hmem h hjob
    obtain ⟨hpays, hurl, hreceiver, hresult⟩ := webhook_processSolana hmem
    rw [hjob] at hresult
    obtain ⟨rec, hrec, hregistrable, hroutable, hhash, hsweep⟩ := sweepAfter_ok.mp hresult
    refine ⟨hconfirmed h hsweep, ?_⟩
    rw [hreceiver]
    exact (carries_processSolana hrec hresult hpays).mpr
      (hall hurl h rec hsweep hpays hrec hregistrable hroutable hhash)

/-- **The payment worker.** -/
theorem payment_settled_iff (hconfirmed : ∀ h, w.net.sweep_tx = some h → succeeds h) :
    (∀ job, .webhook job ∈ (runArm w task).log → JobSettled w succeeds (runArm w task).log job) ↔
      TaskSettles w succeeds task := by
  unfold runArm TaskSettles
  cases task.source_chain with
  | base => exact evm_payment_iff w succeeds task
  | ethereum => exact evm_payment_iff w succeeds task
  | arbitrum => exact evm_payment_iff w succeeds task
  | monad => exact evm_payment_iff w succeeds task
  | starknet => exact starknet_payment_iff w succeeds task
  | solana => exact solana_payment_iff w succeeds task hconfirmed

end

end Beanie.Api
