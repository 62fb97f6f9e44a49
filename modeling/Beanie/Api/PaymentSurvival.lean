/-
# `Beanie.Api.PaymentSurvival` — which accepted payments stop the worker

The EVM arm unwraps constants, the Solana arm writes at an index it has
checked, and the Starknet arm unwraps texts of the request, most of which the
route has not looked at.  So the loop gets through its queue exactly when, of
every Starknet payment that gets that far, all texts are field elements
(`worker_survives_iff`).
-/
import Beanie.Api.PaymentWorkers
import Beanie.Api.PlainCrates
import Beanie.Solana.LedgerRuntime

namespace Beanie.Api

open Beanie.Starknet (Felt)
open Journal

/-! ## What the worker unwraps -/

/-- The texts of a call that have to parse. -/
def CallDto.unwrapped (c : CallDto) : List Text := c.contract_address :: c.calldata.val

/-- Every text of an authorisation that the worker unwraps. -/
def StarknetAuth.unwrapped (auth : StarknetAuth) : List Text :=
  auth.outside_execution.caller :: auth.outside_execution.nonce ::
    (auth.outside_execution.calls.val.flatMap CallDto.unwrapped ++ auth.signature.val)

/-- They all parse as field elements. -/
def AllParse (sn : StarknetCrate) (ss : List Text) : Prop := ∀ s ∈ ss, (sn.from_hex s).isSome

section
variable {w : Worker}

/-- A call and the words it is submitted as. -/
structure SerialisedCall (sn : StarknetCrate) (c : CallDto) (call : Starknet.Call) : Prop where
  target : sn.from_hex c.contract_address = some call.target
  selector : sn.get_selector_from_name c.entrypoint = some call.selector
  calldata : List.Forall₂ (fun s v => sn.from_hex s = some v) c.calldata.val call.calldata

theorem SerialisedCall.length {sn : StarknetCrate} {c : CallDto} {call : Starknet.Call}
    (h : SerialisedCall sn c call) : call.calldata.length = c.calldata.val.length :=
  h.calldata.length_eq.symm

theorem lengthFelt_congr {α β : Type} {xs : List α} {ys : List β} (h : xs.length = ys.length) :
    Starknet.lengthFelt xs = Starknet.lengthFelt ys := by
  rw [Starknet.lengthFelt, Starknet.lengthFelt, h]

theorem serialiseCall_ok {c : CallDto} {words : List Felt} :
    (serialiseCall w c).result = .ok words ↔
      ∃ call, SerialisedCall w.starknet c call ∧ words = Starknet.encodeCall call := by
  simp only [serialiseCall, result_bind, result_unwrap, result_unwrapAll, result_pure,
    Except.ok.injEq]
  constructor
  · rintro ⟨target, htarget, selector, hselector, calldata, hcalldata, rfl⟩
    refine ⟨⟨target, selector, calldata⟩, ⟨htarget, hselector, hcalldata⟩, ?_⟩
    rw [Starknet.encodeCall, lengthFelt_congr hcalldata.length_eq]
  · rintro ⟨call, h, rfl⟩
    refine ⟨call.target, h.target, call.selector, h.selector, call.calldata, h.calldata, ?_⟩
    rw [Starknet.encodeCall, lengthFelt_congr h.calldata.length_eq]

theorem serialiseCalls_ok {cs : List CallDto} {words : List Felt} :
    (serialiseCalls w cs).result = .ok words ↔
      ∃ calls, List.Forall₂ (SerialisedCall w.starknet) cs calls ∧
        words = calls.flatMap Starknet.encodeCall := by
  induction cs generalizing words with
  | nil => simp [serialiseCalls, List.forall₂_nil_left_iff, eq_comm]
  | cons c cs ih =>
      simp only [serialiseCalls, result_bind, serialiseCall_ok, ih, result_pure, Except.ok.injEq,
        List.forall₂_cons_left_iff]
      constructor
      · rintro ⟨_, ⟨call, hcall, rfl⟩, _, ⟨calls, hcalls, rfl⟩, rfl⟩
        exact ⟨call :: calls, ⟨call, calls, hcall, hcalls, rfl⟩, rfl⟩
      · rintro ⟨_, ⟨call, calls, hcall, hcalls, rfl⟩, rfl⟩
        exact ⟨_, ⟨call, hcall, rfl⟩, _, ⟨calls, hcalls, rfl⟩, rfl⟩

/-- What an authorisation is submitted as. -/
structure Serialised (sn : StarknetCrate) (auth : StarknetAuth) (oe : Starknet.OutsideExecution)
    (signature : List Felt) : Prop where
  caller : sn.from_hex auth.outside_execution.caller = some oe.caller
  nonce : sn.from_hex auth.outside_execution.nonce = some oe.nonce
  execute_after : oe.execute_after
    = Fin.ofNat Starknet.P auth.outside_execution.execute_after.toNat
  execute_before : oe.execute_before
    = Fin.ofNat Starknet.P auth.outside_execution.execute_before.toNat
  calls : List.Forall₂ (SerialisedCall sn) auth.outside_execution.calls.val oe.calls
  signature : List.Forall₂ (fun s v => sn.from_hex s = some v) auth.signature.val signature

theorem serialiseExecution_ok {auth : StarknetAuth} {words : List Felt} :
    (serialiseExecution w auth).result = .ok words ↔
      ∃ oe signature, Serialised w.starknet auth oe signature ∧ words = oe.encode signature := by
  simp only [serialiseExecution, result_bind, result_unwrap, result_unwrapAll, serialiseCalls_ok,
    result_pure, Except.ok.injEq]
  constructor
  · rintro ⟨caller, hcaller, nonce, hnonce, _, ⟨calls, hcalls, rfl⟩, signature, hsignature, rfl⟩
    refine ⟨⟨caller, nonce, Fin.ofNat Starknet.P auth.outside_execution.execute_after.toNat,
      Fin.ofNat Starknet.P auth.outside_execution.execute_before.toNat, calls⟩, signature,
      ⟨hcaller, hnonce, rfl, rfl, hcalls, hsignature⟩, ?_⟩
    simp [Starknet.OutsideExecution.encode, Starknet.encodeCalls,
      lengthFelt_congr hcalls.length_eq, lengthFelt_congr hsignature.length_eq]
  · rintro ⟨oe, signature, h, rfl⟩
    refine ⟨oe.caller, h.caller, oe.nonce, h.nonce, _, ⟨oe.calls, h.calls, rfl⟩, signature,
      h.signature, ?_⟩
    simp [Starknet.OutsideExecution.encode, Starknet.encodeCalls, h.execute_after,
      h.execute_before, lengthFelt_congr h.calls.length_eq, lengthFelt_congr h.signature.length_eq]

/-! ## When it panics -/

theorem exists_serialisedCalls {sn : StarknetCrate} {cs : List CallDto}
    (hentry : ∀ c ∈ cs, (sn.get_selector_from_name c.entrypoint).isSome) :
    (∃ calls, List.Forall₂ (SerialisedCall sn) cs calls) ↔
      AllParse sn (cs.flatMap CallDto.unwrapped) := by
  induction cs with
  | nil => simp [AllParse, List.forall₂_nil_left_iff]
  | cons c cs ih =>
      have hc : (∃ call, SerialisedCall sn c call) ↔ AllParse sn c.unwrapped := by
        obtain ⟨selector, hselector⟩ :=
          Option.isSome_iff_exists.mp (hentry c List.mem_cons_self)
        rw [AllParse, CallDto.unwrapped, List.forall_mem_cons, Option.isSome_iff_exists,
          ← exists_forall₂_some]
        constructor
        · rintro ⟨call, h⟩
          exact ⟨⟨_, h.target⟩, _, h.calldata⟩
        · rintro ⟨⟨target, htarget⟩, calldata, hcalldata⟩
          exact ⟨⟨target, selector, calldata⟩, htarget, hselector, hcalldata⟩
      have hcs := ih fun d hd => hentry d (List.mem_cons_of_mem _ hd)
      have happ : AllParse sn (c.unwrapped ++ cs.flatMap CallDto.unwrapped) ↔
          AllParse sn c.unwrapped ∧ AllParse sn (cs.flatMap CallDto.unwrapped) :=
        List.forall_mem_append
      rw [List.flatMap_cons, happ, ← hc, ← hcs]
      simp only [List.forall₂_cons_left_iff]
      constructor
      · rintro ⟨_, call, calls, hcall, hcalls, rfl⟩
        exact ⟨⟨call, hcall⟩, calls, hcalls⟩
      · rintro ⟨⟨call, hcall⟩, calls, hcalls⟩
        exact ⟨call :: calls, call, calls, hcall, hcalls, rfl⟩

theorem exists_serialised {sn : StarknetCrate} {auth : StarknetAuth}
    (hentry : ∀ c ∈ auth.outside_execution.calls.val,
      (sn.get_selector_from_name c.entrypoint).isSome) :
    (∃ oe signature, Serialised sn auth oe signature) ↔ AllParse sn auth.unwrapped := by
  have happ : AllParse sn (auth.outside_execution.calls.val.flatMap CallDto.unwrapped
      ++ auth.signature.val) ↔ AllParse sn (auth.outside_execution.calls.val.flatMap
        CallDto.unwrapped) ∧ AllParse sn auth.signature.val := List.forall_mem_append
  rw [AllParse, StarknetAuth.unwrapped, List.forall_mem_cons, List.forall_mem_cons]
  rw [show (∀ s ∈ auth.outside_execution.calls.val.flatMap CallDto.unwrapped ++ auth.signature.val,
    (sn.from_hex s).isSome) ↔ _ from happ, ← exists_serialisedCalls hentry, AllParse,
    ← exists_forall₂_some, Option.isSome_iff_exists, Option.isSome_iff_exists]
  constructor
  · rintro ⟨oe, signature, h⟩
    exact ⟨⟨_, h.caller⟩, ⟨_, h.nonce⟩, ⟨_, h.calls⟩, _, h.signature⟩
  · rintro ⟨⟨caller, hcaller⟩, ⟨nonce, hnonce⟩, ⟨calls, hcalls⟩, signature, hsignature⟩
    exact ⟨⟨caller, nonce, _, _, calls⟩, signature, hcaller, hnonce, rfl, rfl, hcalls, hsignature⟩

theorem not_skips_serialiseCalls (cs : List CallDto) : ¬ (serialiseCalls w cs).Skips := by
  induction cs with
  | nil => simp [serialiseCalls]
  | cons c cs ih => simp [serialiseCalls, serialiseCall, skips_bind, ih]

theorem not_skips_serialiseExecution (auth : StarknetAuth) :
    ¬ (serialiseExecution w auth).Skips := by
  simp [serialiseExecution, skips_bind, not_skips_serialiseCalls]

/-- The serialisation panics exactly when one of the texts does not parse. -/
theorem serialiseExecution_panics {auth : StarknetAuth}
    (hentry : ∀ c ∈ auth.outside_execution.calls.val,
      (w.starknet.get_selector_from_name c.entrypoint).isSome) :
    (serialiseExecution w auth).Panics ↔ ¬ AllParse w.starknet auth.unwrapped := by
  rw [panics_iff_of_not_skips (not_skips_serialiseExecution auth), ← exists_serialised hentry]
  refine not_congr ?_
  simp only [serialiseExecution_ok]
  constructor
  · rintro ⟨_, oe, signature, h, rfl⟩
    exact ⟨oe, signature, h⟩
  · rintro ⟨oe, signature, h⟩
    exact ⟨_, oe, signature, h, rfl⟩

/-! ## The arms that never panic -/

theorem not_panics_notify (task : PaymentTask) (chain receiver tx_hash : Text)
    (block_number : BitVec 64) (sweep_tx : Option Text) :
    ¬ (notify task chain receiver tx_hash block_number sweep_tx).Panics := by
  unfold notify
  split <;> simp

theorem not_panics_setWebhookOnBase (task : PaymentTask) (merchant : Option Address) :
    ¬ (setWebhookOnBase w task merchant).Panics := by
  unfold setWebhookOnBase
  split <;> simp

theorem not_panics_registerCalls (cfg : EvmConfig) (info : Option EvmReceiverInfo)
    (missing : Bool) : ¬ (registerCalls w cfg info missing).Panics := by
  unfold registerCalls
  split <;> simp [panics_bind]

theorem isSome_multicall (hdoc : w.ethers.Documented) :
    (w.ethers.address_from_str MULTICALL3_ADDRESS).isSome :=
  hdoc.address "cA11bde05977b3631167028862bE2a173976CA11".toList (by decide) (by decide)

theorem isSome_priority (hdoc : w.ethers.Documented) :
    (w.ethers.parse_gwei "0.005".toList).isSome :=
  hdoc.gwei "0".toList "005".toList (by decide) (by decide) (by decide) (by decide) (by decide)

theorem isSome_fee_cap (hdoc : w.ethers.Documented) : (w.ethers.parse_gwei "0.1".toList).isSome :=
  hdoc.gwei "0".toList "1".toList (by decide) (by decide) (by decide) (by decide) (by decide)

/-- The EVM arm unwraps constants only. -/
theorem not_panics_processEvm (hdoc : w.ethers.Documented) (task : PaymentTask) :
    ¬ (processEvm w task).Panics := by
  obtain ⟨multicall, hmulticall⟩ := Option.isSome_iff_exists.mp (isSome_multicall hdoc)
  obtain ⟨priority, hpriority⟩ := Option.isSome_iff_exists.mp (isSome_priority hdoc)
  obtain ⟨cap, hcap⟩ := Option.isSome_iff_exists.mp (isSome_fee_cap hdoc)
  unfold processEvm
  split
  case h_1 => simp
  case h_2 receiver_addr _ =>
    simp only [panics_bind, not_panics_orSkip, not_panics_registerCalls, not_panics_tell,
      panics_unwrap, hmulticall, hpriority, hcap, reduceCtorEq, false_or, not_exists, not_and]
    intros
    split
    · exact not_panics_notify _ _ _ _ _ _
    · simp

theorem not_panics_fetchReceiverRoute (receiver_config : Solana.Pubkey) :
    ¬ (fetchReceiverRoute w receiver_config).Panics := by
  unfold fetchReceiverRoute
  split
  case h_1 => simp
  case h_2 b hb =>
    obtain ⟨data, -, hslice⟩ := Option.bind_eq_some_iff.mp hb
    have hlen : b.length = 64 := by
      simp only [slice] at hslice
      split_ifs at hslice with h
      rw [← Option.some.inj hslice, List.length_take, List.length_drop]
      omega
    simp [panics_bind, toArray, hlen]

theorem not_panics_fetchCctpDomainId (receiver_config : Solana.Pubkey) :
    ¬ (fetchCctpDomainId w receiver_config).Panics := by
  unfold fetchCctpDomainId
  split
  case h_1 => simp
  case h_2 b hb =>
    obtain ⟨data, -, hslice⟩ := Option.bind_eq_some_iff.mp hb
    have hlen : b.length = 4 := by
      simp only [slice] at hslice
      split_ifs at hslice with h
      rw [← Option.some.inj hslice, List.length_take, List.length_drop]
      omega
    simp [panics_bind, toArray, hlen]

theorem not_panics_sendSweep {ix : Solana.Instruction} {signers : List Solana.Pubkey}
    (h : ∀ k, k ∈ requiredSigners ix w.solana_cfg.keeper_wallet ↔ k ∈ signers) :
    ¬ (sendSweep w ix signers).Panics := by
  unfold sendSweep
  split
  case isFalse => simp
  case isTrue =>
    rw [newSignedWithPayer, if_pos ⟨fun k hk => (h k).mp hk, fun k hk => (h k).mpr hk⟩]
    simp [panics_bind]

/-- The keeper's wallet is the only signer of a same-chain sweep. -/
theorem requiredSigners_sameChain (rt : Solana.Runtime) (cfg : Keeper.SolanaConfig)
    (rec : Keeper.SolanaReceiverRecord) (merchant_ta k : Solana.Pubkey) :
    k ∈ requiredSigners (Keeper.sameChainSweep rt cfg rec merchant_ta) cfg.keeper_wallet ↔
      k ∈ [cfg.keeper_wallet] := by
  simp [requiredSigners, Keeper.sameChainSweep, Keeper.buildSameChainSweepIx,
    Solana.AccountMeta.new, Solana.AccountMeta.newReadonly]

/-- A cross-chain sweep is signed by the wallet and by the fresh event account. -/
theorem requiredSigners_crossChain (rt : Solana.Runtime) (cfg : Keeper.SolanaConfig)
    (rec : Keeper.SolanaReceiverRecord) (domain : BitVec 32) (event_data k : Solana.Pubkey) :
    k ∈ requiredSigners (Keeper.crossChainSweep rt cfg rec domain event_data) cfg.keeper_wallet ↔
      k ∈ [cfg.keeper_wallet, event_data] := by
  simp [requiredSigners, Keeper.crossChainSweep, Keeper.buildCrossChainSweepIx,
    Solana.AccountMeta.new, Solana.AccountMeta.newReadonly]

theorem not_panics_sweepCrossChainReceiver (rec : SolanaReceiver) :
    ¬ (sweepCrossChainReceiver w rec).Panics := by
  unfold sweepCrossChainReceiver
  simp only [panics_bind, not_panics_fetchCctpDomainId, false_or, not_exists, not_and]
  intro domain _
  split
  · simp
  · exact not_panics_sendSweep fun k => requiredSigners_crossChain _ _ _ _ _ k

theorem not_panics_receiverRoute (rec : SolanaReceiver) : ¬ (receiverRoute w rec).Panics := by
  unfold receiverRoute
  split
  · simp
  · exact not_panics_fetchReceiverRoute _

theorem not_panics_sweepRegistered (rec : SolanaReceiver) : ¬ (sweepRegistered w rec).Panics := by
  unfold sweepRegistered
  simp only [panics_bind, not_panics_receiverRoute, false_or, not_exists, not_and]
  intro route _
  split
  · simp
  · split
    · exact not_panics_sendSweep fun k => requiredSigners_sameChain _ _ _ _ k
    · exact not_panics_sweepCrossChainReceiver _

theorem not_panics_sweepAfterSolanaPayment (task : PaymentTask) :
    ¬ (sweepAfterSolanaPayment w task).Panics := by
  have hbroadcast : ∀ reg_tx, ¬ (broadcastPendingRegistration w reg_tx).Panics := by
    intro reg_tx
    unfold broadcastPendingRegistration
    split <;> simp [panics_bind]
  unfold sweepAfterSolanaPayment
  dsimp only
  split
  · simp
  · split
    · simp
    · simp only [panics_bind, hbroadcast, false_or, not_exists, not_and]
      intro sent _
      split
      · exact not_panics_sweepRegistered _
      · split
        · exact not_panics_sweepRegistered _
        · simp
    · exact not_panics_sweepRegistered _

theorem not_panics_setSignature (signatures : List Bytes) {i : Nat} (signature : Bytes)
    (h : i < signatures.length) : ¬ (setSignature signatures i signature).Panics := by
  simp [setSignature, h]

/-- The Solana arm writes one signature, at an index it has checked. -/
theorem not_panics_processSolana (task : PaymentTask) : ¬ (processSolana w task).Panics := by
  unfold processSolana
  simp only [panics_bind, not_panics_orSkip, false_or, not_exists, not_and]
  intro auth _ message_bytes _ message _ owner_pk _ owner_sig_bytes _ owner_sig _ owner_idx _
  split
  case isTrue => simp
  case isFalse hidx =>
    have hset := not_panics_setSignature (List.replicate
      message.header.num_required_signatures.toNat (List.replicate 64 0)) owner_sig
      (by rw [List.length_replicate]; exact Nat.lt_of_not_le hidx)
    simp only [panics_bind, hset, not_panics_orSkip, not_panics_tell, false_or, not_exists,
      not_and]
    intro signatures _ tx _ _ _
    split
    · simp
    · simp only [panics_bind, not_panics_sweepAfterSolanaPayment, not_panics_setWebhookOnBase,
        not_panics_notify, and_false, exists_false, or_false, not_false_eq_true]

/-! ## The Starknet arm -/

/-- The worker gets as far as the serialisation: the receiver parses and is announced with a route,
and the user's address parses. -/
structure ReachesSerialisation (w : Worker) (receiver_address user_address : Text) : Prop where
  announced : ∃ receiver info, w.starknet.from_hex receiver_address = some receiver ∧
    w.starknet_registry receiver = some info ∧ info.route.isSome
  user : (w.starknet.from_hex user_address).isSome

theorem StarknetCrate.Documented.selector_ok {sn : StarknetCrate} (hdoc : sn.Documented)
    {s : Text} (h : ∀ c ∈ s, c.toNat < 128) : ∃ v, sn.get_selector_from_name s = some v :=
  Option.isSome_iff_exists.mp (hdoc.selector s h)

theorem registerStarknet_ok (receiver : Felt) (hdoc : w.starknet.Documented) {task : PaymentTask}
    (hcreate : task.create_if_missing = true) :
    (∃ register, (registerStarknet w task receiver).result = .ok register) ↔
      ∃ info, w.starknet_registry receiver = some info ∧ info.route.isSome := by
  obtain ⟨selector, hselector⟩ := hdoc.selector_ok (s := "register_merchant".toList) (by decide)
  have hwebhook : ∀ merchant, (setWebhookOnBase w task merchant).result = .ok () := by
    intro merchant
    unfold setWebhookOnBase
    split <;> rfl
  rw [registerStarknet, if_pos hcreate]
  simp only [result_bind, result_orSkip, hselector, Option.some.injEq, hwebhook, Except.ok.injEq,
    result_pure, Option.isSome_iff_exists]
  constructor
  · rintro ⟨register, info, hinfo, route, hroute, -⟩
    exact ⟨info, hinfo, route, hroute⟩
  · rintro ⟨info, hinfo, route, hroute⟩
    exact ⟨_, info, hinfo, route, hroute, selector, rfl, (), trivial, rfl⟩

theorem not_panics_submitStarknet (task : PaymentTask) (receiver : Felt)
    (calls : List Starknet.Call) : ¬ (submitStarknet w task receiver calls).Panics := by
  unfold submitStarknet
  simp only [panics_bind, not_panics_tell, false_or, not_exists, not_and]
  intro _ _
  split
  · exact not_panics_notify _ _ _ _ _ _
  · simp

theorem not_panics_registerStarknet (task : PaymentTask) (receiver : Felt) :
    ¬ (registerStarknet w task receiver).Panics := by
  unfold registerStarknet
  split <;> simp [panics_bind, not_panics_setWebhookOnBase]

/-- What the route and the worker agree on when they meet a Starknet task. -/
theorem StarknetAccepted.entry {st : AppState} {payload : IncomingPaymentRequest}
    {task : PaymentTask} {auth : StarknetAuth} {call : CallDto} {amount : Nat}
    (hdoc : w.starknet.Documented) (h : StarknetAccepted st payload task auth call amount) :
    ∀ c ∈ auth.outside_execution.calls.val,
      (w.starknet.get_selector_from_name c.entrypoint).isSome := by
  intro c hc
  rw [h.verified.calls, List.mem_singleton] at hc
  rw [hc, h.verified.transfers.entrypoint]
  exact hdoc.selector _ (by decide)

section
variable {st : AppState} {payload : IncomingPaymentRequest} {task : PaymentTask}
  {auth : StarknetAuth} {call : CallDto} {amount : Nat}

/-- The Starknet arm panics exactly when it gets to texts that do not parse. -/
theorem processStarknet_panics (hdoc : w.starknet.Documented)
    (h : StarknetAccepted st payload task auth call amount) :
    (processStarknet w task).Panics ↔
      ReachesSerialisation w payload.receiver_address auth.user_address ∧
        ¬ AllParse w.starknet auth.unwrapped := by
  obtain ⟨execute, hexecute⟩ :=
    hdoc.selector_ok (s := "execute_from_outside_v2".toList) (by decide)
  obtain ⟨sweep, hsweep⟩ := hdoc.selector_ok (s := "sweep".toList) (by decide)
  have hpanics := serialiseExecution_panics (w := w) (h.entry hdoc)
  have hregister := fun receiver => registerStarknet_ok receiver hdoc h.create
  rw [processStarknet, h.receiver]
  split
  case h_1 hreceiver =>
    refine iff_of_false (by simp) fun hall => ?_
    obtain ⟨receiver, _, hsome, -⟩ := hall.1.announced
    rw [hreceiver] at hsome
    exact nomatch hsome
  case h_2 receiver hreceiver =>
    simp only [panics_bind, not_panics_registerStarknet, not_panics_orSkip, result_orSkip,
      not_panics_submitStarknet, h.authorized, hexecute, Option.some.injEq, false_or,
      exists_eq_left', hpanics, and_false, exists_false, or_false]
    constructor
    · rintro ⟨register, hreg, user, huser, hparse⟩
      obtain ⟨info, hinfo, hroute⟩ := (hregister receiver).mp ⟨register, hreg⟩
      exact ⟨⟨⟨receiver, info, hreceiver, hinfo, hroute⟩, by simp [huser]⟩, hparse⟩
    · rintro ⟨hreach, hparse⟩
      obtain ⟨r, info, hr, hinfo, hroute⟩ := hreach.announced
      obtain rfl : receiver = r := Option.some.inj (hreceiver.symm.trans hr)
      obtain ⟨register, hreg⟩ := (hregister receiver).mpr ⟨info, hinfo, hroute⟩
      obtain ⟨user, huser⟩ := Option.isSome_iff_exists.mp hreach.user
      exact ⟨register, hreg, user, huser, hparse⟩

/-- One turn of the loop on a fresh task. -/
theorem processTask_fresh (hfresh : task.attempts = 0) :
    processTask w task = runArm w { task with attempts := 1 } := by
  rw [processTask, hfresh]
  rfl

theorem runArm_starknet (h : task.source_chain = .starknet) :
    runArm w task = processStarknet w task := by
  rw [runArm, h]

theorem not_panics_runArm (heth : w.ethers.Documented) (h : task.source_chain ≠ .starknet) :
    ¬ (runArm w task).Panics := by
  unfold runArm
  split
  case h_5 hs => exact absurd hs h
  case h_6 => exact not_panics_processSolana _
  all_goals exact not_panics_processEvm heth _

/-- An attempt at an accepted task. -/
theorem StarknetAccepted.attempt (h : StarknetAccepted st payload task auth call amount)
    (n : BitVec 32) : StarknetAccepted st payload { task with attempts := n } auth call amount :=
  ⟨h.authorized, h.chain, h.receiver, h.create, h.verified⟩

/-- **When a task stops the worker.**  An accepted task panics exactly when it is a Starknet task
that gets as far as the serialisation and has a text that is no field element. -/
theorem processTask_panics (hsn : w.starknet.Documented) (heth : w.ethers.Documented)
    (h : receivePayment st payload = .ok task) :
    (processTask w task).Panics ↔ ∃ auth, task.starknet_auth = some auth ∧
      ReachesSerialisation w payload.receiver_address auth.user_address ∧
      ¬ AllParse w.starknet auth.unwrapped := by
  obtain ⟨hfresh, hsource⟩ := receivePayment_fresh h
  rw [processTask_fresh hfresh]
  by_cases hchain : payload.chain = .starknet
  · obtain ⟨auth, call, amount, hacc⟩ := receivePayment_starknet h hchain
    rw [runArm_starknet (hacc.attempt 1).chain, processStarknet_panics hsn (hacc.attempt 1)]
    constructor
    · exact fun hpanics => ⟨auth, hacc.authorized, hpanics⟩
    · rintro ⟨auth', hauth', hpanics⟩
      obtain rfl : auth = auth' := Option.some.inj (hacc.authorized.symm.trans hauth')
      exact hpanics
  · refine iff_of_false (not_panics_runArm heth fun hs => hchain (hsource.symm.trans hs)) ?_
    rintro ⟨auth, hauth, -⟩
    rw [receivePayment_other h hchain] at hauth
    exact nomatch hauth

end

end

/-! ## Runs of the worker -/

/-- One payment: the state in which the route accepted it, and the worker's when its turn comes. -/
structure Served where
  state : AppState
  payload : IncomingPaymentRequest
  task : PaymentTask
  accepted : receivePayment state payload = .ok task
  worker : Worker

/-- If the worker gets as far as this payment's serialisation, every text it unwraps parses. -/
def Served.Parses (e : Served) : Prop :=
  ∀ auth, e.task.starknet_auth = some auth →
    ReachesSerialisation e.worker e.payload.receiver_address auth.user_address →
    AllParse e.worker.starknet auth.unwrapped

theorem Served.panics_iff (e : Served) (hsn : e.worker.starknet.Documented)
    (heth : e.worker.ethers.Documented) :
    (processTask e.worker e.task).Panics ↔ ¬ e.Parses := by
  rw [processTask_panics hsn heth e.accepted, Served.Parses]
  push Not
  rfl

/-- **The worker's life.**  Over any queue of accepted payments on any chains the loop survives
exactly when every payment's texts parse, and then it has done everything the payments ask. -/
theorem worker_survives_iff {queue : List Served}
    (hdoc : ∀ e ∈ queue, e.worker.starknet.Documented ∧ e.worker.ethers.Documented) :
    (¬ (runPaymentWorker (queue.map fun e => (e.worker, e.task))).Panics ↔
        ∀ e ∈ queue, e.Parses) ∧
      ((∀ e ∈ queue, e.Parses) →
        (runPaymentWorker (queue.map fun e => (e.worker, e.task))).log
          = queue.flatMap fun e => (processTask e.worker e.task).log) := by
  have hsurvives : ¬ (runPaymentWorker (queue.map fun e => (e.worker, e.task))).Panics ↔
      ∀ e ∈ queue, e.Parses := by
    rw [runPaymentWorker, survives_iff, List.forall_mem_map]
    refine forall_congr' fun e => forall_congr' fun he => ?_
    obtain ⟨hsn, heth⟩ := hdoc e he
    rw [e.panics_iff hsn heth, not_not]
  refine ⟨hsurvives, fun hparses => ?_⟩
  rw [runPaymentWorker, loop_log (hsurvives.mpr hparses), List.flatMap_map]

/-! ## A Starknet payment -/

namespace Sample

def transferCall (receiver low : Text) : CallDto :=
  ⟨STARKNET_USDC, "transfer".toList, [receiver, low, "0".toList], (by decide : 3 < 2 ^ 64)⟩

def execution (caller nonce receiver low : Text) : OutsideExecutionDto :=
  ⟨caller, nonce, 100, 1000, [transferCall receiver low], (by decide : 1 < 2 ^ 64)⟩

def small : OutsideExecutionDto :=
  execution "5".toList "0x1".toList "0x777".toList "7".toList

/-- The nonce is no field element. -/
def misspelt : OutsideExecutionDto :=
  execution "5".toList "zz".toList "0x777".toList "7".toList

def state (keeper : Felt) (oe : OutsideExecutionDto) : AppState where
  starknet := plainStarknet
  ethers := plainEthers
  solana := plainSolana
  signature_payload _ := some (.starknet oe ⟨["0x1".toList, "0x2".toList], by decide⟩
    "0xabc".toList)
  check _ _ := none
  evm_domain_separators _ := none
  keeper_address := keeper
  keeper_wallet := 1
  mint := 10
  now := 500
  enqueues := true

def request (receiver amount_raw : Text) : IncomingPaymentRequest where
  chain := .starknet
  merchant_address := "0x55".toList
  receiver_address := receiver
  destination_chain := .base
  tx_hash := "0x1".toList
  from_address := "0xABC".toList
  amount_raw := amount_raw
  webhook_url := none
  signature := some []

def task (oe : OutsideExecutionDto) (receiver amount_raw : Text) : PaymentTask where
  source_chain := .starknet
  destination_chain := .base
  merchant_address := "0x55".toList
  receiver_address := receiver
  tx_hash := "0x1".toList
  from_address := "0xABC".toList
  amount_raw := amount_raw
  webhook_url := none
  attempts := 0
  create_if_missing := true
  evm_auth := none
  starknet_auth := some ⟨oe, ⟨["0x1".toList, "0x2".toList], by decide⟩, "0xabc".toList⟩
  solana_auth := none

def network : Network where
  get_code _ := none
  estimate_eip1559_fees := none
  receipt := none
  starknet_tx := none
  solana_tx := none
  get_account _ := none
  broadcast_tx := none
  config_exists := false
  get_latest_blockhash := false
  sweep_tx := none
  event_data := 0

/-- The receiver `0x777` is announced for merchant `0x55`, on the same-chain route. -/
def worker : Worker where
  starknet := plainStarknet
  ethers := plainEthers
  solana := plainSolana
  runtime := Beanie.Solana.ledgerRuntime
  calldata _ := some []
  show_address a := Nat.toDigits 16 a.toNat
  show_felt v := Nat.toDigits 16 v.val
  evm_targets _ := none
  evm_registries _ _ := none
  starknet_factory := 0xfac
  starknet_chain_name := "starknet".toList
  starknet_registry receiver := if receiver = 0x777 then some ⟨0x55, some ⟨0, 0, 0⟩⟩ else none
  solana_cfg := ⟨100, 10, 1, 2, 3, 4⟩
  solana_chain_name := "solana".toList
  solana_registry _ := none
  unpack_owner _ := none
  is_transaction _ := false
  partial_sign _ := none
  net := network

end Sample

/-- A payment whose texts all parse, accepted and survived. -/
theorem worker_survives_small :
    receivePayment (Sample.state 5 Sample.small) (Sample.request "0x777".toList "7".toList)
      = .ok (Sample.task Sample.small "0x777".toList "7".toList) ∧
    ¬ (runPaymentWorker [(Sample.worker, Sample.task Sample.small "0x777".toList
        "7".toList)]).Panics := by
  have haccepted : receivePayment (Sample.state 5 Sample.small)
      (Sample.request "0x777".toList "7".toList)
      = .ok (Sample.task Sample.small "0x777".toList "7".toList) := by decide +kernel
  have h := @worker_survives_iff [⟨_, _, _, haccepted, Sample.worker⟩]
    (by simpa using ⟨plainStarknet_documented, plainEthers_documented⟩)
  refine ⟨haccepted, h.1.mpr ?_⟩
  intro e he auth hauth _
  obtain rfl := List.mem_singleton.mp he
  obtain rfl := Option.some.inj hauth
  show ∀ s ∈ _, (plainStarknet.from_hex s).isSome
  decide +kernel

/-- The route accepts a payment whose nonce is no field element, the worker panics on it, and
nothing queued behind it is processed. -/
theorem nonce_stops_worker :
    receivePayment (Sample.state 5 Sample.misspelt) (Sample.request "0x777".toList "7".toList)
      = .ok (Sample.task Sample.misspelt "0x777".toList "7".toList) ∧
    ∀ later, runPaymentWorker
        ((Sample.worker, Sample.task Sample.misspelt "0x777".toList "7".toList) :: later)
      = ⟨[], .error .panic⟩ := by
  have hpanics : processTask Sample.worker
      (Sample.task Sample.misspelt "0x777".toList "7".toList) = ⟨[], .error .panic⟩ := by rfl
  refine ⟨by decide +kernel, fun later => ?_⟩
  have hloop := @loop_stops _ _ (fun e : Worker × PaymentTask => processTask e.1 e.2) []
    (Sample.worker, Sample.task Sample.misspelt "0x777".toList "7".toList) later
    (congrArg Journal.result hpanics) (by simp)
  rw [runPaymentWorker]
  exact hloop.trans hpanics

end Beanie.Api
