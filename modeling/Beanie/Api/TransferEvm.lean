/-
# `Beanie.Api.TransferEvm` — one pass of the EVM transfer worker

`transfer_workers/evm.rs`, from a set of candidates to the multicall that
sweeps them and the webhooks that follow: the balance filter, the existence
check, the calls of each receiver, and the single transaction that carries them
all.  What the network answers during the pass is given with it (`EvmAnswers`).

    sweepEvmReceivers      the pass
    actOnEvmDeposits       the pass over a batch of deposits, and its webhooks
    reconcileCandidates    whom the reconcile tick passes over
-/
import Beanie.Api.PaymentWorkers

namespace Beanie.Api

/-! ## State and answers -/

structure EvmState where
  merchant_map : AList fun _ : Address => EvmReceiverInfo
  webhook_map : Text → Option Text
  deployed : Finset Address

/-- One receiver the registry told us about. -/
structure EvmReceiverRecord where
  merchant : Address
  receiver : Address
  route : Option EvmRoute

/-- `remember_evm_receiver`. -/
def rememberEvmReceiver (map : AList fun _ : Address => EvmReceiverInfo)
    (rec : EvmReceiverRecord) : AList fun _ : Address => EvmReceiverInfo :=
  let known :=
    match map.lookup rec.receiver with
    | some info => info.route
    | none => none
  map.insert rec.receiver ⟨rec.merchant, rec.route.or known⟩

/-- One result of the `balanceOf` batch. -/
inductive BalanceAnswer
  | reverted
  | undecodable
  | balance (n : Nat)
deriving DecidableEq

/-- What cannot be told is not taken for zero. -/
def BalanceAnswer.nonzero : BalanceAnswer → Bool
  | reverted | undecodable => true
  | balance n => n != 0

/-- A mined transaction. -/
structure MinedReceipt where
  transaction_hash : Text
  /-- the receipt's `status`: did the transaction succeed? -/
  status : Bool

structure EvmAnswers where
  /-- `batch_check_evm_nonzero_balance`'s call; `none` is an error. -/
  balances : Option (Address → BalanceAnswer)
  /-- `batch_check_deployed`; `none` is an error. -/
  batch_deployed : Option (Address → Bool)
  /-- `get_code`, the fallback. -/
  get_code : Address → Option Bytes
  /-- `send` and `pending.await`: a receipt, or none of the three ways not to have one. -/
  mined : Option MinedReceipt

/-- The worker's configuration and encoders. -/
structure EvmTransfer where
  cfg : EvmConfig
  calldata : EvmCall → Option Bytes
  /-- The selectors of `registerMerchant` and `sweep` differ. -/
  selectors : ∀ merchant chain recipient, ∀ bytes ∈ calldata .sweep,
    calldata (.registerMerchant merchant chain recipient) ≠ some bytes
  show_address : Address → Text
  parse_address : Text → Option Address

section
variable (w : EvmTransfer) (net : EvmAnswers)

/-- `sort` and `dedup`. -/
def uniqueAddresses (candidates : List Address) : List Address :=
  (candidates.insertionSort (·.toNat ≤ ·.toNat)).dedup

/-- The candidates whose balance is not known to be zero. -/
def filterNonzero (unique : List Address) : List Address :=
  match net.balances with
  | some answers => unique.filter fun a => (answers a).nonzero
  | none => unique

/-- The receivers of a pass. -/
def receiversOf (candidates : List Address) : List Address :=
  filterNonzero net (uniqueAddresses candidates)

/-- Does the existence check find code? -/
def foundCode (a : Address) : Bool :=
  match net.batch_deployed with
  | some results => results a
  | none =>
      match net.get_code a with
      | some code => !code.isEmpty
      | none => false

/-- A receiver whose deployment could not be determined. -/
def indeterminate (st : EvmState) (a : Address) : Bool :=
  decide (a ∉ st.deployed) && net.batch_deployed.isNone && (net.get_code a).isNone

/-- `state.deployed` after the existence check. -/
def checkedState (st : EvmState) (unique : List Address) : EvmState :=
  { st with deployed := st.deployed ∪ (unique.filter fun a => foundCode net a).toFinset }

/-! ## The calls -/

/-- What the loop over the receivers builds. -/
structure Batch where
  calls : List Call3
  pending_deploys : List Address
  updated_webhooks : List Address

/-- `setWebhookUrl`, once a merchant, and allowed to fail. -/
def addWebhook (st : EvmState) (merchant : Address) (batch : Batch) : Batch :=
  match st.webhook_map (w.show_address merchant) with
  | none => batch
  | some url =>
      if merchant ∈ batch.updated_webhooks then batch
      else
        match w.calldata (.setWebhookUrl merchant url) with
        | none => batch
        | some bytes =>
            { batch with
              calls := batch.calls ++ [⟨w.cfg.webhook_registry_address, true, bytes⟩]
              updated_webhooks := merchant :: batch.updated_webhooks }

/-- The registration of an uncreated receiver. -/
def addRegister (a : Address) (bytes : Bytes) (batch : Batch) : Batch :=
  { batch with
    calls := batch.calls ++ [⟨w.cfg.factory_address, false, bytes⟩]
    pending_deploys := batch.pending_deploys ++ [a] }

def addSweep (a : Address) (batch : Batch) : Batch :=
  match w.calldata .sweep with
  | some bytes => { batch with calls := batch.calls ++ [⟨a, false, bytes⟩] }
  | none => batch

/-- One receiver of the loop. -/
def addReceiver (st : EvmState) (batch : Batch) (a : Address) : Batch :=
  if indeterminate net st a then batch
  else
    match st.merchant_map.lookup a with
    | none => batch
    | some info =>
        if a ∈ st.deployed then addSweep w a batch
        else
          match info.route with
          | none => batch
          | some route =>
              match w.calldata (.registerMerchant info.merchant route.chain route.recipient) with
              | none => batch
              | some bytes =>
                  addSweep w a (addRegister w a bytes (addWebhook w st info.merchant batch))

/-- The loop. -/
def buildBatch (st : EvmState) (receivers : List Address) : Batch :=
  receivers.foldl (addReceiver w net st) ⟨[], [], []⟩

/-! ## The pass -/

/-- `send_evm_multicall`: the hash of the receipt, whatever its status. -/
def sendEvmMulticall : Option Text := net.mined.map (·.transaction_hash)

structure EvmPass where
  state : EvmState
  /-- the calls of the multicall that was sent, if any were built -/
  sent : List Call3
  sweep_tx : Option Text

def sweepEvmReceivers (st : EvmState) (candidates : List Address) : EvmPass :=
  let unique := filterNonzero net (uniqueAddresses candidates)
  if unique.isEmpty then ⟨st, [], none⟩
  else
    let st := checkedState net st unique
    let batch := buildBatch w net st unique
    let sweep_tx := if batch.calls.isEmpty then none else sendEvmMulticall net
    let deployed := if sweep_tx.isSome then st.deployed ∪ batch.pending_deploys.toFinset
      else st.deployed
    ⟨{ st with deployed := deployed }, batch.calls, sweep_tx⟩

/-- The webhook of one deposit. -/
def depositJob (st : EvmState) (sweep_tx : Text) (d : Deposit) : Option WebhookJob := do
  let info ← st.merchant_map.lookup ((w.parse_address d.receiver).getD 0)
  let url ← st.webhook_map (w.show_address info.merchant)
  some ⟨url, d, some sweep_tx, 5⟩

/-- `act_on_evm_deposits`. -/
def actOnEvmDeposits (st : EvmState) (deposits : List Deposit) : EvmPass × List WebhookJob :=
  let pass := sweepEvmReceivers w net st
    (deposits.filterMap fun d => w.parse_address d.receiver)
  match pass.sweep_tx with
  | none => (pass, [])
  | some sweep_tx => (pass, deposits.filterMap (depositJob w pass.state sweep_tx))

/-- Whom the reconcile tick passes over: everybody known. -/
def reconcileCandidates (st : EvmState) : List Address := st.merchant_map.keys

end

/-! ## What a receiver contributes -/

section
variable {w : EvmTransfer} {net : EvmAnswers} {st : EvmState}

/-- The sweep of a receiver, unless it cannot be encoded. -/
def sweepCall (w : EvmTransfer) (a : Address) : List Call3 :=
  (w.calldata .sweep).toList.map fun bytes => ⟨a, false, bytes⟩

/-- The calls of one receiver that must succeed: its registration, if it is not deployed, and its
sweep; `none` where the loop leaves it out. -/
def ownCalls (w : EvmTransfer) (net : EvmAnswers) (st : EvmState) (a : Address) :
    Option (List Call3) :=
  if indeterminate net st a then none
  else
    match st.merchant_map.lookup a with
    | none => none
    | some info =>
        if a ∈ st.deployed then some (sweepCall w a)
        else
          match info.route with
          | none => none
          | some route =>
              match w.calldata (.registerMerchant info.merchant route.chain route.recipient) with
              | none => none
              | some bytes => some (⟨w.cfg.factory_address, false, bytes⟩ :: sweepCall w a)

/-- The calls a pass makes for a receiver, if it does not leave it out. -/
def passCalls (w : EvmTransfer) (net : EvmAnswers) (st : EvmState) (candidates : List Address)
    (a : Address) : Option (List Call3) :=
  ownCalls w net (checkedState net st (receiversOf net candidates)) a

/-- The calls that must succeed. -/
def strictCalls (calls : List Call3) : List Call3 := calls.filter fun c => !c.allow_failure

@[simp] theorem strictCalls_append (cs ds : List Call3) :
    strictCalls (cs ++ ds) = strictCalls cs ++ strictCalls ds := List.filter_append ..

theorem addSweep_calls (a : Address) (batch : Batch) :
    (addSweep w a batch).calls = batch.calls ++ sweepCall w a := by
  unfold addSweep sweepCall
  cases w.calldata .sweep with
  | none => exact (List.append_nil _).symm
  | some bytes => rfl

theorem addSweep_pending (a : Address) (batch : Batch) :
    (addSweep w a batch).pending_deploys = batch.pending_deploys := by
  unfold addSweep
  cases w.calldata .sweep with
  | none => rfl
  | some bytes => rfl

theorem strictCalls_sweepCall (a : Address) : strictCalls (sweepCall w a) = sweepCall w a := by
  unfold sweepCall
  cases w.calldata .sweep with
  | none => rfl
  | some bytes => rfl

theorem strictCalls_addWebhook (merchant : Address) (batch : Batch) :
    strictCalls (addWebhook w st merchant batch).calls = strictCalls batch.calls := by
  unfold addWebhook
  split
  · rfl
  · split_ifs
    · rfl
    · split
      · rfl
      · rw [strictCalls_append]
        exact List.append_nil _

theorem addWebhook_pending (merchant : Address) (batch : Batch) :
    (addWebhook w st merchant batch).pending_deploys = batch.pending_deploys := by
  unfold addWebhook
  split
  · rfl
  · split_ifs
    · rfl
    · split <;> rfl

/-- A receiver that is left out changes nothing; one that is not adds its own strict calls, and is
pending if it is not deployed yet. -/
theorem addReceiver_spec (batch : Batch) (a : Address) :
    match ownCalls w net st a with
    | none => addReceiver w net st batch a = batch
    | some own =>
        strictCalls (addReceiver w net st batch a).calls = strictCalls batch.calls ++ own ∧
          (addReceiver w net st batch a).pending_deploys
            = batch.pending_deploys ++ if a ∈ st.deployed then [] else [a] := by
  unfold ownCalls addReceiver
  by_cases hind : indeterminate net st a = true
  · rw [if_pos hind, if_pos hind]
  rw [if_neg hind, if_neg hind]
  cases st.merchant_map.lookup a with
  | none => rfl
  | some info =>
      by_cases hdeployed : a ∈ st.deployed
      · simp only [hdeployed, if_true]
        rw [addSweep_calls, addSweep_pending, strictCalls_append, strictCalls_sweepCall]
        exact ⟨rfl, (List.append_nil _).symm⟩
      · simp only [hdeployed, if_false]
        cases info.route with
        | none => rfl
        | some route =>
            cases hbytes : w.calldata (.registerMerchant info.merchant route.chain
                route.recipient) with
            | none => simp only [hbytes]
            | some bytes =>
                simp only [hbytes]
                rw [addSweep_calls, addSweep_pending, strictCalls_append, strictCalls_sweepCall,
                  addRegister, strictCalls_append, strictCalls_addWebhook, addWebhook_pending,
                  List.append_assoc]
                exact ⟨rfl, rfl⟩

/-- What the loop adds up to: the strict calls are those of the receivers it does not leave out,
in order, and those of them that are not deployed are pending. -/
theorem foldl_addReceiver_spec (receivers : List Address) (batch : Batch) :
    strictCalls (receivers.foldl (addReceiver w net st) batch).calls
        = strictCalls batch.calls
          ++ receivers.flatMap (fun a => (ownCalls w net st a).getD []) ∧
      (receivers.foldl (addReceiver w net st) batch).pending_deploys = batch.pending_deploys
        ++ receivers.filter (fun a => (ownCalls w net st a).isSome && decide (a ∉ st.deployed)) := by
  induction receivers generalizing batch with
  | nil => exact ⟨(List.append_nil _).symm, (List.append_nil _).symm⟩
  | cons a receivers ih =>
      obtain ⟨hcalls, hpending⟩ := ih (addReceiver w net st batch a)
      rw [List.foldl_cons, hcalls, hpending, List.flatMap_cons, List.filter_cons]
      have hone := @addReceiver_spec w net st batch a
      cases hown : ownCalls w net st a with
      | none =>
          rw [hown] at hone
          rw [hone]
          exact ⟨rfl, rfl⟩
      | some own =>
          rw [hown] at hone
          rw [hone.1, hone.2]
          refine ⟨List.append_assoc .., ?_⟩
          by_cases hdeployed : a ∈ st.deployed
          · simp [hdeployed]
          · simp [hdeployed]

/-- The strict calls of a batch. -/
theorem strictCalls_buildBatch (receivers : List Address) :
    strictCalls (buildBatch w net st receivers).calls
      = receivers.flatMap fun a => (ownCalls w net st a).getD [] :=
  (foldl_addReceiver_spec receivers ⟨[], [], []⟩).1

theorem mem_pending_buildBatch {receivers : List Address} {a : Address} :
    a ∈ (buildBatch w net st receivers).pending_deploys
      ↔ a ∈ receivers ∧ (ownCalls w net st a).isSome ∧ a ∉ st.deployed := by
  unfold buildBatch
  rw [(foldl_addReceiver_spec receivers ⟨[], [], []⟩).2]
  simp

theorem mem_uniqueAddresses {candidates : List Address} {a : Address} :
    a ∈ uniqueAddresses candidates ↔ a ∈ candidates := by
  rw [uniqueAddresses, List.mem_dedup, List.mem_insertionSort]

/-- The filter drops those only whose balance is reported as zero. -/
theorem mem_filterNonzero {unique : List Address} {a : Address} :
    a ∈ filterNonzero net unique
      ↔ a ∈ unique ∧ ∀ answers, net.balances = some answers → (answers a).nonzero = true := by
  unfold filterNonzero
  cases net.balances with
  | none => exact ⟨fun h => ⟨h, nofun⟩, And.left⟩
  | some answers =>
      rw [List.mem_filter]
      exact and_congr_right fun _ => ⟨fun h _ ha => Option.some.inj ha ▸ h, fun h => h _ rfl⟩

theorem mem_sweepCall {a : Address} {c : Call3} (h : c ∈ sweepCall w a) :
    c.target = a ∧ c.allow_failure = false ∧ w.calldata .sweep = some c.call_data := by
  obtain ⟨bytes, hbytes, rfl⟩ := List.mem_map.mp h
  exact ⟨rfl, rfl, Option.mem_toList.mp hbytes⟩

theorem ownCalls_eq_some {a : Address} {own : List Call3} :
    ownCalls w net st a = some own ↔
      indeterminate net st a = false ∧ ∃ info, st.merchant_map.lookup a = some info ∧
        ((a ∈ st.deployed ∧ own = sweepCall w a) ∨
          (a ∉ st.deployed ∧ ∃ route bytes, info.route = some route ∧
            w.calldata (.registerMerchant info.merchant route.chain route.recipient) = some bytes ∧
              own = ⟨w.cfg.factory_address, false, bytes⟩ :: sweepCall w a)) := by
  unfold ownCalls
  by_cases hind : indeterminate net st a = true
  · rw [if_pos hind, hind]
    exact ⟨nofun, fun h => nomatch h.1⟩
  rw [if_neg hind]
  rw [Bool.not_eq_true] at hind
  rw [hind]
  cases hinfo : st.merchant_map.lookup a with
  | none => simp
  | some info =>
      by_cases hdeployed : a ∈ st.deployed
      · simp [hdeployed, eq_comm]
      · cases hroute : info.route with
        | none => simp [hdeployed, hroute]
        | some route =>
            cases hbytes : w.calldata (.registerMerchant info.merchant route.chain
                route.recipient) with
            | none => simp [hdeployed, hroute, hbytes]
            | some bytes => simp [hdeployed, hroute, hbytes, eq_comm]

theorem ownCalls_strict {a : Address} {own : List Call3} (h : ownCalls w net st a = some own) :
    sweepCall w a ⊆ own ∧ ∀ c ∈ own, c.allow_failure = false := by
  obtain ⟨-, info, -, ⟨-, rfl⟩ | ⟨-, route, bytes, -, -, rfl⟩⟩ := ownCalls_eq_some.mp h
  · exact ⟨List.Subset.refl _, fun c hc => (mem_sweepCall hc).2.1⟩
  · refine ⟨List.subset_cons_self _ _, ?_⟩
    intro c hc
    rcases List.mem_cons.mp hc with rfl | hc
    · rfl
    · exact (mem_sweepCall hc).2.1

theorem mem_buildBatch_iff {receivers : List Address} (c : Call3) (hc : c.allow_failure = false) :
    c ∈ (buildBatch w net st receivers).calls ↔
      ∃ a ∈ receivers, c ∈ (ownCalls w net st a).getD [] := by
  have hmem : c ∈ (buildBatch w net st receivers).calls
      ↔ c ∈ strictCalls (buildBatch w net st receivers).calls := by
    rw [strictCalls, List.mem_filter]
    simp [hc]
  rw [hmem, strictCalls_buildBatch, List.mem_flatMap]

/-- The strict calls of a multicall are those of the receivers of the pass. -/
theorem sent_strict {candidates : List Address} (c : Call3) (hc : c.allow_failure = false) :
    c ∈ (sweepEvmReceivers w net st candidates).sent ↔
      ∃ a ∈ receiversOf net candidates, c ∈ (passCalls w net st candidates a).getD [] := by
  unfold sweepEvmReceivers
  by_cases hempty : (filterNonzero net (uniqueAddresses candidates)).isEmpty = true
  · rw [if_pos hempty]
    have hnil := List.isEmpty_iff.mp hempty
    constructor
    · intro h
      cases h
    · rintro ⟨a, ha, -⟩
      rw [receiversOf, hnil] at ha
      cases ha
  · rw [if_neg hempty]
    exact mem_buildBatch_iff c hc

/-- A sweep among the calls of a receiver is that receiver's own. -/
theorem sweep_is_own {a b : Address} {own : List Call3} {c : Call3}
    (h : ownCalls w net st b = some own) (hc : c ∈ own) (hsweep : c ∈ sweepCall w a) : a = b := by
  obtain ⟨rfl, -, hbytes⟩ := mem_sweepCall hsweep
  obtain ⟨-, info, -, ⟨-, rfl⟩ | ⟨-, route, bytes, -, hregister, rfl⟩⟩ := ownCalls_eq_some.mp h
  · exact (mem_sweepCall hc).1
  · rcases List.mem_cons.mp hc with rfl | hc
    · exact absurd hregister (w.selectors _ _ _ _ hbytes)
    · exact (mem_sweepCall hc).1

/-- The sweep of a receiver is in the multicall iff the pass does not leave the receiver out, and a
sweep can be encoded at all. -/
theorem sweep_sent_iff {candidates : List Address} {a : Address} :
    (∃ c ∈ sweepCall w a, c ∈ (sweepEvmReceivers w net st candidates).sent) ↔
      a ∈ receiversOf net candidates ∧ (passCalls w net st candidates a).isSome ∧
        (w.calldata .sweep).isSome := by
  constructor
  · rintro ⟨c, hc, hsent⟩
    obtain ⟨-, hallow, hbytes⟩ := mem_sweepCall hc
    obtain ⟨b, hb, hown⟩ := (sent_strict c hallow).mp hsent
    cases hpass : passCalls w net st candidates b with
    | none =>
        rw [hpass] at hown
        cases hown
    | some own =>
        rw [hpass] at hown
        obtain rfl := sweep_is_own hpass hown hc
        exact ⟨hb, by rw [hpass]; rfl, by rw [hbytes]; rfl⟩
  · rintro ⟨ha, hpass, hsweep⟩
    obtain ⟨bytes, hbytes⟩ := Option.isSome_iff_exists.mp hsweep
    obtain ⟨own, hown⟩ := Option.isSome_iff_exists.mp hpass
    have hc : (⟨a, false, bytes⟩ : Call3) ∈ sweepCall w a := by
      rw [sweepCall, hbytes]
      exact List.mem_singleton_self _
    refine ⟨_, hc, (sent_strict _ rfl).mpr ⟨a, ha, ?_⟩⟩
    rw [hown]
    exact (ownCalls_strict hown).1 hc

/-- A pass leaves both maps alone. -/
theorem sweepEvmReceivers_maps (w : EvmTransfer) (net : EvmAnswers) (st : EvmState)
    (candidates : List Address) :
    (sweepEvmReceivers w net st candidates).state.merchant_map = st.merchant_map ∧
      (sweepEvmReceivers w net st candidates).state.webhook_map = st.webhook_map := by
  unfold sweepEvmReceivers
  by_cases hempty : (filterNonzero net (uniqueAddresses candidates)).isEmpty = true
  · rw [if_pos hempty]
    exact ⟨rfl, rfl⟩
  · rw [if_neg hempty]
    exact ⟨rfl, rfl⟩

/-- The hash of a pass is that of the receipt of its multicall. -/
theorem sweepEvmReceivers_tx (w : EvmTransfer) (net : EvmAnswers) (st : EvmState)
    (candidates : List Address) :
    (sweepEvmReceivers w net st candidates).sweep_tx
      = if (sweepEvmReceivers w net st candidates).sent.isEmpty then none
        else sendEvmMulticall net := by
  unfold sweepEvmReceivers
  dsimp only
  by_cases hempty : (filterNonzero net (uniqueAddresses candidates)).isEmpty = true
  · rw [if_pos hempty]
    rfl
  · rw [if_neg hempty]

end

/-- A worker whose encoders write one byte a function. -/
def oneByteWorker : EvmTransfer where
  cfg := ⟨[], 1, 2, 3⟩
  calldata
    | .registerMerchant .. => some [1]
    | .setWebhookUrl .. => some [2]
    | .transferWithAuthorization .. => some [3]
    | .sweep => some [4]
  selectors := by
    intro merchant chain recipient bytes hbytes h
    cases hbytes
    cases h
  show_address a := hexLiteral a.toNat
  parse_address s :=
    match s with
    | '0' :: 'x' :: ds => some (BitVec.ofNat 160 (hexValue ds))
    | _ => none

end Beanie.Api
