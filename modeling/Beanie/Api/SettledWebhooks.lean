/-
# `Beanie.Api.SettledWebhooks` — what a webhook with a sweep transaction says

A merchant releases goods on a webhook that names a sweep transaction.  The
transfer worker sends one for every deposit of a batch once the batch has a
receipt, whatever the receipt says and whoever was left out.

    mem_jobs_iff       for whom
    evm_settled_iff    when what they say is true
    settled_iff        over whole runs of this worker and the payment worker
-/
import Beanie.Api.DeployedSet
import Beanie.Api.PaymentWebhooks

namespace Beanie.Api

open Journal

/-! ## The transfer worker -/

section
variable (w : EvmTransfer) (net : EvmAnswers) (st : EvmState) (deposits : List Deposit)

/-- The candidates of a batch of deposits. -/
def depositCandidates : List Address := deposits.filterMap fun d => w.parse_address d.receiver

/-- The transaction of the job is the one that was mined, it succeeded, and it sweeps the deposit's
receiver. -/
def EvmJobSettled (job : WebhookJob) : Prop :=
  ∀ h, job.sweep_tx = some h → ∃ receipt, net.mined = some receipt ∧ receipt.transaction_hash = h ∧
    receipt.status = true ∧ ∃ a, w.parse_address job.deposit.receiver = some a ∧
      ∃ c ∈ sweepCall w a, c ∈ (actOnEvmDeposits w net st deposits).1.sent

/-- The merchant is known, and has a webhook. -/
def Notified (d : Deposit) : Prop :=
  ∃ info, st.merchant_map.lookup ((w.parse_address d.receiver).getD 0) = some info ∧
    (st.webhook_map (w.show_address info.merchant)).isSome

/-- The batch sweeps the receiver of this deposit. -/
def Included (d : Deposit) : Prop :=
  ∃ a, w.parse_address d.receiver = some a ∧ a ∈ receiversOf net (depositCandidates w deposits) ∧
    (passCalls w net st (depositCandidates w deposits) a).isSome ∧ (w.calldata .sweep).isSome

/-- Some receiver of the batch has calls. -/
def Sends : Prop :=
  ∃ a ∈ receiversOf net (depositCandidates w deposits),
    (passCalls w net st (depositCandidates w deposits) a).getD [] ≠ []

/-- The batch of the deposits is a pass over their receivers. -/
theorem actOnEvmDeposits_pass : (actOnEvmDeposits w net st deposits).1
    = sweepEvmReceivers w net st (depositCandidates w deposits) := by
  unfold actOnEvmDeposits depositCandidates
  dsimp only
  split <;> rfl

/-- A receiver without strict calls adds no calls at all. -/
theorem addReceiver_eq_self {batch : Batch} {a : Address}
    (h : (ownCalls w net st a).getD [] = []) : addReceiver w net st batch a = batch := by
  have hone := @addReceiver_spec w net st batch a
  cases hown : ownCalls w net st a with
  | none =>
      rw [hown] at hone
      exact hone
  | some own =>
      rw [hown] at h
      obtain rfl : own = [] := h
      obtain ⟨hind, info, hinfo, ⟨hdeployed, hnil⟩ |
        ⟨_, route, bytes, _, _, hcons⟩⟩ := ownCalls_eq_some.mp hown
      · have hsweep : w.calldata .sweep = none := by
          cases hbytes : w.calldata .sweep with
          | none => rfl
          | some bytes =>
              rw [sweepCall, hbytes] at hnil
              cases hnil
        unfold addReceiver
        rw [if_neg (by rw [hind]; exact Bool.false_ne_true), hinfo]
        dsimp only
        rw [if_pos hdeployed, addSweep, hsweep]
      · cases hcons

/-- A multicall goes out iff some receiver of the batch has calls. -/
theorem sent_ne_nil_iff :
    (sweepEvmReceivers w net st (depositCandidates w deposits)).sent ≠ [] ↔
      Sends w net st deposits := by
  constructor
  · intro hsent
    by_contra hnone
    refine hsent ?_
    have hown : ∀ a ∈ receiversOf net (depositCandidates w deposits),
        (passCalls w net st (depositCandidates w deposits) a).getD [] = [] := by
      intro a ha
      by_contra hcalls
      exact hnone ⟨a, ha, hcalls⟩
    have hfold : ∀ (receivers : List Address) (st : EvmState) (batch : Batch),
        (∀ a ∈ receivers, (ownCalls w net st a).getD [] = []) →
          receivers.foldl (addReceiver w net st) batch = batch := by
      intro receivers st batch h
      induction receivers with
      | nil => rfl
      | cons a receivers ih =>
          rw [List.foldl_cons, addReceiver_eq_self w net st (h a List.mem_cons_self)]
          exact ih fun b hb => h b (List.mem_cons_of_mem _ hb)
    unfold sweepEvmReceivers
    dsimp only
    by_cases hempty : (filterNonzero net (uniqueAddresses (depositCandidates w deposits))).isEmpty
        = true
    · rw [if_pos hempty]
    · rw [if_neg hempty]
      exact congrArg Batch.calls (hfold _ _ _ hown)
  · rintro ⟨a, ha, hcalls⟩ hnil
    obtain ⟨c, hc⟩ := List.exists_mem_of_ne_nil _ hcalls
    have hstrict : c.allow_failure = false := by
      cases hown : passCalls w net st (depositCandidates w deposits) a with
      | none =>
          rw [hown] at hc
          cases hc
      | some own =>
          rw [hown] at hc
          exact (ownCalls_strict hown).2 c hc
    have := (sent_strict c hstrict).mpr ⟨a, ha, hc⟩
    rw [hnil] at this
    cases this

/-- A job is made for each deposit of the batch whose merchant is to be notified. -/
theorem mem_jobs_iff {job : WebhookJob} :
    job ∈ (actOnEvmDeposits w net st deposits).2 ↔
      ∃ receipt, net.mined = some receipt ∧ Sends w net st deposits ∧
        ∃ d ∈ deposits, ∃ info url,
          st.merchant_map.lookup ((w.parse_address d.receiver).getD 0) = some info ∧
          st.webhook_map (w.show_address info.merchant) = some url ∧
            job = ⟨url, d, some receipt.transaction_hash, 5⟩ := by
  obtain ⟨hmap, hwebhooks⟩ := sweepEvmReceivers_maps w net st (depositCandidates w deposits)
  have htx := sweepEvmReceivers_tx w net st (depositCandidates w deposits)
  rw [← sent_ne_nil_iff]
  unfold actOnEvmDeposits
  rw [show (deposits.filterMap fun d => w.parse_address d.receiver) = depositCandidates w deposits
    from rfl]
  dsimp only
  rw [htx]
  by_cases hsent : (sweepEvmReceivers w net st (depositCandidates w deposits)).sent.isEmpty = true
  · rw [if_pos hsent]
    refine ⟨?_, ?_⟩
    · intro h
      cases h
    · rintro ⟨-, -, hne, -⟩
      exact absurd (List.isEmpty_iff.mp hsent) hne
  · rw [if_neg hsent, sendEvmMulticall]
    have hne : (sweepEvmReceivers w net st (depositCandidates w deposits)).sent ≠ [] :=
      fun h => hsent (List.isEmpty_iff.mpr h)
    cases net.mined with
    | none =>
        refine ⟨?_, ?_⟩
        · intro h
          cases h
        · rintro ⟨_, h, -⟩
          cases h
    | some receipt =>
        simp only [Option.map_some, Option.some.injEq, exists_eq_left', hne, ne_eq,
          not_false_eq_true, true_and, List.mem_filterMap, depositJob, hmap, hwebhooks,
          Option.bind_eq_bind, Option.bind_eq_some_iff]
        refine exists_congr fun d => and_congr_right fun _ => ?_
        constructor
        · rintro ⟨info, hinfo, url, hurl, rfl⟩
          exact ⟨info, url, hinfo, hurl, rfl⟩
        · rintro ⟨info, url, hinfo, hurl, rfl⟩
          exact ⟨info, hinfo, url, hurl, rfl⟩

/-- **The transfer worker.**  Every webhook of a batch is true iff, when the batch gets a receipt,
the receipt reports success and the batch sweeps the receiver of each deposit it notifies of. -/
theorem evm_settled_iff :
    (∀ job ∈ (actOnEvmDeposits w net st deposits).2, EvmJobSettled w net st deposits job) ↔
      ∀ receipt, net.mined = some receipt → Sends w net st deposits →
        ∀ d ∈ deposits, Notified w st d →
          receipt.status = true ∧ Included w net st deposits d := by
  constructor
  · rintro h receipt hmined hsent d hd ⟨info, hinfo, hurl⟩
    obtain ⟨url, hurl⟩ := Option.isSome_iff_exists.mp hurl
    have hjob := (mem_jobs_iff w net st deposits).mpr
      ⟨receipt, hmined, hsent, d, hd, info, url, hinfo, hurl, rfl⟩
    obtain ⟨receipt', hmined', -, hstatus, a, ha, hsweep⟩ := h _ hjob _ rfl
    obtain rfl := Option.some.inj (hmined.symm.trans hmined')
    rw [actOnEvmDeposits_pass] at hsweep
    exact ⟨hstatus, a, ha, sweep_sent_iff.mp hsweep⟩
  · intro h job hjob hash hhash
    obtain ⟨receipt, hmined, hsent, d, hd, info, url, hinfo, hurl, rfl⟩ :=
      (mem_jobs_iff w net st deposits).mp hjob
    obtain ⟨hstatus, a, ha, hincluded⟩ := h receipt hmined hsent d hd ⟨info, hinfo, by rw [hurl]; rfl⟩
    refine ⟨receipt, hmined, Option.some.inj hhash, hstatus, a, ha, ?_⟩
    rw [actOnEvmDeposits_pass]
    exact sweep_sent_iff.mpr hincluded

end

/-! ## Runs -/

/-- What the transfer worker does between two waits. -/
inductive EvmTurn
  /-- a registry scan -/
  | learn (found : List EvmReceiverRecord) (webhook_map : Text → Option Text)
  /-- the deposits of a scan -/
  | act (net : EvmAnswers) (deposits : List Deposit)
  /-- the reconcile tick -/
  | reconcile (net : EvmAnswers)

section
variable (w : EvmTransfer)

def EvmTurn.next (st : EvmState) : EvmTurn → EvmState
  | .learn found webhook_map => { learnEvm st found with webhook_map := webhook_map }
  | .act net deposits => (actOnEvmDeposits w net st deposits).1.state
  | .reconcile net => (sweepEvmReceivers w net st (reconcileCandidates st)).state

/-- The turns of a run, each with the state it starts from. -/
def evmTurns (st : EvmState) : List EvmTurn → List (EvmState × EvmTurn)
  | [] => []
  | turn :: turns => (st, turn) :: evmTurns (turn.next w st) turns

/-- Every webhook of the turn is true. -/
def TurnSettled (p : EvmState × EvmTurn) : Prop :=
  match p.2 with
  | .act net deposits =>
      ∀ job ∈ (actOnEvmDeposits w net p.1 deposits).2, EvmJobSettled w net p.1 deposits job
  | _ => True

/-- With a receipt, the multicall succeeded, and left out nobody who is notified. -/
def TurnSettles (p : EvmState × EvmTurn) : Prop :=
  match p.2 with
  | .act net deposits =>
      ∀ receipt, net.mined = some receipt → Sends w net p.1 deposits →
        ∀ d ∈ deposits, Notified w p.1 d →
          receipt.status = true ∧ Included w net p.1 deposits d
  | _ => True

theorem turn_settled_iff (p : EvmState × EvmTurn) : TurnSettled w p ↔ TurnSettles w p := by
  obtain ⟨st, turn⟩ := p
  cases turn with
  | learn found webhook_map => exact Iff.rfl
  | act net deposits => exact evm_settled_iff w net st deposits
  | reconcile net => exact Iff.rfl

end

/-- The worker gets to this task of its queue. -/
def Reached (queue : List (Worker × PaymentTask)) (entry : Worker × PaymentTask) : Prop :=
  ∃ before after, queue = before ++ entry :: after ∧
    ∀ other ∈ before, ¬ (processTask other.1 other.2).Panics

section
variable (succeeds : Text → Prop)

/-- Every webhook of the task is true. -/
def TaskSettled (entry : Worker × PaymentTask) : Prop :=
  ∀ job, .webhook job ∈ (processTask entry.1 entry.2).log →
    JobSettled entry.1 succeeds (processTask entry.1 entry.2).log job

/-- The task is processed, if its attempts can still be counted. -/
theorem processTask_log (w : Worker) (task : PaymentTask) :
    (processTask w task).log = if task.attempts.toNat + 1 < 2 ^ 32
      then (runArm w { task with attempts := task.attempts + 1 }).log else [] := by
  unfold processTask
  by_cases h : task.attempts.toNat + 1 < 2 ^ 32
  · rw [if_pos h, if_pos h]
    rfl
  · rw [if_neg h, if_neg h]
    rfl

theorem task_settled_iff (entry : Worker × PaymentTask)
    (hconfirmed : ∀ h, entry.1.net.sweep_tx = some h → succeeds h) :
    TaskSettled succeeds entry ↔ (entry.2.attempts.toNat + 1 < 2 ^ 32 →
      TaskSettles entry.1 succeeds { entry.2 with attempts := entry.2.attempts + 1 }) := by
  unfold TaskSettled
  rw [processTask_log]
  by_cases h : entry.2.attempts.toNat + 1 < 2 ^ 32
  · rw [if_pos h, payment_settled_iff _ _ _ hconfirmed]
    exact ⟨fun hsettles _ => hsettles, fun hsettles => hsettles h⟩
  · rw [if_neg h]
    exact iff_of_true nofun fun hlt => absurd hlt h

/-- **Webhooks with a sweep.**  In every run of the two workers each webhook that names a sweep
transaction is true iff, in the transfer worker, every batch with a receipt succeeded and left out
nobody it notifies of, and in the payment worker every transaction that was notified of succeeded,
on Solana out of the account that was paid. -/
theorem settled_iff (w : EvmTransfer) (st : EvmState) (turns : List EvmTurn)
    (queue : List (Worker × PaymentTask))
    (hconfirmed : ∀ entry ∈ queue, ∀ h, entry.1.net.sweep_tx = some h → succeeds h) :
    ((∀ p ∈ evmTurns w st turns, TurnSettled w p) ∧
        ∀ entry, Reached queue entry → TaskSettled succeeds entry) ↔
      (∀ p ∈ evmTurns w st turns, TurnSettles w p) ∧
        ∀ entry, Reached queue entry → entry.2.attempts.toNat + 1 < 2 ^ 32 →
          TaskSettles entry.1 succeeds { entry.2 with attempts := entry.2.attempts + 1 } := by
  refine and_congr ?_ ?_
  · exact forall₂_congr fun p _ => turn_settled_iff w p
  · refine forall₂_congr fun entry hreached => task_settled_iff succeeds entry ?_
    obtain ⟨before, after, rfl, -⟩ := hreached
    exact hconfirmed entry (List.mem_append_right _ List.mem_cons_self)

end

namespace WebhookSample

/-- A deployed receiver whose merchant has a webhook. -/
def state : EvmState where
  merchant_map := AList.singleton 11 ⟨5, none⟩
  webhook_map merchant := if merchant = "0x5".toList then some "https://shop".toList else none
  deployed := {11}

def deposit : Deposit := ⟨"base".toList, "0x1".toList, "0x2".toList, "0xb".toList, "7".toList, 1⟩

/-- The multicall is mined, and the receipt says whether it succeeded. -/
def answers (status : Bool) : EvmAnswers where
  balances := some fun _ => .balance 7
  batch_deployed := some fun _ => true
  get_code _ := none
  mined := some ⟨"0xaa".toList, status⟩

def worker : Worker :=
  { Sample.worker with
    net := { Sample.network with starknet_tx := some "0x9".toList, sweep_tx := some "0x5".toList } }

def task : PaymentTask :=
  { Sample.task Sample.small "0x777".toList "7".toList with
    webhook_url := some "https://shop".toList }

end WebhookSample

open WebhookSample in
/-- One sweep that is mined and succeeds, one payment that is accepted and succeeds. -/
theorem settled_sample :
    (∀ p ∈ evmTurns oneByteWorker state [.act (answers true) [deposit]],
        TurnSettled oneByteWorker p) ∧
      ∀ entry, Reached [(worker, task)] entry →
        TaskSettled (fun h => h = "0x9".toList ∨ h = "0x5".toList) entry := by
  refine (settled_iff (fun h => h = "0x9".toList ∨ h = "0x5".toList) oneByteWorker state
    [.act (answers true) [deposit]] [(worker, task)] ?_).mpr ⟨?_, ?_⟩
  · intro entry hentry h hsent
    obtain rfl := List.mem_singleton.mp hentry
    exact .inr (Option.some.inj hsent).symm
  · intro p hp
    obtain rfl := List.mem_singleton.mp hp
    intro receipt hreceipt _ d hd _
    obtain rfl := Option.some.inj hreceipt
    obtain rfl := List.mem_singleton.mp hd
    exact ⟨rfl, 11, rfl, by decide +kernel, rfl, rfl⟩
  · intro entry hreached _
    obtain ⟨before, after, hqueue, -⟩ := hreached
    have hentry : entry ∈ [(worker, task)] := by
      rw [hqueue]
      exact List.mem_append_right _ List.mem_cons_self
    obtain rfl := List.mem_singleton.mp hentry
    intro _ h receiver hsent _
    exact .inl (Option.some.inj hsent).symm

open WebhookSample in
/-- A sweep that is mined and fails is notified of all the same. -/
theorem unsettled_notified :
    ¬ ∀ p ∈ evmTurns oneByteWorker state [.act (answers false) [deposit]],
        TurnSettled oneByteWorker p := by
  intro h
  have hsettles := (turn_settled_iff oneByteWorker _).mp (h _ (List.mem_singleton_self _))
  have hcalls : (passCalls oneByteWorker (answers false) state
      (depositCandidates oneByteWorker [deposit]) 11).getD [] ≠ [] := nofun
  obtain ⟨hstatus, -⟩ := hsettles _ rfl ⟨11, by decide +kernel, hcalls⟩ deposit
    (List.mem_singleton_self _) ⟨⟨5, none⟩, rfl, rfl⟩
  cases hstatus

end Beanie.Api
