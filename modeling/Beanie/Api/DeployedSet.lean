/-
# `Beanie.Api.DeployedSet` — what `state.deployed` vouches for

A receiver in `state.deployed` is never checked again: the worker takes it that
there is a contract.  The EVM worker adds the receivers of a multicall as soon
as it has a receipt, the Starknet worker those of a transaction as soon as it
is accepted.

    EvmDeployedSound, StarknetDeployedSound   what the sets promise
    deployed_sound_iff                        which runs keep the promise
-/
import Beanie.Api.TransferEvm
import Beanie.Api.TransferStarknet
import Beanie.Lib.Run

namespace Beanie.Api

open Beanie.Starknet (Felt)

/-! ## EVM -/

/-- From what a receiver's address was derived. -/
structure EvmFactory where
  merchant_of : Address → Address
  route_of : Address → EvmRoute

/-- A record of the factory's events: merchant and route are those of the address. -/
def EvmFactory.Issued (F : EvmFactory) (rec : EvmReceiverRecord) : Prop :=
  rec.merchant = F.merchant_of rec.receiver ∧
    ∀ route, rec.route = some route → route = F.route_of rec.receiver

/-- The worker's state, and the addresses that have code. -/
structure EvmWorld where
  state : EvmState
  code : Finset Address

inductive EvmAct
  /-- a registry scan -/
  | learn (found : List EvmReceiverRecord)
  /-- a pass, for deposits or for the reconcile tick -/
  | sweep (net : EvmAnswers) (candidates : List Address)

section
variable (w : EvmTransfer) (F : EvmFactory)

/-- The receivers whose registration the multicall of a pass carries. -/
def Registers (net : EvmAnswers) (st : EvmState) (candidates : List Address) (a : Address) : Prop :=
  a ∈ receiversOf net candidates ∧ a ∉ (checkedState net st (receiversOf net candidates)).deployed ∧
    (passCalls w net st candidates a).isSome

/-- What a registry scan found, remembered. -/
def learnEvm (st : EvmState) (found : List EvmReceiverRecord) : EvmState :=
  { st with merchant_map := found.foldl rememberEvmReceiver st.merchant_map }

/-- One step: code never goes away, the existence check finds code only where there is some, and a
multicall that succeeded has created the receivers it registers. -/
def EvmStep (s : EvmWorld) (act : EvmAct) (s' : EvmWorld) : Prop :=
  s.code ⊆ s'.code ∧
    match act with
    | .learn found =>
        (∀ rec ∈ found, F.Issued rec) ∧ s'.state = learnEvm s.state found
    | .sweep net candidates =>
        s'.state = (sweepEvmReceivers w net s.state candidates).state ∧
          (∀ a, foundCode net a = true → a ∈ s'.code) ∧
          ∀ receipt, net.mined = some receipt → receipt.status = true →
            ∀ a bytes, w.calldata (.registerMerchant (F.merchant_of a) (F.route_of a).chain
                (F.route_of a).recipient) = some bytes →
              ⟨w.cfg.factory_address, false, bytes⟩
                ∈ (sweepEvmReceivers w net s.state candidates).sent → a ∈ s'.code

/-- Whoever is in the set has code; so a receiver without is never taken for deployed, and whatever
is called for it starts with its registration. -/
structure EvmDeployedSound (s : EvmWorld) : Prop where
  deployed : ∀ a ∈ s.state.deployed, a ∈ s.code
  registers : ∀ net unique a own, (∀ b, foundCode net b = true → b ∈ s.code) → a ∉ s.code →
    ownCalls w net (checkedState net s.state unique) a = some own →
      ∃ info route bytes, s.state.merchant_map.lookup a = some info ∧ info.route = some route ∧
        w.calldata (.registerMerchant info.merchant route.chain route.recipient) = some bytes ∧
          own = ⟨w.cfg.factory_address, false, bytes⟩ :: sweepCall w a

/-- A receipt that reports failure creates nobody: whoever the multicall was to register has code by
other means. -/
def ReceiptMeansDeployed (t : Transition EvmWorld EvmAct) : Prop :=
  match t.act with
  | .learn _ => True
  | .sweep net candidates =>
      ∀ receipt, net.mined = some receipt → receipt.status = true ∨
        ∀ a, Registers w net t.pre.state candidates a → a ∈ t.post.code

end

section
variable {w : EvmTransfer} {F : EvmFactory}

/-- The records are those of the factory. -/
def Genuine (F : EvmFactory) (s : EvmWorld) : Prop :=
  ∀ a info, s.state.merchant_map.lookup a = some info →
    info.merchant = F.merchant_of a ∧ ∀ route, info.route = some route → route = F.route_of a

theorem genuine_remember {map : AList fun _ : Address => EvmReceiverInfo} {rec : EvmReceiverRecord}
    (hrec : F.Issued rec)
    (h : ∀ a info, map.lookup a = some info →
      info.merchant = F.merchant_of a ∧ ∀ route, info.route = some route → route = F.route_of a) :
    ∀ a info, (rememberEvmReceiver map rec).lookup a = some info →
      info.merchant = F.merchant_of a ∧ ∀ route, info.route = some route → route = F.route_of a := by
  intro a info hlookup
  unfold rememberEvmReceiver at hlookup
  by_cases ha : a = rec.receiver
  · subst ha
    rw [AList.lookup_insert] at hlookup
    obtain rfl := Option.some.inj hlookup
    refine ⟨hrec.1, ?_⟩
    dsimp only
    intro route hroute
    cases hown : rec.route with
    | some own =>
        rw [hown] at hroute
        obtain rfl := Option.some.inj hroute
        exact hrec.2 _ hown
    | none =>
        rw [hown, Option.none_or] at hroute
        cases hknown : map.lookup rec.receiver with
        | none =>
            rw [hknown] at hroute
            cases hroute
        | some known =>
            rw [hknown] at hroute
            exact (h _ _ hknown).2 route hroute
  · rw [AList.lookup_insert_ne ha] at hlookup
    exact h a info hlookup

theorem genuine_learn {found : List EvmReceiverRecord} (hfound : ∀ rec ∈ found, F.Issued rec)
    {map : AList fun _ : Address => EvmReceiverInfo}
    (h : ∀ a info, map.lookup a = some info →
      info.merchant = F.merchant_of a ∧ ∀ route, info.route = some route → route = F.route_of a) :
    ∀ a info, (found.foldl rememberEvmReceiver map).lookup a = some info →
      info.merchant = F.merchant_of a ∧ ∀ route, info.route = some route → route = F.route_of a := by
  induction found generalizing map with
  | nil => exact h
  | cons rec found ih =>
      have hhead := hfound rec List.mem_cons_self
      exact ih (fun r hr => hfound r (List.mem_cons_of_mem _ hr)) (genuine_remember hhead h)

/-- A pass adds the receivers it found and, with a receipt, those it registers. -/
theorem sweepEvmReceivers_deployed (net : EvmAnswers) (st : EvmState)
    (candidates : List Address) :
    ∀ a, a ∈ (sweepEvmReceivers w net st candidates).state.deployed ↔
      a ∈ st.deployed ∨ (a ∈ receiversOf net candidates ∧ foundCode net a = true) ∨
        (net.mined.isSome ∧ Registers w net st candidates a) := by
  have hchecked : ∀ a, a ∈ (checkedState net st (receiversOf net candidates)).deployed ↔
      a ∈ st.deployed ∨ (a ∈ receiversOf net candidates ∧ foundCode net a = true) := by
    intro a
    simp [checkedState]
  have hpending : ∀ a, a ∈ (buildBatch w net (checkedState net st (receiversOf net candidates))
      (receiversOf net candidates)).pending_deploys ↔ Registers w net st candidates a := by
    intro a
    rw [mem_pending_buildBatch, Registers, passCalls]
    tauto
  have hnobody : ∀ a, (buildBatch w net (checkedState net st (receiversOf net candidates))
      (receiversOf net candidates)).calls = [] → ¬ Registers w net st candidates a := by
    rintro a hcalls ⟨hmem, hdeployed, hpass⟩
    obtain ⟨own, hown⟩ := Option.isSome_iff_exists.mp hpass
    obtain ⟨-, info, -, ⟨hin, -⟩ | ⟨-, route, bytes, -, -, rfl⟩⟩ := ownCalls_eq_some.mp hown
    · exact hdeployed hin
    · have hsent : (⟨w.cfg.factory_address, false, bytes⟩ : Call3) ∈ (buildBatch w net
          (checkedState net st (receiversOf net candidates)) (receiversOf net candidates)).calls := by
        refine (mem_buildBatch_iff _ rfl).mpr ⟨a, hmem, ?_⟩
        rw [show ownCalls w net _ a = _ from hown]
        exact List.mem_cons_self
      rw [hcalls] at hsent
      cases hsent
  unfold sweepEvmReceivers
  rw [show filterNonzero net (uniqueAddresses candidates) = receiversOf net candidates from rfl]
  dsimp only
  by_cases hempty : (receiversOf net candidates).isEmpty = true
  · rw [if_pos hempty]
    intro a
    rw [Registers, List.isEmpty_iff.mp hempty]
    simp
  · rw [if_neg hempty]
    intro a
    dsimp only
    by_cases hcalls : (buildBatch w net (checkedState net st (receiversOf net candidates))
        (receiversOf net candidates)).calls.isEmpty = true
    · have hnone := hnobody a (List.isEmpty_iff.mp hcalls)
      rw [if_pos hcalls, if_neg (by simp), hchecked]
      simp [hnone]
    · rw [if_neg hcalls, sendEvmMulticall, Option.isSome_map]
      by_cases hmined : net.mined.isSome = true
      · rw [if_pos hmined, Finset.mem_union, List.mem_toFinset, hpending, hchecked]
        simp [hmined, or_assoc]
      · rw [if_neg hmined, hchecked]
        simp [hmined]

theorem evmDeployedSound_of {s : EvmWorld} (h : ∀ a ∈ s.state.deployed, a ∈ s.code) :
    EvmDeployedSound w s := by
  refine ⟨h, ?_⟩
  intro net unique a own hfound ha hown
  obtain ⟨-, info, hinfo, ⟨hin, -⟩ | ⟨-, route, bytes, hroute, hbytes, rfl⟩⟩ :=
    ownCalls_eq_some.mp hown
  · rcases Finset.mem_union.mp hin with hold | hnew
    · exact absurd (h a hold) ha
    · have hmem := List.mem_filter.mp (List.mem_toFinset.mp hnew)
      exact absurd (hfound a hmem.2) ha
  · exact ⟨info, route, bytes, hinfo, hroute, hbytes, rfl⟩

/-- The multicall of a pass carries the registration of each receiver it registers. -/
theorem registers_sent {s : EvmWorld} {net : EvmAnswers} {candidates : List Address} {a : Address}
    (hgenuine : Genuine F s) (h : Registers w net s.state candidates a) :
    ∃ bytes, w.calldata (.registerMerchant (F.merchant_of a) (F.route_of a).chain
        (F.route_of a).recipient) = some bytes ∧
      ⟨w.cfg.factory_address, false, bytes⟩ ∈ (sweepEvmReceivers w net s.state candidates).sent := by
  obtain ⟨hmem, hdeployed, hpass⟩ := h
  obtain ⟨own, hown⟩ := Option.isSome_iff_exists.mp hpass
  obtain ⟨-, info, hinfo, ⟨hin, -⟩ | ⟨-, route, bytes, hroute, hbytes, rfl⟩⟩ :=
    ownCalls_eq_some.mp hown
  · exact absurd hin hdeployed
  · obtain ⟨hmerchant, horigin⟩ := hgenuine a info hinfo
    obtain rfl := horigin route hroute
    rw [hmerchant] at hbytes
    refine ⟨bytes, hbytes, (sent_strict _ rfl).mpr ⟨a, hmem, ?_⟩⟩
    rw [hown]
    exact List.mem_cons_self

/-- **One step of the EVM worker.** -/
theorem evm_step_sound_iff {s s' : EvmWorld} {act : EvmAct} (hs : EvmStep w F s act s')
    (hgenuine : Genuine F s) (hsound : EvmDeployedSound w s) :
    EvmDeployedSound w s' ↔ ReceiptMeansDeployed w ⟨s, act, s'⟩ := by
  obtain ⟨hcode, hact⟩ := hs
  cases act with
  | learn found =>
      obtain ⟨-, hstate⟩ := hact
      refine ⟨fun _ => trivial, fun _ => evmDeployedSound_of ?_⟩
      intro a ha
      rw [hstate] at ha
      exact hcode (hsound.deployed a ha)
  | sweep net candidates =>
      obtain ⟨hstate, hfound, hcreated⟩ := hact
      have hdeployed := sweepEvmReceivers_deployed (w := w) net s.state candidates
      constructor
      · intro h receipt hmined
        cases hstatus : receipt.status with
        | true => exact .inl rfl
        | false =>
            refine .inr fun a ha => h.deployed a ?_
            rw [hstate]
            exact (hdeployed a).mpr (.inr (.inr ⟨by rw [hmined]; rfl, ha⟩))
      · intro h
        refine evmDeployedSound_of ?_
        intro a ha
        rw [hstate] at ha
        rcases (hdeployed a).mp ha with hold | ⟨-, hcheck⟩ | ⟨hmined, hregisters⟩
        · exact hcode (hsound.deployed a hold)
        · exact hfound a hcheck
        · obtain ⟨receipt, hreceipt⟩ := Option.isSome_iff_exists.mp hmined
          rcases h receipt hreceipt with hstatus | hall
          · obtain ⟨bytes, hbytes, hsent⟩ := registers_sent hgenuine hregisters
            exact hcreated receipt hreceipt hstatus a bytes hbytes hsent
          · exact hall a hregisters

theorem genuine_step {s s' : EvmWorld} {act : EvmAct} (hs : EvmStep w F s act s')
    (h : Genuine F s) : Genuine F s' := by
  obtain ⟨-, hact⟩ := hs
  cases act with
  | learn found =>
      obtain ⟨hissued, hstate⟩ := hact
      rw [Genuine, hstate]
      exact genuine_learn hissued h
  | sweep net candidates =>
      rw [Genuine, hact.1, (sweepEvmReceivers_maps w net s.state candidates).1]
      exact h

end

/-! ## Starknet -/

/-- The worker's state, and the addresses that have a contract. -/
structure StarknetWorld where
  state : StarknetState
  code : Finset Felt

inductive StarknetAct
  /-- a registry scan -/
  | learn (found : List Keeper.StarknetReceiverRecord)
  /-- the deposits of a scan, and whether a transaction that is accepted then succeeds -/
  | act (net : StarknetAnswers) (deposits : List Keeper.Deposit) (succeeds : Bool)

section
variable (w : StarknetTransfer)

def learnStarknet (st : StarknetState) (found : List Keeper.StarknetReceiverRecord) :
    StarknetState :=
  { st with merchant_map := found.foldl rememberStarknetReceiver st.merchant_map }

/-- Does the loop register this receiver? -/
def StarknetRegisters (net : StarknetAnswers) (st : StarknetState) (r : Felt) : Prop :=
  ∃ info, st.merchant_map.lookup r = some info ∧ info.route.isSome ∧ hasBalance net r = true ∧
    r ∉ st.deployed ∧ exists? net r = some false

/-- One step: contracts stay, the node finds one only where there is one, and a transaction that
succeeds has created the receivers it registers. -/
def StarknetActStep (s : StarknetWorld) (act : StarknetAct) (s' : StarknetWorld) : Prop :=
  s.code ⊆ s'.code ∧
    match act with
    | .learn found =>
        s'.state = learnStarknet s.state found
    | .act net deposits succeeds =>
        let pass := actOnStarknetDeposits w net s.state deposits
        s'.state = pass.state ∧ (∀ r, exists? net r = some true → r ∈ s'.code) ∧
          (pass.sweep_tx.isSome → succeeds = true → ∀ r ∈ pass.pending_deploys, r ∈ s'.code)

/-- Whoever is in the set has a contract; so a receiver without is registered, or left out. -/
structure StarknetDeployedSound (s : StarknetWorld) : Prop where
  deployed : ∀ r ∈ s.state.deployed, r ∈ s.code
  registers : ∀ net register_selector sweep_selector batch r,
    (∀ q, exists? net q = some true → q ∈ s.code) → (∀ q ∈ batch.deployed, q ∈ s.code) →
      r ∉ s.code →
        addStarknetReceiver w net s.state.merchant_map register_selector sweep_selector batch r
            = batch ∨
          ∃ info route, s.state.merchant_map.lookup r = some info ∧ info.route = some route ∧
            addStarknetReceiver w net s.state.merchant_map register_selector sweep_selector batch r
              = addStarknetSweep sweep_selector r
                (addStarknetRegister w register_selector r info route batch)

/-- A transaction that is accepted and then fails creates nobody: whoever it was to register has a
contract by other means. -/
def AcceptedMeansDeployed (t : Transition StarknetWorld StarknetAct) : Prop :=
  match t.act with
  | .learn _ => True
  | .act net deposits succeeds =>
      (actOnStarknetDeposits w net t.pre.state deposits).sweep_tx.isSome → succeeds = true ∨
        ∀ r ∈ uniqueFelts w deposits, StarknetRegisters net t.pre.state r → r ∈ t.post.code

end

section
variable {w : StarknetTransfer}

theorem starknetDeployedSound_of {s : StarknetWorld} (h : ∀ r ∈ s.state.deployed, r ∈ s.code) :
    StarknetDeployedSound w s := by
  refine ⟨h, ?_⟩
  intro net register_selector sweep_selector batch r hexists hbatch hr
  unfold addStarknetReceiver
  cases hinfo : s.state.merchant_map.lookup r with
  | none => exact .inl rfl
  | some info =>
      dsimp only
      by_cases hbalance : (!hasBalance net r) = true
      · rw [if_pos hbalance]
        exact .inl rfl
      · rw [if_neg hbalance, if_neg fun hin => hr (hbatch r hin)]
        cases hcheck : exists? net r with
        | none => exact .inl rfl
        | some found =>
            cases found with
            | true => exact absurd (hexists r hcheck) hr
            | false =>
                cases hroute : info.route with
                | none => exact .inl rfl
                | some route => exact .inr ⟨info, route, rfl, hroute, rfl⟩

/-- What one receiver of the loop does to the two sets. -/
theorem addStarknetReceiver_spec (net : StarknetAnswers) (st : StarknetState)
    (register_selector sweep_selector : Felt) (batch : StarknetBatch) (x : Felt)
    (hbatch : ∀ r, r ∈ batch.deployed → r ∈ st.deployed ∨ exists? net r = some true)
    (hold : ∀ r ∈ st.deployed, r ∈ batch.deployed) :
    let next := addStarknetReceiver w net st.merchant_map register_selector sweep_selector batch x
    (∀ r, r ∈ next.deployed → r ∈ st.deployed ∨ exists? net r = some true) ∧
      (∀ r ∈ st.deployed, r ∈ next.deployed) ∧
        ∀ r, r ∈ next.pending_deploys ↔
          r ∈ batch.pending_deploys ∨ (r = x ∧ StarknetRegisters net st x) := by
  have hsame : ¬ StarknetRegisters net st x → ∀ r, r ∈ batch.pending_deploys ↔
      r ∈ batch.pending_deploys ∨ (r = x ∧ StarknetRegisters net st x) := by
    intro hnot r
    exact ⟨.inl, fun h => h.resolve_right fun hx => hnot hx.2⟩
  unfold addStarknetReceiver
  cases hinfo : st.merchant_map.lookup x with
  | none =>
      refine ⟨hbatch, hold, hsame ?_⟩
      rintro ⟨info, hlookup, -⟩
      rw [hinfo] at hlookup
      cases hlookup
  | some info =>
      dsimp only
      by_cases hbalance : (!hasBalance net x) = true
      · rw [if_pos hbalance]
        refine ⟨hbatch, hold, hsame ?_⟩
        rintro ⟨-, -, -, hhas, -⟩
        rw [hhas] at hbalance
        cases hbalance
      · rw [if_neg hbalance]
        by_cases hin : x ∈ batch.deployed
        · rw [if_pos hin]
          refine ⟨hbatch, hold, hsame ?_⟩
          rintro ⟨-, -, -, -, hout, hmissing⟩
          rcases hbatch x hin with hdeployed | hfound
          · exact hout hdeployed
          · rw [hfound] at hmissing
            cases hmissing
        · rw [if_neg hin]
          cases hcheck : exists? net x with
          | none =>
              refine ⟨hbatch, hold, hsame ?_⟩
              rintro ⟨-, -, -, -, -, hmissing⟩
              rw [hcheck] at hmissing
              cases hmissing
          | some found =>
              cases found with
              | true =>
                  refine ⟨?_, fun r hr => Finset.mem_insert_of_mem (hold r hr), hsame ?_⟩
                  · intro r hr
                    rcases Finset.mem_insert.mp hr with rfl | hr
                    · exact .inr hcheck
                    · exact hbatch r hr
                  · rintro ⟨-, -, -, -, -, hmissing⟩
                    rw [hcheck] at hmissing
                    cases hmissing
              | false =>
                  cases hroute : info.route with
                  | none =>
                      refine ⟨hbatch, hold, hsame ?_⟩
                      rintro ⟨info', hlookup, hsome, -⟩
                      rw [hinfo] at hlookup
                      obtain rfl := Option.some.inj hlookup
                      rw [hroute] at hsome
                      cases hsome
                  | some route =>
                      refine ⟨hbatch, hold, ?_⟩
                      intro r
                      have hregisters : StarknetRegisters net st x :=
                        ⟨info, hinfo, by rw [hroute]; rfl, by simpa using hbalance,
                          fun hdeployed => hin (hold x hdeployed), hcheck⟩
                      show r ∈ batch.pending_deploys ++ [x] ↔ _
                      rw [List.mem_append, List.mem_singleton]
                      exact or_congr_right ⟨fun h => ⟨h, hregisters⟩, And.left⟩

/-- What the loop does to them. -/
theorem foldl_addStarknetReceiver (net : StarknetAnswers) (st : StarknetState)
    (register_selector sweep_selector : Felt) (receivers : List Felt) (batch : StarknetBatch)
    (hbatch : ∀ r, r ∈ batch.deployed → r ∈ st.deployed ∨ exists? net r = some true)
    (hold : ∀ r ∈ st.deployed, r ∈ batch.deployed) :
    let final := receivers.foldl
      (addStarknetReceiver w net st.merchant_map register_selector sweep_selector) batch
    (∀ r, r ∈ final.deployed → r ∈ st.deployed ∨ exists? net r = some true) ∧
      (∀ r ∈ st.deployed, r ∈ final.deployed) ∧
        ∀ r, r ∈ final.pending_deploys ↔
          r ∈ batch.pending_deploys ∨ (r ∈ receivers ∧ StarknetRegisters net st r) := by
  induction receivers generalizing batch with
  | nil => exact ⟨hbatch, hold, by simp⟩
  | cons x receivers ih =>
      obtain ⟨hbatch', hold', hpending⟩ := addStarknetReceiver_spec (w := w) net st
        register_selector sweep_selector batch x hbatch hold
      obtain ⟨hfinal, hkept, hpending'⟩ := ih _ hbatch' hold'
      refine ⟨hfinal, hkept, fun r => ?_⟩
      rw [List.foldl_cons, hpending', hpending, List.mem_cons]
      constructor
      · rintro ((h | ⟨rfl, h⟩) | ⟨h, h'⟩)
        · exact .inl h
        · exact .inr ⟨.inl rfl, h⟩
        · exact .inr ⟨.inr h, h'⟩
      · rintro (h | ⟨rfl | h, h'⟩)
        · exact .inl (.inl h)
        · exact .inl (.inr ⟨rfl, h'⟩)
        · exact .inr ⟨h, h'⟩

/-- What a batch of deposits does to the set: nothing is taken out of it, a receiver the node found
may go in, and with an accepted transaction those that it registers go in. -/
theorem actOnStarknetDeposits_deployed (net : StarknetAnswers) (st : StarknetState)
    (deposits : List Keeper.Deposit) :
    let pass := actOnStarknetDeposits w net st deposits
    (∀ r ∈ pass.state.deployed, r ∈ st.deployed ∨ exists? net r = some true ∨
        (pass.sweep_tx.isSome ∧ r ∈ pass.pending_deploys)) ∧
      (pass.sweep_tx.isSome → (∀ r ∈ pass.pending_deploys, r ∈ pass.state.deployed) ∧
        ∀ r, r ∈ pass.pending_deploys ↔
          r ∈ uniqueFelts w deposits ∧ StarknetRegisters net st r) := by
  dsimp only
  unfold actOnStarknetDeposits
  by_cases hempty : deposits.isEmpty = true
  · rw [if_pos hempty]
    exact ⟨fun r hr => .inl hr, nofun⟩
  rw [if_neg hempty]
  split
  case h_2 => exact ⟨fun r hr => .inl hr, nofun⟩
  case h_1 register_selector sweep_selector _ _ =>
    obtain ⟨hdeployed, -, hpending⟩ := foldl_addStarknetReceiver (w := w) net st register_selector
      sweep_selector (uniqueFelts w deposits) ⟨st.deployed, [], []⟩ (fun r hr => .inl hr)
      fun r hr => hr
    dsimp only
    split_ifs with hcalls
    · refine ⟨fun r hr => ?_, nofun⟩
      exact (hdeployed r hr).imp_right .inl
    · cases hsend : net.send with
      | none =>
          refine ⟨fun r hr => ?_, nofun⟩
          exact (hdeployed r hr).imp_right .inl
      | some tx_hash =>
          refine ⟨?_, fun _ => ⟨?_, ?_⟩⟩
          · intro r hr
            rcases Finset.mem_union.mp hr with hr | hr
            · exact (hdeployed r hr).imp_right .inl
            · exact .inr (.inr ⟨rfl, List.mem_toFinset.mp hr⟩)
          · intro r hr
            exact Finset.mem_union_right _ (List.mem_toFinset.mpr hr)
          · intro r
            rw [hpending]
            simp

/-- **One step of the Starknet worker.** -/
theorem starknet_step_sound_iff {s s' : StarknetWorld} {act : StarknetAct}
    (hs : StarknetActStep w s act s') (hsound : StarknetDeployedSound w s) :
    StarknetDeployedSound w s' ↔ AcceptedMeansDeployed w ⟨s, act, s'⟩ := by
  obtain ⟨hcode, hact⟩ := hs
  cases act with
  | learn found =>
      refine ⟨fun _ => trivial, fun _ => starknetDeployedSound_of ?_⟩
      intro r hr
      rw [show s'.state = _ from hact] at hr
      exact hcode (hsound.deployed r hr)
  | act net deposits succeeds =>
      obtain ⟨hstate, hexists, hcreated⟩ := hact
      obtain ⟨hdeployed, hsent⟩ := actOnStarknetDeposits_deployed (w := w) net s.state deposits
      constructor
      · intro h hsome
        obtain ⟨hpending, hiff⟩ := hsent hsome
        refine .inr fun r hr hregisters => h.deployed r ?_
        rw [hstate]
        exact hpending r ((hiff r).mpr ⟨hr, hregisters⟩)
      · intro h
        refine starknetDeployedSound_of ?_
        intro r hr
        rw [hstate] at hr
        rcases hdeployed r hr with hold | hfound | ⟨hsome, hpending⟩
        · exact hcode (hsound.deployed r hold)
        · exact hexists r hfound
        · rcases h hsome with hsucceeds | hall
          · exact hcreated hsome hsucceeds r hpending
          · obtain ⟨hr, hregisters⟩ := ((hsent hsome).2 r).mp hpending
            exact hall r hr hregisters

end

/-! ## Whole runs -/

/-- **What the two sets vouch for.**  From empty sets, every state of a run is sound iff, in every
step, a receipt of a failed multicall, or an accepted transaction that fails, leaves no receiver
without code that it was to register. -/
theorem deployed_sound_iff (we : EvmTransfer) (F : EvmFactory) (ws : StarknetTransfer)
    {e e' : EvmWorld} {te : List (Transition EvmWorld EvmAct)}
    (hevm : Steps (EvmStep we F) e te e') (hmap : e.state.merchant_map = ∅)
    (hempty : e.state.deployed = ∅) {s s' : StarknetWorld}
    {ts : List (Transition StarknetWorld StarknetAct)}
    (hstarknet : Steps (StarknetActStep ws) s ts s') (hempty' : s.state.deployed = ∅) :
    ((∀ t ∈ te, EvmDeployedSound we t.post) ↔ ∀ t ∈ te, ReceiptMeansDeployed we t) ∧
      ((∀ t ∈ ts, StarknetDeployedSound ws t.post) ↔ ∀ t ∈ ts, AcceptedMeansDeployed ws t) := by
  constructor
  · have hgenuine : Genuine F e := by
      intro a info hlookup
      rw [hmap, AList.lookup_empty] at hlookup
      cases hlookup
    have hsound : EvmDeployedSound we e := evmDeployedSound_of (by
      intro a ha
      rw [hempty] at ha
      cases ha)
    exact hevm.invariant_iff (J := Genuine F) (fun _ _ _ hs => genuine_step hs)
      (fun _ _ _ hs => evm_step_sound_iff hs) hgenuine hsound
  · have hsound : StarknetDeployedSound ws s := starknetDeployedSound_of (by
      intro r hr
      rw [hempty'] at hr
      cases hr)
    exact hstarknet.invariant_iff (J := fun _ => True) (fun _ _ _ _ _ => trivial)
      (fun _ _ _ hs _ => starknet_step_sound_iff hs) trivial hsound

namespace DeployedSample

def factory : EvmFactory := ⟨fun _ => 5, fun _ => ⟨0, 0⟩⟩

/-- The factory announced receiver 11. -/
def announced : List EvmReceiverRecord := [⟨5, 11, some ⟨0, 0⟩⟩]

/-- It holds something, and the multicall is mined. -/
def answers (created succeeds : Bool) : EvmAnswers where
  balances := some fun _ => .balance 7
  batch_deployed := some fun a => created && a == 11
  get_code _ := none
  mined := some ⟨[], succeeds⟩

/-- Before the first step, after the scan, and after the pass. -/
def before (created : Bool) : EvmWorld where
  state := ⟨∅, fun _ => none, ∅⟩
  code := if created then {11} else ∅

def scanned (created : Bool) : EvmWorld :=
  { before created with state := learnEvm (before created).state announced }

def swept (created succeeds : Bool) : EvmWorld :=
  { scanned created with
    state := (sweepEvmReceivers oneByteWorker (answers created succeeds) (scanned created).state
      [11]).state }

def run (created succeeds : Bool) : List (Transition EvmWorld EvmAct) :=
  [⟨before created, .learn announced, scanned created⟩,
    ⟨scanned created, .sweep (answers created succeeds) [11], swept created succeeds⟩]

theorem learn_step (created : Bool) :
    EvmStep oneByteWorker factory (before created) (.learn announced) (scanned created) := by
  refine ⟨Finset.Subset.refl _, ?_, rfl⟩
  intro rec hrec
  obtain rfl := List.mem_singleton.mp hrec
  exact ⟨rfl, fun route h => (Option.some.inj h).symm⟩

/-- Nobody has created the receiver, and the multicall reverts. -/
theorem reverted_run :
    Steps (EvmStep oneByteWorker factory) (before false) (run false false) (swept false false) := by
  refine .step (learn_step false) (.step ⟨Finset.Subset.refl _, rfl, nofun, ?_⟩ (.refl _))
  rintro receipt hmined hstatus
  obtain rfl := Option.some.inj hmined
  cases hstatus

/-- Somebody else has created it. -/
theorem created_run :
    Steps (EvmStep oneByteWorker factory) (before true) (run true true) (swept true true) := by
  refine .step (learn_step true) (.step ⟨Finset.Subset.refl _, rfl, ?_, ?_⟩ (.refl _))
  · intro a ha
    obtain rfl : a = 11 := by simpa [foundCode, answers] using ha
    exact Finset.mem_singleton_self _
  · rintro receipt - - a bytes - hsent
    have hcalls : (sweepEvmReceivers oneByteWorker (answers true true) (scanned true).state
        [11]).sent = [⟨11, false, [4]⟩] := rfl
    rw [hcalls] at hsent
    have htarget := congrArg Call3.target (List.mem_singleton.mp hsent)
    have hne : oneByteWorker.cfg.factory_address ≠ 11 := by decide
    exact absurd htarget hne

def starknetWorker : StarknetTransfer where
  tx := Keeper.hexTexts 1 2 3
  cfg := ⟨0, 0⟩
  factory_address := 9
  selector s := some (Fin.ofNat Starknet.P s.length)

def starknetBefore : StarknetWorld := ⟨⟨∅, ∅, none⟩, ∅⟩

theorem starknet_run :
    Steps (StarknetActStep starknetWorker) starknetBefore
      [⟨starknetBefore, .learn [], starknetBefore⟩] starknetBefore :=
  .step ⟨Finset.Subset.refl _, rfl⟩ (.refl _)

end DeployedSample

open DeployedSample in
/-- A run in which the receiver exists, and one of the Starknet worker's. -/
theorem deployed_sound_sample :
    (∀ t ∈ run true true, EvmDeployedSound oneByteWorker t.post) ∧
      ∀ t ∈ [(⟨starknetBefore, .learn [], starknetBefore⟩ : Transition StarknetWorld StarknetAct)],
        StarknetDeployedSound starknetWorker t.post := by
  have hiff := deployed_sound_iff oneByteWorker factory starknetWorker created_run rfl rfl
    starknet_run rfl
  refine ⟨hiff.1.mpr ?_, hiff.2.mpr ?_⟩
  · intro t ht
    rcases List.mem_cons.mp ht with rfl | ht
    · trivial
    · obtain rfl := List.mem_singleton.mp ht
      rintro receipt hmined
      obtain rfl := Option.some.inj hmined
      exact .inl rfl
  · intro t ht
    obtain rfl := List.mem_singleton.mp ht
    trivial

open DeployedSample in
/-- The multicall that was to create receiver 11 reverts, and the receiver goes into the set. -/
theorem deployed_unsound :
    ¬ ∀ (w : EvmTransfer) (F : EvmFactory) (s s' : EvmWorld) (tr : List (Transition EvmWorld EvmAct)),
      Steps (EvmStep w F) s tr s' → s.state.merchant_map = ∅ → s.state.deployed = ∅ →
        ∀ t ∈ tr, EvmDeployedSound w t.post := by
  intro h
  have hsound := h oneByteWorker factory _ _ _ reverted_run rfl rfl _
    (List.mem_cons_of_mem _ (List.mem_singleton_self _))
  have hdeployed : (11 : Address) ∈ (swept false false).state.deployed := by decide +kernel
  have hcode := hsound.deployed 11 hdeployed
  cases hcode

end Beanie.Api
