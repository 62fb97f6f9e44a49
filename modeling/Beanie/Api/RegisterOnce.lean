/-
# `Beanie.Api.RegisterOnce` — when a batch carries the factory's register call

The factory refuses a receiver that is there already, and a batch is carried
out as a whole.  The three workers decide by three different rules whether to
put the registration in:

    EVM payment         `get_code`, a query that fails counting as no code
    Starknet payment    always
    Starknet transfer   `state.deployed`, or else the class hash at L1Accepted

`registers_missing_iff` says of each when its rule agrees with the chain.
-/
import Beanie.Api.PaymentBatch
import Beanie.Api.DeployedSet

namespace Beanie.Api

open Beanie.Starknet (Felt)
open Journal

/-! ## The payment workers -/

/-- `registerMerchant` is told from the other calls by its selector. -/
def RegisterToldApart (w : Worker) : Prop :=
  ∀ merchant chain recipient call bytes,
    w.calldata (.registerMerchant merchant chain recipient) = some bytes →
      w.calldata call = some bytes → ∃ m c r, call = .registerMerchant m c r

/-- The multicall carries the registration of the receiver. -/
def CarriesRegister (w : Worker) (task : PaymentTask) (a : Address) (cfg : EvmConfig)
    (calls : List Call3) : Prop :=
  ∃ info route bytes, w.evm_registries task.source_chain a = some info ∧ info.route = some route ∧
    w.calldata (.registerMerchant info.merchant route.chain route.recipient) = some bytes ∧
      ⟨cfg.factory_address, false, bytes⟩ ∈ calls

/-- The code-size query tells whether there is code; one that fails tells that there is none. -/
def CodeAnswered (answer : Option Bytes) (code : Prop) : Prop :=
  match answer with
  | some bytes => bytes ≠ [] ↔ code
  | none => ¬ code

/-- The transaction carries the registration of the receiver. -/
def CarriesRegisterStarknet (w : Worker) (receiver : Felt) (calls : List Starknet.Call) : Prop :=
  ∃ info route register, w.starknet_registry receiver = some info ∧ info.route = some route ∧
    w.starknet.get_selector_from_name "register_merchant".toList = some register ∧
      ⟨w.starknet_factory, register,
        [info.merchant, route.chain, route.recipient_low, route.recipient_high]⟩ ∈ calls

section
variable {w : Worker} {task : PaymentTask}

theorem webhookCalls_allow_failure {info : Option EvmReceiverInfo} {missing : Bool} {c : Call3}
    (h : c ∈ webhookCalls w task info missing) : c.allow_failure = true := by
  unfold webhookCalls at h
  split at h
  · dsimp only at h
    split at h
    · rw [List.mem_singleton.mp h]
    · cases h
  · cases h

theorem webhookCalls_present (info : Option EvmReceiverInfo) :
    webhookCalls w task info false = [] := rfl

/-- A multicall carries the registration exactly when the worker takes the receiver to be
missing. -/
theorem EvmBatch.carries_iff {a : Address} {cfg : EvmConfig} {args : TransferArgs}
    {calls : List Call3} (h : EvmBatch w task a cfg args calls) (hapart : RegisterToldApart w) :
    CarriesRegister w task a cfg calls ↔ evmMissing w task a = true := by
  obtain ⟨register, transfer, sweep, hregister, htransfer, hsweep, rfl⟩ := h.calls
  rcases registerCalls_result.mp hregister with ⟨hmissing, rfl⟩ |
    ⟨hmissing, info, route, bytes, hinfo, hroute, hbytes, rfl⟩
  · rw [hmissing, webhookCalls_present]
    constructor
    · rintro ⟨info, route, bytes, -, -, hbytes, hmem⟩
      rcases List.mem_cons.mp hmem with heq | hmem
      · obtain ⟨-, -, rfl⟩ := Call3.mk.inj heq
        obtain ⟨m, c, r, hcall⟩ := hapart _ _ _ _ _ hbytes htransfer
        cases hcall
      · obtain ⟨-, -, rfl⟩ := Call3.mk.inj (List.mem_singleton.mp hmem)
        obtain ⟨m, c, r, hcall⟩ := hapart _ _ _ _ _ hbytes hsweep
        cases hcall
    · intro hfalse
      cases hfalse
  · refine ⟨fun _ => hmissing, fun _ => ⟨info, route, bytes, hinfo, hroute, hbytes, ?_⟩⟩
    exact List.mem_append_left _ (List.mem_append_left _ (List.mem_singleton_self _))

/-- The EVM rule agrees with the chain exactly when the query does. -/
theorem missing_iff_answered (hcreate : task.create_if_missing = true) (a : Address) (code : Prop) :
    (evmMissing w task a = true ↔ ¬ code) ↔ CodeAnswered (w.net.get_code a) code := by
  unfold evmMissing codeFound CodeAnswered
  rw [hcreate, Bool.and_true]
  cases w.net.get_code a with
  | none => simp
  | some bytes =>
      cases bytes with
      | nil => simp
      | cons b bs => simp

/-- What the Starknet arm submits. -/
theorem executeV3_of_mem {calls : List Starknet.Call}
    (h : Effect.executeV3 calls ∈ (processStarknet w task).log) :
    ∃ receiver register rest, w.starknet.from_hex task.receiver_address = some receiver ∧
      (registerStarknet w task receiver).result = .ok register ∧ calls = register ++ rest := by
  unfold processStarknet at h
  cases hreceiver : w.starknet.from_hex task.receiver_address with
  | none =>
      rw [hreceiver] at h
      cases h
  | some receiver =>
      rw [hreceiver] at h
      simp only [mem_log_bind, not_mem_registerStarknet, log_orSkip, log_serialiseExecution,
        mem_submitStarknet, List.not_mem_nil, false_or] at h
      obtain ⟨register, hregister, _, -, _, -, _, -, _, -, _, -, rfl⟩ := h
      exact ⟨receiver, register, _, rfl, hregister, rfl⟩

/-- A task the route enqueued asks for the registration whatever the chain says. -/
theorem carries_of_submitted (hcreate : task.create_if_missing = true) {calls : List Starknet.Call}
    (h : Effect.executeV3 calls ∈ (processStarknet w task).log) :
    ∃ receiver, w.starknet.from_hex task.receiver_address = some receiver ∧
      CarriesRegisterStarknet w receiver calls := by
  obtain ⟨receiver, register, rest, hreceiver, hregister, rfl⟩ := executeV3_of_mem h
  unfold registerStarknet at hregister
  rw [if_pos hcreate] at hregister
  simp only [result_bind, result_orSkip] at hregister
  obtain ⟨info, hinfo, route, hroute, selector, hselector, _, -, hcalls⟩ := hregister
  obtain rfl := Except.ok.inj hcalls
  exact ⟨receiver, hreceiver, info, route, selector, hinfo, hroute, hselector,
    List.mem_append_left _ (List.mem_singleton_self _)⟩

end

/-! ## The transfer worker -/

section
variable (w : StarknetTransfer)

/-- The worker takes it that the receiver has a contract. -/
def TakenForDeployed (net : StarknetAnswers) (st : StarknetState) (r : Felt) : Prop :=
  r ∈ st.deployed ∨ exists? net r = some true

def starknetSweepCall (sweep_selector r : Felt) : Starknet.Call := ⟨r, sweep_selector, []⟩

def starknetRegisterCall (register_selector merchant : Felt) (route : StarknetRoute) :
    Starknet.Call :=
  ⟨w.factory_address, register_selector,
    [merchant, route.chain, route.recipient_low, route.recipient_high]⟩

/-- What a pass calls for one receiver, by the state before it. -/
def starknetOwnCalls (net : StarknetAnswers) (st : StarknetState)
    (register_selector sweep_selector r : Felt) : List Starknet.Call :=
  match st.merchant_map.lookup r with
  | none => []
  | some info =>
      if !hasBalance net r then []
      else if r ∈ st.deployed then [starknetSweepCall sweep_selector r]
      else
        match exists? net r with
        | none => []
        | some true => [starknetSweepCall sweep_selector r]
        | some false =>
            match info.route with
            | none => []
            | some route => [starknetRegisterCall w register_selector info.merchant route,
                starknetSweepCall sweep_selector r]

/-- The transaction carries the receiver's registration, right before its sweep. -/
def RegistersBeforeSweep (st : StarknetState) (register_selector sweep_selector r : Felt)
    (sent : List Starknet.Call) : Prop :=
  ∃ info route, st.merchant_map.lookup r = some info ∧ info.route = some route ∧
    [starknetRegisterCall w register_selector info.merchant route,
      starknetSweepCall sweep_selector r] <:+: sent

/-- Of every receiver a pass sweeps, `P`. -/
def OfEachSwept (P : StarknetAnswers → StarknetState → (sent : List Starknet.Call) →
    (register_selector sweep_selector r : Felt) → Prop) (net : StarknetAnswers)
    (st : StarknetState) (deposits : List Keeper.Deposit) : Prop :=
  ∀ register_selector sweep_selector, w.selector "register_merchant".toList = some register_selector →
    w.selector "sweep".toList = some sweep_selector →
      ∀ r, starknetSweepCall sweep_selector r ∈ (actOnStarknetDeposits w net st deposits).sent →
        P net st (actOnStarknetDeposits w net st deposits).sent register_selector sweep_selector r

/-- The registration goes with the receivers that have no contract. -/
def RegistersMissing (t : Transition StarknetWorld StarknetAct) : Prop :=
  match t.act with
  | .learn _ => True
  | .act net deposits _ =>
      OfEachSwept w (fun _ st sent register sweep r =>
        RegistersBeforeSweep w st register sweep r sent ↔ r ∉ t.pre.code) net t.pre.state deposits

/-- Who is taken for deployed is. -/
def TakenRightly (t : Transition StarknetWorld StarknetAct) : Prop :=
  match t.act with
  | .learn _ => True
  | .act net deposits _ =>
      OfEachSwept w (fun net st _ _ _ r => TakenForDeployed net st r ↔ r ∈ t.pre.code)
        net t.pre.state deposits

/-- The node, asked at L1Accepted, finds the contracts there are. -/
def QueryCurrent (t : Transition StarknetWorld StarknetAct) : Prop :=
  match t.act with
  | .learn _ => True
  | .act net _ _ => ∀ r, exists? net r = some (decide (r ∈ t.pre.code)) ∨ exists? net r = none

end

section
variable {w : StarknetTransfer} {net : StarknetAnswers} {st : StarknetState}
  {register_selector sweep_selector : Felt}

theorem starknetRegisterCall_ne (merchant r : Felt) (route : StarknetRoute) :
    starknetRegisterCall w register_selector merchant route ≠ starknetSweepCall sweep_selector r := by
  intro h
  cases congrArg Starknet.Call.calldata h

theorem starknetSweepCall_inj {r r' : Felt}
    (h : starknetSweepCall sweep_selector r = starknetSweepCall sweep_selector r') : r = r' :=
  congrArg Starknet.Call.target h

/-- A receiver's calls: none, its sweep, or its registration and its sweep. -/
theorem starknetOwnCalls_cases (w : StarknetTransfer) (net : StarknetAnswers) (st : StarknetState)
    (register_selector sweep_selector r : Felt) :
    starknetOwnCalls w net st register_selector sweep_selector r = [] ∨
      (TakenForDeployed net st r ∧ starknetOwnCalls w net st register_selector sweep_selector r
        = [starknetSweepCall sweep_selector r]) ∨
      ((r ∉ st.deployed ∧ exists? net r = some false) ∧
        ∃ info route, st.merchant_map.lookup r = some info ∧ info.route = some route ∧
          starknetOwnCalls w net st register_selector sweep_selector r
            = [starknetRegisterCall w register_selector info.merchant route,
              starknetSweepCall sweep_selector r]) := by
  unfold starknetOwnCalls TakenForDeployed
  cases st.merchant_map.lookup r with
  | none => exact .inl rfl
  | some info =>
      dsimp only
      by_cases hbalance : (!hasBalance net r) = true
      · rw [if_pos hbalance]
        exact .inl rfl
      rw [if_neg hbalance]
      by_cases hin : r ∈ st.deployed
      · rw [if_pos hin]
        exact .inr (.inl ⟨.inl hin, rfl⟩)
      rw [if_neg hin]
      cases exists? net r with
      | none => exact .inl rfl
      | some found =>
          cases found with
          | true => exact .inr (.inl ⟨.inr rfl, rfl⟩)
          | false =>
              cases hroute : info.route with
              | none => exact .inl rfl
              | some route => exact .inr (.inr ⟨⟨hin, rfl⟩, info, route, rfl, hroute, rfl⟩)

theorem not_takenForDeployed {r : Felt} (h : r ∉ st.deployed ∧ exists? net r = some false) :
    ¬ TakenForDeployed net st r := by
  rintro (hin | hfound)
  · exact h.1 hin
  · rw [h.2] at hfound
    cases hfound

/-- One receiver of the loop adds its own calls: whoever joined the set on the way was found. -/
theorem addStarknetReceiver_calls (batch : StarknetBatch) (x : Felt)
    (hbatch : ∀ r, r ∈ batch.deployed → r ∈ st.deployed ∨ exists? net r = some true)
    (hold : ∀ r ∈ st.deployed, r ∈ batch.deployed) :
    (addStarknetReceiver w net st.merchant_map register_selector sweep_selector batch x).calls
      = batch.calls ++ starknetOwnCalls w net st register_selector sweep_selector x := by
  unfold addStarknetReceiver starknetOwnCalls
  cases st.merchant_map.lookup x with
  | none => exact (List.append_nil _).symm
  | some info =>
      dsimp only
      by_cases hbalance : (!hasBalance net x) = true
      · rw [if_pos hbalance, if_pos hbalance, List.append_nil]
      rw [if_neg hbalance, if_neg hbalance]
      by_cases hin : x ∈ batch.deployed
      · rw [if_pos hin]
        rcases hbatch x hin with hdeployed | hfound
        · rw [if_pos hdeployed]
          rfl
        · rw [hfound]
          split <;> rfl
      · rw [if_neg hin, if_neg fun hdeployed => hin (hold x hdeployed)]
        cases exists? net x with
        | none => exact (List.append_nil _).symm
        | some found =>
            cases found with
            | true => rfl
            | false =>
                cases info.route with
                | none => exact (List.append_nil _).symm
                | some route => exact List.append_assoc _ _ _

theorem foldl_addStarknetReceiver_calls (receivers : List Felt) (batch : StarknetBatch)
    (hbatch : ∀ r, r ∈ batch.deployed → r ∈ st.deployed ∨ exists? net r = some true)
    (hold : ∀ r ∈ st.deployed, r ∈ batch.deployed) :
    (receivers.foldl (addStarknetReceiver w net st.merchant_map register_selector sweep_selector)
        batch).calls
      = batch.calls ++ receivers.flatMap
          (starknetOwnCalls w net st register_selector sweep_selector) := by
  induction receivers generalizing batch with
  | nil => exact (List.append_nil _).symm
  | cons x receivers ih =>
      obtain ⟨hbatch', hold', -⟩ := addStarknetReceiver_spec (w := w) net st register_selector
        sweep_selector batch x hbatch hold
      rw [List.foldl_cons, ih _ hbatch' hold', addStarknetReceiver_calls batch x hbatch hold,
        List.flatMap_cons, List.append_assoc]

/-- What a pass sends is what it calls for each receiver, one after the other. -/
theorem sent_eq_flatMap (hregister : w.selector "register_merchant".toList = some register_selector)
    (hsweep : w.selector "sweep".toList = some sweep_selector) (deposits : List Keeper.Deposit) :
    (actOnStarknetDeposits w net st deposits).sent
      = (uniqueFelts w deposits).flatMap
          (starknetOwnCalls w net st register_selector sweep_selector) := by
  have hcalls := @foldl_addStarknetReceiver_calls w net st register_selector sweep_selector
    (uniqueFelts w deposits) ⟨st.deployed, [], []⟩ (fun r hr => .inl hr) fun r hr => hr
  rw [List.nil_append] at hcalls
  unfold actOnStarknetDeposits
  by_cases hempty : deposits.isEmpty = true
  · rw [if_pos hempty, List.isEmpty_iff.mp hempty]
    rfl
  · rw [if_neg hempty, hregister, hsweep]
    dsimp only
    rw [hcalls]
    split
    case isTrue hnone => exact (List.isEmpty_iff.mp hnone).symm
    case isFalse => split <;> rfl

/-- Where the transaction carries the pair of a receiver, the pair is what the pass calls for it. -/
theorem own_of_infix {r merchant : Felt} {route : StarknetRoute} {receivers : List Felt}
    (h : [starknetRegisterCall w register_selector merchant route,
      starknetSweepCall sweep_selector r]
        <:+: receivers.flatMap (starknetOwnCalls w net st register_selector sweep_selector)) :
    ¬ TakenForDeployed net st r := by
  induction receivers with
  | nil => cases List.infix_nil.mp h
  | cons x receivers ih =>
      rw [List.flatMap_cons] at h
      rcases starknetOwnCalls_cases w net st register_selector sweep_selector x with
        hown | ⟨-, hown⟩ | ⟨hmissing, info, route', -, -, hown⟩
      · rw [hown] at h
        exact ih h
      · rw [hown] at h
        rcases List.infix_cons_iff.mp h with hfront | h
        · have hhead := (List.cons_prefix_cons.mp hfront).1
          exact absurd hhead (starknetRegisterCall_ne _ _ _)
        · exact ih h
      · rw [hown] at h
        rcases List.infix_cons_iff.mp h with hfront | h
        · obtain ⟨-, hfront⟩ := List.cons_prefix_cons.mp hfront
          obtain rfl := starknetSweepCall_inj (List.cons_prefix_cons.mp hfront).1
          exact not_takenForDeployed hmissing
        · rcases List.infix_cons_iff.mp h with hfront | h
          · have hhead := (List.cons_prefix_cons.mp hfront).1
            exact absurd hhead (starknetRegisterCall_ne _ _ _)
          · exact ih h

/-- The pair goes with the receivers that are swept and not taken for deployed. -/
theorem registersBeforeSweep_iff
    (hregister : w.selector "register_merchant".toList = some register_selector)
    (hsweep : w.selector "sweep".toList = some sweep_selector) {deposits : List Keeper.Deposit}
    {r : Felt} (hswept : starknetSweepCall sweep_selector r
      ∈ (actOnStarknetDeposits w net st deposits).sent) :
    RegistersBeforeSweep w st register_selector sweep_selector r
        (actOnStarknetDeposits w net st deposits).sent ↔ ¬ TakenForDeployed net st r := by
  rw [sent_eq_flatMap hregister hsweep] at hswept ⊢
  constructor
  · rintro ⟨info, route, -, -, h⟩
    exact own_of_infix h
  · intro htaken
    obtain ⟨x, hx, hmem⟩ := List.mem_flatMap.mp hswept
    rcases starknetOwnCalls_cases w net st register_selector sweep_selector x with
      hown | ⟨htaken', hown⟩ | ⟨-, info, route, hinfo, hroute, hown⟩
    · rw [hown] at hmem
      cases hmem
    · rw [hown] at hmem
      obtain rfl := starknetSweepCall_inj (List.mem_singleton.mp hmem)
      exact absurd htaken' htaken
    · have hpair := hmem
      rw [hown, List.mem_cons, List.mem_singleton] at hpair
      rcases hpair with heq | heq
      · exact absurd heq.symm (starknetRegisterCall_ne _ _ _)
      · obtain rfl := starknetSweepCall_inj heq
        refine ⟨info, route, hinfo, hroute, ?_⟩
        rw [← hown]
        obtain ⟨before, after, hsplit⟩ := List.append_of_mem hx
        rw [hsplit, List.flatMap_append, List.flatMap_cons]
        exact ⟨_, _, List.append_assoc _ _ _⟩

/-- **One step of the transfer worker.** -/
theorem registersMissing_iff (t : Transition StarknetWorld StarknetAct) :
    RegistersMissing w t ↔ TakenRightly w t := by
  unfold RegistersMissing TakenRightly
  cases t.act with
  | learn found => exact Iff.rfl
  | act net deposits succeeds =>
      refine forall_congr' fun register => forall_congr' fun sweep => ?_
      refine forall_congr' fun hregister => forall_congr' fun hsweep => ?_
      refine forall_congr' fun r => forall_congr' fun hswept => ?_
      dsimp only
      rw [registersBeforeSweep_iff hregister hsweep hswept]
      exact not_iff_not

/-- Whoever is swept is in the set, or the node has answered. -/
theorem swept_answered (hregister : w.selector "register_merchant".toList = some register_selector)
    (hsweep : w.selector "sweep".toList = some sweep_selector) {deposits : List Keeper.Deposit}
    {r : Felt} (hswept : starknetSweepCall sweep_selector r
      ∈ (actOnStarknetDeposits w net st deposits).sent) :
    r ∈ st.deployed ∨ exists? net r ≠ none := by
  rw [sent_eq_flatMap hregister hsweep] at hswept
  obtain ⟨x, -, hmem⟩ := List.mem_flatMap.mp hswept
  rcases starknetOwnCalls_cases w net st register_selector sweep_selector x with
    hown | ⟨htaken, hown⟩ | ⟨⟨-, hmissing⟩, info, route, -, -, hown⟩
  · rw [hown] at hmem
    cases hmem
  · rw [hown] at hmem
    obtain rfl := starknetSweepCall_inj (List.mem_singleton.mp hmem)
    refine htaken.imp_right fun hfound => ?_
    rw [hfound]
    exact Option.some_ne_none _
  · rw [hown, List.mem_cons, List.mem_singleton] at hmem
    rcases hmem with heq | heq
    · exact absurd heq.symm (starknetRegisterCall_ne _ _ _)
    · obtain rfl := starknetSweepCall_inj heq
      rw [hmissing]
      exact .inr (Option.some_ne_none _)

theorem takenRightly_of {t : Transition StarknetWorld StarknetAct}
    (hsound : StarknetDeployedSound w t.pre) (hquery : QueryCurrent t) : TakenRightly w t := by
  unfold QueryCurrent at hquery
  unfold TakenRightly
  cases hact : t.act with
  | learn found => trivial
  | act net deposits succeeds =>
      rw [hact] at hquery
      intro register sweep hregister hsweep r hswept
      constructor
      · rintro (hin | hfound)
        · exact hsound.deployed r hin
        · rcases hquery r with h | h
          · rw [h] at hfound
            exact of_decide_eq_true (Option.some.inj hfound)
          · rw [h] at hfound
            cases hfound
      · intro hcode
        rcases swept_answered hregister hsweep hswept with hin | hanswered
        · exact .inl hin
        · rcases hquery r with h | h
          · exact .inr (h.trans (congrArg some (decide_eq_true hcode)))
          · exact absurd h hanswered

end

/-! ## The three workers -/

/-- **The registration goes with receivers that have no contract.**  A multicall of the EVM payment
worker carries it for them alone iff the query was answered rightly, or failed on one of them; what
the Starknet payment worker submits, iff the receiver is one of them; what the transfer worker
sends, iff the set and the node's class hash at L1Accepted tell of whoever is swept.  They do while
accepted transactions succeed and the node is not behind. -/
theorem registers_missing_iff {st : AppState} {payload : IncomingPaymentRequest}
    {task : PaymentTask} (h : receivePayment st payload = .ok task) (w : Worker)
    (hapart : RegisterToldApart w) (code : Address → Prop) (code' : Felt → Prop)
    (wt : StarknetTransfer) {s s' : StarknetWorld} {ts : List (Transition StarknetWorld StarknetAct)}
    (hrun : Steps (StarknetActStep wt) s ts s') (hempty : s.state.deployed = ∅) :
    (∀ multicall calls priority fee,
        .aggregate3 multicall calls priority fee ∈ (processTask w task).log →
      ∃ a cfg, w.ethers.address_from_str task.receiver_address = some a ∧
        w.evm_targets task.source_chain = some cfg ∧
          ((CarriesRegister w task a cfg calls ↔ ¬ code a) ↔
            CodeAnswered (w.net.get_code a) (code a))) ∧
      (∀ calls, payload.chain = .starknet → .executeV3 calls ∈ (processTask w task).log →
        ∃ receiver, w.starknet.from_hex task.receiver_address = some receiver ∧
          ((CarriesRegisterStarknet w receiver calls ↔ ¬ code' receiver) ↔ ¬ code' receiver)) ∧
      ((∀ t ∈ ts, RegistersMissing wt t) ↔ ∀ t ∈ ts, TakenRightly wt t) ∧
        ((∀ t ∈ ts, AcceptedMeansDeployed wt t) → (∀ t ∈ ts, QueryCurrent t) →
          ∀ t ∈ ts, RegistersMissing wt t) := by
  have hcreate : task.create_if_missing = true := by
    obtain ⟨_, _, _, -, -, -, rfl⟩ := receivePayment_ok h
    rfl
  refine ⟨?_, ?_, forall₂_congr fun t _ => registersMissing_iff t, ?_⟩
  · intro multicall calls priority fee hmem
    obtain ⟨a, cfg, args, hbatch⟩ := batch_of_mem_processTask hmem
    refine ⟨a, cfg, hbatch.address, hbatch.target, ?_⟩
    rw [hbatch.carries_iff hapart]
    exact missing_iff_answered hcreate a (code a)
  · intro calls hchain hmem
    obtain ⟨hfresh, hsource⟩ := receivePayment_fresh h
    have harm : runArm w { task with attempts := 1 }
        = processStarknet w { task with attempts := 1 } :=
      runArm_starknet (hsource.trans hchain)
    rw [processTask_fresh hfresh, harm] at hmem
    obtain ⟨receiver, hreceiver, hcarries⟩ := carries_of_submitted hcreate hmem
    exact ⟨receiver, hreceiver, iff_true_left hcarries⟩
  · intro haccepted hquery t ht
    have hsound := starknetDeployedSound_of (w := wt) (s := s) (by
      intro r hr
      rw [hempty] at hr
      cases hr)
    have hpre := hrun.invariant_pre (I := StarknetDeployedSound wt)
      (fun _ _ _ hs hP hI => (starknet_step_sound_iff hs hI).mpr hP) haccepted hsound t ht
    exact (registersMissing_iff t).mpr (takenRightly_of hpre (hquery t ht))

namespace RegisterSample

/-- The encoder, told by one byte. -/
def calldata : EvmCall → Option Bytes
  | .registerMerchant .. => some [1]
  | .setWebhookUrl .. => some [2]
  | .transferWithAuthorization .. => some [3]
  | .sweep => some [4]

def worker : Worker := { Sample.worker with calldata := calldata }

def task : PaymentTask := Sample.task Sample.small "0x777".toList "7".toList

/-- What is submitted of a payment to receiver 0x777. -/
def words : List Felt :=
  [5, 1, 100, 1000, 1, USDC, 0x83afd3f4caedc6eebf44246fe54e38c95e3179a5ec9ea81740eca5b482d12e,
    3, 0x777, 7, 0, 2, 1, 2]

def calls : List Starknet.Call :=
  [⟨0xfac, 0x35b0e2588d2ac0dcf8d3dc4544798a2d2ffe02a2e742254653c1832d536cbbc, [0x55, 0, 0, 0]⟩,
   ⟨0xabc, 0x34cc13b274446654ca3233ed2c1620d4c5d1d32fd20b47146a3371064bdc57d, words⟩,
   ⟨0x777, 0x265e923bc1fe6376bb4fc429ecb814739c4ce7af67fdb6d4e8f0a6e2fa14c30, []⟩]

theorem accepted :
    receivePayment (Sample.state 5 Sample.small) (Sample.request "0x777".toList "7".toList)
      = .ok task := by decide +kernel

set_option maxRecDepth 20000 in
theorem submitted : Effect.executeV3 calls ∈ (processTask worker task).log := by
  have hlog : (processTask worker task).log = [.executeV3 calls] := by rfl
  rw [hlog]
  exact List.mem_singleton_self _

theorem told_apart : RegisterToldApart worker := by
  intro m c r call bytes h h'
  obtain rfl := Option.some.inj h
  cases call with
  | registerMerchant m' c' r' => exact ⟨m', c', r', rfl⟩
  | setWebhookUrl => cases h'
  | transferWithAuthorization => cases h'
  | sweep => cases h'

end RegisterSample

open RegisterSample DeployedSample in
/-- A payment to a receiver without a contract carries the registration. -/
theorem registers_missing_announced :
    ∃ receiver, RegisterSample.worker.starknet.from_hex task.receiver_address = some receiver ∧
      (CarriesRegisterStarknet RegisterSample.worker receiver calls ↔ ¬ False) := by
  obtain ⟨-, hstarknet, -, -⟩ := registers_missing_iff accepted RegisterSample.worker told_apart
    (fun _ => False) (fun _ => False) starknetWorker starknet_run rfl
  obtain ⟨receiver, hreceiver, hiff⟩ := hstarknet calls rfl submitted
  exact ⟨receiver, hreceiver, hiff.mpr not_false⟩

open RegisterSample in
/-- A payment to a receiver that has a contract carries it too. -/
theorem registers_twice :
    ¬ ∀ (st : AppState) (payload : IncomingPaymentRequest) (task : PaymentTask) (w : Worker)
        (code : Felt → Prop) (calls : List Starknet.Call) (receiver : Felt),
      receivePayment st payload = .ok task → .executeV3 calls ∈ (processTask w task).log →
        w.starknet.from_hex task.receiver_address = some receiver →
          (CarriesRegisterStarknet w receiver calls ↔ ¬ code receiver) := by
  intro h
  have hreceiver : RegisterSample.worker.starknet.from_hex task.receiver_address
      = some 0x777 := by decide +kernel
  have hselector : RegisterSample.worker.starknet.get_selector_from_name
      "register_merchant".toList
      = some 0x35b0e2588d2ac0dcf8d3dc4544798a2d2ffe02a2e742254653c1832d536cbbc := by
    decide +kernel
  refine (h _ _ _ RegisterSample.worker (fun _ => True) calls 0x777 accepted submitted
    hreceiver).mp ?_ trivial
  exact ⟨⟨0x55, some ⟨0, 0, 0⟩⟩, ⟨0, 0, 0⟩, _, rfl, rfl, hselector, List.mem_cons_self⟩

end Beanie.Api
