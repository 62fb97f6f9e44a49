/-
# `Beanie.Api.PaymentBinding` — what the worker submits of what the route compared

The route compares texts, decimal ones among them, and the worker reads every
text as hexadecimal.  What it submits is therefore the payment the route
checked exactly when keeper and amount are one decimal digit long and the call
has no further words (`outside_execution_binds_iff`).
-/
import Beanie.Api.PaymentSurvival

namespace Beanie.Api

open Beanie.Starknet (Felt)
open Journal

/-! ## What is submitted -/

/-- USDC's address. -/
def USDC : Felt :=
  Fin.ofNat Starknet.P 0x033068f6539f8e6e6b131e6b2b814e6c34a5224bc66947c47dab9dfee93b35fb

theorem hexOf_usdc : HexOf STARKNET_USDC USDC.val :=
  ⟨"033068f6539f8e6e6b131e6b2b814e6c34a5224bc66947c47dab9dfee93b35fb".toList, .inr rfl,
    by decide, by decide⟩

section
variable {w : Worker} {st : AppState} {payload : IncomingPaymentRequest} {task : PaymentTask}
  {auth : StarknetAuth} {call : CallDto} {amount : Nat} {calls : List Starknet.Call}

/-- The calldata of the outside execution: it is the call before the sweep. -/
def outsideCalldata (calls : List Starknet.Call) : Option (List Felt) :=
  calls.reverse[1]?.map (·.calldata)

/-- The words are an outside execution by the keeper whose one call transfers the requested amount
of USDC to the requested receiver. -/
def BindsWords (sn : StarknetCrate) (keeper : Felt) (payload : IncomingPaymentRequest)
    (words : List Felt) : Prop :=
  ∃ oe signature receiver amount transfer,
    Starknet.OutsideExecution.read words = some ((oe, signature), []) ∧ oe.caller = keeper ∧
    sn.from_hex payload.receiver_address = some receiver ∧
    parseUnsigned 128 payload.amount_raw = some amount ∧
    sn.get_selector_from_name "transfer".toList = some transfer ∧
    oe.calls = [⟨USDC, transfer, [receiver, Fin.ofNat Starknet.P amount, 0]⟩]

def Binds (sn : StarknetCrate) (keeper : Felt) (payload : IncomingPaymentRequest)
    (calls : List Starknet.Call) : Prop :=
  ∃ words, outsideCalldata calls = some words ∧ BindsWords sn keeper payload words

/-- The keeper's address and the amount have one decimal digit, and the call has three words. -/
structure Small (keeper : Felt) (payload : IncomingPaymentRequest) (auth : StarknetAuth) :
    Prop where
  keeper : keeper.val < 10
  amount : ∀ amount, parseUnsigned 128 payload.amount_raw = some amount → amount < 10
  words : ∀ c ∈ auth.outside_execution.calls.val, c.calldata.val.length = 3

theorem not_mem_setWebhookOnBase (merchant : Option Address) :
    Effect.executeV3 calls ∉ (setWebhookOnBase w task merchant).log := by
  unfold setWebhookOnBase
  split <;> simp

theorem not_mem_registerStarknet (receiver : Felt) :
    Effect.executeV3 calls ∉ (registerStarknet w task receiver).log := by
  unfold registerStarknet
  split <;> simp [mem_log_bind, not_mem_setWebhookOnBase]

theorem log_serialiseCalls (cs : List CallDto) : (serialiseCalls w cs).log = [] := by
  have hcall : ∀ c, (serialiseCall w c).log = [] := fun c =>
    log_bind_eq_nil (by simp) fun _ => log_bind_eq_nil (by simp) fun _ =>
      log_bind_eq_nil (by simp) fun _ => rfl
  induction cs with
  | nil => rfl
  | cons c cs ih => exact log_bind_eq_nil (hcall c) fun _ => log_bind_eq_nil ih fun _ => rfl

theorem log_serialiseExecution (auth : StarknetAuth) : (serialiseExecution w auth).log = [] :=
  log_bind_eq_nil (by simp) fun _ => log_bind_eq_nil (by simp) fun _ =>
    log_bind_eq_nil (log_serialiseCalls _) fun _ => log_bind_eq_nil (by simp) fun _ => rfl

theorem mem_submitStarknet {receiver : Felt} {submitted : List Starknet.Call} :
    Effect.executeV3 calls ∈ (submitStarknet w task receiver submitted).log ↔
      calls = submitted := by
  have hnotify : ∀ (chain to_ tx_hash : Text) (n : BitVec 64) (sweep_tx : Option Text),
      Effect.executeV3 calls ∉ (notify task chain to_ tx_hash n sweep_tx).log := by
    intro chain to_ tx_hash n sweep_tx
    unfold notify
    split <;> simp
  unfold submitStarknet
  rw [mem_log_bind]
  constructor
  · rintro (h | ⟨_, -, h⟩)
    · simpa using h
    · split at h
      · exact absurd h (hnotify _ _ _ _ _)
      · simp at h
  · rintro rfl
    exact .inl (by simp)

/-- What the Starknet arm submits of an authorisation. -/
theorem mem_processStarknet_auth (hauth : task.starknet_auth = some auth) :
    Effect.executeV3 calls ∈ (processStarknet w task).log ↔
      ∃ receiver, w.starknet.from_hex task.receiver_address = some receiver ∧
      ∃ register, (registerStarknet w task receiver).result = .ok register ∧
      ∃ user, w.starknet.from_hex auth.user_address = some user ∧
      ∃ execute, w.starknet.get_selector_from_name "execute_from_outside_v2".toList = some execute ∧
      ∃ words, (serialiseExecution w auth).result = .ok words ∧
      ∃ sweep, w.starknet.get_selector_from_name "sweep".toList = some sweep ∧
        calls = register ++ [⟨user, execute, words⟩, ⟨receiver, sweep, []⟩] := by
  rw [processStarknet]
  split
  case h_1 hnone => simp [hnone]
  case h_2 receiver hreceiver =>
    simp only [mem_log_bind, not_mem_registerStarknet, log_orSkip, log_serialiseExecution,
      mem_submitStarknet, result_orSkip, hauth, List.not_mem_nil, false_or,
      Option.some.injEq, exists_eq_left', hreceiver]

theorem mem_processStarknet (h : StarknetAccepted st payload task auth call amount) :
    Effect.executeV3 calls ∈ (processStarknet w task).log ↔
      ∃ receiver, w.starknet.from_hex payload.receiver_address = some receiver ∧
      ∃ register, (registerStarknet w task receiver).result = .ok register ∧
      ∃ user, w.starknet.from_hex auth.user_address = some user ∧
      ∃ execute, w.starknet.get_selector_from_name "execute_from_outside_v2".toList = some execute ∧
      ∃ words, (serialiseExecution w auth).result = .ok words ∧
      ∃ sweep, w.starknet.get_selector_from_name "sweep".toList = some sweep ∧
        calls = register ++ [⟨user, execute, words⟩, ⟨receiver, sweep, []⟩] := by
  rw [← h.receiver]
  exact mem_processStarknet_auth h.authorized

/-- It submits something exactly when it gets to texts that all parse. -/
theorem submits_iff (hdoc : w.starknet.Documented)
    (h : StarknetAccepted st payload task auth call amount) :
    (∃ calls, Effect.executeV3 calls ∈ (processStarknet w task).log) ↔
      ReachesSerialisation w payload.receiver_address auth.user_address ∧
        AllParse w.starknet auth.unwrapped := by
  obtain ⟨execute, hexecute⟩ :=
    hdoc.selector_ok (s := "execute_from_outside_v2".toList) (by decide)
  obtain ⟨sweep, hsweep⟩ := hdoc.selector_ok (s := "sweep".toList) (by decide)
  simp only [mem_processStarknet h, ← exists_serialised (h.entry hdoc)]
  constructor
  · rintro ⟨_, receiver, hreceiver, register, hregister, user, huser, _, -, words, hwords, -⟩
    obtain ⟨info, hinfo, hroute⟩ :=
      (registerStarknet_ok receiver hdoc h.create).mp ⟨register, hregister⟩
    obtain ⟨oe, signature, hserialised, -⟩ := serialiseExecution_ok.mp hwords
    exact ⟨⟨⟨receiver, info, hreceiver, hinfo, hroute⟩, by simp [huser]⟩, oe, signature,
      hserialised⟩
  · rintro ⟨⟨⟨receiver, info, hreceiver, hinfo, hroute⟩, huser⟩, oe, signature, hserialised⟩
    obtain ⟨register, hregister⟩ :=
      (registerStarknet_ok receiver hdoc h.create).mpr ⟨info, hinfo, hroute⟩
    obtain ⟨user, huser⟩ := Option.isSome_iff_exists.mp huser
    exact ⟨_, receiver, hreceiver, register, hregister, user, huser, execute, hexecute, _,
      serialiseExecution_ok.mpr ⟨oe, signature, hserialised, rfl⟩, sweep, hsweep, rfl⟩

/-- The outside execution that is submitted is the serialised authorisation. -/
theorem outsideCalldata_of_mem (h : StarknetAccepted st payload task auth call amount)
    (hmem : Effect.executeV3 calls ∈ (processStarknet w task).log) :
    ∃ oe signature receiver, Serialised w.starknet auth oe signature ∧
      w.starknet.from_hex payload.receiver_address = some receiver ∧
      outsideCalldata calls = some (oe.encode signature) := by
  obtain ⟨receiver, hreceiver, register, -, user, -, execute, -, words, hwords, sweep, -, rfl⟩ :=
    (mem_processStarknet h).mp hmem
  obtain ⟨oe, signature, hserialised, rfl⟩ := serialiseExecution_ok.mp hwords
  exact ⟨oe, signature, receiver, hserialised, hreceiver, by simp [outsideCalldata]⟩

/-! ## Two radices -/

/-- A text that agrees with a decimal text up to case is read as that text's hexadecimal value. -/
theorem val_of_decimal (hdoc : w.starknet.Documented) {s : Text} {v : Felt} {n : Nat}
    (hread : w.starknet.from_hex s = some v)
    (h : eqIgnoreAsciiCase s (Nat.toDigits 10 n) = true) :
    v.val = hexValue (Nat.toDigits 10 n) :=
  (hdoc.from_hex s v hread).unique (HexOf.plain (isHex_toDigits n)) h

/-- Two texts that agree up to case are read as the same element. -/
theorem felt_unique (hdoc : w.starknet.Documented) {s t : Text} {v u : Felt}
    (hs : w.starknet.from_hex s = some v) (ht : w.starknet.from_hex t = some u)
    (h : eqIgnoreAsciiCase s t = true) : v = u :=
  Fin.ext ((hdoc.from_hex s v hs).unique (hdoc.from_hex t u ht) h)

/-- The one call that is submitted: its target, selector and recipient are the ones compared, its
amount is the decimal text read as hexadecimal, and its further words are the request's. -/
theorem serialised_call (hdoc : w.starknet.Documented)
    (h : TransferCall call payload.receiver_address amount) {receiver : Felt}
    (hreceiver : w.starknet.from_hex payload.receiver_address = some receiver)
    {submitted : Starknet.Call} (hcall : SerialisedCall w.starknet call submitted) :
    ∃ transfer low rest, w.starknet.get_selector_from_name "transfer".toList = some transfer ∧
      low.val = hexValue (Nat.toDigits 10 amount) ∧
      submitted = ⟨USDC, transfer, receiver :: low :: 0 :: rest⟩ ∧
      call.calldata.val.length = rest.length + 3 := by
  obtain ⟨recipient, more, hdata, hrecipient⟩ := h.calldata
  have htarget : submitted.target = USDC :=
    Fin.ext ((hdoc.from_hex _ _ hcall.target).unique hexOf_usdc h.target)
  have hselector := hcall.selector
  rw [h.entrypoint] at hselector
  have hwords := hcall.calldata
  rw [hdata] at hwords
  obtain ⟨target, selector, calldata⟩ := submitted
  simp only [List.forall₂_cons_left_iff] at hwords
  obtain ⟨r, _, hr, ⟨low, _, hlow, ⟨high, rest, hhigh, hrest, rfl⟩, rfl⟩, rfl⟩ := hwords
  have hzero : high = 0 := by
    refine Fin.ext ?_
    rw [val_of_decimal (n := 0) hdoc hhigh (eqIgnoreAsciiCase_refl _)]
    rfl
  refine ⟨selector, low, rest, hselector,
    val_of_decimal hdoc hlow (eqIgnoreAsciiCase_refl _), ?_, ?_⟩
  · rw [felt_unique hdoc hr hreceiver hrecipient, hzero, ← htarget]
  · rw [hdata, ← hrest.length_eq]
    rfl

theorem amount_eq_iff {low : Felt} (hamount : amount < 2 ^ 128)
    (hlow : low.val = hexValue (Nat.toDigits 10 amount)) :
    low = Fin.ofNat Starknet.P amount ↔ amount < 10 := by
  have hP : 2 ^ 128 < Starknet.P := by decide
  have hval : (Fin.ofNat Starknet.P amount).val = amount :=
    Nat.mod_eq_of_lt (Nat.lt_trans hamount hP)
  rw [Fin.ext_iff, hval, hlow, hexValue_toDigits_eq_iff]

/-- The account reads back what the worker serialised. -/
theorem Serialised.read {oe : Starknet.OutsideExecution} {signature : List Felt}
    (h : Serialised w.starknet auth oe signature) :
    Starknet.OutsideExecution.read (oe.encode signature) = some ((oe, signature), []) := by
  have hcalls : oe.calls.length < 2 ^ 64 := by
    rw [← h.calls.length_eq]
    exact auth.outside_execution.calls.property
  have hdata : ∀ c ∈ oe.calls, c.calldata.length < 2 ^ 64 := by
    intro c hc
    obtain ⟨dto, -, hdto⟩ := exists_of_forall₂_mem h.calls hc
    rw [hdto.length]
    exact dto.calldata.property
  have hsignature : signature.length < 2 ^ 64 := by
    rw [← h.signature.length_eq]
    exact auth.signature.property
  have hread := Starknet.OutsideExecution.reads hcalls hdata hsignature []
  rwa [List.append_nil] at hread

/-- Of a serialised authorisation, the words bind the request exactly when it is small. -/
theorem bindsWords_iff (hdoc : w.starknet.Documented) (hsame : w.starknet = st.starknet)
    (h : StarknetAccepted st payload task auth call amount) {oe : Starknet.OutsideExecution}
    {signature : List Felt} {receiver : Felt} (hs : Serialised w.starknet auth oe signature)
    (hreceiver : w.starknet.from_hex payload.receiver_address = some receiver) :
    BindsWords w.starknet st.keeper_address payload (oe.encode signature) ↔
      Small st.keeper_address payload auth := by
  have hamount := parseUnsigned_lt h.verified.parses
  have hcaller : oe.caller.val = hexValue (Nat.toDigits 10 st.keeper_address.val) := by
    have heq := h.verified.caller
    rw [← hsame, hdoc.to_string] at heq
    exact val_of_decimal hdoc hs.caller heq
  have hcalls := hs.calls
  rw [h.verified.calls, List.forall₂_cons_left_iff] at hcalls
  obtain ⟨submitted, _, hsubmitted, hnil, hoe⟩ := hcalls
  rw [List.forall₂_nil_left_iff] at hnil
  subst hnil
  obtain ⟨transfer, low, rest, htransfer, hlow, rfl, hlength⟩ :=
    serialised_call hdoc h.verified.transfers hreceiver hsubmitted
  constructor
  · rintro ⟨oe', signature', receiver', amount', transfer', hread, hkeeper, hr, ha, ht, hbound⟩
    rw [hs.read] at hread
    obtain ⟨rfl, rfl⟩ := Prod.mk.inj (Prod.mk.inj (Option.some.inj hread)).1
    obtain rfl : amount = amount' := Option.some.inj (h.verified.parses.symm.trans ha)
    rw [hoe] at hbound
    simp only [List.cons.injEq, Starknet.Call.mk.injEq, and_true] at hbound
    obtain ⟨-, -, -, hlow', -, hrest⟩ := hbound
    refine ⟨?_, ?_, ?_⟩
    · rw [hkeeper] at hcaller
      exact (hexValue_toDigits_eq_iff _).mp hcaller.symm
    · intro n hn
      obtain rfl : amount = n := Option.some.inj (h.verified.parses.symm.trans hn)
      exact (amount_eq_iff hamount hlow).mp hlow'
    · intro c hc
      rw [h.verified.calls, List.mem_singleton] at hc
      rw [hc, hlength, hrest]
      rfl
  · rintro ⟨hkeeper, hten, hthree⟩
    have hrest : rest = [] := by
      have hlen := hthree call (by rw [h.verified.calls]; exact List.mem_singleton_self _)
      rw [hlength] at hlen
      exact List.length_eq_zero_iff.mp (by omega)
    refine ⟨oe, signature, receiver, amount, transfer, hs.read, ?_, hreceiver,
      h.verified.parses, htransfer, ?_⟩
    · refine Fin.ext ?_
      rw [hcaller]
      exact hexValue_toDigits_of_lt hkeeper
    · rw [hoe, hrest, (amount_eq_iff hamount hlow).mpr (hten amount h.verified.parses)]

end

/-- **What is submitted.**  Whatever the worker submits for an accepted Starknet payment binds the
payment the route checked, if and only if keeper and amount have one decimal digit and the call
three words, or the worker never gets to a submission. -/
theorem outside_execution_binds_iff {w : Worker} {st : AppState} {payload : IncomingPaymentRequest}
    {task : PaymentTask} (hdoc : w.starknet.Documented) (hsame : w.starknet = st.starknet)
    (h : receivePayment st payload = .ok task) (hchain : payload.chain = .starknet) :
    (∀ calls, Effect.executeV3 calls ∈ (processTask w task).log →
        Binds w.starknet st.keeper_address payload calls) ↔
      ∀ auth, task.starknet_auth = some auth →
        ReachesSerialisation w payload.receiver_address auth.user_address →
        AllParse w.starknet auth.unwrapped → Small st.keeper_address payload auth := by
  obtain ⟨auth, call, amount, hacc⟩ := receivePayment_starknet h hchain
  obtain ⟨hfresh, -⟩ := receivePayment_fresh h
  have hatt := hacc.attempt 1
  rw [processTask_fresh hfresh, runArm_starknet hatt.chain]
  constructor
  · intro hbinds auth' hauth' hreach hparse
    obtain rfl : auth = auth' := Option.some.inj (hacc.authorized.symm.trans hauth')
    obtain ⟨calls, hmem⟩ := (submits_iff hdoc hatt).mpr ⟨hreach, hparse⟩
    obtain ⟨oe, signature, receiver, hs, hreceiver, hwords⟩ := outsideCalldata_of_mem hatt hmem
    obtain ⟨words, hwords', hbound⟩ := hbinds calls hmem
    obtain rfl : oe.encode signature = words := Option.some.inj (hwords.symm.trans hwords')
    exact (bindsWords_iff hdoc hsame hacc hs hreceiver).mp hbound
  · intro hsmall calls hmem
    obtain ⟨hreach, hparse⟩ := (submits_iff hdoc hatt).mp ⟨calls, hmem⟩
    obtain ⟨oe, signature, receiver, hs, hreceiver, hwords⟩ := outsideCalldata_of_mem hatt hmem
    exact ⟨_, hwords, (bindsWords_iff hdoc hsame hacc hs hreceiver).mpr
      (hsmall auth hacc.authorized hreach hparse)⟩

/-- Keeper 5, amount 7: what is submitted is what was compared. -/
theorem outside_execution_binds_small :
    receivePayment (Sample.state 5 Sample.small) (Sample.request "0x777".toList "7".toList)
      = .ok (Sample.task Sample.small "0x777".toList "7".toList) ∧
    ∀ calls, Effect.executeV3 calls ∈ (processTask Sample.worker
        (Sample.task Sample.small "0x777".toList "7".toList)).log →
      Binds plainStarknet 5 (Sample.request "0x777".toList "7".toList) calls := by
  have haccepted : receivePayment (Sample.state 5 Sample.small)
      (Sample.request "0x777".toList "7".toList)
      = .ok (Sample.task Sample.small "0x777".toList "7".toList) := by decide +kernel
  refine ⟨haccepted, (outside_execution_binds_iff (w := Sample.worker) plainStarknet_documented rfl
    haccepted rfl).mpr ?_⟩
  intro auth hauth _ _
  obtain rfl := Option.some.inj hauth
  refine ⟨by decide, ?_, ?_⟩
  · intro amount hamount
    have hseven : parseUnsigned 128 (Sample.request "0x777".toList "7".toList).amount_raw
        = some 7 := by decide +kernel
    rw [← Option.some.inj (hseven.symm.trans hamount)]
    decide
  · intro c hc
    obtain rfl := List.mem_singleton.mp hc
    rfl

/-- The keeper is 291, written in decimal, and the amount ten. -/
def Sample.ten : OutsideExecutionDto :=
  Sample.execution "291".toList "0x1".toList "0x777".toList "10".toList

/-- What is submitted then: the keeper reads as 657 and the amount as 16. -/
def Sample.tenWords : List Felt :=
  [0x291, 1, 100, 1000, 1, USDC, 0x83afd3f4caedc6eebf44246fe54e38c95e3179a5ec9ea81740eca5b482d12e,
    3, 0x777, 0x10, 0, 2, 1, 2]

def Sample.tenCalls : List Starknet.Call :=
  [⟨0xfac, 0x35b0e2588d2ac0dcf8d3dc4544798a2d2ffe02a2e742254653c1832d536cbbc, [0x55, 0, 0, 0]⟩,
   ⟨0xabc, 0x34cc13b274446654ca3233ed2c1620d4c5d1d32fd20b47146a3371064bdc57d, Sample.tenWords⟩,
   ⟨0x777, 0x265e923bc1fe6376bb4fc429ecb814739c4ce7af67fdb6d4e8f0a6e2fa14c30, []⟩]

set_option maxRecDepth 20000 in
/-- The route accepts keeper 291 and amount 10, and the worker submits caller 657 and amount 16. -/
theorem outside_execution_two_radices :
    receivePayment (Sample.state 291 Sample.ten) (Sample.request "0x777".toList "10".toList)
      = .ok (Sample.task Sample.ten "0x777".toList "10".toList) ∧
    ∃ calls, Effect.executeV3 calls ∈ (processTask Sample.worker
        (Sample.task Sample.ten "0x777".toList "10".toList)).log ∧
      outsideCalldata calls = some Sample.tenWords ∧
      ¬ Binds plainStarknet 291 (Sample.request "0x777".toList "10".toList) calls := by
  have hlog : (processTask Sample.worker (Sample.task Sample.ten "0x777".toList "10".toList)).log
      = [.executeV3 Sample.tenCalls] := by rfl
  refine ⟨by decide +kernel, Sample.tenCalls, by rw [hlog]; exact List.mem_singleton_self _, rfl, ?_⟩
  rintro ⟨words, hwords, oe, signature, receiver, amount, transfer, hread, hkeeper, -⟩
  have hten : words = Sample.tenWords :=
    (Option.some.inj (hwords.symm.trans (rfl : _ = some Sample.tenWords)))
  have hcaller : (Starknet.OutsideExecution.read Sample.tenWords).map (·.1.1.caller)
      = some 0x291 := by decide +kernel
  rw [← hten, hread] at hcaller
  rw [Option.map_some, hkeeper] at hcaller
  exact absurd hcaller (by decide)

end Beanie.Api
