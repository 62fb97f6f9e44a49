/-
# `Beanie.Keeper.WebhookPath` — where a keeper's `setWebhookUrl` ends up

Both workers register a merchant's URL in the batch that registers the
receiver, and both send their batches through Multicall3.  The registry writes
to `msg.sender`, which is then Multicall3: the event, the indexer and the
worker's map carry the URL faithfully, and under Multicall3's key
(`webhook_reaches_merchant_iff`).
-/
import Beanie.Evm.WebhookRegistry
import Beanie.Api.PaymentBatch
import Beanie.Keeper.EvmIndexer

namespace Beanie.Keeper

open Beanie.Api
open Beanie.Evm (Registries WebhookUrlSet)

/-! ## What a keeper's batch may fail at -/

/-- The only call that may fail is `setWebhookUrl` on the registry. -/
def IsWebhookCall (registry : Address) (calldata : EvmCall → Option Bytes) (c : Call3) : Prop :=
  c.allow_failure = true → c.target = registry ∧
    ∃ merchant url, calldata (.setWebhookUrl merchant url) = some c.call_data

theorem isWebhookCall_strict {registry : Address} {calldata : EvmCall → Option Bytes} {c : Call3}
    (h : c.allow_failure = false) : IsWebhookCall registry calldata c := by
  intro htrue
  rw [h] at htrue
  cases htrue

/-- A batch of one of the two workers, sent through `multicall`. -/
inductive KeeperBatch (registry : Address) (calldata : EvmCall → Option Bytes)
    (multicall : Address) : List Call3 → Prop
  | transfer {w : EvmTransfer} (net : EvmAnswers) (st : EvmState) (candidates : List Address)
      (hregistry : w.cfg.webhook_registry_address = registry) (hcalldata : w.calldata = calldata)
      (hmulticall : w.parse_address MULTICALL3_ADDRESS = some multicall) :
      KeeperBatch registry calldata multicall (sweepEvmReceivers w net st candidates).sent
  | payment {w : Worker} {task : PaymentTask} {calls : List Call3} {priority fee : Nat}
      (hregistry : ∀ base, w.evm_targets .base = some base →
        base.webhook_registry_address = registry)
      (hcalldata : w.calldata = calldata)
      (hsent : .aggregate3 multicall calls priority fee ∈ (processTask w task).log) :
      KeeperBatch registry calldata multicall calls

/-- All calls of a list are such. -/
def WebhookMayFail (w : EvmTransfer) (calls : List Call3) : Prop :=
  ∀ c ∈ calls, IsWebhookCall w.cfg.webhook_registry_address w.calldata c

section
variable {w : EvmTransfer} {net : EvmAnswers} {st : EvmState}

theorem WebhookMayFail.append {cs ds : List Call3} (hc : WebhookMayFail w cs)
    (hd : WebhookMayFail w ds) : WebhookMayFail w (cs ++ ds) := by
  intro c hmem
  rcases List.mem_append.mp hmem with hmem | hmem
  · exact hc c hmem
  · exact hd c hmem

theorem webhookMayFail_strict {c : Call3} (h : c.allow_failure = false) : WebhookMayFail w [c] := by
  intro c' hmem
  rw [List.mem_singleton.mp hmem]
  exact isWebhookCall_strict h

theorem webhookMayFail_addSweep {batch : Batch} (a : Address)
    (h : WebhookMayFail w batch.calls) : WebhookMayFail w (addSweep w a batch).calls := by
  unfold addSweep
  cases w.calldata .sweep with
  | none => exact h
  | some bytes => exact h.append (webhookMayFail_strict rfl)

theorem webhookMayFail_addWebhook {batch : Batch} (merchant : Address)
    (h : WebhookMayFail w batch.calls) :
    WebhookMayFail w (addWebhook w st merchant batch).calls := by
  unfold addWebhook
  cases st.webhook_map (w.show_address merchant) with
  | none => exact h
  | some url =>
      dsimp only
      by_cases hmem : merchant ∈ batch.updated_webhooks
      · rw [if_pos hmem]
        exact h
      · rw [if_neg hmem]
        cases hbytes : w.calldata (.setWebhookUrl merchant url) with
        | none => exact h
        | some bytes =>
            refine h.append ?_
            intro c hc _
            obtain rfl := List.mem_singleton.mp hc
            exact ⟨rfl, merchant, url, hbytes⟩

theorem webhookMayFail_addReceiver {batch : Batch} (a : Address)
    (h : WebhookMayFail w batch.calls) : WebhookMayFail w (addReceiver w net st batch a).calls := by
  unfold addReceiver
  by_cases hind : indeterminate net st a = true
  · rw [if_pos hind]
    exact h
  rw [if_neg hind]
  cases st.merchant_map.lookup a with
  | none => exact h
  | some info =>
      dsimp only
      by_cases hdeployed : a ∈ st.deployed
      · rw [if_pos hdeployed]
        exact webhookMayFail_addSweep a h
      rw [if_neg hdeployed]
      cases info.route with
      | none => exact h
      | some route =>
          dsimp only
          cases w.calldata (.registerMerchant info.merchant route.chain route.recipient) with
          | none => exact h
          | some bytes =>
              refine webhookMayFail_addSweep a ?_
              exact (webhookMayFail_addWebhook info.merchant h).append (webhookMayFail_strict rfl)

theorem webhookMayFail_sent (candidates : List Address) :
    WebhookMayFail w (sweepEvmReceivers w net st candidates).sent := by
  unfold sweepEvmReceivers
  dsimp only
  by_cases hempty : (filterNonzero net (uniqueAddresses candidates)).isEmpty = true
  · rw [if_pos hempty]
    intro c hc
    cases hc
  · rw [if_neg hempty]
    unfold buildBatch
    refine List.foldlRecOn _ _ (motive := fun batch : Batch => WebhookMayFail w batch.calls) ?_ ?_
    · intro c hc
      cases hc
    · intro batch hbatch a _
      exact webhookMayFail_addReceiver a hbatch

end

/-- What a keeper's batch may fail at, whichever worker sent it. -/
theorem KeeperBatch.webhookCalls {registry : Address} {calldata : EvmCall → Option Bytes}
    {multicall : Address} {calls : List Call3} (h : KeeperBatch registry calldata multicall calls) :
    ∀ c ∈ calls, IsWebhookCall registry calldata c := by
  cases h with
  | transfer net st candidates hregistry hcalldata _ =>
      rw [← hregistry, ← hcalldata]
      exact webhookMayFail_sent candidates
  | @payment w task calls priority fee hregistry hcalldata hsent =>
      obtain ⟨a, cfg, args, hbatch⟩ := batch_of_mem_processTask hsent
      obtain ⟨register, transfer, sweep, hregister, -, -, hcalls⟩ := hbatch.calls
      subst hcalls
      intro c hc
      rcases List.mem_append.mp hc with hc | hc
      · rcases List.mem_append.mp hc with hc | hc
        · rcases registerCalls_result.mp hregister with ⟨-, rfl⟩ | ⟨-, _, _, _, -, -, -, rfl⟩
          · cases hc
          · obtain rfl := List.mem_singleton.mp hc
            exact isWebhookCall_strict rfl
        · unfold Api.webhookCalls at hc
          split at hc
          case h_1 url base _ _ hbase =>
            dsimp only at hc
            split at hc
            case h_1 bytes hbytes =>
              obtain rfl := List.mem_singleton.mp hc
              rw [← hcalldata]
              exact fun _ => ⟨hregistry base hbase, _, url, hbytes⟩
            case h_2 => cases hc
          case h_2 => cases hc
      · rcases List.mem_cons.mp hc with rfl | hc
        · exact isWebhookCall_strict rfl
        · obtain rfl := List.mem_singleton.mp hc
          exact isWebhookCall_strict rfl

/-! ## The chain -/

/-- A call on the chain: by whom, to where, with what data; `none` where it reverts. -/
structure EvmChain where
  call : Registries → (sender target : Address) → Bytes → Option Registries

/-- The registry is at its address, its calls are decoded as they were encoded, and nothing removes
an event. -/
structure EvmChain.Documented (chain : EvmChain) (registry : Address)
    (calldata : EvmCall → Option Bytes) : Prop where
  set : ∀ s sender merchant url bytes, calldata (.setWebhookUrl merchant url) = some bytes →
    chain.call s sender registry bytes
      = (s.webhooks.setWebhookUrl s.deployment.factory sender merchant (utf8 url)).toOption.map
        fun r => { s with webhooks := r }
  length : ∀ merchant url, (calldata (.setWebhookUrl merchant url)).isSome →
    (utf8 url).length < 2 ^ 256
  events : ∀ {s sender target bytes s'}, chain.call s sender target bytes = some s' →
    s.webhooks.events <+: s'.webhooks.events

/-- A list of calls, all by `sender`: what succeeded, and what it left. -/
inductive RunsCalls (chain : EvmChain) (sender : Address) :
    Registries → List Call3 → List Bool → Registries → Prop
  | nil (s : Registries) : RunsCalls chain sender s [] [] s
  | ok {s s' s'' : Registries} {c : Call3} {calls : List Call3} {oks : List Bool}
      (h : chain.call s sender c.target c.call_data = some s')
      (rest : RunsCalls chain sender s' calls oks s'') :
      RunsCalls chain sender s (c :: calls) (true :: oks) s''
  | failed {s s' : Registries} {c : Call3} {calls : List Call3} {oks : List Bool}
      (h : chain.call s sender c.target c.call_data = none) (allowed : c.allow_failure = true)
      (rest : RunsCalls chain sender s calls oks s') :
      RunsCalls chain sender s (c :: calls) (false :: oks) s'

/-- Multicall3: the state it leaves, and which calls succeeded. -/
structure Multicall3 where
  address : Address
  aggregate3 : Registries → List Call3 → Option (Registries × List Bool)

/-- It makes the calls, in order, in its own name. -/
def Multicall3.Documented (multicall : Multicall3) (chain : EvmChain) : Prop :=
  ∀ {s calls s' oks}, multicall.aggregate3 s calls = some (s', oks) →
    RunsCalls chain multicall.address s calls oks s'

/-! ## The event -/

/-- A string in an encoding: its length, and the octets, filled up to a word. -/
def abiTail (bs : Bytes) : Bytes :=
  beBytes 32 bs.length ++ (bs ++ List.replicate ((32 - bs.length % 32) % 32) 0)

/-- `abi.encode` of one string. -/
def abiString (bs : Bytes) : Bytes := beBytes 32 32 ++ abiTail bs

/-- The event as the Portal has it. -/
def eventLog (topic0 : Text) (registry : Address) (transaction_hash : Text) (e : WebhookUrlSet) :
    PortalLog where
  address := showAddress registry
  topics := [topic0, addrTopicHex e.merchant]
  data := '0' :: 'x' :: hexEncode (abiString e.url)
  transaction_hash := transaction_hash

/-- The event's topic is a hash of its own, in lower case, and a string decodes from its encoding. -/
structure EvmTexts.Documented (tx : EvmTexts) : Prop where
  lower : tx.webhook_url_set.map Char.toLower = tx.webhook_url_set
  registered : tx.webhook_url_set ≠ tx.merchant_registered
  announced : tx.webhook_url_set ≠ tx.receiver_announced
  string : ∀ url, (utf8 url).length < 2 ^ 256 → tx.abi_decode_string (abiString (utf8 url)) = some url

/-- The webhooks a scan found, put into the worker's map. -/
def noteWebhooks (w : EvmTransfer) (st : EvmState) (found : List (Address × Text)) : EvmState :=
  { st with
    webhook_map := found.foldl
      (fun map p => Function.update map (w.show_address p.1) (some p.2)) st.webhook_map }

/-- The log is scanned, it puts the URL under the merchant's key, and from then on every deposit to
a receiver of the merchant is notified there. -/
structure Reaches (tx : EvmTexts) (cfg : EvmConfig) (w : EvmTransfer) (merchant : Address)
    (url : Text) (log : PortalLog) : Prop where
  scanned : (registryFilter tx cfg).accepts log = true
  key : decodeLog tx log = some (.webhook merchant url)
  notified : ∀ st sweep_tx d info,
    st.merchant_map.lookup ((w.parse_address d.receiver).getD 0) = some info →
      info.merchant = merchant →
        depositJob w (noteWebhooks w st (webhooksIn (decodeLog tx log).toList)) sweep_tx d
          = some ⟨url, d, some sweep_tx, 5⟩

theorem parseTopicAddr_addrTopicHex (a : Address) : parseTopicAddr (addrTopicHex a) = some a := by
  unfold parseTopicAddr addrTopicHex
  rw [trimHexPrefix, trimHexPrefix_hexEncode, hexDecode_hexEncode]
  dsimp only
  have hlength : (beBytes 20 a.toNat).length = 20 := by
    rw [beBytes, List.length_reverse, length_leBytes]
  rw [if_pos (by rw [List.length_append, List.length_replicate, hlength])]
  have hslice : dataSlice (List.replicate 12 0 ++ beBytes 20 a.toNat) 12 32 = a.toNat := by
    unfold dataSlice
    rw [List.drop_left' (List.length_replicate ..), List.take_of_length_le (by rw [hlength]),
      beNat_beBytes, show 256 ^ 20 = 2 ^ 160 by decide, Nat.mod_eq_of_lt a.isLt]
  rw [hslice, BitVec.ofNat_toNat, BitVec.setWidth_eq]

section
variable {tx : EvmTexts} {cfg : EvmConfig} {chain : EvmChain}

/-- The indexer reads the event as it was emitted. -/
theorem decodeLog_eventLog (htx : tx.Documented) {url : Text}
    (hlength : (utf8 url).length < 2 ^ 256) (registry key : Address) (transaction_hash : Text) :
    decodeLog tx (eventLog tx.webhook_url_set registry transaction_hash ⟨key, utf8 url⟩)
      = some (.webhook key url) := by
  unfold decodeLog eventLog
  dsimp only
  rw [htx.lower, if_neg htx.registered, if_neg htx.announced, if_pos rfl]
  rw [trimHexPrefix, trimHexPrefix_hexEncode, hexDecode_hexEncode]
  show (do
    let merchant ← parseTopicAddr (addrTopicHex key)
    let url ← tx.abi_decode_string (abiString (utf8 url))
    some (RegistryRecord.webhook merchant url)) = _
  rw [parseTopicAddr_addrTopicHex, htx.string url hlength]
  rfl

theorem accepts_eventLog (transaction_hash : Text) (e : WebhookUrlSet) :
    (registryFilter tx cfg).accepts
      (eventLog tx.webhook_url_set cfg.webhook_registry_address transaction_hash e) = true := by
  simp [LogFilter.accepts, registryFilter, eventLog]

/-- A call that succeeded, where it was made. -/
theorem RunsCalls.call {sender : Address} {s s' : Registries} {calls : List Call3} {oks : List Bool}
    {registry : Address} {calldata : EvmCall → Option Bytes}
    (hchain : chain.Documented registry calldata) (h : RunsCalls chain sender s calls oks s')
    {i : Nat} {c : Call3} (hcall : calls[i]? = some c) (hok : oks[i]? = some true) :
    ∃ before after, chain.call before sender c.target c.call_data = some after ∧
      after.webhooks.events <+: s'.webhooks.events := by
  have hgrows : ∀ {s s' : Registries} {calls : List Call3} {oks : List Bool},
      RunsCalls chain sender s calls oks s' → s.webhooks.events <+: s'.webhooks.events := by
    intro s s' calls oks h
    induction h with
    | nil s => exact List.prefix_rfl
    | ok h _ ih => exact (hchain.events h).trans ih
    | failed _ _ _ ih => exact ih
  induction h generalizing i with
  | nil s => cases hcall
  | @ok s s' s'' c' calls oks h rest ih =>
      cases i with
      | zero =>
          obtain rfl := Option.some.inj hcall
          exact ⟨s, s', h, hgrows rest⟩
      | succ i => exact ih hcall hok
  | @failed s s' c' calls oks h _ rest ih =>
      cases i with
      | zero => cases hok
      | succ i => exact ih hcall hok

end

/-- **Where a keeper's webhook ends up.**  For every call of `setWebhookUrl(merchant, url)` in a batch
of either worker that succeeded through Multicall3, the event of that call reaches the merchant if
and only if the merchant is Multicall3. -/
theorem webhook_reaches_merchant_iff {tx : EvmTexts} {cfg : EvmConfig} {w : EvmTransfer}
    {chain : EvmChain} {multicall : Multicall3} {calldata : EvmCall → Option Bytes}
    {calls : List Call3} {s s' : Registries} {oks : List Bool} {i : Nat} {c : Call3}
    {merchant : Address} {url : Text} (htx : tx.Documented)
    (hchain : chain.Documented cfg.webhook_registry_address calldata)
    (hmulticall : multicall.Documented chain)
    (hbatch : KeeperBatch cfg.webhook_registry_address calldata multicall.address calls)
    (hmined : multicall.aggregate3 s calls = some (s', oks)) (hcall : calls[i]? = some c)
    (hwebhook : c.allow_failure = true)
    (hcalldata : calldata (.setWebhookUrl merchant url) = some c.call_data)
    (hok : oks[i]? = some true) :
    ∃ before after e, chain.call before multicall.address c.target c.call_data = some after ∧
      after.webhooks.events = before.webhooks.events ++ [e] ∧ e ∈ s'.webhooks.events ∧
      ∀ transaction_hash, Reaches tx cfg w merchant url
          (eventLog tx.webhook_url_set cfg.webhook_registry_address transaction_hash e) ↔
        merchant = multicall.address := by
  obtain ⟨before, after, hafter, hfront⟩ := (hmulticall hmined).call hchain hcall hok
  obtain ⟨htarget, -⟩ := hbatch.webhookCalls c (List.mem_of_getElem? hcall) hwebhook
  have hset := hchain.set before multicall.address merchant url c.call_data hcalldata
  rw [← htarget, hafter] at hset
  obtain ⟨r, hr, rfl⟩ := Option.map_eq_some_iff.mp hset.symm
  have hr : before.webhooks.setWebhookUrl before.deployment.factory multicall.address merchant
      (utf8 url) = .ok r := by
    revert hr
    cases before.webhooks.setWebhookUrl before.deployment.factory multicall.address merchant
      (utf8 url) with
    | ok r' =>
        intro hr
        rw [Option.some.inj hr]
    | error e => nofun
  obtain ⟨-, rfl⟩ := Evm.WebhookRegistry.setWebhookUrl_ok.mp hr
  have hlength := hchain.length merchant url (by rw [hcalldata]; rfl)
  refine ⟨before, _, ⟨multicall.address, utf8 url⟩, hafter, rfl, ?_, ?_⟩
  · exact hfront.subset (List.mem_append_right _ List.mem_cons_self)
  intro transaction_hash
  have hdecode := decodeLog_eventLog htx hlength cfg.webhook_registry_address multicall.address
    transaction_hash
  constructor
  · intro hreaches
    have hkey := hreaches.key
    rw [hdecode] at hkey
    injection hkey with hkey
    injection hkey with hkey
    exact hkey.symm
  · rintro rfl
    refine ⟨accepts_eventLog transaction_hash _, hdecode, ?_⟩
    intro st sweep_tx d info hinfo hmerchant
    rw [hdecode]
    unfold depositJob
    rw [show (noteWebhooks w st _).merchant_map = st.merchant_map from rfl, hinfo]
    show ((Function.update st.webhook_map _ (some url)) _).bind _ = _
    rw [hmerchant, Function.update_self]
    rfl

/-! ## A batch on a chain -/

namespace WebhookPathSample

open Evm (Route World Create2 ledgerCallees)

def ordinary : Address := 0xa1

def multicallAddress : Address := 0xca11bde05977b3631167028862be2a173976ca11

def url : Text := "https://shop".toList

/-- Toward an account on Solana. -/
def route (merchant : Address) : Route := ⟨merchant, bytes32Literal "SOLANA".toList, 0x77⟩

/-- Where that receiver will be. -/
def receiver (merchant : Address) : Address :=
  if merchant = ordinary then 0x44fe948adea0ff3f1e651a045544fde3299abc81
  else 0x7d373b33ac7bf1dac76a4124e51cee48ab7fa6ea

/-- Keccak and CREATE2 on the two merchants' routes, for the factory at `0xf0`. -/
def create2 : Create2 where
  keccak256 bs :=
    if bs = (route ordinary).packed then
      0x3f70781f5b4e993fb13a070d26a8216009720628910e9a9155619a3ce2e9d0b8
    else if bs = (route multicallAddress).packed then
      0x94a3dedeeb04b05daa06de791e503435ab4c311e02287148a3baacb59bee81b7
    else 0
  predictDeterministicAddress impl salt this :=
    if impl = 0xf1 ∧ this = 0xf0 then
      if salt = 0x3f70781f5b4e993fb13a070d26a8216009720628910e9a9155619a3ce2e9d0b8 then
        0x44fe948adea0ff3f1e651a045544fde3299abc81
      else if salt = 0x94a3dedeeb04b05daa06de791e503435ab4c311e02287148a3baacb59bee81b7 then
        0x7d373b33ac7bf1dac76a4124e51cee48ab7fa6ea
      else 0
    else 0

/-- The merchant has one receiver already; the other holds 10_000 units. -/
def before (merchant : Address) : Registries where
  deployment :=
    { factory := Evm.FactorySample.factory.push merchant 0x87c61c72805ad6a4126a067f4edf26e9784a8d67
      world := ⟨fun _ a => if a = receiver merchant then 10000 else 0, fun _ _ _ => 0, [],
        fun _ => none, []⟩ }
  webhooks := .construct 0xf0

def calldata : EvmCall → Option Bytes
  | .registerMerchant merchant chain recipient =>
      some (beBytes 4 0x7be9ea5c ++ beBytes 32 merchant.toNat ++ beBytes 32 chain.toNat
        ++ beBytes 32 recipient.toNat)
  | .setWebhookUrl merchant url =>
      if (utf8 url).length < 2 ^ 256 then
        some (beBytes 4 0xe692feca ++ beBytes 32 merchant.toNat ++ beBytes 32 64
          ++ abiTail (utf8 url))
      else none
  | .transferWithAuthorization sender to_ value valid_after valid_before nonce v r s =>
      some (beBytes 4 0xe3ee160e ++ beBytes 32 sender.toNat ++ beBytes 32 to_.toNat
        ++ beBytes 32 value.toNat ++ beBytes 32 valid_after.toNat ++ beBytes 32 valid_before.toNat
        ++ beBytes 32 nonce.toNat ++ beBytes 32 v.toNat ++ beBytes 32 r.toNat
        ++ beBytes 32 s.toNat)
  | .sweep => some (beBytes 4 0x35faa416)

def readTail (bs : Bytes) : Bytes := (bs.drop 32).take (dataSlice bs 0 32)

theorem readTail_abiTail {bs : Bytes} (h : bs.length < 2 ^ 256) : readTail (abiTail bs) = bs := by
  have hlength : dataSlice (abiTail bs) 0 32 = bs.length := by
    unfold dataSlice abiTail
    rw [List.drop_zero, List.take_left' (length_beBytes 32 _), beNat_beBytes,
      show 256 ^ 32 = 2 ^ 256 by decide, Nat.mod_eq_of_lt h]
  rw [readTail, hlength, abiTail, List.drop_left' (length_beBytes 32 _), List.take_left' rfl]

/-- The merchant and the URL of a `setWebhookUrl`. -/
def readSet (bs : Bytes) : Address × Bytes :=
  (BitVec.ofNat 160 (dataSlice bs 4 36), readTail (bs.drop 68))

theorem readSet_calldata {merchant : Address} {url : Text} {bs : Bytes}
    (h : calldata (.setWebhookUrl merchant url) = some bs) : readSet bs = (merchant, utf8 url) := by
  unfold calldata at h
  dsimp only at h
  split_ifs at h with hlength
  obtain rfl := Option.some.inj h
  rw [readSet, Prod.mk.injEq]
  constructor
  · have hslice : dataSlice (beBytes 4 0xe692feca ++ beBytes 32 merchant.toNat ++ beBytes 32 64
        ++ abiTail (utf8 url)) 4 36 = merchant.toNat := by
      unfold dataSlice
      rw [List.append_assoc, List.append_assoc, List.drop_left' (length_beBytes 4 _),
        List.take_left' (length_beBytes 32 _), beNat_beBytes]
      exact Nat.mod_eq_of_lt (merchant.isLt.trans (by decide))
    rw [hslice, BitVec.ofNat_toNat, BitVec.setWidth_eq]
  · rw [List.drop_left' (by simp), readTail_abiTail hlength]

/-- The registry, the factory, and the receivers, in a transaction of `0x99`. -/
def chain : EvmChain where
  call s sender target bytes :=
    if target = 0xee then
      (s.webhooks.setWebhookUrl s.deployment.factory sender (readSet bytes).1
        (readSet bytes).2).toOption.map fun r => { s with webhooks := r }
    else if target = 0xf0 then
      (s.deployment.factory.registerMerchant create2 s.deployment.world
        (BitVec.ofNat 160 (dataSlice bytes 4 36)) (BitVec.ofNat 256 (dataSlice bytes 36 68))
        (BitVec.ofNat 256 (dataSlice bytes 68 100))).toOption.map
        fun r => { s with deployment := ⟨r.1, r.2.1⟩ }
    else if bytes = beBytes 4 0x35faa416 then
      (Evm.sweep ledgerCallees s.deployment.world target 0x99).toOption.map
        fun r => { s with deployment := ⟨s.deployment.factory, r.1⟩ }
    else none

theorem chain_documented : chain.Documented 0xee calldata where
  set s sender merchant url bytes h := by
    unfold chain
    dsimp only
    rw [if_pos rfl, readSet_calldata h]
  length merchant url h := by
    unfold calldata at h
    dsimp only at h
    split_ifs at h with hlength
    · exact hlength
    · cases h
  events h := by
    rename_i s sender target bytes s'
    unfold chain at h
    dsimp only at h
    split_ifs at h
    · obtain ⟨r, hr, rfl⟩ := Option.map_eq_some_iff.mp h
      obtain ⟨-, rfl⟩ := Evm.WebhookRegistry.setWebhookUrl_ok.mp (toOption_eq_some.mp hr)
      exact List.prefix_append _ _
    · obtain ⟨r, -, rfl⟩ := Option.map_eq_some_iff.mp h
      exact List.prefix_rfl
    · obtain ⟨r, -, rfl⟩ := Option.map_eq_some_iff.mp h
      exact List.prefix_rfl

/-- Multicall3, on this chain. -/
def runCalls : Registries → List Call3 → Option (Registries × List Bool)
  | s, [] => some (s, [])
  | s, c :: calls =>
      match chain.call s multicallAddress c.target c.call_data with
      | some s' => (runCalls s' calls).map fun r => (r.1, true :: r.2)
      | none =>
          if c.allow_failure then (runCalls s calls).map fun r => (r.1, false :: r.2) else none

def multicall : Multicall3 := ⟨multicallAddress, runCalls⟩

theorem multicall_documented : multicall.Documented chain := by
  intro s calls s' oks h
  change runCalls s calls = some (s', oks) at h
  show RunsCalls chain multicallAddress s calls oks s'
  induction calls generalizing s oks with
  | nil =>
      cases h
      exact .nil _
  | cons c calls ih =>
      unfold runCalls at h
      cases hcall : chain.call s multicallAddress c.target c.call_data with
      | some s₁ =>
          rw [hcall] at h
          obtain ⟨r, hr, heq⟩ := Option.map_eq_some_iff.mp h
          obtain ⟨rfl, rfl⟩ := Prod.mk.inj heq
          exact .ok hcall (ih hr)
      | none =>
          rw [hcall] at h
          dsimp only at h
          split_ifs at h with hallowed
          obtain ⟨r, hr, heq⟩ := Option.map_eq_some_iff.mp h
          obtain ⟨rfl, rfl⟩ := Prod.mk.inj heq
          exact .failed hcall hallowed (ih hr)

def texts : EvmTexts where
  merchant_registered :=
    "0xb674bb0124d75e986f00547af41c5357a7059711ec2e0ee0bce3e401832f3ada".toList
  receiver_announced :=
    "0x1c98eabc2561142ec7cd59056a7e3fb3a615750fa82220c6b3f8000d6a23ff83".toList
  webhook_url_set :=
    "0x50c0ff0d9394e10c383c8bd4aa6db6199bfcaf30ec49e1c1cb146892002f629f".toList
  transfer := "0xddf252ad1be2c89b69c2b068fc378daa952ba7f163c4a11628f55a4df523b3ef".toList
  abi_decode_string bs := (readTail (bs.drop 32)).toByteArray.utf8Decode?.map Array.toList

theorem texts_documented : texts.Documented where
  lower := by decide +kernel
  registered := by decide +kernel
  announced := by decide +kernel
  string url h := by
    unfold texts
    dsimp only
    rw [abiString, List.drop_left' (length_beBytes 32 _), readTail_abiTail h]
    exact congrArg (Option.map Array.toList) (List.utf8Decode?_utf8Encode (l := url))

def worker : EvmTransfer where
  cfg := ⟨"base".toList, 0xf0, 0xee, 1⟩
  calldata := calldata
  selectors := by
    intro merchant chain recipient bytes hbytes h
    obtain rfl := Option.some.inj hbytes
    have hlength := congrArg (Option.map List.length) h
    simp [calldata] at hlength
  show_address := showAddress
  parse_address := parseAddress

def cfg : EvmConfig := ⟨worker.cfg, 0, 0, 0⟩

/-- A deposit has come to the receiver, which is not there yet. -/
def state (merchant : Address) : EvmState where
  merchant_map := AList.singleton (receiver merchant)
    ⟨merchant, some ⟨bytes32Literal "SOLANA".toList, 0x77⟩⟩
  webhook_map key := if key = showAddress merchant then some url else none
  deployed := ∅

def answers : EvmAnswers where
  balances := some fun _ => .balance 10000
  batch_deployed := some fun _ => false
  get_code _ := some []
  mined := some ⟨"0xaa".toList, true⟩

/-- `setWebhookUrl`, the registration and the sweep. -/
def calls (merchant : Address) : List Call3 :=
  (sweepEvmReceivers worker answers (state merchant) [receiver merchant]).sent

theorem keeperBatch (merchant : Address) :
    KeeperBatch 0xee calldata multicallAddress (calls merchant) :=
  .transfer answers (state merchant) [receiver merchant] rfl rfl (by decide +kernel)

end WebhookPathSample

open WebhookPathSample in
/-- A merchant that is Multicall3. -/
theorem webhook_reaches_multicall : ∃ s oks e,
    runCalls (before multicallAddress) (calls multicallAddress) = some (s, oks) ∧
      e ∈ s.webhooks.events ∧
      Reaches texts cfg worker multicallAddress url
        (eventLog texts.webhook_url_set 0xee "0xaa".toList e) := by
  have hruns : ((runCalls (before multicallAddress) (calls multicallAddress)).map Prod.snd)
      = some [true, true, true] := by decide +kernel
  obtain ⟨⟨s, oks⟩, hmined, rfl⟩ := Option.map_eq_some_iff.mp hruns
  have hfirst : (calls multicallAddress)[0]?.map (fun c => (c.allow_failure, some c.call_data))
      = some (true, calldata (.setWebhookUrl multicallAddress url)) := by decide +kernel
  obtain ⟨c, hcall, hc⟩ := Option.map_eq_some_iff.mp hfirst
  obtain ⟨hfailure, hdata⟩ := Prod.mk.inj hc
  obtain ⟨_, _, e, -, -, he, hiff⟩ := @webhook_reaches_merchant_iff texts cfg worker chain multicall
    calldata (calls multicallAddress) (before multicallAddress) s [true, true, true] 0 c
    multicallAddress url texts_documented chain_documented multicall_documented
    (keeperBatch multicallAddress) hmined hcall hfailure hdata.symm rfl
  exact ⟨s, _, e, hmined, he, (hiff _).mpr rfl⟩

open WebhookPathSample in
/-- An ordinary merchant: all three calls succeed, and the URL is under Multicall3's key. -/
theorem webhook_misses_merchant : ∃ s,
    KeeperBatch 0xee calldata multicallAddress (calls ordinary) ∧
      runCalls (before ordinary) (calls ordinary) = some (s, [true, true, true]) ∧
      (calls ordinary).head?.map (fun c => some c.call_data)
        = some (calldata (.setWebhookUrl ordinary url)) ∧
      s.webhooks.events = [⟨multicallAddress, utf8 url⟩] ∧
      ∀ e ∈ s.webhooks.events, ∀ transaction_hash, ¬ Reaches texts cfg worker ordinary url
        (eventLog texts.webhook_url_set 0xee transaction_hash e) := by
  have hruns : ((runCalls (before ordinary) (calls ordinary)).map
      fun r => (r.1.webhooks.events, r.2))
        = some ([⟨multicallAddress, utf8 url⟩], [true, true, true]) := by decide +kernel
  obtain ⟨⟨s, oks⟩, hmined, heq⟩ := Option.map_eq_some_iff.mp hruns
  obtain ⟨hevents, rfl⟩ := Prod.mk.inj heq
  refine ⟨s, keeperBatch ordinary, hmined, by decide +kernel, hevents, ?_⟩
  intro e he transaction_hash hreaches
  rw [hevents] at he
  obtain rfl := List.mem_singleton.mp he
  have hkey := hreaches.key
  rw [decodeLog_eventLog texts_documented (by decide)] at hkey
  injection hkey with hkey
  injection hkey with hkey
  exact absurd hkey (by decide)

end Beanie.Keeper
