/-
# `Beanie.Keeper.EvmMirror` — what a worker remembers of the contracts

The factory and the webhook registry log what they do; the Portal serves the
logs; the worker's scans, the rebuild at startup and the tips after it, turn
them into two maps.  As long as no scan's progress is lost, the maps are those
of the contracts (`index_mirrors`): each receiver is known under its merchant,
with its route if it was announced, and each merchant's webhook is the one the
registry holds.

    RegistryEvent.record    what the indexer reads in a log
    Mirrors                 what the maps say of the contracts
-/
import Beanie.Keeper.EvmIndex
import Beanie.Lib.Registry

namespace Beanie.Keeper

open Beanie.Api
open Beanie.Evm (Create2 Deployment FactoryAct FactoryStep ReceiverFactory Registries RegistriesAct
  RegistriesStep Route WebhookUrlSet)

/-! ## What the contracts log -/

/-- A log of the factory, or of the webhook registry. -/
inductive RegistryEvent
  | registered (merchant receiver : Address)
  | announced (route : Route) (receiver : Address)
  | webhook (e : WebhookUrlSet)

/-- What a call logs, if it succeeds. -/
def emitted (k : Create2) (t : Transition Registries RegistriesAct) : Option RegistryEvent :=
  match t.act with
  | .factory (.announced r) => some (.announced r (t.pre.deployment.factory.addressOf k r))
  | .factory (.registered r receiver) => some (.registered r.merchant receiver)
  | .factory _ => none
  | .setWebhookUrl sender merchant url =>
      if t.pre.count merchant ≠ 0 then some (.webhook ⟨sender, url⟩) else none

/-- The event that is put on record, as the contracts' own model has it. -/
def RegistryEvent.event : RegistryEvent → Option Evm.Event
  | .registered merchant receiver => some (.receiverRegistered merchant receiver)
  | .announced r receiver =>
      some (.receiverAnnounced r.merchant receiver r.cctpMintChain r.cctpMintRecipient)
  | .webhook _ => none

/-- Each is the last event of its call. -/
theorem emitted_event {k : Create2} {s s' : Registries} {act : RegistriesAct}
    (h : RegistriesStep k s act s') {e : RegistryEvent} (he : emitted k ⟨s, act, s'⟩ = some e) :
    match e with
    | .webhook u => s'.webhooks.events = s.webhooks.events ++ [u]
    | e => s'.deployment.world.events.getLast? = e.event := by
  cases h with
  | @factory d d' r a h =>
      cases h with
      | @announced f w w' r h =>
          obtain ⟨_, -, h⟩ := bind_ok.mp h
          obtain rfl := Except.ok.inj h
          obtain rfl := Option.some.inj he
          exact List.getLast?_concat
      | announceReverts _ => cases he
      | @registered f f' w w' r receiver h =>
          obtain ⟨rfl, -⟩ := ReceiverFactory.registers_of_ok h
          obtain rfl := Option.some.inj he
          obtain ⟨_, -, h⟩ := bind_ok.mp h
          obtain ⟨_, -, h⟩ := bind_ok.mp h
          obtain ⟨⟨w₁, clone⟩, -, h⟩ := bind_ok.mp h
          obtain ⟨w₂, -, h⟩ := bind_ok.mp h
          obtain ⟨-, hrest⟩ := Prod.mk.inj (Except.ok.inj h)
          obtain ⟨rfl, rfl⟩ := Prod.mk.inj hrest
          exact List.getLast?_concat
      | registerReverts _ => cases he
      | initialized _ => cases he
      | initializeReverts _ => cases he
      | elsewhere _ => cases he
  | @set d r r' sender merchant url h =>
      obtain ⟨hguard, rfl⟩ := Evm.WebhookRegistry.setWebhookUrl_ok.mp h
      change (if d.factory.getReceiverCount merchant ≠ 0 then some _ else none) = some e at he
      rw [if_pos hguard] at he
      obtain rfl := Option.some.inj he
      rfl
  | @setReverts d r sender merchant url _ h =>
      change (if d.factory.getReceiverCount merchant ≠ 0 then some _ else none) = some _ at he
      split_ifs at he with hguard
      have hok : r.setWebhookUrl d.factory sender merchant url = .ok (r.write sender url) :=
        Evm.WebhookRegistry.setWebhookUrl_ok.mpr ⟨hguard, rfl⟩
      rw [h] at hok
      cases hok

section
variable (tx : EvmTexts) (cfg : EvmConfig)

/-- The log as the Portal has it. -/
def RegistryEvent.portalLog (transaction_hash : Text) : RegistryEvent → PortalLog
  | .registered merchant receiver =>
      { address := showAddress cfg.factory_address
        topics := [tx.merchant_registered, addrTopicHex merchant]
        data := '0' :: 'x' :: hexEncode (List.replicate 12 0 ++ beBytes 20 receiver.toNat)
        transaction_hash }
  | .announced r receiver =>
      { address := showAddress cfg.factory_address
        topics := [tx.receiver_announced, addrTopicHex r.merchant, addrTopicHex receiver]
        data := '0' :: 'x' ::
          hexEncode (beBytes 32 r.cctpMintChain.toNat ++ beBytes 32 r.cctpMintRecipient.toNat)
        transaction_hash }
  | .webhook e => eventLog tx.webhook_url_set cfg.webhook_registry_address transaction_hash e

/-- The topics are hashes of their own, in lower case. -/
structure EvmTexts.TopicsDocumented : Prop extends tx.Documented where
  lower_registered : tx.merchant_registered.map Char.toLower = tx.merchant_registered
  lower_announced : tx.receiver_announced.map Char.toLower = tx.receiver_announced
  distinct : tx.receiver_announced ≠ tx.merchant_registered

/-- What the indexer reads in the log. -/
def RegistryEvent.record : RegistryEvent → Option RegistryRecord
  | .registered merchant receiver => some (.receiver ⟨merchant, receiver, none⟩)
  | .announced r receiver =>
      some (.receiver ⟨r.merchant, receiver, some ⟨r.cctpMintChain, r.cctpMintRecipient⟩⟩)
  | .webhook e => (tx.abi_decode_string (abiString e.url)).map (.webhook e.merchant)

end

/-- A slice of octets that a number was put into. -/
theorem dataSlice_append (front tail : Bytes) {a b : Nat} (hfront : front.length = a) (n : Nat) :
    dataSlice (front ++ (beBytes b n ++ tail)) a (a + b) = n % 256 ^ b := by
  unfold dataSlice
  rw [List.drop_left' hfront, Nat.add_sub_cancel_left, List.take_left' (length_beBytes b n),
    beNat_beBytes]

section
variable {tx : EvmTexts} {cfg : EvmConfig}

theorem decodeLog_portalLog (htx : tx.TopicsDocumented) (transaction_hash : Text)
    (e : RegistryEvent) : decodeLog tx (e.portalLog tx cfg transaction_hash) = e.record tx := by
  cases e with
  | registered merchant receiver =>
      unfold decodeLog RegistryEvent.portalLog
      dsimp only
      rw [htx.lower_registered, if_pos rfl, trimHexPrefix, trimHexPrefix_hexEncode,
        hexDecode_hexEncode]
      have hslice := dataSlice_append (List.replicate 12 0) [] (b := 20) List.length_replicate
        receiver.toNat
      rw [List.append_nil, show 256 ^ 20 = 2 ^ 160 by decide, Nat.mod_eq_of_lt receiver.isLt]
        at hslice
      rw [Option.getD_some, if_neg (by simp)]
      show (do
        let merchant ← parseTopicAddr (addrTopicHex merchant)
        some (RegistryRecord.receiver ⟨merchant, BitVec.ofNat 160 (dataSlice _ 12 (12 + 20)), none⟩))
          = _
      rw [parseTopicAddr_addrTopicHex, hslice, BitVec.ofNat_toNat, BitVec.setWidth_eq]
      rfl
  | announced r receiver =>
      unfold decodeLog RegistryEvent.portalLog
      dsimp only
      rw [htx.lower_announced, if_neg htx.distinct, if_pos rfl, trimHexPrefix,
        trimHexPrefix_hexEncode, hexDecode_hexEncode]
      have hchain := dataSlice_append [] (beBytes 32 r.cctpMintRecipient.toNat) (a := 0) (b := 32) rfl
        r.cctpMintChain.toNat
      have hrecipient := dataSlice_append (beBytes 32 r.cctpMintChain.toNat) [] (b := 32)
        (length_beBytes 32 _) r.cctpMintRecipient.toNat
      rw [List.nil_append, show 256 ^ 32 = 2 ^ 256 by decide, Nat.mod_eq_of_lt r.cctpMintChain.isLt]
        at hchain
      rw [List.append_nil, show 256 ^ 32 = 2 ^ 256 by decide,
        Nat.mod_eq_of_lt r.cctpMintRecipient.isLt] at hrecipient
      rw [Option.getD_some, if_neg (by simp)]
      show (do
        let merchant ← parseTopicAddr (addrTopicHex r.merchant)
        let receiver ← parseTopicAddr (addrTopicHex receiver)
        some (RegistryRecord.receiver ⟨merchant, receiver,
          some ⟨BitVec.ofNat 256 (dataSlice _ 0 (0 + 32)),
            BitVec.ofNat 256 (dataSlice _ 32 (32 + 32))⟩⟩)) = _
      rw [parseTopicAddr_addrTopicHex, parseTopicAddr_addrTopicHex, hchain, hrecipient,
        BitVec.ofNat_toNat, BitVec.ofNat_toNat, BitVec.setWidth_eq, BitVec.setWidth_eq]
      rfl
  | webhook e =>
      unfold decodeLog RegistryEvent.portalLog eventLog
      dsimp only
      rw [htx.lower, if_neg htx.registered, if_neg htx.announced, if_pos rfl, trimHexPrefix,
        trimHexPrefix_hexEncode, hexDecode_hexEncode, Option.getD_some]
      show (do
        let merchant ← parseTopicAddr (addrTopicHex e.merchant)
        let url ← tx.abi_decode_string (abiString e.url)
        some (RegistryRecord.webhook merchant url)) = _
      rw [parseTopicAddr_addrTopicHex]
      show _ = (tx.abi_decode_string (abiString e.url)).map (RegistryRecord.webhook e.merchant)
      cases tx.abi_decode_string (abiString e.url) with
      | none => rfl
      | some url => rfl

/-- The Portal's filter lets the logs of the two contracts through. -/
theorem accepts_portalLog (transaction_hash : Text) (e : RegistryEvent) :
    (registryFilter tx cfg).accepts (e.portalLog tx cfg transaction_hash) = true := by
  cases e with
  | registered merchant receiver => simp [LogFilter.accepts, registryFilter, RegistryEvent.portalLog]
  | announced r receiver => simp [LogFilter.accepts, registryFilter, RegistryEvent.portalLog]
  | webhook e => exact accepts_eventLog transaction_hash e

end

/-! ## What the maps say of the contracts -/

/-- The route that a transaction announces or registers. -/
def seenRoute (t : Transition Registries RegistriesAct) : Option Route :=
  match t.act with
  | .factory (.announced r) => some r
  | .factory (.registered r _) => some r
  | _ => none

def Announced (tr : List (Transition Registries RegistriesAct)) (r : Route) : Prop :=
  ∃ t ∈ tr, t.act = .factory (.announced r)

def evmRoute (r : Route) : EvmRoute := ⟨r.cctpMintChain, r.cctpMintRecipient⟩

/-- A map of receivers that knows the routes `seen`, and of those announced what they are. -/
structure Knows (address : Route → Address) (map : AList fun _ : Address => EvmReceiverInfo)
    (seen : List Route) (announced : Route → Prop) : Prop where
  known : ∀ a, (map.lookup a).isSome ↔ ∃ r ∈ seen, address r = a
  merchant : ∀ r ∈ seen, ∀ info, map.lookup (address r) = some info → info.merchant = r.merchant
  route : ∀ r ∈ seen, ∀ info, map.lookup (address r) = some info → ∀ route,
    info.route = some route ↔ announced r ∧ route = evmRoute r
  seen : ∀ r, announced r → r ∈ seen

/-- `remember_evm_receiver` keeps what was known of the route, and adds what the record says. -/
theorem Knows.remember {address : Route → Address} {R : Set Route}
    {map : AList fun _ : Address => EvmReceiverInfo} {seen : List Route}
    {announced announced' : Route → Prop} (hinj : Set.InjOn address R) {r : Route} (hr : r ∈ R)
    (hseen : ∀ r ∈ seen, r ∈ R) {route : Option EvmRoute}
    (hroute : ∀ x, route = some x → x = evmRoute r)
    (hannounced : ∀ x, announced' x ↔ announced x ∨ x = r ∧ route.isSome)
    (h : Knows address map seen announced) :
    Knows address (rememberEvmReceiver map ⟨r.merchant, address r, route⟩) (seen ++ [r])
      announced' := by
  have hlookup : (rememberEvmReceiver map ⟨r.merchant, address r, route⟩).lookup (address r)
      = some ⟨r.merchant, route.or ((map.lookup (address r)).bind (·.route))⟩ := by
    unfold rememberEvmReceiver
    rw [AList.lookup_insert]
    cases map.lookup (address r) with
    | none => rfl
    | some info => rfl
  have hother : ∀ a, a ≠ address r →
      (rememberEvmReceiver map ⟨r.merchant, address r, route⟩).lookup a = map.lookup a :=
    fun a ha => AList.lookup_insert_ne ha
  have hsame : ∀ x ∈ seen ++ [r], address x = address r → x = r := by
    intro x hx heq
    rcases List.mem_append.mp hx with hx | hx
    · exact hinj (hseen x hx) hr heq
    · exact List.mem_singleton.mp hx
  refine ⟨?_, ?_, ?_, ?_⟩
  · intro a
    by_cases ha : a = address r
    · subst ha
      rw [hlookup]
      exact iff_of_true rfl ⟨r, List.mem_append_right _ List.mem_cons_self, rfl⟩
    · rw [hother a ha, h.known]
      constructor
      · rintro ⟨x, hx, rfl⟩
        exact ⟨x, List.mem_append_left _ hx, rfl⟩
      · rintro ⟨x, hx, rfl⟩
        rcases List.mem_append.mp hx with hx | hx
        · exact ⟨x, hx, rfl⟩
        · exact absurd (congrArg address (List.mem_singleton.mp hx)) ha
  · intro x hx info hinfo
    by_cases ha : address x = address r
    · obtain rfl := hsame x hx ha
      rw [hlookup] at hinfo
      rw [← Option.some.inj hinfo]
    · rw [hother _ ha] at hinfo
      refine h.merchant x ((List.mem_append.mp hx).resolve_right fun hx => ha ?_) info hinfo
      exact congrArg address (List.mem_singleton.mp hx)
  · intro x hx info hinfo y
    by_cases ha : address x = address r
    · obtain rfl := hsame x hx ha
      rw [hlookup] at hinfo
      rw [← Option.some.inj hinfo, hannounced]
      cases hsome : route with
      | some z =>
          obtain rfl := hroute z hsome
          show some (evmRoute x) = some y ↔ _
          rw [Option.some.injEq, eq_comm]
          exact ⟨fun h => ⟨.inr ⟨rfl, rfl⟩, h⟩, And.right⟩
      | none =>
          show (map.lookup (address x)).bind (·.route) = some y ↔ _
          rw [Option.bind_eq_some_iff]
          constructor
          · rintro ⟨info', hold, hy⟩
            have hx : x ∈ seen := by
              obtain ⟨z, hz, heq⟩ := (h.known (address x)).mp (by rw [hold]; rfl)
              rwa [← hsame z (List.mem_append_left _ hz) heq]
            obtain ⟨hin, rfl⟩ := (h.route x hx info' hold y).mp hy
            exact ⟨.inl hin, rfl⟩
          · rintro ⟨hin | ⟨-, hin⟩, rfl⟩
            · have hx := h.seen x hin
              obtain ⟨info', hold⟩ := Option.isSome_iff_exists.mp
                ((h.known (address x)).mpr ⟨x, hx, rfl⟩)
              exact ⟨info', hold, (h.route x hx info' hold _).mpr ⟨hin, rfl⟩⟩
            · cases hin
    · rw [hother _ ha] at hinfo
      have hne : x ≠ r := fun h => ha (congrArg address h)
      have hx : x ∈ seen := (List.mem_append.mp hx).resolve_right fun hx =>
        hne (List.mem_singleton.mp hx)
      rw [h.route x hx info hinfo, hannounced]
      exact and_congr_left fun _ => ⟨.inl, fun h => h.resolve_right fun h => hne h.1⟩
  · intro x hx
    rcases (hannounced x).mp hx with hx | ⟨rfl, -⟩
    · exact List.mem_append_left _ (h.seen x hx)
    · exact List.mem_append_right _ List.mem_cons_self

/-- What the worker's maps say of the contracts: `f` is the factory as it was constructed, `tr` what
has happened, and `s` where that has led. -/
structure Mirrors (k : Create2) (f : ReceiverFactory) (w : EvmTransfer)
    (tr : List (Transition Registries RegistriesAct)) (s : Registries) (st : EvmState) : Prop where
  receivers : Knows (f.addressOf k) st.merchant_map (log seenRoute tr) (Announced tr)
  /-- whatever the factory lists is known, under its merchant -/
  listed : ∀ merchant, ∀ a ∈ s.deployment.factory.getMerchantReceivers merchant,
    ∃ info, st.merchant_map.lookup a = some info ∧ info.merchant = merchant
  webhooks : ∀ merchant, utf8 ((st.webhook_map (w.show_address merchant)).getD [])
    = s.webhooks.webhookUrl merchant

/-- What a worker would register for a receiver is that receiver. -/
theorem Mirrors.registers {k : Create2} {f : ReceiverFactory} {w : EvmTransfer}
    {tr : List (Transition Registries RegistriesAct)} {s : Registries} {st : EvmState}
    (h : Mirrors k f w tr s st) {a : Address} {info : EvmReceiverInfo} {route : EvmRoute}
    (hinfo : st.merchant_map.lookup a = some info) (hroute : info.route = some route) :
    f.predictReceiverAddress k info.merchant route.chain route.recipient = a := by
  obtain ⟨r, hr, rfl⟩ := (h.receivers.known a).mp (by rw [hinfo]; rfl)
  obtain ⟨-, rfl⟩ := (h.receivers.route r hr info hinfo route).mp hroute
  rw [h.receivers.merchant r hr info hinfo]
  rfl

section
variable {k : Create2} {f : ReceiverFactory} {w : EvmTransfer} {tx : EvmTexts} {R : Set Route}
  {tr : List (Transition Registries RegistriesAct)} {s s' : Registries} {st : EvmState}

theorem announced_append {t : Transition Registries RegistriesAct} {r : Route} :
    Announced (tr ++ [t]) r ↔ Announced tr r ∨ t.act = .factory (.announced r) := by
  simp [Announced, or_and_right, exists_or]

/-- A call that logs nothing. -/
theorem Mirrors.idle (h : Mirrors k f w tr s st) {t : Transition Registries RegistriesAct}
    (hseen : seenRoute t = none) (hannounced : ∀ r, t.act ≠ .factory (.announced r))
    (hlists : ∀ merchant, s'.deployment.factory.getMerchantReceivers merchant
      = s.deployment.factory.getMerchantReceivers merchant)
    (hwebhooks : s'.webhooks.webhookUrl = s.webhooks.webhookUrl) :
    Mirrors k f w (tr ++ [t]) s' st where
  receivers := by
    have hsame : Announced (tr ++ [t]) = Announced tr := by
      funext r
      rw [announced_append, or_iff_left (hannounced r)]
    rw [log_append, hseen, hsame, Option.toList_none, List.append_nil]
    exact h.receivers
  listed merchant a ha := h.listed merchant a (by rwa [hlists] at ha)
  webhooks merchant := by rw [hwebhooks, h.webhooks]

/-- A call that names a receiver. -/
theorem Mirrors.receiver (hinj : Set.InjOn (f.addressOf k) R) (h : Mirrors k f w tr s st)
    (hR : ∀ r ∈ log seenRoute tr, r ∈ R) {t : Transition Registries RegistriesAct} {r : Route}
    (hr : r ∈ R) (hseen : seenRoute t = some r) {route : Option EvmRoute}
    (hroute : ∀ x, route = some x → x = evmRoute r)
    (hannounced : ∀ x, t.act = .factory (.announced x) ↔ x = r ∧ route.isSome)
    (hlists : ∀ merchant, ∀ a ∈ s'.deployment.factory.getMerchantReceivers merchant,
      a ∈ s.deployment.factory.getMerchantReceivers merchant ∨
        merchant = r.merchant ∧ a = f.addressOf k r)
    (hwebhooks : s'.webhooks = s.webhooks) :
    Mirrors k f w (tr ++ [t]) s'
      (learnScan w st [.receiver ⟨r.merchant, f.addressOf k r, route⟩]) := by
  have hknows : Knows (f.addressOf k)
      (rememberEvmReceiver st.merchant_map ⟨r.merchant, f.addressOf k r, route⟩)
      (log seenRoute (tr ++ [t])) (Announced (tr ++ [t])) := by
    rw [log_append, hseen]
    refine h.receivers.remember hinj hr hR hroute fun x => ?_
    rw [announced_append, hannounced]
  refine ⟨hknows, ?_, fun merchant => ?_⟩
  · have hentered : r ∈ log seenRoute (tr ++ [t]) := by
      rw [log_append, hseen]
      exact List.mem_append_right _ List.mem_cons_self
    intro merchant a ha
    show ∃ info, (rememberEvmReceiver st.merchant_map _).lookup a = some info ∧ _
    rcases hlists merchant a ha with ha | ⟨rfl, rfl⟩
    · obtain ⟨info, hinfo, rfl⟩ := h.listed merchant a ha
      obtain ⟨x, hx, rfl⟩ := (h.receivers.known a).mp (by rw [hinfo]; rfl)
      have hx' : x ∈ log seenRoute (tr ++ [t]) := by
        rw [log_append]
        exact List.mem_append_left _ hx
      obtain ⟨info', hinfo'⟩ := Option.isSome_iff_exists.mp ((hknows.known _).mpr ⟨x, hx', rfl⟩)
      refine ⟨info', hinfo', ?_⟩
      rw [hknows.merchant x hx' info' hinfo', h.receivers.merchant x hx info hinfo]
    · obtain ⟨info, hinfo⟩ := Option.isSome_iff_exists.mp ((hknows.known _).mpr ⟨r, hentered, rfl⟩)
      exact ⟨info, hinfo, hknows.merchant r hentered info hinfo⟩
  · rw [hwebhooks]
    exact h.webhooks merchant

end

/-! ## The logs on the chain -/

/-- The logs of the two contracts in a range of blocks are, in order, these. -/
def OnChain (tx : EvmTexts) (cfg : EvmConfig) (chain : Nat → List PortalLog) (start stop : Nat)
    (events : List RegistryEvent) : Prop :=
  List.Forall₂ (fun log e => ∃ transaction_hash,
      log = RegistryEvent.portalLog tx cfg transaction_hash e)
    ((between chain start stop).filter fun log =>
      (registryFilter tx cfg).address.contains log.address) events

/-- The scans read them so. -/
theorem OnChain.records {tx : EvmTexts} {cfg : EvmConfig} {chain : Nat → List PortalLog}
    {start stop : Nat} {events : List RegistryEvent} (htx : tx.TopicsDocumented)
    (h : OnChain tx cfg chain start stop events) :
    between (evmRecords tx cfg chain) start stop
      = events.filterMap (RegistryEvent.record tx) := by
  have hlogs : between (evmRecords tx cfg chain) start stop
      = ((between chain start stop).filter (registryFilter tx cfg).accepts).filterMap
        (decodeLog tx) := by
    unfold between
    rw [List.filter_flatMap, List.filterMap_flatMap]
    rfl
  have haccepts : ∀ logs : List PortalLog, logs.filter (registryFilter tx cfg).accepts
      = (logs.filter fun log => (registryFilter tx cfg).address.contains log.address).filter
        (registryFilter tx cfg).accepts := by
    intro logs
    rw [List.filter_filter]
    refine List.filter_congr fun log _ => ?_
    rw [LogFilter.accepts, show (registryFilter tx cfg).address.isEmpty = false from rfl,
      Bool.false_or]
    cases (registryFilter tx cfg).address.contains log.address with
    | true => simp
    | false => rfl
  rw [hlogs, haccepts]
  unfold OnChain at h
  revert h
  generalize (between chain start stop).filter _ = logs
  intro h
  induction h with
  | nil => rfl
  | @cons log e logs events hlog _ ih =>
      obtain ⟨transaction_hash, rfl⟩ := hlog
      rw [List.filter_cons_of_pos (accepts_portalLog transaction_hash e), List.filterMap_cons,
        List.filterMap_cons, decodeLog_portalLog htx, ih]

namespace MirrorSample

open Evm.FactorySample (create2 factory home solana merchant)
open Evm.WebhookSample (url)
open WebhookPathSample (texts texts_documented cfg worker)
open RegistrySample (portal portal_serves)

def homeReceiver : Address := 0xdf53af065055632633913ff8c217a005d10d8808
def solanaReceiver : Address := 0x44fe948adea0ff3f1e651a045544fde3299abc81

/-- The merchant announces one receiver, registers the other, and sets a webhook. -/
def trace (w₁ w₂ : Evm.World) : List (Transition Registries RegistriesAct) :=
  [⟨⟨⟨factory, Evm.sampleWorld⟩, .construct 0xf0⟩, .factory (.announced solana),
      ⟨⟨factory, w₁⟩, .construct 0xf0⟩⟩,
    ⟨⟨⟨factory, w₁⟩, .construct 0xf0⟩, .factory (.registered home homeReceiver),
      ⟨⟨Evm.WebhookSample.registered, w₂⟩, .construct 0xf0⟩⟩,
    ⟨⟨⟨Evm.WebhookSample.registered, w₂⟩, .construct 0xf0⟩, .setWebhookUrl merchant merchant url,
      ⟨⟨Evm.WebhookSample.registered, w₂⟩, Evm.WebhookSample.called merchant⟩⟩]

theorem runs : ∃ w₁ w₂, Steps (RegistriesStep create2) ⟨⟨factory, Evm.sampleWorld⟩, .construct 0xf0⟩
    (trace w₁ w₂) ⟨⟨Evm.WebhookSample.registered, w₂⟩, Evm.WebhookSample.called merchant⟩ := by
  obtain ⟨w₁, hannounce, w₂, hregister⟩ :
      ∃ w₁, factory.announceReceiver create2 Evm.sampleWorld merchant solana.cctpMintChain 0x77
          = .ok w₁ ∧
      ∃ w₂, factory.registerMerchant create2 w₁ merchant 0 0
          = .ok (Evm.WebhookSample.registered, w₂, homeReceiver) :=
    ⟨_, rfl, _, rfl⟩
  refine ⟨w₁, w₂, .step (.factory (.announced (r := solana) hannounce))
    (.step (.factory (.registered (r := home) hregister)) (.step (.set ?_) (.refl _)))⟩
  refine Evm.WebhookRegistry.setWebhookUrl_ok.mpr ⟨?_, rfl⟩
  show Evm.WebhookSample.registered.getReceiverCount merchant ≠ 0
  rw [Evm.WebhookSample.registered_count]
  exact Nat.one_ne_zero

def events : List RegistryEvent :=
  [.announced solana solanaReceiver, .registered merchant homeReceiver, .webhook ⟨merchant, url⟩]

/-- All three logs are in the first block. -/
def chains (_ : Text) (n : Nat) : List PortalLog :=
  if n = 0 then events.map (RegistryEvent.portalLog texts cfg []) else []

def answers : List ChunkAnswers := [⟨true, [portal (chains cfg.chain_name)], true⟩]

theorem served : RebuildServed chains [cfg] texts cfg (chains cfg.chain_name) 5 answers := by
  refine ⟨List.mem_singleton_self _, fun _ _ => rfl, ?_⟩
  intro a ha p hp
  obtain rfl := List.mem_singleton.mp ha
  obtain rfl := List.mem_singleton.mp hp
  refine portal_serves ?_ fun n hn => if_neg hn
  refine List.filter_eq_self.mpr fun log hlog => ?_
  obtain ⟨e, -, rfl⟩ := List.mem_map.mp hlog
  exact accepts_portalLog [] e

theorem scanned : (rebuildRegistryState texts cfg 5 .empty answers true).2.map
    (fun snapshot => snapshot.scanned_to) = some 5 := by
  have hranges : chunkRanges cfg.start 5 REGISTRY_CHUNK_BLOCKS = [(0, 5)] := by
    simp [chunkRanges, EvmConfig.start, cfg, REGISTRY_CHUNK_BLOCKS]
  rw [rebuildRegistryState, hranges]
  decide +kernel

theorem own : OwnChunks texts chains [cfg] cfg 5 := by
  intro k _ cfg' hcfg' _ _ k' hstart
  obtain rfl := List.mem_singleton.mp hcfg'
  have hk : k' = k := Nat.eq_of_mul_eq_mul_right (by decide : 0 < REGISTRY_CHUNK_BLOCKS)
    (Nat.add_left_cancel hstart)
  rw [hk]

end MirrorSample

end Beanie.Keeper
