/-
# `Beanie.Evm.FactoryRun` — what the factory pins, over any sequence of calls

A run interleaves `announceReceiver`, `registerMerchant` and direct
`initialize` calls by anyone, calls that revert, and whatever else leaves the
receivers' storage alone, as sweeps and token transfers do.

The factory keeps a registry of routes: `FactoryTracks` relates its lists and
its clones to the log of the routes registered so far, and `registered_step`
shows that each call is a step of the registry.  `routes_pinned` reads off
what that means for the lists, the clones and the announced addresses.
-/
import Beanie.Lib.Registry
import Beanie.Evm.SweepRun

namespace Beanie.Evm

/-- A merchant with a route: the arguments of `registerMerchant` and of `announceReceiver`. -/
structure Route where
  merchant : Address
  cctpMintChain : Bytes32
  cctpMintRecipient : Bytes32
deriving DecidableEq

/-- `abi.encodePacked(merchant, cctpMintChain, cctpMintRecipient)`. -/
def Route.packed (r : Route) : Bytes :=
  beBytes 20 r.merchant.toNat ++ beBytes 32 r.cctpMintChain.toNat
    ++ beBytes 32 r.cctpMintRecipient.toNat

/-- The packed encoding has fields of fixed width, so it determines the route. -/
theorem Route.packed_injective : Function.Injective Route.packed := by
  intro r r' h
  obtain ⟨h, hrecipient⟩ := List.append_inj' h (by simp)
  obtain ⟨hmerchant, hchain⟩ := List.append_inj' h (by simp)
  cases r
  cases r'
  rw [Route.mk.injEq]
  exact ⟨beBytes_toNat_inj rfl hmerchant, beBytes_toNat_inj rfl hchain,
    beBytes_toNat_inj rfl hrecipient⟩

namespace ReceiverFactory

/-- The address of a route's receiver. -/
def addressOf (f : ReceiverFactory) (k : Create2) (r : Route) : Address :=
  f.predictReceiverAddress k r.merchant r.cctpMintChain r.cctpMintRecipient

/-- What a route's receiver is initialised to. -/
def pins (f : ReceiverFactory) (r : Route) : ChainXReceiver :=
  f.pinned r.merchant r.cctpMintChain r.cctpMintRecipient

/-- `_checkRoute` lets the route pass. -/
def Accepts (f : ReceiverFactory) (r : Route) : Prop :=
  f.checkRoute r.cctpMintChain r.cctpMintRecipient = .ok ()

/-- No address of the setup is zero. -/
def Configured (f : ReceiverFactory) : Prop :=
  ¬ (f.token = 0 ∨ f.treasury = 0 ∨ f.tokenMessenger = 0)

/-- The factory with one more receiver in a merchant's list. -/
def push (f : ReceiverFactory) (merchant receiver : Address) : ReceiverFactory :=
  { f with
    merchantReceiversMap := Function.update f.merchantReceiversMap merchant
      (f.merchantReceiversMap merchant ++ [receiver]) }

/-- What a successful registration found and did. -/
structure Registers (f : ReceiverFactory) (k : Create2) (w : World) (r : Route)
    (f' : ReceiverFactory) (w' : World) : Prop where
  room : (f.merchantReceiversMap r.merchant).length < MAX_RECEIVERS_PER_MERCHANT
  accepts : f.Accepts r
  vacant : w.receivers (f.addressOf k r) = none
  configured : f.Configured
  merchant : r.merchant ≠ 0
  factory : f' = f.push r.merchant (f.addressOf k r)
  receivers : w'.receivers
    = Function.update w.receivers (f.addressOf k r) (some (f.pins r))

/-- The world with a blank receiver at `clone`. -/
abbrev withBlank (w : World) (clone : Address) : World :=
  { w with receivers := Function.update w.receivers clone (some .blank) }

/-- The spec of `initialize` on a blank clone. -/
theorem initialize_blank {f : ReceiverFactory} {w w' : World} {clone : Address} {r : Route}
    (h : initializeCall (withBlank w clone) clone f.token f.treasury f.tokenMessenger
      (f.destinationDomain r.cctpMintChain) r.cctpMintRecipient r.merchant = .ok w') :
    f.Configured ∧ r.merchant ≠ 0 ∧
      w'.receivers = Function.update w.receivers clone (some (f.pins r)) := by
  obtain ⟨c, -, h⟩ := bind_ok.mp h
  obtain ⟨c', hc', h⟩ := bind_ok.mp h
  obtain ⟨_, -, hc'⟩ := bind_ok.mp hc'
  obtain ⟨_, hsetup, hc'⟩ := bind_ok.mp hc'
  obtain ⟨_, hmerchant, hc'⟩ := bind_ok.mp hc'
  obtain rfl := Except.ok.inj hc'
  obtain rfl := Except.ok.inj h
  exact ⟨require_ok.mp hsetup, require_ok.mp hmerchant, Function.update_idem ..⟩

theorem registers_of_ok {f f' : ReceiverFactory} {k : Create2} {w w' : World} {r : Route}
    {receiver : Address}
    (h : f.registerMerchant k w r.merchant r.cctpMintChain r.cctpMintRecipient
      = .ok (f', w', receiver)) :
    receiver = f.addressOf k r ∧ f.Registers k w r f' w' := by
  obtain ⟨_, hroom, h⟩ := bind_ok.mp h
  obtain ⟨_, hroute, h⟩ := bind_ok.mp h
  obtain ⟨⟨w₁, clone⟩, hclone, h⟩ := bind_ok.mp h
  obtain ⟨w₂, hinit, h⟩ := bind_ok.mp h
  obtain ⟨rfl, hrest⟩ := Prod.mk.inj (Except.ok.inj h)
  obtain ⟨rfl, rfl⟩ := Prod.mk.inj hrest
  obtain ⟨rfl, hvacant, rfl⟩ := cloneDeterministic_ok hclone
  obtain ⟨hsetup, hmerchant, hreceivers⟩ := initialize_blank hinit
  exact ⟨rfl, not_le.mp (require_ok.mp hroom), hroute, hvacant, hsetup, hmerchant, rfl, hreceivers⟩

/-- **When `registerMerchant` succeeds.** -/
theorem registerMerchant_succeeds_iff {f : ReceiverFactory} {k : Create2} {w : World} {r : Route} :
    Succeeds (f.registerMerchant k w r.merchant r.cctpMintChain r.cctpMintRecipient) ↔
      (f.merchantReceiversMap r.merchant).length < MAX_RECEIVERS_PER_MERCHANT ∧ f.Accepts r ∧
        w.receivers (f.addressOf k r) = none ∧ f.Configured ∧ r.merchant ≠ 0 := by
  constructor
  · rintro ⟨⟨f', w', receiver⟩, h⟩
    obtain ⟨-, hreg⟩ := registers_of_ok h
    exact ⟨hreg.room, hreg.accepts, hreg.vacant, hreg.configured, hreg.merchant⟩
  · rintro ⟨hroom, hroute, hvacant, hsetup, hmerchant⟩
    have hclone : f.cloneDeterministic k w (salt k r.merchant r.cctpMintChain r.cctpMintRecipient)
        = .ok (withBlank w (f.addressOf k r), f.addressOf k r) := if_pos hvacant
    have hinit : Succeeds (initializeCall (withBlank w (f.addressOf k r)) (f.addressOf k r)
        f.token f.treasury f.tokenMessenger (f.destinationDomain r.cctpMintChain)
        r.cctpMintRecipient r.merchant) := by
      refine succeeds_bind.mpr ⟨.blank, ?_, ?_⟩
      · exact okOr_ok.mpr (Function.update_self ..)
      · refine succeeds_bind.mpr ⟨f.pins r, ?_, succeeds_ok _⟩
        exact (require_bind_of rfl).trans
          ((require_bind_of hsetup).trans (require_bind_of hmerchant))
    obtain ⟨w', hw'⟩ := hinit
    refine succeeds_require_bind.mpr ⟨not_le.mpr hroom, ?_⟩
    refine succeeds_bind.mpr ⟨(), hroute, ?_⟩
    refine succeeds_bind.mpr ⟨_, hclone, ?_⟩
    exact succeeds_bind.mpr ⟨w', hw', succeeds_ok _⟩

end ReceiverFactory

/-! ## Runs -/

/-- A factory and the world around it. -/
structure Deployment where
  factory : ReceiverFactory
  world : World

inductive FactoryAct
  | announced (r : Route)
  | registered (r : Route) (receiver : Address)
  | initialized (receiver : Address)
  | reverted (error : Revert)
  | elsewhere

/-- One transaction.  The factory's functions and `initialize` are called by anyone, with any
arguments. -/
inductive FactoryStep (k : Create2) : Deployment → FactoryAct → Deployment → Prop
  | announced {f : ReceiverFactory} {w w' : World} {r : Route}
      (h : f.announceReceiver k w r.merchant r.cctpMintChain r.cctpMintRecipient = .ok w') :
      FactoryStep k ⟨f, w⟩ (.announced r) ⟨f, w'⟩
  | announceReverts {f : ReceiverFactory} {w : World} {r : Route} {e : Revert}
      (h : f.announceReceiver k w r.merchant r.cctpMintChain r.cctpMintRecipient = .error e) :
      FactoryStep k ⟨f, w⟩ (.reverted e) ⟨f, w⟩
  | registered {f f' : ReceiverFactory} {w w' : World} {r : Route} {receiver : Address}
      (h : f.registerMerchant k w r.merchant r.cctpMintChain r.cctpMintRecipient
        = .ok (f', w', receiver)) :
      FactoryStep k ⟨f, w⟩ (.registered r receiver) ⟨f', w'⟩
  | registerReverts {f : ReceiverFactory} {w : World} {r : Route} {e : Revert}
      (h : f.registerMerchant k w r.merchant r.cctpMintChain r.cctpMintRecipient = .error e) :
      FactoryStep k ⟨f, w⟩ (.reverted e) ⟨f, w⟩
  | initialized {f : ReceiverFactory} {w w' : World}
      {receiver token treasury messenger merchant : Address} {domain : Domain}
      {recipient : Bytes32}
      (h : initializeCall w receiver token treasury messenger domain recipient merchant
        = .ok w') :
      FactoryStep k ⟨f, w⟩ (.initialized receiver) ⟨f, w'⟩
  | initializeReverts {f : ReceiverFactory} {w : World}
      {receiver token treasury messenger merchant : Address} {domain : Domain}
      {recipient : Bytes32} {e : Revert}
      (h : initializeCall w receiver token treasury messenger domain recipient merchant
        = .error e) :
      FactoryStep k ⟨f, w⟩ (.reverted e) ⟨f, w⟩
  | elsewhere {f : ReceiverFactory} {w w' : World} (h : w'.receivers = w.receivers) :
      FactoryStep k ⟨f, w⟩ .elsewhere ⟨f, w'⟩

/-- A sweep is a step that leaves the receivers' storage alone. -/
theorem FactoryStep.of_sweep {x : Callees} (hx : StandardCallees x) {k : Create2}
    {f : ReceiverFactory} {w w' : World} {self origin : Address} {c : ChainXReceiver}
    {r : SweepResult} (hc : w.receivers self = some c) (hd : Distinct c self)
    (ho : Outsider c self origin) (h : sweep x w self origin = .ok (w', r)) :
    FactoryStep k ⟨f, w⟩ .elsewhere ⟨f, w'⟩ :=
  .elsewhere (sweep_cases hx hc hd ho h).2.receivers

/-- The route a transaction registers. -/
def enteredRoute (t : Transition Deployment FactoryAct) : Option Route :=
  match t.act with
  | .registered r _ => some r
  | _ => none

/-- The hashes of the routes `R` do not collide, and CREATE2 gives their salts different
addresses. -/
structure Collisionless (k : Create2) (f : ReceiverFactory) (R : Set Route) : Prop where
  keccak256 : Set.InjOn k.keccak256 (Route.packed '' R)
  create2 : Set.InjOn
    (fun salt => k.predictDeterministicAddress f.receiverImplementation salt f.this)
    ((fun r => k.keccak256 r.packed) '' R)

/-- Different routes have different receivers. -/
theorem Collisionless.addressOf_injOn {k : Create2} {f : ReceiverFactory} {R : Set Route}
    (h : Collisionless k f R) : Set.InjOn (f.addressOf k) R := by
  intro r hr r' hr' heq
  have hsalt := h.create2 ⟨r, hr, rfl⟩ ⟨r', hr', rfl⟩ heq
  exact Route.packed_injective (h.keccak256 ⟨r, hr, rfl⟩ ⟨r', hr', rfl⟩ hsalt)

/-- The factory `f₀`, as deployed, has registered the routes `l`. -/
structure FactoryTracks (k : Create2) (f₀ : ReceiverFactory) (R : Set Route) (d : Deployment)
    (l : List Route) : Prop where
  setup : ∃ lists, d.factory = { f₀ with merchantReceiversMap := lists }
  accepted : ∀ r ∈ l, f₀.Accepts r ∧ r.merchant ≠ 0 ∧ f₀.Configured
  registry : Registry.Tracks Route.merchant (f₀.addressOf k) f₀.pins R
    d.factory.merchantReceiversMap d.world.receivers l

section
variable {k : Create2} {f₀ : ReceiverFactory} {R : Set Route}

/-- **The step lemma.**  Each call, seen through its log, is a step of the registry. -/
theorem registered_step (hcol : Collisionless k f₀ R) {d d' : Deployment} {a : FactoryAct}
    {l : List Route} (h : FactoryStep k d a d') (hR : ∀ r ∈ enteredRoute ⟨d, a, d'⟩, r ∈ R)
    (hd : FactoryTracks k f₀ R d l) :
    Registry.Step Route.merchant MAX_RECEIVERS_PER_MERCHANT l
        (l ++ (enteredRoute ⟨d, a, d'⟩).toList) ∧
      FactoryTracks k f₀ R d' (l ++ (enteredRoute ⟨d, a, d'⟩).toList) := by
  cases h with
  | @announced f w w' r h =>
      obtain ⟨_, -, h⟩ := bind_ok.mp h
      obtain rfl := Except.ok.inj h
      simp only [enteredRoute, Option.toList_none, List.append_nil]
      exact ⟨.idle l, hd.setup, hd.accepted, hd.registry⟩
  | announceReverts =>
      simp only [enteredRoute, Option.toList_none, List.append_nil]
      exact ⟨.idle l, hd⟩
  | @registered f f' w w' r receiver h =>
      have hr : r ∈ R := hR r rfl
      obtain ⟨-, hreg⟩ := ReceiverFactory.registers_of_ok h
      obtain ⟨lists, hf⟩ := hd.setup
      obtain rfl : f = { f₀ with merchantReceiversMap := lists } := hf
      have hnew : r ∉ l := (hd.registry.vacant_iff hr).mp hreg.vacant
      have hroom := hreg.room
      rw [hd.registry.lists, List.length_map] at hroom
      refine ⟨.enter hnew hroom, ⟨_, hreg.factory⟩, ?_, ?_⟩
      · intro r' hr'
        rcases List.mem_append.mp hr' with hr' | hr'
        · exact hd.accepted r' hr'
        · rw [List.mem_singleton.mp hr']
          exact ⟨hreg.accepts, hreg.merchant, hreg.configured⟩
      · rw [hreg.factory]
        show Registry.Tracks _ _ _ R _ w'.receivers _
        rw [hreg.receivers]
        exact hd.registry.enter hcol.addressOf_injOn hr hnew
  | registerReverts =>
      simp only [enteredRoute, Option.toList_none, List.append_nil]
      exact ⟨.idle l, hd⟩
  | @initialized f w w' receiver _ _ _ _ _ _ h =>
      simp only [enteredRoute, Option.toList_none, List.append_nil]
      refine ⟨.idle l, hd.setup, hd.accepted, hd.registry.congr ?_⟩
      -- a receiver that lets itself be initialised is none of the routes'
      intro r hr
      obtain ⟨c, hc, h⟩ := bind_ok.mp h
      obtain ⟨c', hc', h⟩ := bind_ok.mp h
      obtain rfl := Except.ok.inj h
      obtain ⟨hblank, -⟩ := ChainXReceiver.initializeReceiver_ok hc'
      refine Function.update_of_ne (fun heq => ?_) _ _
      have hc := okOr_ok.mp hc
      rw [← heq] at hc
      by_cases hmem : r ∈ l
      · have hfilled := hd.registry.filled r hmem
        rw [hc] at hfilled
        rw [Option.some.inj hfilled] at hblank
        exact nomatch hblank
      · have hvacant := hd.registry.vacant r hr hmem
        rw [hc] at hvacant
        exact nomatch hvacant
  | initializeReverts =>
      simp only [enteredRoute, Option.toList_none, List.append_nil]
      exact ⟨.idle l, hd⟩
  | @elsewhere f w w' h =>
      simp only [enteredRoute, Option.toList_none, List.append_nil]
      exact ⟨.idle l, hd.setup, hd.accepted, hd.registry.congr fun r _ => by rw [h]⟩

/-- A factory that has registered nothing, where nothing stands at its routes' addresses. -/
structure Fresh (k : Create2) (R : Set Route) (d : Deployment) : Prop where
  lists : ∀ merchant, d.factory.merchantReceiversMap merchant = []
  vacant : ∀ r ∈ R, d.world.receivers (d.factory.addressOf k r) = none

theorem Fresh.tracks {d₀ : Deployment} (h : Fresh k R d₀) : FactoryTracks k d₀.factory R d₀ [] where
  setup := ⟨_, rfl⟩
  accepted := fun _ hr => nomatch hr
  registry :=
    { lists := h.lists
      used := fun _ hr => nomatch hr
      filled := fun _ hr => nomatch hr
      vacant := fun r hr _ => h.vacant r hr }

/-- The run lemma: a run of the factory, seen through its log, is a run of the registry. -/
theorem registered_run {d₀ d : Deployment} {tr : List (Transition Deployment FactoryAct)}
    (hcol : Collisionless k d₀.factory R) (hfresh : Fresh k R d₀)
    (hrun : Steps (FactoryStep k) d₀ tr d) (hR : ∀ t ∈ tr, ∀ r ∈ enteredRoute t, r ∈ R) :
    Relation.ReflTransGen (Registry.Step Route.merchant MAX_RECEIVERS_PER_MERCHANT) []
        (log enteredRoute tr) ∧
      FactoryTracks k d₀.factory R d (log enteredRoute tr) :=
  Steps.log_simulation (P := fun t => ∀ r ∈ enteredRoute t, r ∈ R)
    (fun _ _ _ _ hs hP hd => registered_step hcol hs hP hd) hrun hR hfresh.tracks

end

/-- The clones' storage. -/
def clones (d : Deployment) : Address → Option ChainXReceiver := d.world.receivers

/-- What every reachable state pins.  `f₀` is the factory as it was constructed, `R` the routes
whose addresses are told apart. -/
structure RoutesPinned (k : Create2) (f₀ : ReceiverFactory) (R : Set Route)
    (tr : List (Transition Deployment FactoryAct)) (d : Deployment) : Prop where
  nodup : ∀ merchant, (d.factory.getMerchantReceivers merchant).Nodup
  capped : ∀ merchant, d.factory.getReceiverCount merchant ≤ MAX_RECEIVERS_PER_MERCHANT
  /-- each entry is the address of one accepted route of the merchant; its clone was initialised
  once, to what the constructed factory pins for the route, and has not changed since -/
  entry : ∀ merchant, ∀ receiver ∈ d.factory.getMerchantReceivers merchant,
    ∃ r, r.merchant = merchant ∧ f₀.Accepts r ∧ receiver = d.factory.addressOf k r ∧
      (∀ r' ∈ R, d.factory.addressOf k r' = receiver → r' = r) ∧
      FilledOnce enteredRoute clones r receiver (f₀.pins r) tr
  distinct : ∀ r ∈ R, ∀ r' ∈ R, r ≠ r' → d.factory.addressOf k r ≠ d.factory.addressOf k r'
  listed : ∀ r ∈ R, ∀ c, d.world.receivers (d.factory.addressOf k r) = some c →
    d.factory.addressOf k r ∈ d.factory.getMerchantReceivers r.merchant ∧ c = f₀.pins r
  announces : ∀ t ∈ tr, ∀ r, t.act = .announced r →
    t.post.world.events = t.pre.world.events
      ++ [.receiverAnnounced r.merchant (d.factory.addressOf k r) r.cctpMintChain
        r.cctpMintRecipient]
  deploys : ∀ t ∈ tr, ∀ r receiver, t.act = .registered r receiver →
    receiver = d.factory.addressOf k r
  reverted : ∀ t ∈ tr, ∀ e, t.act = .reverted e → t.post = t.pre

theorem construct_lists {this impl token treasury messenger : Address}
    {starknet base solana eth arb monad : Domain} {f₀ : ReceiverFactory}
    (h : ReceiverFactory.construct this impl token treasury messenger starknet base solana eth arb
      monad = .ok f₀) (merchant : Address) : f₀.merchantReceiversMap merchant = [] := by
  obtain ⟨_, -, h⟩ := bind_ok.mp h
  obtain ⟨_, -, h⟩ := bind_ok.mp h
  obtain rfl := Except.ok.inj h
  rfl

/-- **Route pinning.**  From its construction on, through any calls by anyone. -/
theorem routes_pinned {k : Create2} {R : Set Route} {this impl token treasury messenger : Address}
    {starknet base solana eth arb monad : Domain} {f₀ : ReceiverFactory} {w₀ : World}
    {d : Deployment} {tr : List (Transition Deployment FactoryAct)}
    (hconstruct : ReceiverFactory.construct this impl token treasury messenger starknet base solana
      eth arb monad = .ok f₀)
    (hcol : Collisionless k f₀ R) (hvacant : ∀ r ∈ R, w₀.receivers (f₀.addressOf k r) = none)
    (hrun : Steps (FactoryStep k) ⟨f₀, w₀⟩ tr d)
    (hR : ∀ t ∈ tr, ∀ r ∈ enteredRoute t, r ∈ R) : RoutesPinned k f₀ R tr d := by
  have hfresh : Fresh k R ⟨f₀, w₀⟩ := ⟨construct_lists hconstruct, hvacant⟩
  obtain ⟨hregistry, htracks⟩ := @registered_run _ _ ⟨f₀, w₀⟩ _ _ hcol hfresh hrun hR
  have hvalid := Registry.valid_run hregistry Registry.valid_nil
  have hinj := hcol.addressOf_injOn
  obtain ⟨lists, hf⟩ := htracks.setup
  have haddr : ∀ r, d.factory.addressOf k r = f₀.addressOf k r := by
    intro r
    rw [hf]
    rfl
  have hbefore : ∀ t ∈ tr, ∀ r, t.pre.factory.addressOf k r = f₀.addressOf k r := by
    intro t ht r
    obtain ⟨l, rest, rfl⟩ := List.append_of_mem ht
    obtain ⟨lists', hpre⟩ := (@registered_run _ _ ⟨f₀, w₀⟩ _ _ hcol hfresh hrun.cut.1
      (fun u hu => hR u (List.mem_append_left _ hu))).2.setup
    rw [hpre]
    rfl
  have honce : ∀ r ∈ log enteredRoute tr,
      FilledOnce enteredRoute clones r (f₀.addressOf k r) (f₀.pins r) tr := by
    intro r hr
    refine @filledOnce_of_tracks _ _ _ _ _ _ _ _ _ Route.merchant _ _ _
      (fun d => d.factory.merchantReceiversMap) _ _ _ _ hrun ?_ hvalid.nodup _ hr
      (htracks.registry.used r hr)
    rintro l m rest rfl hl
    exact (@registered_run _ _ ⟨f₀, w₀⟩ _ _ hcol hfresh hl
      (fun u hu => hR u (List.mem_append_left _ hu))).2.registry
  refine ⟨htracks.registry.nodup_list hinj hvalid, htracks.registry.length_list hvalid, ?_, ?_, ?_,
    ?_, ?_, ?_⟩
  · intro merchant receiver hreceiver
    have hmem : receiver ∈ d.factory.merchantReceiversMap merchant := hreceiver
    rw [htracks.registry.lists] at hmem
    obtain ⟨r, hr, rfl⟩ := List.mem_map.mp hmem
    obtain ⟨hr, hmerchant⟩ := (mem_ofOwner _).mp hr
    refine ⟨r, hmerchant, (htracks.accepted r hr).1, (haddr r).symm, ?_, honce r hr⟩
    intro r' hr' heq
    exact hinj hr' (htracks.registry.used r hr) ((haddr r').symm.trans heq)
  · intro r hr r' hr' hne heq
    rw [haddr, haddr] at heq
    exact hne (hinj hr hr' heq)
  · intro r hr c hc
    rw [haddr] at hc ⊢
    have hmem : r ∈ log enteredRoute tr := by
      by_contra hnot
      rw [htracks.registry.vacant r hr hnot] at hc
      exact nomatch hc
    have hfilled := htracks.registry.filled r hmem
    rw [hc] at hfilled
    exact ⟨(htracks.registry.mem_list_iff hinj hr).mpr hmem, Option.some.inj hfilled⟩
  · intro t ht r hact
    have haddr' := hbefore t ht r
    obtain ⟨hs, -⟩ := hrun.mem_split ht
    obtain ⟨pre, act, post⟩ := t
    subst hact
    cases hs with
    | announced h =>
        obtain ⟨_, -, h⟩ := bind_ok.mp h
        obtain rfl := Except.ok.inj h
        rw [haddr, ← haddr']
        rfl
  · intro t ht r receiver hact
    have haddr' := hbefore t ht r
    obtain ⟨hs, -⟩ := hrun.mem_split ht
    obtain ⟨pre, act, post⟩ := t
    subst hact
    cases hs with
    | registered h =>
        obtain ⟨rfl, -⟩ := ReceiverFactory.registers_of_ok h
        exact haddr'.trans (haddr r).symm
  · intro t ht e hact
    obtain ⟨hs, -⟩ := hrun.mem_split ht
    obtain ⟨pre, act, post⟩ := t
    subst hact
    cases hs with
    | announceReverts => rfl
    | registerReverts => rfl
    | initializeReverts => rfl

/-! ## A merchant with two routes -/

namespace FactorySample

def merchant : Address := 0xa1

/-- On its own chain, and toward an account on Solana. -/
def home : Route := ⟨merchant, 0, 0⟩
def solana : Route := ⟨merchant, bytes32Literal "SOLANA".toList, 0x77⟩

/-- Keccak and CREATE2 on the two routes, for the factory at `0xf0`. -/
def create2 : Create2 where
  keccak256 bs :=
    if bs = home.packed then 0x1da47870c474e747b1c23832a333e2fe39a8454b2cf0e3e8a0669384eb3e8634
    else if bs = solana.packed then
      0x3f70781f5b4e993fb13a070d26a8216009720628910e9a9155619a3ce2e9d0b8
    else 0
  predictDeterministicAddress impl salt this :=
    if impl = 0xf1 ∧ this = 0xf0 then
      if salt = 0x1da47870c474e747b1c23832a333e2fe39a8454b2cf0e3e8a0669384eb3e8634 then
        0xdf53af065055632633913ff8c217a005d10d8808
      else 0x44fe948adea0ff3f1e651a045544fde3299abc81
    else 0

/-- What the constructor leaves, for the token 1, the treasury 2 and the messenger 3. -/
def factory : ReceiverFactory where
  this := 0xf0
  receiverImplementation := 0xf1
  token := 1
  treasury := 2
  tokenMessenger := 3
  merchantReceiversMap := fun _ => []
  validDomains := fun name => ((ReceiverFactory.chainTable 25 6 5 0 3 15).lookup name).isSome
  destinationDomain := fun name => ((ReceiverFactory.chainTable 25 6 5 0 3 15).lookup name).getD 0

theorem constructed :
    ReceiverFactory.construct 0xf0 0xf1 1 2 3 25 6 5 0 3 15 = .ok factory := rfl

theorem collisionless : Collisionless create2 factory {home, solana} := by
  constructor
  · rintro _ ⟨r, hr, rfl⟩ _ ⟨r', hr', rfl⟩ heq
    rcases hr with rfl | rfl
    · rcases hr' with rfl | rfl
      · rfl
      · exact absurd heq (by decide +kernel)
    · rcases hr' with rfl | rfl
      · exact absurd heq (by decide +kernel)
      · rfl
  · rintro _ ⟨r, hr, rfl⟩ _ ⟨r', hr', rfl⟩ heq
    rcases hr with rfl | rfl
    · rcases hr' with rfl | rfl
      · rfl
      · exact absurd heq (by decide +kernel)
    · rcases hr' with rfl | rfl
      · exact absurd heq (by decide +kernel)
      · rfl

end FactorySample

open FactorySample in
set_option maxRecDepth 20000 in
/-- Both routes are announced and registered, and the first once more, in vain. -/
theorem routes_pinned_twice : ∃ tr d,
    Steps (FactoryStep create2) ⟨factory, sampleWorld⟩ tr d ∧
    tr.map Transition.act = [.announced solana,
      .registered home 0xdf53af065055632633913ff8c217a005d10d8808,
      .registered solana 0x44fe948adea0ff3f1e651a045544fde3299abc81, .reverted .external] ∧
    d.factory.getMerchantReceivers merchant = [0xdf53af065055632633913ff8c217a005d10d8808,
      0x44fe948adea0ff3f1e651a045544fde3299abc81] ∧
    RoutesPinned create2 factory {home, solana} tr d := by
  obtain ⟨w₁, hannounce, f₂, w₂, hhome, f₃, w₃, hsolana, hagain, hlist⟩ :
      ∃ w₁, factory.announceReceiver create2 sampleWorld merchant solana.cctpMintChain 0x77
          = .ok w₁ ∧
      ∃ f₂ w₂, factory.registerMerchant create2 w₁ merchant 0 0
          = .ok (f₂, w₂, 0xdf53af065055632633913ff8c217a005d10d8808) ∧
      ∃ f₃ w₃, f₂.registerMerchant create2 w₂ merchant solana.cctpMintChain 0x77
          = .ok (f₃, w₃, 0x44fe948adea0ff3f1e651a045544fde3299abc81) ∧
        f₃.registerMerchant create2 w₃ merchant 0 0 = .error .external ∧
        f₃.getMerchantReceivers merchant = [0xdf53af065055632633913ff8c217a005d10d8808,
          0x44fe948adea0ff3f1e651a045544fde3299abc81] :=
    ⟨_, rfl, _, _, rfl, _, _, rfl, rfl, rfl⟩
  have hrun : Steps (FactoryStep create2) ⟨factory, sampleWorld⟩ _ ⟨f₃, w₃⟩ :=
    .step (.announced (r := solana) hannounce) (.step (.registered (r := home) hhome)
      (.step (.registered (r := solana) hsolana)
        (.step (.registerReverts (r := home) hagain) (.refl _))))
  refine ⟨_, _, hrun, rfl, hlist, routes_pinned constructed collisionless (fun _ _ => rfl) hrun ?_⟩
  intro t ht r hr
  simp only [List.mem_cons, List.not_mem_nil, or_false] at ht
  rcases ht with rfl | rfl | rfl | rfl
  · exact nomatch hr
  · exact .inl (Option.some.inj hr).symm
  · exact .inr (Option.some.inj hr).symm
  · exact nomatch hr

end Beanie.Evm
