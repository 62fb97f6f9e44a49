/-
# `Beanie.Starknet.Announced` — the factory over runs, and what an announcement is worth

The Starknet factory keeps the same registry as the EVM's: `registered_step`
is the step lemma and `Reached.tracks` the run lemma.  An announced receiver
is served when it is registered or can be, and when a sweep of it succeeds
once it is registered and funded.

`announce_receiver` checks the route only: not the merchant, nor the room
left in the merchant's list, nor the route's domain.  `announced_served_iff`
is the exact condition.
-/
import Beanie.Lib.Registry
import Beanie.Starknet.ReceiverFactory

namespace Beanie.Starknet

/-! ## Runs -/

/-- A factory and the world around it. -/
structure Deployment where
  factory : ReceiverFactory
  world : World

inductive FactoryAct
  | announced (r : Route)
  | registered (r : Route) (receiver : ContractAddress)
  | initialized (receiver : ContractAddress)
  | reverted (error : Panic)
  | elsewhere

/-- One transaction.  The factory's functions and `initialize` are called by anyone, with any
arguments. -/
inductive FactoryStep (k : Deployer) : Deployment → FactoryAct → Deployment → Prop
  | announced {f : ReceiverFactory} {w w' : World} {r : Route}
      (h : f.announce_receiver k w r.merchant r.cctp_mint_chain r.cctp_mint_recipient = .ok w') :
      FactoryStep k ⟨f, w⟩ (.announced r) ⟨f, w'⟩
  | announceReverts {f : ReceiverFactory} {w : World} {r : Route} {e : Panic}
      (h : f.announce_receiver k w r.merchant r.cctp_mint_chain r.cctp_mint_recipient
        = .error e) :
      FactoryStep k ⟨f, w⟩ (.reverted e) ⟨f, w⟩
  | registered {f f' : ReceiverFactory} {w w' : World} {r : Route} {receiver : ContractAddress}
      (h : f.register_merchant k w r.merchant r.cctp_mint_chain r.cctp_mint_recipient
        = .ok (f', w', receiver)) :
      FactoryStep k ⟨f, w⟩ (.registered r receiver) ⟨f', w'⟩
  | registerReverts {f : ReceiverFactory} {w : World} {r : Route} {e : Panic}
      (h : f.register_merchant k w r.merchant r.cctp_mint_chain r.cctp_mint_recipient
        = .error e) :
      FactoryStep k ⟨f, w⟩ (.reverted e) ⟨f, w⟩
  | initialized {f : ReceiverFactory} {w w' : World}
      {receiver token treasury messenger merchant : ContractAddress} {domain : BitVec 32}
      {recipient : U256}
      (h : initializeCall w receiver token treasury messenger domain recipient merchant
        = .ok w') :
      FactoryStep k ⟨f, w⟩ (.initialized receiver) ⟨f, w'⟩
  | initializeReverts {f : ReceiverFactory} {w : World}
      {receiver token treasury messenger merchant : ContractAddress} {domain : BitVec 32}
      {recipient : U256} {e : Panic}
      (h : initializeCall w receiver token treasury messenger domain recipient merchant
        = .error e) :
      FactoryStep k ⟨f, w⟩ (.reverted e) ⟨f, w⟩
  | elsewhere {f : ReceiverFactory} {w w' : World} (h : w'.receivers = w.receivers) :
      FactoryStep k ⟨f, w⟩ .elsewhere ⟨f, w'⟩

/-- A sweep is a step that leaves the receivers' storage alone. -/
theorem FactoryStep.of_sweep {x : Callees} (hx : InterfaceCallees x) {k : Deployer}
    {f : ReceiverFactory} {w w' : World} {self caller : ContractAddress} {c : StarknetReceiver}
    {r : SweepResult} (hc : w.receivers self = some c)
    (h : sweep x w self caller = .ok (w', r)) : FactoryStep k ⟨f, w⟩ .elsewhere ⟨f, w'⟩ := by
  rcases sweep_cases hx hc h with ⟨-, rfl, -⟩ | ⟨-, -, hsent⟩
  · exact .elsewhere rfl
  · exact .elsewhere hsent.receivers

/-- The route a transaction registers. -/
def enteredRoute (t : Transition Deployment FactoryAct) : Option Route :=
  match t.act with
  | .registered r _ => some r
  | _ => none

/-- The hashes of the routes `R` do not collide, and their salts get different addresses. -/
structure Collisionless (k : Deployer) (f : ReceiverFactory) (R : Set Route) : Prop where
  poseidon : Set.InjOn k.poseidon_hash_span (Route.span '' R)
  address : Set.InjOn
    (fun salt => k.calculate_contract_address_from_deploy_syscall salt f.receiver_class_hash []
      f.this)
    ((fun r => k.poseidon_hash_span r.span) '' R)

/-- Different routes have different receivers. -/
theorem Collisionless.addressOf_injOn {k : Deployer} {f : ReceiverFactory} {R : Set Route}
    (h : Collisionless k f R) : Set.InjOn (f.addressOf k) R := by
  intro r hr r' hr' heq
  have hsalt := h.address ⟨r, hr, rfl⟩ ⟨r', hr', rfl⟩ heq
  exact Route.span_injective (h.poseidon ⟨r, hr, rfl⟩ ⟨r', hr', rfl⟩ hsalt)

/-- The factory `f₀`, as deployed, has registered the routes `l`. -/
structure FactoryTracks (k : Deployer) (f₀ : ReceiverFactory) (R : Set Route) (d : Deployment)
    (l : List Route) : Prop where
  setup : ∃ lists, d.factory = { f₀ with merchant_receivers := lists }
  merchants : ∀ r ∈ l, r.merchant ≠ 0
  registry : Registry.Tracks Route.merchant (f₀.addressOf k) f₀.pins R
    d.factory.merchant_receivers d.world.receivers l

section
variable {k : Deployer} {f₀ : ReceiverFactory} {R : Set Route}

/-- **The step lemma.**  Each call, seen through its log, is a step of the registry. -/
theorem registered_step (hcol : Collisionless k f₀ R) {d d' : Deployment} {a : FactoryAct}
    {l : List Route} (h : FactoryStep k d a d') (hR : ∀ r ∈ enteredRoute ⟨d, a, d'⟩, r ∈ R)
    (hd : FactoryTracks k f₀ R d l) :
    Registry.Step Route.merchant MAX_RECEIVERS_PER_MERCHANT l
        (l ++ (enteredRoute ⟨d, a, d'⟩).toList) ∧
      FactoryTracks k f₀ R d' (l ++ (enteredRoute ⟨d, a, d'⟩).toList) := by
  cases h with
  | announced h =>
      obtain ⟨_, -, h⟩ := bind_ok.mp h
      obtain rfl := Except.ok.inj h
      simp only [enteredRoute, Option.toList_none, List.append_nil]
      exact ⟨.idle l, hd.setup, hd.merchants, hd.registry⟩
  | announceReverts =>
      simp only [enteredRoute, Option.toList_none, List.append_nil]
      exact ⟨.idle l, hd⟩
  | @registered f f' w w' r receiver h =>
      have hr : r ∈ R := hR r rfl
      obtain ⟨-, hreg⟩ := ReceiverFactory.registers_of_ok h
      obtain ⟨lists, hf⟩ := hd.setup
      obtain rfl : f = { f₀ with merchant_receivers := lists } := hf
      have hnew : r ∉ l := (hd.registry.vacant_iff hr).mp hreg.vacant
      have hroom := hreg.room
      rw [hd.registry.lists, List.length_map] at hroom
      refine ⟨.enter hnew hroom, ⟨_, hreg.factory⟩, ?_, ?_⟩
      · intro r' hr'
        rcases List.mem_append.mp hr' with hr' | hr'
        · exact hd.merchants r' hr'
        · rw [List.mem_singleton.mp hr']
          exact hreg.merchant
      · rw [hreg.factory]
        show Registry.Tracks _ _ _ R _ w'.receivers _
        rw [hreg.receivers]
        exact hd.registry.enter hcol.addressOf_injOn hr hnew
  | registerReverts =>
      simp only [enteredRoute, Option.toList_none, List.append_nil]
      exact ⟨.idle l, hd⟩
  | @initialized f w w' receiver _ _ _ _ _ _ h =>
      simp only [enteredRoute, Option.toList_none, List.append_nil]
      refine ⟨.idle l, hd.setup, hd.merchants, hd.registry.congr ?_⟩
      -- a receiver that lets itself be initialised is none of the routes'
      intro r hr
      obtain ⟨c, hc, h⟩ := bind_ok.mp h
      obtain ⟨_, hblank, h⟩ := bind_ok.mp h
      obtain ⟨_, -, h⟩ := bind_ok.mp h
      obtain rfl := Except.ok.inj h
      refine Function.update_of_ne (fun heq => ?_) _ _
      have hc := okOr_ok.mp hc
      rw [← heq] at hc
      by_cases hmem : r ∈ l
      · have hfilled := hd.registry.filled r hmem
        rw [hc] at hfilled
        rw [Option.some.inj hfilled] at hblank
        exact nomatch require_ok.mp hblank
      · have hvacant := hd.registry.vacant r hr hmem
        rw [hc] at hvacant
        exact nomatch hvacant
  | initializeReverts =>
      simp only [enteredRoute, Option.toList_none, List.append_nil]
      exact ⟨.idle l, hd⟩
  | elsewhere h =>
      simp only [enteredRoute, Option.toList_none, List.append_nil]
      exact ⟨.idle l, hd.setup, hd.merchants, hd.registry.congr fun r _ => by rw [h]⟩

end

/-- A factory, from its construction on, after the calls `tr`. -/
structure Reached (k : Deployer) (R : Set Route) (d₀ : Deployment)
    (tr : List (Transition Deployment FactoryAct)) (d : Deployment) : Prop where
  constructed : ∃ this class_hash token treasury messenger base solana eth arb monad,
    ReceiverFactory.construct this class_hash token treasury messenger base solana eth arb monad
      = .ok d₀.factory
  collisionless : Collisionless k d₀.factory R
  vacant : ∀ r ∈ R, d₀.world.receivers (d₀.factory.addressOf k r) = none
  run : Steps (FactoryStep k) d₀ tr d
  used : ∀ t ∈ tr, ∀ r ∈ enteredRoute t, r ∈ R

/-- `announce_receiver` succeeded for the route. -/
def AnnouncedIn (tr : List (Transition Deployment FactoryAct)) (r : Route) : Prop :=
  ∃ t ∈ tr, t.act = .announced r

section
variable {k : Deployer} {R : Set Route} {d₀ d : Deployment}
  {tr : List (Transition Deployment FactoryAct)} {r : Route}

theorem Reached.initial (h : Reached k R d₀ tr d) :
    d₀.factory.Configured ∧ FactoryTracks k d₀.factory R d₀ [] := by
  obtain ⟨_, _, _, _, _, _, _, _, _, _, hconstruct⟩ := h.constructed
  obtain ⟨_, hsetup, hconstruct⟩ := bind_ok.mp hconstruct
  have hf := Except.ok.inj hconstruct
  have hsetup' : d₀.factory.Configured := by
    rw [← hf]
    exact require_ok.mp hsetup
  have hlists : ∀ merchant, d₀.factory.merchant_receivers merchant = [] := by
    intro merchant
    rw [← hf]
  exact ⟨hsetup',
    { setup := ⟨_, rfl⟩
      merchants := fun _ hr => nomatch hr
      registry :=
        { lists := hlists
          used := fun _ hr => nomatch hr
          filled := fun _ hr => nomatch hr
          vacant := fun r hr _ => h.vacant r hr } }⟩

/-- The run lemma. -/
theorem Reached.tracks (h : Reached k R d₀ tr d) :
    FactoryTracks k d₀.factory R d (log enteredRoute tr) :=
  (Steps.log_simulation (P := fun t => ∀ r ∈ enteredRoute t, r ∈ R)
    (fun _ _ _ _ hs hP hd => registered_step h.collisionless hs hP hd) h.run h.used
    h.initial.2).2

/-- A run cut short is a run. -/
theorem Reached.before {l m : List (Transition Deployment FactoryAct)}
    {t : Transition Deployment FactoryAct} (h : Reached k R d₀ (l ++ t :: m) d) :
    Reached k R d₀ l t.pre where
  constructed := h.constructed
  collisionless := h.collisionless
  vacant := h.vacant
  run := h.run.cut.1
  used := fun u hu => h.used u (List.mem_append_left _ hu)

/-- An announced route passes `check_route`, then and ever after. -/
theorem Reached.announced_accepts (h : Reached k R d₀ tr d) (hr : AnnouncedIn tr r) :
    d.factory.Accepts r (d.factory.pins r).destination_domain := by
  obtain ⟨t, ht, hact⟩ := hr
  obtain ⟨l, m, rfl⟩ := List.append_of_mem ht
  obtain ⟨lists, hpre⟩ := h.before.tracks.setup
  obtain ⟨lists', hf⟩ := h.tracks.setup
  have hstep := h.run.cut.2.1
  obtain ⟨pre, act, post⟩ := t
  subst hact
  cases hstep with
  | @announced f w w' _ hcall =>
      obtain ⟨domain, hroute, -⟩ := bind_ok.mp hcall
      have hpre' : f = { d₀.factory with merchant_receivers := lists } := hpre
      rw [hpre'] at hroute
      obtain ⟨-, hpasses⟩ := ReceiverFactory.accepts_iff.mp hroute
      rw [hf]
      exact ReceiverFactory.accepts_iff.mpr ⟨rfl, hpasses⟩

theorem Reached.configured (h : Reached k R d₀ tr d) : d.factory.Configured := by
  obtain ⟨lists, hf⟩ := h.tracks.setup
  rw [hf]
  exact h.initial.1

def Deployment.Registered (k : Deployer) (d : Deployment) (r : Route) : Prop :=
  d.factory.addressOf k r ∈ d.factory.get_merchant_receivers r.merchant

/-- A registered receiver is pinned to its route, and nothing stands where none is. -/
theorem Reached.registered_cases (h : Reached k R d₀ tr d) (hr : r ∈ R) :
    (d.Registered k r → d.world.receivers (d.factory.addressOf k r) = some (d.factory.pins r) ∧
        r.merchant ≠ 0) ∧
      (¬ d.Registered k r → d.world.receivers (d.factory.addressOf k r) = none) := by
  have htracks := h.tracks
  obtain ⟨lists, hf⟩ := htracks.setup
  have haddr : d.factory.addressOf k r = d₀.factory.addressOf k r := by
    rw [hf]
    rfl
  have hmem : d.Registered k r ↔ r ∈ log enteredRoute tr := by
    rw [← htracks.registry.mem_list_iff h.collisionless.addressOf_injOn hr, ← haddr]
    rfl
  constructor
  · intro hreg
    refine ⟨?_, htracks.merchants r (hmem.mp hreg)⟩
    rw [haddr, htracks.registry.filled r (hmem.mp hreg), hf]
    rfl
  · intro hnot
    rw [haddr]
    exact htracks.registry.vacant r hr (fun hin => hnot (hmem.mpr hin))

end

/-! ## When a sweep succeeds -/

/-- The token accepts transfers to non-zero addresses, the messenger takes what is approved toward
any domain but `own`. -/
structure AcceptingCallees (x : Callees) (own : BitVec 32) : Prop extends InterfaceCallees x where
  transfer_succeeds : ∀ {w token sender recipient n}, recipient ≠ 0 →
    n ≤ w.balances token sender → ∃ w', x.transfer w token sender recipient n = .ok (w', true)
  approve_succeeds : ∀ {w token owner spender n}, spender ≠ 0 →
    Succeeds (x.approve w token owner spender n)
  send_message_succeeds : ∀ {w messenger} {m : Message}, m.destination_domain ≠ own →
    m.recipient ≠ 0 → Succeeds (x.send_message w messenger m)
  send_message_own : ∀ {w messenger} {m : Message}, m.destination_domain = own →
    ¬ Succeeds (x.send_message w messenger m)

section
variable {x : Callees} {own : BitVec 32} {w : World} {c : StarknetReceiver}
  {self caller : ContractAddress}

theorem assertTransfer_succeeds (hx : AcceptingCallees x own) {token recipient : ContractAddress}
    {n : Nat} (hrecipient : recipient ≠ 0) (hn : n ≤ w.balances token self) :
    assertTransfer x w token self recipient n = .ok (w.transfer token self recipient n) := by
  obtain ⟨w', hw'⟩ := hx.transfer_succeeds hrecipient hn
  obtain ⟨-, rfl⟩ := hx.transfer hw'
  rw [assertTransfer, hw', ok_bind]
  rfl

/-- A covered payment goes through, and takes at most its amount off the receiver. -/
theorem payIfPositive_succeeds (hx : AcceptingCallees x own) {token recipient : ContractAddress}
    {n : Nat} (hrecipient : recipient ≠ 0) (hn : n ≤ w.balances token self) :
    ∃ w', payIfPositive x w token self recipient n = .ok w' ∧
      w.balances token self - n ≤ w'.balances token self := by
  by_cases hpos : 0 < n
  · refine ⟨_, by rw [payIfPositive, if_pos hpos, assertTransfer_succeeds hx hrecipient hn], ?_⟩
    rw [World.transfer_balances]
    exact Ledger.le_move_src ..
  · exact ⟨w, by rw [payIfPositive, if_neg hpos], Nat.sub_le ..⟩

/-- What the settlement needs of the receiver's storage. -/
def Settles (own : BitVec 32) (c : StarknetReceiver) : Prop :=
  c.mint_recipient = 0 ∨ c.destination_domain ≠ own

theorem settle_succeeds_iff (hx : AcceptingCallees x own) {gross net : Nat} (hnet : 0 < net)
    (hgross : gross * CCTP_MAX_FEE_BPS < 2 ^ 256) (hheld : net ≤ w.balances c.token self)
    (hmerchant : c.merchant ≠ 0) (hmessenger : c.token_messenger ≠ 0) :
    Succeeds (settle x w c self gross net) ↔ Settles own c := by
  rw [settle, if_pos hnet]
  by_cases hr : c.mint_recipient = 0
  · rw [if_neg (not_not.mpr hr), assertTransfer_succeeds hx hmerchant hheld]
    exact ⟨fun _ => .inl hr, fun _ => succeeds_ok _⟩
  · rw [if_pos hr]
    constructor
    · intro h
      obtain ⟨_, -, h⟩ := succeeds_bind.mp h
      obtain ⟨w', -, h⟩ := succeeds_bind.mp h
      exact .inr fun hown => hx.send_message_own hown h
    · intro h
      refine succeeds_bind.mpr ⟨_, u256Mul_ok.mpr ⟨hgross, rfl⟩, ?_⟩
      obtain ⟨w', hw'⟩ := @hx.approve_succeeds w c.token self _ net hmessenger
      refine succeeds_bind.mpr ⟨w', hw', ?_⟩
      exact hx.send_message_succeeds (h.resolve_left hr) hr

/-- **When a funded sweep succeeds.** -/
theorem sweep_succeeds_iff (hx : AcceptingCallees x own) (hc : w.receivers self = some c)
    (hinit : c.initialized = true) (htreasury : c.treasury ≠ 0) (hmerchant : c.merchant ≠ 0)
    (hmessenger : c.token_messenger ≠ 0) (hcaller : caller ≠ 0)
    (hfunded : w.balances c.token self ≠ 0) :
    Succeeds (sweep x w self caller) ↔
      w.balances c.token self * FEE_BPS < 2 ^ 256 ∧ Settles own c := by
  rw [sweep, hc, okOr_some, ok_bind, require_bind_of hinit]
  dsimp only
  rw [if_neg hfunded]
  generalize hg : w.balances c.token self = g at hfunded ⊢
  by_cases hfits : g * FEE_BPS < 2 ^ 256
  · have hsplit := rates.split_sum g
    have hfee : u256Mul g FEE_BPS = .ok (g * FEE_BPS) := u256Mul_ok.mpr ⟨hfits, rfl⟩
    have hnet : u256Sub g (g * FEE_BPS / BPS_DENOM) = .ok (rates.net g) :=
      u256Sub_ok.mpr ⟨rates.fee_le g, rfl⟩
    have hshare : u256Mul (g * FEE_BPS / BPS_DENOM) CALLER_SHARE_BPS
        = .ok (g * FEE_BPS / BPS_DENOM * CALLER_SHARE_BPS) := by
      refine u256Mul_ok.mpr ⟨?_, rfl⟩
      simp only [FEE_BPS, BPS_DENOM, CALLER_SHARE_BPS] at hfits ⊢
      omega
    have hrest : u256Sub (g * FEE_BPS / BPS_DENOM)
        (g * FEE_BPS / BPS_DENOM * CALLER_SHARE_BPS / BPS_DENOM) = .ok (rates.treasuryCut g) :=
      u256Sub_ok.mpr ⟨rates.callerCut_le_fee g, rfl⟩
    rw [hfee, ok_bind, hnet, ok_bind, hshare, ok_bind, hrest, ok_bind]
    obtain ⟨w₁, hw₁, hheld₁⟩ := @payIfPositive_succeeds _ _ w self hx c.token _
      (rates.callerCut g) hcaller (by omega)
    obtain ⟨w₂, hw₂, hheld₂⟩ := @payIfPositive_succeeds _ _ w₁ self hx c.token _
      (rates.treasuryCut g) htreasury (by omega)
    have hpaid : Succeeds (settle x w₂ c self g (rates.net g)) ↔ Settles own c := by
      refine settle_succeeds_iff hx (rates.net_pos (Nat.pos_of_ne_zero hfunded)) ?_ (by omega)
        hmerchant hmessenger
      simp only [FEE_BPS, CCTP_MAX_FEE_BPS] at hfits ⊢
      omega
    change Succeeds (payIfPositive x w c.token self caller (rates.callerCut g) >>= _) ↔ _
    rw [hw₁, ok_bind, hw₂, ok_bind, ← hpaid, succeeds_bind]
    constructor
    · rintro ⟨w₃, hw₃, -⟩
      exact ⟨hfits, w₃, hw₃⟩
    · rintro ⟨-, w₃, hw₃⟩
      exact ⟨w₃, hw₃, succeeds_ok _⟩
  · have hover : u256Mul g FEE_BPS = .error .overflow := if_neg hfits
    rw [hover, error_bind]
    exact ⟨fun h => absurd h (not_succeeds_error _), fun h => absurd h.1 hfits⟩

end

/-! ## Announced receivers -/

namespace Deployment

/-- The receiver is registered or can be; and once it is, a sweep in the world `w` succeeds. -/
def Served (x : Callees) (k : Deployer) (d : Deployment) (r : Route) (w : World)
    (caller : ContractAddress) : Prop :=
  (d.Registered k r ∨
    Succeeds (d.factory.register_merchant k d.world r.merchant r.cctp_mint_chain
      r.cctp_mint_recipient)) ∧
    (d.Registered k r → Succeeds (sweep x w (d.factory.addressOf k r) caller))

/-- What neither `announce_receiver` nor the route itself ensures. -/
def ServedWhen (own : BitVec 32) (k : Deployer) (d : Deployment) (r : Route) (w : World) : Prop :=
  (d.Registered k r ∨
    r.merchant ≠ 0 ∧
      d.factory.get_receiver_count r.merchant < MAX_RECEIVERS_PER_MERCHANT) ∧
    (d.Registered k r →
      w.balances d.factory.token (d.factory.addressOf k r) * FEE_BPS < 2 ^ 256 ∧
        (r.cctp_mint_chain = 0 ∨ d.factory.destination_domains r.cctp_mint_chain ≠ own))

end Deployment

section
variable {x : Callees} {own : BitVec 32} {k : Deployer} {R : Set Route} {d₀ d : Deployment}
  {tr : List (Transition Deployment FactoryAct)} {r : Route}

/-- **The exact condition.** -/
theorem announced_served_iff (hx : AcceptingCallees x own) (h : Reached k R d₀ tr d) (hr : r ∈ R)
    (hannounced : AnnouncedIn tr r) {w : World} {caller : ContractAddress}
    (hw : w.receivers = d.world.receivers) (hcaller : caller ≠ 0)
    (hfunded : w.balances d.factory.token (d.factory.addressOf k r) ≠ 0) :
    d.Served x k r w caller ↔ d.ServedWhen own k r w := by
  obtain ⟨hpinned, hvacant⟩ := h.registered_cases hr
  have haccepts := h.announced_accepts hannounced
  have hsetup := h.configured
  have hsettles : Settles own (d.factory.pins r) ↔
      r.cctp_mint_chain = 0 ∨ d.factory.destination_domains r.cctp_mint_chain ≠ own := by
    rw [Settles]
    rcases (ReceiverFactory.accepts_iff.mp haccepts).2 with ⟨hchain, hzero⟩ | ⟨hchain, -, hne⟩
    · exact ⟨fun _ => .inl hchain, fun _ => .inl hzero⟩
    · simp only [ReceiverFactory.pins, hne, hchain, false_or, if_false]
  refine and_congr (or_congr_right' fun hnot => ?_) (imp_congr_right fun hreg => ?_)
  · rw [ReceiverFactory.register_merchant_succeeds_iff hsetup]
    constructor
    · rintro ⟨hmerchant, hroom, -, -⟩
      exact ⟨hmerchant, hroom⟩
    · rintro ⟨hmerchant, hroom⟩
      exact ⟨hmerchant, hroom, haccepts, hvacant hnot⟩
  · obtain ⟨hc, hmerchant⟩ := hpinned hreg
    have hcell : w.receivers (d.factory.addressOf k r) = some (d.factory.pins r) := by
      rw [hw, hc]
    have hsweep := sweep_succeeds_iff hx hcell rfl hsetup.2.1 hmerchant hsetup.2.2 hcaller hfunded
    rw [← hsettles]
    exact hsweep

end

end Beanie.Starknet
