/-
# `Beanie.Evm.Announced` — what an announcement is worth

An announced receiver is served when it is registered or can be, and when a
sweep of it, once registered and funded, succeeds.  The token accepts
transfers to non-zero addresses and CCTP burns toward any domain but its own:
`AcceptingCallees`.

`announceReceiver` checks the route only.  It does not look at the merchant,
nor at the room left in the merchant's list, which anyone can use up, nor at
whether the route's domain is the chain's own.  `announced_served_iff` is the
exact condition, in every state of every run.
-/
import Beanie.Evm.FactoryRun

namespace Beanie.Evm

/-- The token accepts transfers to non-zero addresses, the messenger burns what is approved toward
any domain but `own`. -/
structure AcceptingCallees (x : Callees) (own : Domain) : Prop extends StandardCallees x where
  safeTransfer_succeeds : ∀ {w token sender recipient n}, recipient ≠ 0 →
    n ≤ w.balances token sender → Succeeds (x.safeTransfer w token sender recipient n)
  approve_succeeds : ∀ {w token owner spender n}, spender ≠ 0 →
    Succeeds (x.approve w token owner spender n)
  depositForBurn_succeeds : ∀ {w messenger caller} {d : DepositForBurn},
    d.destinationDomain ≠ own → d.mintRecipient ≠ 0 → d.maxFee < d.amount →
    d.amount ≤ w.balances d.burnToken caller →
    w.allowances d.burnToken caller messenger = d.amount →
    Succeeds (x.depositForBurn w messenger caller d)
  depositForBurn_own : ∀ {w messenger caller} {d : DepositForBurn},
    d.destinationDomain = own → ¬ Succeeds (x.depositForBurn w messenger caller d)

/-! ## When a sweep succeeds -/

section
variable {x : Callees} {own : Domain} {w : World} {c : ChainXReceiver} {self origin : Address}

/-- A covered payment goes through, and takes at most its amount off the receiver. -/
theorem payIfPositive_succeeds (hx : AcceptingCallees x own) {token recipient : Address} {n : Nat}
    (hrecipient : recipient ≠ 0) (hn : n ≤ w.balances token self) :
    ∃ w', payIfPositive x w token self recipient n = .ok w' ∧
      w.balances token self - n ≤ w'.balances token self := by
  by_cases hpos : 0 < n
  · obtain ⟨w', hw'⟩ := hx.safeTransfer_succeeds hrecipient hn
    obtain ⟨-, rfl⟩ := hx.safeTransfer hw'
    refine ⟨_, by rw [payIfPositive, if_pos hpos, hw'], ?_⟩
    rw [World.transfer_balances]
    exact Ledger.le_move_src ..
  · exact ⟨w, by rw [payIfPositive, if_neg hpos], Nat.sub_le ..⟩

/-- What the settlement needs of the receiver's storage. -/
def Settles (own : Domain) (c : ChainXReceiver) : Prop :=
  c.cctpMintRecipient = 0 ∨ c.cctpDestinationDomain ≠ own

theorem settle_succeeds_iff (hx : AcceptingCallees x own) {balance net : Nat}
    (hnet : balance * 2 / 10000 < net) (hbalance : balance * 2 < 2 ^ 256)
    (hheld : net ≤ w.balances c.token self) (hmerchant : c.merchant ≠ 0)
    (hmessenger : c.tokenMessenger ≠ 0) :
    Succeeds (settle x w c self balance net) ↔ Settles own c := by
  by_cases hr : c.cctpMintRecipient = 0
  · rw [settle, if_neg (fun h => h.2 hr)]
    exact ⟨fun _ => .inl hr, fun _ => hx.safeTransfer_succeeds hmerchant hheld⟩
  · rw [settle, if_pos ⟨Nat.zero_lt_of_lt hnet, hr⟩]
    constructor
    · intro h
      obtain ⟨_, -, h⟩ := succeeds_bind.mp h
      obtain ⟨w', -, h⟩ := succeeds_bind.mp h
      exact .inr fun hown => hx.depositForBurn_own hown h
    · intro h
      have hown := h.resolve_left hr
      refine succeeds_bind.mpr ⟨balance * 2, checkedMul_ok.mpr ⟨hbalance, rfl⟩, ?_⟩
      obtain ⟨w', hw'⟩ := @hx.approve_succeeds w c.token self _ net hmessenger
      refine succeeds_bind.mpr ⟨w', hw', ?_⟩
      obtain rfl := hx.approve hw'
      exact hx.depositForBurn_succeeds hown hr hnet hheld (World.setAllowance_self ..)

/-- **When a funded sweep succeeds.** -/
theorem sweep_succeeds_iff (hx : AcceptingCallees x own) (hc : w.receivers self = some c)
    (hinit : c.initialized = true) (htreasury : c.treasury ≠ 0) (hmerchant : c.merchant ≠ 0)
    (hmessenger : c.tokenMessenger ≠ 0) (horigin : origin ≠ 0)
    (hfunded : w.balances c.token self ≠ 0) :
    Succeeds (sweep x w self origin) ↔
      w.balances c.token self * FEE_BPS < 2 ^ 256 ∧ Settles own c := by
  rw [sweep, hc, okOr_some, ok_bind, require_bind_of hinit]
  dsimp only
  rw [if_neg hfunded]
  generalize hg : w.balances c.token self = g at hfunded ⊢
  by_cases hfits : g * FEE_BPS < 2 ^ 256
  · have hsplit := rates.split_sum g
    have hfee : checkedMul g FEE_BPS = .ok (g * FEE_BPS) := checkedMul_ok.mpr ⟨hfits, rfl⟩
    have hnet : checkedSub g (g * FEE_BPS / BPS_DENOM) = .ok (rates.net g) :=
      checkedSub_ok.mpr ⟨rates.fee_le g, rfl⟩
    have hshare : checkedMul (g * FEE_BPS / BPS_DENOM) CALLER_SHARE_BPS
        = .ok (g * FEE_BPS / BPS_DENOM * CALLER_SHARE_BPS) := by
      refine checkedMul_ok.mpr ⟨?_, rfl⟩
      simp only [FEE_BPS, BPS_DENOM, CALLER_SHARE_BPS] at hfits ⊢
      omega
    have hrest : checkedSub (g * FEE_BPS / BPS_DENOM)
        (g * FEE_BPS / BPS_DENOM * CALLER_SHARE_BPS / BPS_DENOM) = .ok (rates.treasuryCut g) :=
      checkedSub_ok.mpr ⟨rates.callerCut_le_fee g, rfl⟩
    rw [hfee, ok_bind, hnet, ok_bind, hshare, ok_bind, hrest, ok_bind]
    obtain ⟨w₁, hw₁, hheld₁⟩ := @payIfPositive_succeeds _ _ w self hx c.token _
      (rates.callerCut g) horigin (by omega)
    obtain ⟨w₂, hw₂, hheld₂⟩ := @payIfPositive_succeeds _ _ w₁ self hx c.token _
      (rates.treasuryCut g) htreasury (by omega)
    have hpaid : Succeeds (settle x w₂ c self g (rates.net g)) ↔ Settles own c := by
      refine settle_succeeds_iff hx ?_ ?_ (by omega) hmerchant hmessenger
      · simp only [FeeRates.net, FeeRates.fee, rates, FEE_BPS, BPS_DENOM]
        omega
      · simp only [FEE_BPS] at hfits
        omega
    change Succeeds (payIfPositive x w c.token self origin (rates.callerCut g) >>= _) ↔ _
    rw [hw₁, ok_bind, hw₂, ok_bind, ← hpaid, succeeds_bind]
    constructor
    · rintro ⟨w₃, hw₃, -⟩
      exact ⟨hfits, w₃, hw₃⟩
    · rintro ⟨-, w₃, hw₃⟩
      exact ⟨w₃, hw₃, succeeds_ok _⟩
  · have hover : checkedMul g FEE_BPS = .error .panic := if_neg hfits
    rw [hover, error_bind]
    exact ⟨fun h => absurd h (not_succeeds_error _), fun h => absurd h.1 hfits⟩

end

/-! ## Announced receivers -/

/-- A factory, from its construction on, after the calls `tr`. -/
structure Reached (k : Create2) (R : Set Route) (d₀ : Deployment)
    (tr : List (Transition Deployment FactoryAct)) (d : Deployment) : Prop where
  constructed : ∃ this impl token treasury messenger starknet base solana eth arb monad,
    ReceiverFactory.construct this impl token treasury messenger starknet base solana eth arb monad
      = .ok d₀.factory
  collisionless : Collisionless k d₀.factory R
  vacant : ∀ r ∈ R, d₀.world.receivers (d₀.factory.addressOf k r) = none
  run : Steps (FactoryStep k) d₀ tr d
  used : ∀ t ∈ tr, ∀ r ∈ enteredRoute t, r ∈ R

/-- `announceReceiver` succeeded for the route. -/
def AnnouncedIn (tr : List (Transition Deployment FactoryAct)) (r : Route) : Prop :=
  ∃ t ∈ tr, t.act = .announced r

namespace Deployment

def Registered (k : Create2) (d : Deployment) (r : Route) : Prop :=
  d.factory.addressOf k r ∈ d.factory.getMerchantReceivers r.merchant

/-- The receiver is registered or can be; and once it is, a sweep in the world `w` succeeds. -/
def Served (x : Callees) (k : Create2) (d : Deployment) (r : Route) (w : World)
    (origin : Address) : Prop :=
  (d.Registered k r ∨
    Succeeds (d.factory.registerMerchant k d.world r.merchant r.cctpMintChain
      r.cctpMintRecipient)) ∧
    (d.Registered k r → Succeeds (sweep x w (d.factory.addressOf k r) origin))

/-- What neither `announceReceiver` nor the route itself ensures. -/
def ServedWhen (own : Domain) (k : Create2) (d : Deployment) (r : Route) (w : World) : Prop :=
  (d.Registered k r ∨
    r.merchant ≠ 0 ∧ d.factory.Configured ∧
      d.factory.getReceiverCount r.merchant < MAX_RECEIVERS_PER_MERCHANT) ∧
    (d.Registered k r →
      w.balances d.factory.token (d.factory.addressOf k r) * FEE_BPS < 2 ^ 256 ∧
        (r.cctpMintChain = 0 ∨ d.factory.destinationDomain r.cctpMintChain ≠ own))

end Deployment

section
variable {x : Callees} {own : Domain} {k : Create2} {R : Set Route} {d₀ d : Deployment}
  {tr : List (Transition Deployment FactoryAct)} {r : Route}

theorem Reached.tracks (h : Reached k R d₀ tr d) :
    FactoryTracks k d₀.factory R d (log enteredRoute tr) := by
  obtain ⟨_, _, _, _, _, _, _, _, _, _, _, hconstruct⟩ := h.constructed
  exact (registered_run h.collisionless ⟨construct_lists hconstruct, h.vacant⟩ h.run h.used).2

/-- A run cut short is a run. -/
theorem Reached.before {l m : List (Transition Deployment FactoryAct)}
    {t : Transition Deployment FactoryAct} (h : Reached k R d₀ (l ++ t :: m) d) :
    Reached k R d₀ l t.pre where
  constructed := h.constructed
  collisionless := h.collisionless
  vacant := h.vacant
  run := h.run.cut.1
  used := fun u hu => h.used u (List.mem_append_left _ hu)

/-- An announced route passes `_checkRoute`, then and ever after. -/
theorem Reached.announced_accepts (h : Reached k R d₀ tr d) (hr : AnnouncedIn tr r) :
    d.factory.Accepts r := by
  obtain ⟨t, ht, hact⟩ := hr
  obtain ⟨l, m, rfl⟩ := List.append_of_mem ht
  obtain ⟨lists, hpre⟩ := h.before.tracks.setup
  obtain ⟨lists', hf⟩ := h.tracks.setup
  have hstep := h.run.cut.2.1
  obtain ⟨pre, act, post⟩ := t
  subst hact
  cases hstep with
  | @announced f w w' _ hcall =>
      obtain ⟨_, hroute, -⟩ := bind_ok.mp hcall
      have hpre' : f = { d₀.factory with merchantReceiversMap := lists } := hpre
      rw [hpre'] at hroute
      rw [hf]
      exact hroute

/-- A registered receiver is pinned to its route, and nothing stands where none is. -/
theorem Reached.registered_cases (h : Reached k R d₀ tr d) (hr : r ∈ R) :
    (d.Registered k r → d.world.receivers (d.factory.addressOf k r) = some (d.factory.pins r) ∧
        r.merchant ≠ 0 ∧ d.factory.Configured) ∧
      (¬ d.Registered k r → d.world.receivers (d.factory.addressOf k r) = none) := by
  have htracks := h.tracks
  obtain ⟨lists, hf⟩ := htracks.setup
  have haddr : d.factory.addressOf k r = d₀.factory.addressOf k r := by
    rw [hf]
    rfl
  have hmem : d.Registered k r ↔ r ∈ log enteredRoute tr := by
    rw [← htracks.registry.mem_list_iff h.collisionless.addressOf_injOn hr, ← haddr]
    rfl
  constructor
  · intro hreg
    obtain ⟨-, hmerchant, hsetup⟩ := htracks.accepted r (hmem.mp hreg)
    refine ⟨?_, hmerchant, ?_⟩
    · rw [haddr, htracks.registry.filled r (hmem.mp hreg), hf]
      rfl
    · rw [hf]
      exact hsetup
  · intro hnot
    rw [haddr]
    exact htracks.registry.vacant r hr (fun hin => hnot (hmem.mpr hin))

/-- **The exact condition.** -/
theorem announced_served_iff (hx : AcceptingCallees x own) (h : Reached k R d₀ tr d) (hr : r ∈ R)
    (hannounced : AnnouncedIn tr r) {w : World} {origin : Address}
    (hw : w.receivers = d.world.receivers) (horigin : origin ≠ 0)
    (hfunded : w.balances d.factory.token (d.factory.addressOf k r) ≠ 0) :
    d.Served x k r w origin ↔ d.ServedWhen own k r w := by
  obtain ⟨hpinned, hvacant⟩ := h.registered_cases hr
  have haccepts := h.announced_accepts hannounced
  have hsettles : Settles own (d.factory.pins r) ↔
      r.cctpMintChain = 0 ∨ d.factory.destinationDomain r.cctpMintChain ≠ own := by
    refine or_congr_left ?_
    rcases ReceiverFactory.checkRoute_ok.mp haccepts with ⟨hchain, hrecipient⟩ | ⟨hchain, -, hne⟩
    · exact ⟨fun _ => hchain, fun _ => hrecipient⟩
    · exact ⟨fun h0 => absurd h0 hne, fun h0 => absurd h0 hchain⟩
  refine and_congr (or_congr_right' fun hnot => ?_) (imp_congr_right fun hreg => ?_)
  · rw [ReceiverFactory.registerMerchant_succeeds_iff]
    constructor
    · rintro ⟨hroom, -, -, hsetup, hmerchant⟩
      exact ⟨hmerchant, hsetup, hroom⟩
    · rintro ⟨hmerchant, hsetup, hroom⟩
      exact ⟨hroom, haccepts, hvacant hnot, hsetup, hmerchant⟩
  · obtain ⟨hc, hmerchant, hsetup⟩ := hpinned hreg
    rw [ReceiverFactory.Configured, not_or, not_or] at hsetup
    have hcell : w.receivers (d.factory.addressOf k r) = some (d.factory.pins r) := by
      rw [hw, hc]
    have hsweep := sweep_succeeds_iff hx hcell rfl hsetup.2.1 hmerchant hsetup.2.2 horigin hfunded
    rw [← hsettles]
    exact hsweep

/-- **Anyone can use up a merchant's room.**  Routes that pass the checks can be registered one
after the other, as long as there is room for them. -/
theorem fill_run {f₀ : ReceiverFactory} {merchant : Address} (hcol : Collisionless k f₀ R)
    (hsetup : f₀.Configured) (hmerchant : merchant ≠ 0) {rs : List Route}
    (hrs : ∀ r ∈ rs, r ∈ R ∧ f₀.Accepts r ∧ r.merchant = merchant) {d : Deployment}
    {l : List Route} (hd : FactoryTracks k f₀ R d l) (hnew : (l ++ rs).Nodup)
    (hroom : (ofOwner Route.merchant merchant l).length + rs.length
      ≤ MAX_RECEIVERS_PER_MERCHANT) :
    ∃ tr d', Steps (FactoryStep k) d tr d' ∧ log enteredRoute tr = rs ∧
      FactoryTracks k f₀ R d' (l ++ rs) := by
  induction rs generalizing d l with
  | nil => exact ⟨[], d, .refl d, rfl, by rwa [List.append_nil]⟩
  | cons r rs ih =>
      obtain ⟨hr, haccepts, hm⟩ := hrs r List.mem_cons_self
      obtain ⟨lists, hf⟩ := hd.setup
      have hfresh : r ∉ l := fun hmem =>
        (List.nodup_append.mp hnew).2.2 r hmem r List.mem_cons_self rfl
      have hregister : Succeeds (d.factory.registerMerchant k d.world r.merchant r.cctpMintChain
          r.cctpMintRecipient) := by
        refine ReceiverFactory.registerMerchant_succeeds_iff.mpr ⟨?_, ?_, ?_, ?_, hm ▸ hmerchant⟩
        · rw [hd.registry.lists, List.length_map, hm]
          simp only [List.length_cons] at hroom
          omega
        · rw [hf]
          exact haccepts
        · have hvacant := hd.registry.vacant r hr hfresh
          rw [hf]
          exact hvacant
        · rw [hf]
          exact hsetup
      obtain ⟨⟨f', w', receiver⟩, hok⟩ := hregister
      have hstep : FactoryStep k d (.registered r receiver) ⟨f', w'⟩ := .registered hok
      have hnext := (registered_step hcol hstep (fun _ hmem => Option.some.inj hmem ▸ hr) hd).2
      have hwhole : l ++ r :: rs = (l ++ [r]) ++ rs := List.append_cons ..
      have hlength : (ofOwner Route.merchant merchant (l ++ [r])).length
          = (ofOwner Route.merchant merchant l).length + 1 := by
        rw [← hm, ofOwner_append_self, List.length_append]
        rfl
      obtain ⟨tr, d', hrun, hlog, htracks⟩ := ih (fun s hs => hrs s (List.mem_cons_of_mem _ hs))
        hnext (hwhole ▸ hnew) (by
          show (ofOwner Route.merchant merchant (l ++ [r])).length + rs.length ≤ _
          rw [hlength]
          simp only [List.length_cons] at hroom
          omega)
      refine ⟨_, d', .step hstep hrun, ?_, hwhole ▸ htracks⟩
      rw [log, List.filterMap_cons]
      exact congrArg (r :: ·) hlog

end

end Beanie.Evm
