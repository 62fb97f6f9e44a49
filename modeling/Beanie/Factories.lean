/-
# `Beanie.Factories` — announced receivers, on both kinds of chain

The EVM's and Starknet's factories make the same promise with an announcement
and keep it under the same condition.
-/
import Beanie.Evm.Announced
import Beanie.Starknet.Announced

namespace Beanie

/-! ## EVM -/

namespace Evm

/-- A route announced in a run that has reached `d`, and a world `w` in which the receivers are as
in `d` and the route's receiver holds tokens. -/
structure AnnouncedState (x : Callees) (own : Domain) (k : Create2) (R : Set Route)
    (d₀ : Deployment) (tr : List (Transition Deployment FactoryAct)) (d : Deployment) (r : Route)
    (w : World) (caller : Address) : Prop where
  callees : AcceptingCallees x own
  reached : Reached k R d₀ tr d
  used : r ∈ R
  announced : AnnouncedIn tr r
  receivers : w.receivers = d.world.receivers
  caller : caller ≠ 0
  funded : w.balances d.factory.token (d.factory.addressOf k r) ≠ 0

/-- A ledger token, and a messenger that burns toward other domains. -/
def domainCallees (own : Domain) : Callees :=
  { ledgerCallees with
    depositForBurn := fun w messenger caller d =>
      if d.destinationDomain = own then .error .external
      else ledgerCallees.depositForBurn w messenger caller d }

theorem acceptingCallees_domain (own : Domain) : AcceptingCallees (domainCallees own) own where
  safeTransfer := standardCallees_ledger.safeTransfer
  approve := standardCallees_ledger.approve
  depositForBurn := by
    intro w w' messenger caller d h
    simp only [domainCallees] at h
    split_ifs at h
    exact standardCallees_ledger.depositForBurn h
  safeTransfer_succeeds := by
    intro w token sender recipient n _ hn
    exact ⟨_, if_pos hn⟩
  approve_succeeds := by
    intro w token owner spender n _
    exact ⟨_, rfl⟩
  depositForBurn_succeeds := by
    intro w messenger caller d hown _ _ hheld hallowed
    simp only [domainCallees, if_neg hown, ledgerCallees]
    rw [if_pos (hallowed ▸ hheld)]
    exact succeeds_ok _
  depositForBurn_own := by
    intro w messenger caller d hown
    simp only [domainCallees, if_pos hown]
    exact not_succeeds_error _

end Evm

/-! ## Starknet -/

namespace Starknet

/-- A route announced in a run that has reached `d`, and a world `w` in which the receivers are as
in `d` and the route's receiver holds tokens. -/
structure AnnouncedState (x : Callees) (own : BitVec 32) (k : Deployer) (R : Set Route)
    (d₀ : Deployment) (tr : List (Transition Deployment FactoryAct)) (d : Deployment) (r : Route)
    (w : World) (caller : ContractAddress) : Prop where
  callees : AcceptingCallees x own
  reached : Reached k R d₀ tr d
  used : r ∈ R
  announced : AnnouncedIn tr r
  receivers : w.receivers = d.world.receivers
  caller : caller ≠ 0
  funded : w.balances d.factory.token (d.factory.addressOf k r) ≠ 0

/-- A ledger token, and a messenger that takes messages to other domains. -/
def domainCallees (own : BitVec 32) : Callees :=
  { ledgerCallees with
    send_message := fun w messenger m =>
      if m.destination_domain = own then .error .external
      else ledgerCallees.send_message w messenger m }

theorem acceptingCallees_domain (own : BitVec 32) : AcceptingCallees (domainCallees own) own where
  transfer := interfaceCallees_ledger.transfer
  approve := interfaceCallees_ledger.approve
  send_message := by
    intro w w' messenger m h
    simp only [domainCallees] at h
    split_ifs at h
    exact @interfaceCallees_ledger.send_message w w' messenger m h
  transfer_succeeds := by
    intro w token sender recipient n _ hn
    exact ⟨_, if_pos hn⟩
  approve_succeeds := by
    intro w token owner spender n _
    exact ⟨_, rfl⟩
  send_message_succeeds := by
    intro w messenger m hown _
    simp only [domainCallees, if_neg hown]
    exact ⟨_, rfl⟩
  send_message_own := by
    intro w messenger m hown
    simp only [domainCallees, if_pos hown]
    exact not_succeeds_error _

end Starknet

/-- **Announced receivers are served under one condition.**  In every state of every run after the
announcement, on either kind of chain: the receiver is registered or can be, and its funded sweep
succeeds once it is, if and only if the merchant is not zero and has room left, the setup and the
domain are sound, and the balance is not absurd. -/
theorem announced_receivers_served_iff {x : Evm.Callees} {own : Evm.Domain} {k : Evm.Create2}
    {R : Set Evm.Route} {d₀ d : Evm.Deployment}
    {tr : List (Transition Evm.Deployment Evm.FactoryAct)} {r : Evm.Route} {w : Evm.World}
    {caller : Evm.Address} {x' : Starknet.Callees} {own' : BitVec 32} {k' : Starknet.Deployer}
    {R' : Set Starknet.Route} {d₀' d' : Starknet.Deployment}
    {tr' : List (Transition Starknet.Deployment Starknet.FactoryAct)} {r' : Starknet.Route}
    {w' : Starknet.World} {caller' : Starknet.ContractAddress}
    (h : Evm.AnnouncedState x own k R d₀ tr d r w caller)
    (h' : Starknet.AnnouncedState x' own' k' R' d₀' tr' d' r' w' caller') :
    (d.Served x k r w caller ↔ d.ServedWhen own k r w) ∧
      (d'.Served x' k' r' w' caller' ↔ d'.ServedWhen own' k' r' w') :=
  ⟨Evm.announced_served_iff h.callees h.reached h.used h.announced h.receivers h.caller h.funded,
    Starknet.announced_served_iff h'.callees h'.reached h'.used h'.announced h'.receivers h'.caller
      h'.funded⟩

/-! ## A merchant's room used up -/

namespace Evm.FillSample

/-- Routes of one merchant that differ in the recipient's last digits only. -/
def route (i : Nat) : Route :=
  ⟨FactorySample.merchant, bytes32Literal "SOLANA".toList, BitVec.ofNat 256 i⟩

def routes : Set Route := {r | ∃ i, 0 < i ∧ i ≤ 33 ∧ r = route i}

/-- A hash and addresses that tell these routes apart by their recipient. -/
def create2 : Create2 where
  keccak256 bs := BitVec.ofNat 256 (beNat (bs.drop 52))
  predictDeterministicAddress _ salt _ := salt.setWidth 160

theorem toNat_recipient {i : Nat} (hi : i ≤ 33) :
    (route i).cctpMintRecipient.toNat = i := by
  rw [route, BitVec.toNat_ofNat, Nat.mod_eq_of_lt (by omega)]

theorem keccak256_packed (i : Nat) :
    create2.keccak256 (route i).packed = (route i).cctpMintRecipient := by
  have hdrop : (route i).packed.drop 52 = beBytes 32 (route i).cctpMintRecipient.toNat :=
    List.drop_left' (by simp)
  show BitVec.ofNat 256 (beNat ((route i).packed.drop 52)) = _
  rw [hdrop, beNat_beBytes, Nat.mod_eq_of_lt (by simpa using (route i).cctpMintRecipient.isLt)]
  exact BitVec.ofNat_toNat .. |>.trans (BitVec.setWidth_eq _)

theorem route_inj {i j : Nat} (hi : i ≤ 33) (hj : j ≤ 33)
    (h : (route i).cctpMintRecipient = (route j).cctpMintRecipient) : route i = route j := by
  have heq := congrArg BitVec.toNat h
  rw [toNat_recipient hi, toNat_recipient hj] at heq
  rw [heq]

theorem collisionless : Collisionless create2 FactorySample.factory routes := by
  constructor
  · rintro _ ⟨_, ⟨i, -, hi, rfl⟩, rfl⟩ _ ⟨_, ⟨j, -, hj, rfl⟩, rfl⟩ heq
    rw [keccak256_packed, keccak256_packed] at heq
    rw [route_inj hi hj heq]
  · rintro _ ⟨_, ⟨i, -, hi, rfl⟩, rfl⟩ _ ⟨_, ⟨j, -, hj, rfl⟩, rfl⟩ heq
    simp only [keccak256_packed] at heq ⊢
    have hnat := congrArg BitVec.toNat heq
    simp only [create2, BitVec.toNat_setWidth] at hnat
    rw [toNat_recipient hi, toNat_recipient hj, Nat.mod_eq_of_lt (by omega),
      Nat.mod_eq_of_lt (by omega)] at hnat
    rw [hnat]

theorem accepts {i : Nat} (hpos : 0 < i) (hi : i ≤ 33) :
    FactorySample.factory.Accepts (route i) := by
  have hchain : bytes32Literal "SOLANA".toList ≠ 0 := by decide +kernel
  have hvalid : FactorySample.factory.validDomains (bytes32Literal "SOLANA".toList) = true := by
    decide +kernel
  refine ReceiverFactory.checkRoute_ok.mpr (.inr ⟨hchain, hvalid, fun h0 => ?_⟩)
  have hnat := toNat_recipient hi
  rw [h0] at hnat
  exact absurd hnat.symm hpos.ne'

theorem configured : FactorySample.factory.Configured :=
  show ¬ (FactorySample.factory.token = 0 ∨ FactorySample.factory.treasury = 0 ∨
    FactorySample.factory.tokenMessenger = 0) by decide

/-- The routes that third parties register. -/
def others : List Route := (List.range 32).map fun i => route (i + 1)

theorem others_used : ∀ r ∈ others,
    r ∈ routes ∧ FactorySample.factory.Accepts r ∧ r.merchant = FactorySample.merchant := by
  intro r hr
  obtain ⟨i, hi, rfl⟩ := List.mem_map.mp hr
  have hi := List.mem_range.mp hi
  exact ⟨⟨i + 1, by omega, by omega, rfl⟩, accepts (by omega) (by omega), rfl⟩

theorem nodup_others : others.Nodup := by
  refine List.Nodup.map_on ?_ List.nodup_range
  intro i hi j hj heq
  have hi := List.mem_range.mp hi
  have hj := List.mem_range.mp hj
  have hnat := congrArg (fun r => r.cctpMintRecipient.toNat) heq
  simp only [toNat_recipient (show i + 1 ≤ 33 by omega),
    toNat_recipient (show j + 1 ≤ 33 by omega)] at hnat
  omega

theorem last_not_mem : route 33 ∉ others := by
  intro hmem
  obtain ⟨i, hi, heq⟩ := List.mem_map.mp hmem
  have hi := List.mem_range.mp hi
  have hnat := congrArg (fun r => r.cctpMintRecipient.toNat) heq
  simp only [toNat_recipient (show i + 1 ≤ 33 by omega), toNat_recipient (le_refl 33)] at hnat
  omega

end Evm.FillSample

namespace Evm.FillSample

def announcedWorld : World :=
  sampleWorld.emit (.receiverAnnounced (route 33).merchant
    (FactorySample.factory.addressOf create2 (route 33)) (route 33).cctpMintChain
    (route 33).cctpMintRecipient)

/-- The keeper announces the last route. -/
def announcement : Transition Deployment FactoryAct :=
  ⟨⟨FactorySample.factory, sampleWorld⟩, .announced (route 33),
    ⟨FactorySample.factory, announcedWorld⟩⟩

theorem announce_step :
    FactoryStep create2 announcement.pre announcement.act announcement.post :=
  .announced (bind_ok.mpr ⟨(), accepts (by decide) (by decide), rfl⟩)

/-- From the announcement, third parties take the merchant's room. -/
theorem taken : ∃ tr d, Steps (FactoryStep create2) announcement.post tr d ∧
    log enteredRoute tr = others ∧
    FactoryTracks create2 FactorySample.factory routes d others := by
  have hstart : FactoryTracks create2 FactorySample.factory routes announcement.pre [] :=
    @Fresh.tracks _ _ announcement.pre ⟨fun _ => rfl, fun _ _ => rfl⟩
  have hannounced : FactoryTracks create2 FactorySample.factory routes announcement.post [] :=
    (registered_step collisionless announce_step (fun _ hr => nomatch hr) hstart).2
  exact fill_run collisionless configured
    (by decide) others_used hannounced nodup_others (by simp [ofOwner, others]; decide)

end Evm.FillSample

open Evm Evm.FillSample in
/-- A route is announced, and third parties register 32 other routes of the merchant: the
announced receiver can no longer be registered. -/
theorem announced_receiver_shut_out : ∃ tr d w,
    AnnouncedState (domainCallees 6) 6 create2 routes ⟨FactorySample.factory, sampleWorld⟩ tr d
      (route 33) w 8 ∧
    ¬ d.Served (domainCallees 6) create2 (route 33) w 8 := by
  obtain ⟨tr, d, hrun, hlog, htracks⟩ := taken
  have hlog' : log enteredRoute (announcement :: tr) = others := hlog
  have hstate : AnnouncedState (domainCallees 6) 6 create2 routes
      ⟨FactorySample.factory, sampleWorld⟩ (announcement :: tr) d (route 33)
      { d.world with balances := fun _ _ => 10000 } 8 :=
    { callees := acceptingCallees_domain 6
      reached :=
        { constructed := ⟨_, _, _, _, _, _, _, _, _, _, _, FactorySample.constructed⟩
          collisionless := collisionless
          vacant := fun _ _ => rfl
          run := .step announce_step hrun
          used := fun t ht r hr =>
            (others_used r (hlog' ▸ List.mem_filterMap.mpr ⟨t, ht, hr⟩)).1 }
      used := ⟨33, by decide, le_refl _, rfl⟩
      announced := ⟨announcement, List.mem_cons_self, rfl⟩
      receivers := rfl
      caller := by decide
      funded := (by decide : (10000 : Nat) ≠ 0) }
  refine ⟨_, d, _, hstate, fun hserved => ?_⟩
  have hwhen := (announced_served_iff hstate.callees hstate.reached hstate.used hstate.announced
    hstate.receivers hstate.caller hstate.funded).mp hserved
  obtain ⟨lists, hf⟩ := htracks.setup
  rcases hwhen.1 with hreg | ⟨-, -, hroom⟩
  · refine last_not_mem
      ((htracks.registry.mem_list_iff collisionless.addressOf_injOn hstate.used).mp ?_)
    have haddr : d.factory.addressOf create2 (route 33)
        = FactorySample.factory.addressOf create2 (route 33) := by
      rw [hf]
      rfl
    rw [← haddr]
    exact hreg
  · have hall : ofOwner Route.merchant (route 33).merchant others = others :=
      List.filter_eq_self.mpr fun r hr => decide_eq_true (others_used r hr).2.2
    rw [ReceiverFactory.getReceiverCount, htracks.registry.lists, hall, List.length_map] at hroom
    have hlength : others.length = 32 := by simp [others]
    rw [hlength] at hroom
    exact absurd hroom (by decide)

/-! ## A merchant with room -/

namespace Starknet.FactorySample

/-- A merchant paid on Base. -/
def base : Route := ⟨0xa1, shortString "BASE".toList, 0x77⟩

/-- Poseidon and the deployment address on this route, for the factory at `0xf0`. -/
def deployer : Deployer where
  poseidon_hash_span span :=
    if span = base.span then 0x36af4b0122ca5a845efbe49eee04844a1325e2f60d92211ea1a4136d8f5a2b8
    else 0
  calculate_contract_address_from_deploy_syscall salt class_hash calldata this :=
    if salt = 0x36af4b0122ca5a845efbe49eee04844a1325e2f60d92211ea1a4136d8f5a2b8 ∧
        class_hash = 0xf1 ∧ calldata = [] ∧ this = 0xf0 then
      0x69c29c993b62626d1adde7481786ec04a0370493e33a8a80e88e03c6e63d2ac
    else 0

/-- What the constructor leaves, for the token 1, the treasury 2 and the messenger 3. -/
def factory : ReceiverFactory where
  this := 0xf0
  receiver_class_hash := 0xf1
  token := 1
  treasury := 2
  token_messenger := 3
  valid_domains := fun name => ((ReceiverFactory.chainTable 6 5 0 3 15).lookup name).isSome
  destination_domains := fun name => ((ReceiverFactory.chainTable 6 5 0 3 15).lookup name).getD 0
  merchant_receivers := fun _ => []

def world : World where
  balances := fun _ _ => 0
  transfers := []
  burned := fun _ _ => 0
  allowances := fun _ _ _ => 0
  messages := []
  receivers := fun _ => none
  events := []

theorem constructed : ReceiverFactory.construct 0xf0 0xf1 1 2 3 6 5 0 3 15 = .ok factory := rfl

theorem collisionless : Collisionless deployer factory {base} := by
  constructor
  · rintro _ ⟨r, rfl, rfl⟩ _ ⟨r', rfl, rfl⟩ _
    rfl
  · rintro _ ⟨r, rfl, rfl⟩ _ ⟨r', rfl, rfl⟩ _
    rfl

end Starknet.FactorySample

open Evm in
set_option maxRecDepth 20000 in
/-- Announced and registered on an EVM chain. -/
theorem Evm.FactorySample.announced : ∃ tr d, AnnouncedState (domainCallees 6) 6
    FactorySample.create2 {FactorySample.home, FactorySample.solana}
    ⟨FactorySample.factory, sampleWorld⟩ tr d FactorySample.solana
    { d.world with balances := fun _ _ => 10000 } 8 ∧
    d.ServedWhen 6 FactorySample.create2 FactorySample.solana
      { d.world with balances := fun _ _ => 10000 } := by
  obtain ⟨w₁, hannounce, f₂, w₂, hregister, hlist, hdomain⟩ :
      ∃ w₁, FactorySample.factory.announceReceiver FactorySample.create2 sampleWorld
          FactorySample.merchant FactorySample.solana.cctpMintChain 0x77 = .ok w₁ ∧
      ∃ f₂ w₂, FactorySample.factory.registerMerchant FactorySample.create2 w₁
          FactorySample.merchant FactorySample.solana.cctpMintChain 0x77
          = .ok (f₂, w₂, 0x44fe948adea0ff3f1e651a045544fde3299abc81) ∧
        (⟨f₂, w₂⟩ : Deployment).Registered FactorySample.create2 FactorySample.solana ∧
        f₂.destinationDomain FactorySample.solana.cctpMintChain ≠ 6 :=
    ⟨_, rfl, _, _, rfl, List.mem_singleton.mpr rfl, by decide +kernel⟩
  have hrun : Steps (FactoryStep FactorySample.create2) ⟨FactorySample.factory, sampleWorld⟩ _
      ⟨f₂, w₂⟩ :=
    .step (.announced (r := FactorySample.solana) hannounce)
      (.step (.registered (r := FactorySample.solana) hregister) (.refl _))
  have hreached : Reached FactorySample.create2 {FactorySample.home, FactorySample.solana} _ _ _ :=
    { constructed := ⟨_, _, _, _, _, _, _, _, _, _, _, FactorySample.constructed⟩
      collisionless := FactorySample.collisionless
      vacant := fun _ _ => rfl
      run := hrun
      used := by
        intro t ht r hr
        simp only [List.mem_cons, List.not_mem_nil, or_false] at ht
        rcases ht with rfl | rfl
        · exact nomatch hr
        · exact .inr (Option.some.inj hr).symm }
  have hfunded : (10000 : Nat) ≠ 0 := by decide
  have hfits : 10000 * FEE_BPS < 2 ^ 256 := by decide
  exact ⟨_, ⟨f₂, w₂⟩,
    ⟨acceptingCallees_domain 6, hreached, .inr rfl, ⟨_, List.mem_cons_self, rfl⟩, rfl, by decide,
      hfunded⟩,
    .inl hlist, fun _ => ⟨hfits, .inr hdomain⟩⟩

open Starknet in
set_option maxRecDepth 20000 in
/-- Announced, and not yet registered, on Starknet. -/
theorem Starknet.FactorySample.announced : ∃ tr d, AnnouncedState (domainCallees 25) 25
    FactorySample.deployer {FactorySample.base} ⟨FactorySample.factory, FactorySample.world⟩ tr d
    FactorySample.base { d.world with balances := fun _ _ => 10000 } 8 ∧
    d.ServedWhen 25 FactorySample.deployer FactorySample.base
      { d.world with balances := fun _ _ => 10000 } := by
  obtain ⟨w₁, hannounce⟩ : ∃ w₁, FactorySample.factory.announce_receiver FactorySample.deployer
      FactorySample.world FactorySample.base.merchant FactorySample.base.cctp_mint_chain 0x77 = .ok w₁ :=
    ⟨_, rfl⟩
  have hrun : Steps (FactoryStep FactorySample.deployer) ⟨FactorySample.factory, FactorySample.world⟩ _
      ⟨FactorySample.factory, w₁⟩ :=
    .step (.announced (r := FactorySample.base) hannounce) (.refl _)
  have hreached : Reached FactorySample.deployer {FactorySample.base} _ _ _ :=
    { constructed := ⟨_, _, _, _, _, _, _, _, _, _, FactorySample.constructed⟩
      collisionless := FactorySample.collisionless
      vacant := fun _ _ => rfl
      run := hrun
      used := by
        intro t ht r hr
        rw [List.mem_singleton.mp ht] at hr
        exact nomatch hr }
  have hfunded : (10000 : Nat) ≠ 0 := by decide
  have hroom : FactorySample.factory.get_receiver_count FactorySample.base.merchant
      < MAX_RECEIVERS_PER_MERCHANT := by decide
  exact ⟨_, ⟨FactorySample.factory, w₁⟩,
    ⟨acceptingCallees_domain 25, hreached, rfl, ⟨_, List.mem_cons_self, rfl⟩, rfl, by decide,
      hfunded⟩,
    .inr ⟨by decide, hroom⟩, fun hreg => absurd hreg List.not_mem_nil⟩

/-- Both are served. -/
theorem announced_receivers_served_base :
    (∃ d w, Evm.Deployment.Served (Evm.domainCallees 6) Evm.FactorySample.create2 d
      Evm.FactorySample.solana w 8) ∧
    ∃ d w, Starknet.Deployment.Served (Starknet.domainCallees 25) Starknet.FactorySample.deployer d
      Starknet.FactorySample.base w 8 := by
  obtain ⟨_, d, h, hwhen⟩ := Evm.FactorySample.announced
  obtain ⟨_, d', h', hwhen'⟩ := Starknet.FactorySample.announced
  obtain ⟨hiff, hiff'⟩ := announced_receivers_served_iff h h'
  exact ⟨⟨d, _, hiff.mpr hwhen⟩, d', _, hiff'.mpr hwhen'⟩

end Beanie
