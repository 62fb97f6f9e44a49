/-
# `Beanie.Solana.RegisteredPayout` — where a same-chain sweep pays

`register_merchant` stores the token account it is given as the merchant's,
having checked its mint.  So whether same-chain sweeps pay the merchant is
decided by the registrations of the run, and by nothing later:

    PaysMerchant      every configuration pays its merchant, into the account the keeper derives
    MeetsPayout       a registration names that account, or another program leaves it in place
    same_chain_payout_iff
-/
import Beanie.Solana.RegistryRun

namespace Beanie.Solana

section
variable {rt : Runtime} {b b' : Bank} {act : Option Instruction}

/-! ## Configurations and token accounts across one transaction -/

/-- A configuration was there before, or this transaction registered it. -/
theorem StepEffect.config_origin (h : StepEffect rt b act b') {k : Pubkey} {c : ReceiverConfig}
    (hk : b'.accounts k = .receiverConfig c) :
    b.accounts k = .receiverConfig c ∨ ∃ ix r f t, act = some ix ∧
      registered rt ⟨b, act, b'⟩ = some r ∧ Registers rt b ix.accounts r f t c ∧
      Registered rt b r f t c b' := by
  cases h with
  | @creates _ _ k' d hfree hd hb' _ =>
      have hsame := (Bank.sameRegistry_set hfree hb' ?_ ?_).config k c
      · exact .inl (hsame.mp hk)
      · rintro r rfl
        rcases hd with ⟨p, hp⟩ | ⟨-, f, hf⟩
        · exact nomatch hp
        · exact nomatch hf
      · rintro r rfl
        rcases hd with ⟨p, hp⟩ | ⟨-, f, hf⟩
        · exact nomatch hp
        · exact nomatch hf
  | @registers ix _ r f t cfg hfound hout hreg =>
      by_cases hkc : k = r.configAddress rt
      · rw [hkc, hout.config] at hk
        obtain rfl := AccountData.receiverConfig.inj hk
        exact .inr ⟨ix, r, f, t, rfl, hreg, hfound, hout⟩
      · have hkr : k ≠ registryAddress rt r.merchant := by
          rintro rfl
          obtain ⟨merchant, hregistry, -⟩ := hout.registry
          exact nomatch hregistry.symm.trans hk
        exact .inl ((hout.other (d := .receiverConfig c) hfound hkc hkr nofun nofun nofun).mp hk)
  | sweeps _ _ hframe _ => exact .inl ((hframe.owned.sameRegistry.config k c).mp hk)
  | fails _ => exact .inl hk
  | outside hkeeps => exact .inl ((hkeeps.sameRegistry.config k c).mp hk)

/-- The program takes no token account away from its owner. -/
theorem StepEffect.owners {ix : Instruction} (h : StepEffect rt b (some ix) b') {k : Pubkey}
    {t : TokenAccount} (ht : b.token? k = some t) :
    ∃ t', b'.token? k = some t' ∧ t'.owner = t.owner := by
  cases h with
  | @creates _ _ k' d hfree _ hb' _ =>
      refine ⟨t, ?_, rfl⟩
      have hne : k ≠ k' := by
        rintro rfl
        exact nomatch hfree.symm.trans (Bank.token?_eq.mp ht)
      rw [Bank.token?, hb', Bank.set_other _ _ hne]
      exact ht
  | @registers _ _ r f a cfg hfound hout _ =>
      by_cases hk : k = rt.ata r.receiver f.mint
      · subst hk
        obtain rfl := Option.some.inj (hfound.token.symm.trans ht)
        exact ⟨_, hout.token, rfl⟩
      · exact ⟨t, hout.token_other hfound ht hk, rfl⟩
  | sweeps _ _ hframe _ => exact hframe.owners ht
  | fails _ => exact ⟨t, ht, rfl⟩

/-! ## One factory, one mint -/

/-- There is one factory configuration, and every receiver's mint is its mint. -/
structure Minted (rt : Runtime) (b : Bank) : Prop where
  factory : ∀ k f, b.accounts k = .factoryConfig f → k = factoryAddress rt
  configs : ∀ k c, b.accounts k = .receiverConfig c →
    ∃ f, b.accounts (factoryAddress rt) = .factoryConfig f ∧ c.mint = f.mint

theorem Minted.step (h : Minted rt b) (hs : StepEffect rt b act b') : Minted rt b' where
  factory := by
    intro k f hk
    cases hs with
    | @creates _ _ k' d _ hd hb' _ =>
        by_cases heq : k = k'
        · subst heq
          rw [hb', Bank.set_self] at hk
          rcases hd with ⟨p, rfl⟩ | ⟨haddr, -⟩
          · exact nomatch hk
          · exact haddr
        · rw [hb', Bank.set_other _ _ heq] at hk
          exact h.factory k f hk
    | registers hfound hout _ => exact h.factory k f ((hout.factory hfound).mp hk)
    | sweeps _ _ hframe _ =>
        exact h.factory k f ((hframe.owned k (.inr (hk ▸ trivial))).symm.trans hk)
    | fails _ => exact h.factory k f hk
    | outside hkeeps => exact h.factory k f ((hkeeps k (.inr (hk ▸ trivial))).symm.trans hk)
  configs := by
    intro k c hk
    rcases hs.config_origin hk with hold | ⟨_, _, f, _, -, -, hfound, -⟩
    · obtain ⟨f, hf, hmint⟩ := h.configs k c hold
      exact ⟨f, hs.pinned.2 f hf, hmint⟩
    · obtain ⟨kf, hkf⟩ := hfound.factory
      obtain rfl := h.factory kf f hkf
      exact ⟨f, hs.pinned.2 f hkf, hfound.fields.2⟩

theorem Minted.run (hrt : FramedRuntime rt) {b₀ : Bank} (hfresh : b₀.Fresh)
    {tr : List (Transition Bank (Option Instruction))} (hrun : Steps (ProgramStep rt) b₀ tr b) :
    Minted rt b := by
  refine hrun.invariant (I := Minted rt) (P := fun _ => True)
    (fun _ _ _ hs _ h => h.step (hs.effect hrt)) (fun _ _ => trivial) ⟨?_, ?_⟩
  · intro k f hk
    exact absurd (hk ▸ trivial) (hfresh k)
  · intro k c hk
    exact absurd (hk ▸ trivial) (hfresh k)

theorem Minted.unique (h : Minted rt b) {k kc : Pubkey} {f : FactoryConfig} {c : ReceiverConfig}
    (hk : b.accounts k = .factoryConfig f) (hc : b.accounts kc = .receiverConfig c) :
    c.mint = f.mint := by
  obtain ⟨g, hg, hmint⟩ := h.configs kc c hc
  obtain rfl := h.factory k f hk
  obtain rfl := AccountData.factoryConfig.inj (hk.symm.trans hg)
  exact hmint

end

/-! ## Paying the merchant -/

/-- The configuration's merchant account is the merchant's, is not the receiver's own, and is the
one account the keeper passes. -/
structure PinsMerchant (rt : Runtime) (b : Bank) (c : ReceiverConfig) : Prop where
  owned : ∃ s, b.token? c.merchant_token_account = some s ∧ s.owner = c.merchant
  apart : c.merchant_token_account ≠ rt.ata c.receiver c.mint
  canonical : c.merchant_token_account = rt.ata c.merchant c.mint

/-- Every configuration pays its merchant. -/
structure PaysMerchant (rt : Runtime) (b : Bank) : Prop where
  pins : ∀ k c, b.accounts k = .receiverConfig c → PinsMerchant rt b c
  /-- a same-chain sweep, by anyone, credits the merchant's account with the net amount -/
  pays : ∀ metas a b', sweepAccounts rt b metas = .ok a → sweep rt b metas = .ok b' →
    a.receiver_config.cctp_mint_chain = 0 →
    b.amount a.receiver_config.merchant_token_account
        + rates.net (b.amount a.receiver_token_account)
      ≤ b'.amount a.receiver_config.merchant_token_account
  /-- the settlement of a sweep that lists the account the keeper derives is its transfer -/
  accepts : ∀ metas a, sweepAccounts rt b metas = .ok a →
    a.merchant_token_account = some (rt.ata a.receiver_config.merchant a.receiver_config.mint) →
    ∀ b' net, settleSameChain rt b' a net
      = transferSigned rt b' a a.receiver_config.merchant_token_account net

/-- What decides it: a registration names the merchant's canonical account, held by the merchant,
for a receiver other than the merchant; and no merchant gives that account away. -/
structure MeetsPayout (rt : Runtime) (t : Transition Bank (Option Instruction)) : Prop where
  registers : ∀ ix r, t.act = some ix → registered rt t = some r → r.merchant ≠ r.receiver ∧
    ∃ m f s, ix.accounts[4]? = some m ∧ t.pre.accounts (factoryAddress rt) = .factoryConfig f ∧
      m.key = rt.ata r.merchant f.mint ∧ t.pre.token? m.key = some s ∧ s.owner = r.merchant
  outside : t.act = none → ∀ k c, t.pre.accounts k = .receiverConfig c →
    (∃ s, t.pre.token? c.merchant_token_account = some s ∧ s.owner = c.merchant) →
    ∃ s, t.post.token? c.merchant_token_account = some s ∧ s.owner = c.merchant

section
variable {rt : Runtime} {b b' : Bank} {act : Option Instruction}

/-- The net amount of a same-chain sweep arrives in full, whoever is paid the fees. -/
theorem le_sweptLedger {a : Sweep} (hchain : a.receiver_config.cctp_mint_chain = 0)
    (hne : a.receiver_config.merchant_token_account ≠ a.receiver_token_account) (g : Nat)
    (l : Ledger Pubkey) :
    l a.receiver_config.merchant_token_account + rates.net g
      ≤ sweptLedger a g l a.receiver_config.merchant_token_account := by
  rw [sweptLedger, if_pos hchain, Ledger.move_dst _ _ hne.symm]
  refine Nat.add_le_add_right ?_ _
  exact (Ledger.le_move_of_ne _ _ _ hne).trans (Ledger.le_move_of_ne _ _ _ hne)

theorem paysMerchant_of_pins (hrt : FramedRuntime rt) (hminted : Minted rt b)
    (h : ∀ k c, b.accounts k = .receiverConfig c → PinsMerchant rt b c) : PaysMerchant rt b where
  pins := h
  pays := by
    intro metas a b' ha hsweep hchain
    obtain ⟨a', ha', hhandler⟩ := bind_ok.mp hsweep
    obtain rfl := Except.ok.inj (ha.symm.trans ha')
    have hchecked := sweepAccounts_ok ha
    obtain ⟨kf, hf, -⟩ := hchecked.factory
    have hpins := h _ _ hchecked.config
    have hne : a.receiver_config.merchant_token_account ≠ a.receiver_token_account := by
      rw [hchecked.receiver, ← hminted.unique hf hchecked.config]
      exact hpins.apart
    rw [(sweepHandler_ok hrt.toStandardRuntime hhandler).amounts]
    exact le_sweptLedger hchain hne _ _
  accepts := by
    intro metas a ha hlisted b' net
    have hpins := h _ _ (sweepAccounts_ok ha).config
    exact settleSameChain_eq (hlisted.trans (congrArg some hpins.canonical.symm))

/-- A step that meets the condition keeps every configuration's payee. -/
theorem PinsMerchant.step (hminted : Minted rt b) (hs : StepEffect rt b act b')
    (hmeets : MeetsPayout rt ⟨b, act, b'⟩)
    (h : ∀ k c, b.accounts k = .receiverConfig c → PinsMerchant rt b c) :
    ∀ k c, b'.accounts k = .receiverConfig c → PinsMerchant rt b' c := by
  intro k c hk
  rcases hs.config_origin hk with hold | ⟨ix, r, f, t, rfl, hreg, hfound, hout⟩
  · have hpins := h k c hold
    refine ⟨?_, hpins.apart, hpins.canonical⟩
    cases act with
    | none => exact hmeets.outside rfl k c hold hpins.owned
    | some ix =>
        obtain ⟨s, hs', howner⟩ := hpins.owned
        obtain ⟨s', hs'', howner'⟩ := hs.owners hs'
        exact ⟨s', hs'', howner'.trans howner⟩
  · obtain ⟨hne, m, g, s, hm, hg, hkey, hs', howner⟩ := hmeets.registers ix r rfl hreg
    obtain ⟨kf, hkf⟩ := hfound.factory
    obtain rfl := hminted.factory kf f hkf
    obtain rfl := AccountData.factoryConfig.inj (hkf.symm.trans hg)
    obtain ⟨m', _, hm', hkey', -, -⟩ := hfound.payee
    obtain rfl := Option.some.inj (hm.symm.trans hm')
    obtain ⟨hfields, hmint⟩ := hfound.fields
    have hmerchant : c.merchant = r.merchant := congrArg Registration.merchant hfields
    have hreceiver : c.receiver = r.receiver := congrArg Registration.receiver hfields
    obtain ⟨s', hs'', howner'⟩ := hs.owners hs'
    refine ⟨⟨s', hkey' ▸ hs'', ?_⟩, ?_, ?_⟩
    · rw [howner', howner, hmerchant]
    · intro heq
      rw [← hkey', hreceiver, hmint] at heq
      rw [heq, hfound.token] at hs'
      obtain rfl := Option.some.inj hs'
      exact hne (howner.symm.trans hfound.owner)
    · rw [← hkey', hkey, hmerchant, hmint]

/-- Where every configuration is left with its payee, the step met the condition. -/
theorem MeetsPayout.of_pins (hminted : Minted rt b) (hs : StepEffect rt b act b')
    (h : ∀ k c, b'.accounts k = .receiverConfig c → PinsMerchant rt b' c) :
    MeetsPayout rt ⟨b, act, b'⟩ where
  registers := by
    rintro ix r rfl hreg
    cases hs with
    | creates _ _ _ hnone => exact nomatch hreg.symm.trans hnone
    | sweeps _ _ _ hnone => exact nomatch hreg.symm.trans hnone
    | fails hnone => exact nomatch hreg.symm.trans hnone
    | @registers _ _ r' f t cfg hfound hout hreg' =>
        obtain rfl := Option.some.inj (hreg'.symm.trans hreg)
        have hpins := h _ cfg hout.config
        obtain ⟨kf, hkf⟩ := hfound.factory
        obtain rfl := hminted.factory kf f hkf
        obtain ⟨m, s, hm, hkey, hs', -⟩ := hfound.payee
        obtain ⟨hfields, hmint⟩ := hfound.fields
        have hmerchant : cfg.merchant = r'.merchant := congrArg Registration.merchant hfields
        have hreceiver : cfg.receiver = r'.receiver := congrArg Registration.receiver hfields
        refine ⟨?_, m, f, s, hm, hkf, ?_, hkey.symm ▸ hs', ?_⟩
        · intro heq
          refine hpins.apart ?_
          rw [hpins.canonical, hmerchant, hreceiver, heq]
        · rw [hkey, hpins.canonical, hmerchant, hmint]
        · obtain ⟨u, hu, howner⟩ := hpins.owned
          obtain ⟨u', hu', howner'⟩ :=
            (StepEffect.registers hfound hout hreg').owners hs'
          obtain rfl := Option.some.inj (hu.symm.trans hu')
          rw [← howner', howner, hmerchant]
  outside := by
    rintro rfl k c hk -
    exact (h k c (hs.pinned.1 c hk)).owned

/-- **Same-chain payout.**  In the states of a run every configuration pays its merchant, and the
keeper's sweeps of it are not turned away, exactly when each of its transactions meets the
condition. -/
theorem same_chain_payout_iff (hrt : FramedRuntime rt) {b₀ : Bank} (hfresh : b₀.Fresh)
    {tr : List (Transition Bank (Option Instruction))} (hrun : Steps (ProgramStep rt) b₀ tr b) :
    (∀ t ∈ tr, PaysMerchant rt t.post) ↔ ∀ t ∈ tr, MeetsPayout rt t := by
  have hminted : ∀ t ∈ tr, Minted rt t.pre := by
    intro t ht
    obtain ⟨-, l, r, -, hl, -⟩ := hrun.mem_split ht
    exact .run hrt hfresh hl
  have heffect : ∀ t ∈ tr, StepEffect rt t.pre t.act t.post := by
    intro t ht
    exact (hrun.mem_split ht).1.effect hrt
  constructor
  · intro h t ht
    exact .of_pins (hminted t ht) (heffect t ht) (h t ht).pins
  · intro h
    have hpins : ∀ t ∈ tr, ∀ k c, t.pre.accounts k = .receiverConfig c →
        PinsMerchant rt t.pre c := by
      intro t ht
      refine (hrun.invariant_pre
        (I := fun s => Minted rt s ∧ ∀ k c, s.accounts k = .receiverConfig c → PinsMerchant rt s c)
        (P := MeetsPayout rt) ?_ h ?_ t ht).2
      · intro s a s' hs hmeets hI
        have he := hs.effect hrt
        exact ⟨hI.1.step he, .step hI.1 he hmeets hI.2⟩
      · exact ⟨.run hrt hfresh (.refl b₀), fun k c hk => absurd (hk ▸ trivial) (hfresh k)⟩
    intro t ht
    have he := heffect t ht
    refine paysMerchant_of_pins hrt ((hminted t ht).step he) ?_
    exact .step (hminted t ht) he (h t ht) (hpins t ht)

end

/-! ## Two registrations -/

namespace RegistrySample

theorem meetsPayout_executes {b b' : Bank} {ix : Instruction}
    (h : ∀ r, registered ownedRuntime ⟨b, some ix, b'⟩ = some r → r.merchant ≠ r.receiver ∧
      ∃ m f s, ix.accounts[4]? = some m ∧
        b.accounts (factoryAddress ownedRuntime) = .factoryConfig f ∧
        m.key = ownedRuntime.ata r.merchant f.mint ∧ b.token? m.key = some s ∧
        s.owner = r.merchant) : MeetsPayout ownedRuntime ⟨b, some ix, b'⟩ where
  registers := by
    intro ix' r hix hreg
    obtain rfl := Option.some.inj hix
    exact h r hreg
  outside := nofun

/-- The registration as submitted by somebody who names an account of their own. -/
def misdirect : Instruction :=
  { Sample.register with
    accounts := Sample.register.accounts.set 4 (.newReadonly Sample.callerToken false) }

def misdirected : Bank := transact ownedRuntime announced misdirect

/-- The configuration it stores. -/
def misdirectedConfig : ReceiverConfig :=
  ⟨Sample.receiver, Sample.merchant, Sample.mint, Sample.callerToken, 0, 0,
    SAME_CHAIN_DOMAIN_SENTINEL, 255⟩

/-- A payment of 10_000 arrives. -/
def paid : Bank :=
  misdirected.set Sample.receiverToken (.token { held 0 0 with amount := 10000 })

end RegistrySample

open RegistrySample in
set_option maxRecDepth 20000 in
/-- A registration that names the merchant's account. -/
theorem same_chain_payout_registered :
    opening.Fresh ∧ ∀ t ∈ registering, PaysMerchant ownedRuntime t.post := by
  refine ⟨opening_fresh,
    (same_chain_payout_iff framedRuntime_owned opening_fresh steps_registering).mpr ?_⟩
  intro t ht
  rcases List.mem_cons.mp ht with rfl | ht
  · refine meetsPayout_executes ?_
    have hnone : registered ownedRuntime ⟨opening, some setUp, ready⟩ = none := by decide +kernel
    intro r hr
    exact nomatch hnone.symm.trans hr
  · rcases List.mem_cons.mp ht with rfl | ht
    · refine meetsPayout_executes ?_
      have hnone : registered ownedRuntime ⟨ready, some announce, announced⟩ = none := by
        decide +kernel
      intro r hr
      exact nomatch hnone.symm.trans hr
    · rw [List.mem_singleton.mp ht]
      refine meetsPayout_executes ?_
      have hsome : registered ownedRuntime ⟨announced, some Sample.register, base⟩
          = some registration := by decide +kernel
      have hfactory : announced.accounts (factoryAddress ownedRuntime)
          = .factoryConfig ⟨Sample.mint, Sample.treasury, 25, 6, 0, 15, 3, 255⟩ := by
        decide +kernel
      have htoken : announced.token? Sample.merchantToken
          = some ⟨Sample.mint, Sample.merchant, 0, none, 0, false, none⟩ := by decide +kernel
      intro r hr
      obtain rfl := Option.some.inj (hsome.symm.trans hr)
      exact ⟨by decide, .newReadonly Sample.merchantToken false, _, _, rfl, hfactory, rfl, htoken,
        rfl⟩

def rejection {ε α : Type} : Except ε α → Option ε
  | .ok _ => none
  | .error e => some e

open RegistrySample in
set_option maxRecDepth 20000 in
/-- A registration that names another account is accepted: the merchant is not paid, and a sweep
that lists the merchant's canonical account is turned away. -/
theorem payout_misdirected : opening.Fresh ∧ ∃ tr c s,
    Steps (ProgramStep ownedRuntime) opening tr paid ∧
    paid.accounts Sample.config = .receiverConfig c ∧ c.cctp_mint_chain = 0 ∧
    paid.token? c.merchant_token_account = some s ∧ s.owner ≠ c.merchant ∧
    c.merchant_token_account ≠ ownedRuntime.ata c.merchant c.mint ∧
    sweep ownedRuntime paid Sample.sweepMetas = .error (.deposit .wrongMerchant) := by
  have hregister : (process ownedRuntime announced misdirect).toOption.isSome := by decide +kernel
  have hheld : misdirected.token? Sample.receiverToken = some (held 0 0) := by decide +kernel
  have hpaid : ProgramStep ownedRuntime misdirected none paid :=
    .outside (Bank.keepsOwned_set_token hheld)
  have hconfig : paid.accounts Sample.config = .receiverConfig misdirectedConfig := by
    decide +kernel
  have htoken : paid.token? Sample.callerToken
      = some ⟨Sample.mint, Sample.caller, 0, none, 0, false, none⟩ := by decide +kernel
  have hrejected : rejection (sweep ownedRuntime paid Sample.sweepMetas)
      = some (.deposit .wrongMerchant) := by decide +kernel
  refine ⟨opening_fresh, _, misdirectedConfig, _, .step (transact_of_isSome succeeds_all.1)
    (.step (transact_of_isSome succeeds_all.2.1) (.step (transact_of_isSome hregister)
      (.step hpaid (.refl _)))), hconfig, rfl, htoken, by decide, by decide +kernel, ?_⟩
  cases h : sweep ownedRuntime paid Sample.sweepMetas with
  | ok b =>
      rw [h] at hrejected
      cases hrejected
  | error e =>
      rw [h] at hrejected
      exact congrArg Except.error (Option.some.inj hrejected)

end Beanie.Solana
