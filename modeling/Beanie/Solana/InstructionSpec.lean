/-
# `Beanie.Solana.InstructionSpec` — what each instruction finds and writes

One spec lemma an instruction, about the accounts as a whole:

    initializeFactory_ok   fills one free account with a factory configuration
    announceMerchant_ok    fills one free account with a pending registration
    registerMerchant_ok    writes the receiver's token account, the configuration, the registry
                           and the pending account, and nothing else  (`Registers`)
    sweep_frame            writes no account of the program's, and lets the configuration draw
                           on its delegation  (`SweepFrame`)

A token account is followed by its authorities: who owns it, who may close it,
and what its delegate may still move (`SameAuthority`, `DrawnFrom`).
-/
import Beanie.Solana.ProgramRun

namespace Beanie.Solana

/-! ## The authorities of a token account -/

namespace TokenAccount

/-- Nobody's rights over the account differ; its amount may. -/
structure SameAuthority (t t' : TokenAccount) : Prop where
  mint : t'.mint = t.mint
  owner : t'.owner = t.owner
  delegate : t'.delegate = t.delegate
  delegatedAmount : t'.delegatedAmount = t.delegatedAmount
  closeAuthority : t'.closeAuthority = t.closeAuthority

/-- The delegate has moved the difference of the amounts out of what was delegated; a delegate
with nothing left may be gone. -/
structure DrawnFrom (t t' : TokenAccount) : Prop where
  mint : t'.mint = t.mint
  owner : t'.owner = t.owner
  closeAuthority : t'.closeAuthority = t.closeAuthority
  amount : t'.amount ≤ t.amount
  delegatedAmount : t'.delegatedAmount + (t.amount - t'.amount) = t.delegatedAmount
  delegate : t'.delegate = t.delegate ∨ t'.delegate = none ∧ t'.delegatedAmount = 0
  spent : t.delegatedAmount ≠ 0 → t'.delegatedAmount = 0 → t'.delegate = none

theorem SameAuthority.refl (t : TokenAccount) : t.SameAuthority t := ⟨rfl, rfl, rfl, rfl, rfl⟩

theorem SameAuthority.symm {t t' : TokenAccount} (h : t.SameAuthority t') : t'.SameAuthority t :=
  ⟨h.mint.symm, h.owner.symm, h.delegate.symm, h.delegatedAmount.symm, h.closeAuthority.symm⟩

theorem SameAuthority.trans {t t' t'' : TokenAccount} (h : t.SameAuthority t')
    (h' : t'.SameAuthority t'') : t.SameAuthority t'' where
  mint := h'.mint.trans h.mint
  owner := h'.owner.trans h.owner
  delegate := h'.delegate.trans h.delegate
  delegatedAmount := h'.delegatedAmount.trans h.delegatedAmount
  closeAuthority := h'.closeAuthority.trans h.closeAuthority

theorem DrawnFrom.refl (t : TokenAccount) : t.DrawnFrom t where
  mint := rfl
  owner := rfl
  closeAuthority := rfl
  amount := le_rfl
  delegatedAmount := by rw [Nat.sub_self, Nat.add_zero]
  delegate := .inl rfl
  spent := fun hne hzero => absurd hzero hne

theorem DrawnFrom.trans {t t' t'' : TokenAccount} (h : t.DrawnFrom t') (h' : t'.DrawnFrom t'') :
    t.DrawnFrom t'' where
  mint := h'.mint.trans h.mint
  owner := h'.owner.trans h.owner
  closeAuthority := h'.closeAuthority.trans h.closeAuthority
  amount := h'.amount.trans h.amount
  delegatedAmount := by
    have hle := h.amount
    have hle' := h'.amount
    have hsum := h.delegatedAmount
    have hsum' := h'.delegatedAmount
    omega
  delegate := by
    have hsum' := h'.delegatedAmount
    rcases h'.delegate with heq' | hgone
    · rcases h.delegate with heq | ⟨hnone, hzero⟩
      · exact .inl (heq'.trans heq)
      · exact .inr ⟨heq'.trans hnone, by omega⟩
    · exact .inr hgone
  spent := by
    intro hne hzero
    by_cases hmid : t'.delegatedAmount = 0
    · rcases h'.delegate with heq' | ⟨hnone, -⟩
      · exact heq'.trans (h.spent hne hmid)
      · exact hnone
    · exact h'.spent hmid hzero

theorem sameAuthority_receive (t : TokenAccount) (n : Nat) : t.SameAuthority (t.receive n) :=
  ⟨rfl, rfl, rfl, rfl, rfl⟩

/-- A transfer somebody else than the owner authorised is drawn from the delegation. -/
theorem drawnFrom_spend {t : TokenAccount} {authority : Pubkey} {n : Nat}
    (howner : t.owner ≠ authority) (hauth : t.Authorizes authority n) (hfunds : n ≤ t.amount) :
    t.DrawnFrom (t.spend authority n) := by
  by_cases hd : t.delegate = some authority
  · have hn : n ≤ t.delegatedAmount := by
      rwa [Authorizes, if_pos hd] at hauth
    rw [spend, if_pos hd]
    refine ⟨rfl, rfl, rfl, Nat.sub_le _ _, ?_, ?_, ?_⟩
    · show t.delegatedAmount - n + (t.amount - (t.amount - n)) = t.delegatedAmount
      omega
    · by_cases hall : t.delegatedAmount = n
      · refine .inr ⟨if_pos hall, ?_⟩
        show t.delegatedAmount - n = 0
        omega
      · exact .inl (if_neg hall)
    · intro _ hzero
      have hzero : t.delegatedAmount - n = 0 := hzero
      exact if_pos (by omega)
  · rw [Authorizes, if_neg hd] at hauth
    exact absurd hauth howner

end TokenAccount

namespace Bank

/-- `b'` holds the program's accounts of `b`, and no others. -/
def KeepsOwned (b b' : Bank) : Prop :=
  ∀ k, (b.accounts k).Owned ∨ (b'.accounts k).Owned → b'.accounts k = b.accounts k

theorem KeepsOwned.refl (b : Bank) : b.KeepsOwned b := fun _ _ => rfl

theorem KeepsOwned.trans {b b' b'' : Bank} (h : b.KeepsOwned b') (h' : b'.KeepsOwned b'') :
    b.KeepsOwned b'' := by
  intro k hk
  rcases hk with hk | hk
  · have heq := h k (.inl hk)
    exact (h' k (.inl (heq ▸ hk))).trans heq
  · have heq' := h' k (.inr hk)
    exact heq'.trans (h k (.inr (heq' ▸ hk)))

theorem KeepsOwned.config {b b' : Bank} (h : b.KeepsOwned b') {k : Pubkey} {c : ReceiverConfig}
    (hc : b.accounts k = .receiverConfig c) : b'.accounts k = .receiverConfig c :=
  (h k (.inl (hc ▸ trivial))).trans hc

theorem KeepsOwned.factory {b b' : Bank} (h : b.KeepsOwned b') {k : Pubkey} {f : FactoryConfig}
    (hf : b.accounts k = .factoryConfig f) : b'.accounts k = .factoryConfig f :=
  (h k (.inl (hf ▸ trivial))).trans hf

/-- Writing a token account over a token account keeps the program's accounts. -/
theorem keepsOwned_set_token {b : Bank} {k : Pubkey} {t t' : TokenAccount}
    (h : b.token? k = some t) : b.KeepsOwned (b.set k (.token t')) := by
  intro k' hk'
  by_cases hk : k' = k
  · subst hk
    rw [Bank.set_self, token?_eq.mp h] at hk'
    rcases hk' with hk' | hk'
    · exact hk'.elim
    · exact hk'.elim
  · exact set_other _ _ hk

theorem token?_set_self (b : Bank) (k : Pubkey) (t : TokenAccount) :
    (b.set k (.token t)).token? k = some t := token?_eq.mpr (set_self ..)

theorem token?_set_other (b : Bank) {k k' : Pubkey} (d : AccountData) (h : k' ≠ k) :
    (b.set k d).token? k' = b.token? k' := by
  rw [token?, set_other b d h, token?]

end Bank

/-! ## A transfer out of one account -/

/-- `b'` is `b` after `authority`, the delegate of `src`, moved tokens out of it. -/
structure Drawn (b b' : Bank) (src authority : Pubkey) : Prop where
  owned : b.KeepsOwned b'
  others : ∀ k, k ≠ src → ∀ t, b.token? k = some t →
    ∃ t', b'.token? k = some t' ∧ t.SameAuthority t'
  source : ∀ t, b.token? src = some t → t.owner ≠ authority →
    ∃ t', b'.token? src = some t' ∧ t.DrawnFrom t'
  owner : ∀ t, b.token? src = some t → ∃ t', b'.token? src = some t' ∧ t'.owner = t.owner
  back : ∀ k t', b'.token? k = some t' → ∃ t, b.token? k = some t

theorem Drawn.refl (b : Bank) (src authority : Pubkey) : Drawn b b src authority where
  owned := .refl b
  others := fun _ _ t ht => ⟨t, ht, .refl t⟩
  source := fun t ht _ => ⟨t, ht, .refl t⟩
  owner := fun t ht => ⟨t, ht, rfl⟩
  back := fun _ t ht => ⟨t, ht⟩

theorem Drawn.trans {b b' b'' : Bank} {src authority : Pubkey} (h : Drawn b b' src authority)
    (h' : Drawn b' b'' src authority) : Drawn b b'' src authority where
  owned := h.owned.trans h'.owned
  others := by
    intro k hk t ht
    obtain ⟨t', ht', hsame⟩ := h.others k hk t ht
    obtain ⟨t'', ht'', hsame'⟩ := h'.others k hk t' ht'
    exact ⟨t'', ht'', hsame.trans hsame'⟩
  source := by
    intro t ht howner
    obtain ⟨t', ht', hdrawn⟩ := h.source t ht howner
    obtain ⟨t'', ht'', hdrawn'⟩ := h'.source t' ht' (hdrawn.owner ▸ howner)
    exact ⟨t'', ht'', hdrawn.trans hdrawn'⟩
  owner := by
    intro t ht
    obtain ⟨t', ht', howner⟩ := h.owner t ht
    obtain ⟨t'', ht'', howner'⟩ := h'.owner t' ht'
    exact ⟨t'', ht'', howner'.trans howner⟩
  back := by
    intro k t'' ht''
    obtain ⟨t', ht'⟩ := h'.back k t'' ht''
    exact h.back k t' ht'

theorem afterTransfer_drawn {b : Bank} {src dst authority : Pubkey} {n : Nat} {s d : TokenAccount}
    (hne : src ≠ dst) (h : Transferable b src dst authority n s d) :
    Drawn b (b.afterTransfer src dst authority n s d) src authority := by
  have hd : (b.set src (.token (s.spend authority n))).token? dst = some d := by
    rw [Bank.token?_set_other _ _ hne.symm]
    exact h.destination
  have hs : (b.afterTransfer src dst authority n s d).token? src
      = some (s.spend authority n) := by
    rw [Bank.afterTransfer, Bank.token?_set_other _ _ hne]
    exact Bank.token?_set_self ..
  refine ⟨?_, ?_, ?_, ?_, ?_⟩
  · exact (Bank.keepsOwned_set_token h.source).trans (Bank.keepsOwned_set_token hd)
  · intro k hk t ht
    by_cases hkd : k = dst
    · subst hkd
      obtain rfl : d = t := Option.some.inj (h.destination.symm.trans ht)
      exact ⟨_, Bank.token?_set_self .., TokenAccount.sameAuthority_receive d n⟩
    · refine ⟨t, ?_, .refl t⟩
      rw [Bank.afterTransfer, Bank.token?_set_other _ _ hkd, Bank.token?_set_other _ _ hk]
      exact ht
  · intro t ht howner
    obtain rfl : s = t := Option.some.inj (h.source.symm.trans ht)
    exact ⟨_, hs, TokenAccount.drawnFrom_spend howner h.authority h.funds⟩
  · intro t ht
    obtain rfl : s = t := Option.some.inj (h.source.symm.trans ht)
    exact ⟨_, hs, TokenAccount.spend_owner ..⟩
  · intro k t' ht'
    by_cases hkd : k = dst
    · exact ⟨d, hkd ▸ h.destination⟩
    · by_cases hks : k = src
      · exact ⟨s, hks ▸ h.source⟩
      · rw [Bank.afterTransfer, Bank.token?_set_other _ _ hkd, Bank.token?_set_other _ _ hks] at ht'
        exact ⟨t', ht'⟩

section
variable {rt : Runtime} {b b' : Bank} {a : Sweep} {dst : Pubkey} {n : Nat}

theorem transferSigned_drawn (hrt : StandardRuntime rt)
    (h : transferSigned rt b a dst n = .ok b') :
    Drawn b b' a.receiver_token_account a.receiver_config_key := by
  obtain ⟨_, -, htransfer⟩ := bind_ok.mp h
  by_cases hne : a.receiver_token_account = dst
  · subst hne
    obtain ⟨-, rfl⟩ := hrt.selfTransfer htransfer
    exact .refl b' _ _
  · obtain ⟨s, d, hable, rfl⟩ := (hrt.transfer hne).mp htransfer
    exact afterTransfer_drawn hne hable

theorem payIfPositive_drawn (hrt : StandardRuntime rt)
    (h : payIfPositive rt b a dst n = .ok b') :
    Drawn b b' a.receiver_token_account a.receiver_config_key := by
  unfold payIfPositive at h
  split_ifs at h
  · exact transferSigned_drawn hrt h
  · obtain rfl := Except.ok.inj h
    exact .refl b _ _

theorem settleSameChain_drawn (hrt : StandardRuntime rt)
    (h : settleSameChain rt b a n = .ok b') :
    Drawn b b' a.receiver_token_account a.receiver_config_key := by
  obtain ⟨_, -, h⟩ := bind_ok.mp h
  obtain ⟨_, -, h⟩ := bind_ok.mp h
  exact transferSigned_drawn hrt h

end

/-! ## The burn -/

/-- CCTP beside the burn itself: the burn account belongs to the first account of the
instruction and keeps its authorities, and the call leaves every other token account and every
account of another program as they were. -/
structure FramedRuntime (rt : Runtime) : Prop extends StandardRuntime rt where
  burnFrame : ∀ {b b' ix owner account} {p : DepositForBurnParams},
    rt.invokeCctp b ix = .ok b' →
    ix.data = rt.anchorDiscriminator "deposit_for_burn".toList ++ p.toVec →
    ix.accounts[0]? = some owner → ix.accounts[3]? = some account →
    b.KeepsOwned b' ∧ (∀ t, b.token? account.key = some t → t.owner = owner.key ∧
        ∃ t', b'.token? account.key = some t' ∧ t.SameAuthority t') ∧
      ∀ k, k ≠ account.key → b'.token? k = b.token? k

/-- What a successful sweep leaves of the accounts: the program's own are untouched, token
accounts other than the receiver's keep their authorities, and the receiver's is drawn from. -/
structure SweepFrame (b b' : Bank) (src config : Pubkey) : Prop where
  owned : b.KeepsOwned b'
  others : ∀ k, k ≠ src → ∀ t, b.token? k = some t →
    ∃ t', b'.token? k = some t' ∧ t.SameAuthority t'
  source : ∀ t, b.token? src = some t → t.owner ≠ config →
    ∃ t', b'.token? src = some t' ∧ t.DrawnFrom t'
  owner : ∀ t, b.token? src = some t → ∃ t', b'.token? src = some t' ∧ t'.owner = t.owner

theorem Drawn.frame {b b' : Bank} {src config : Pubkey} (h : Drawn b b' src config) :
    SweepFrame b b' src config := ⟨h.owned, h.others, h.source, h.owner⟩

theorem Drawn.then_frame {b b' b'' : Bank} {src config : Pubkey} (h : Drawn b b' src config)
    (h' : SweepFrame b' b'' src config) : SweepFrame b b'' src config where
  owned := h.owned.trans h'.owned
  others := by
    intro k hk t ht
    obtain ⟨t', ht', hsame⟩ := h.others k hk t ht
    obtain ⟨t'', ht'', hsame'⟩ := h'.others k hk t' ht'
    exact ⟨t'', ht'', hsame.trans hsame'⟩
  source := by
    intro t ht howner
    obtain ⟨t', ht', hdrawn⟩ := h.source t ht howner
    obtain ⟨t'', ht'', hdrawn'⟩ := h'.source t' ht' (hdrawn.owner ▸ howner)
    exact ⟨t'', ht'', hdrawn.trans hdrawn'⟩
  owner := by
    intro t ht
    obtain ⟨t', ht', howner⟩ := h.owner t ht
    obtain ⟨t'', ht'', howner'⟩ := h'.owner t' ht'
    exact ⟨t'', ht'', howner'.trans howner⟩

/-- Emitting an event leaves the accounts. -/
theorem SweepFrame.emit {b b' : Bank} {src config : Pubkey} (h : SweepFrame b b' src config)
    (e : Event) : SweepFrame b (b'.emit e) src config := ⟨h.owned, h.others, h.source, h.owner⟩

/-- No token account changes hands. -/
theorem SweepFrame.owners {b b' : Bank} {src config : Pubkey} (h : SweepFrame b b' src config)
    {k : Pubkey} {t : TokenAccount} (ht : b.token? k = some t) :
    ∃ t', b'.token? k = some t' ∧ t'.owner = t.owner := by
  by_cases hk : k = src
  · subst hk
    exact h.owner t ht
  · obtain ⟨t', ht', hsame⟩ := h.others k hk t ht
    exact ⟨t', ht', hsame.owner⟩

section
variable {rt : Runtime} {b b' : Bank} {a : Sweep}

theorem settleCrossChain_frame (hrt : FramedRuntime rt) {balance net max_fee : Nat}
    (h : settleCrossChain rt b a balance net = .ok (b', max_fee)) :
    SweepFrame b b' a.receiver_token_account a.receiver_config_key := by
  simp only [settleCrossChain, bind_ok] at h
  obtain ⟨staging, -, rp, -, ed, -, bm, -, sa, -, dl, -, tr, -, ms, -, rm, -, mi, -, lt, -, h⟩ := h
  obtain ⟨ea, -, tp, -, mp, -, -, -, -, -, -, -, h⟩ := h
  obtain ⟨b₁, htransfer, fee, -, b₂, hburn, hout⟩ := h
  obtain ⟨rfl, -⟩ := Prod.mk.inj (Except.ok.inj hout)
  have hdrawn := transferSigned_drawn hrt.toStandardRuntime htransfer
  obtain ⟨hkeeps, hburned, hothers⟩ := hrt.burnFrame hburn rfl rfl rfl
  have hauthority : ∀ k t, b₁.token? k = some t →
      ∃ t', b₂.token? k = some t' ∧ t.SameAuthority t' := by
    intro k t ht
    by_cases hk : k = (AccountMeta.new staging false).key
    · subst hk
      exact (hburned t ht).2
    · exact ⟨t, (hothers k hk).trans ht, .refl t⟩
  refine hdrawn.then_frame ⟨hkeeps, fun k _ t ht => hauthority k t ht, ?_, ?_⟩
  · intro t ht hne
    -- the burn account is the configuration's, so it is not this one
    have hk : a.receiver_token_account ≠ (AccountMeta.new staging false).key := by
      intro heq
      rw [heq] at ht
      exact hne (hburned t ht).1
    exact ⟨t, (hothers _ hk).trans ht, .refl t⟩
  · intro t ht
    obtain ⟨t', ht', hsame⟩ := hauthority _ t ht
    exact ⟨t', ht', hsame.owner⟩

/-- A same-chain sweep is transfers only. -/
theorem sweepHandler_drawn (hrt : StandardRuntime rt)
    (hchain : a.receiver_config.cctp_mint_chain = 0) (h : sweepHandler rt b a = .ok b') :
    Drawn b b' a.receiver_token_account a.receiver_config_key := by
  unfold sweepHandler at h
  dsimp only at h
  split_ifs at h with hbal
  · obtain rfl := Except.ok.inj h
    exact .refl b _ _
  · simp only [bind_ok] at h
    obtain ⟨_, -, _, -, _, -, _, -, b₁, hpay₁, b₂, hpay₂, b₃, hset, hout⟩ := h
    obtain rfl := Except.ok.inj hout
    have hpaid := (payIfPositive_drawn hrt hpay₁).trans (payIfPositive_drawn hrt hpay₂)
    have hall := hpaid.trans (settleSameChain_drawn hrt hset)
    exact ⟨hall.owned, hall.others, hall.source, hall.owner, hall.back⟩

/-- **The frame of a sweep.** -/
theorem sweepHandler_frame (hrt : FramedRuntime rt) (h : sweepHandler rt b a = .ok b') :
    SweepFrame b b' a.receiver_token_account a.receiver_config_key := by
  have hstd := hrt.toStandardRuntime
  by_cases hchain : a.receiver_config.cctp_mint_chain = 0
  · exact (sweepHandler_drawn hstd hchain h).frame
  unfold sweepHandler at h
  dsimp only at h
  split_ifs at h with hbal
  · obtain rfl := Except.ok.inj h
    exact (Drawn.refl b _ _).frame
  · simp only [bind_ok] at h
    obtain ⟨_, -, _, -, _, -, _, -, b₁, hpay₁, b₂, hpay₂, ⟨b₃, max_fee⟩, hset, hout⟩ := h
    obtain rfl := Except.ok.inj hout
    have hpaid := (payIfPositive_drawn hstd hpay₁).trans (payIfPositive_drawn hstd hpay₂)
    exact (hpaid.then_frame (settleCrossChain_frame hrt hset)).emit _

end

/-! ## The instructions that create accounts -/

section
variable {rt : Runtime} {b b' : Bank} {metas : List AccountMeta}

/-- `init` succeeded: the account is at the address of its seeds, and free. -/
theorem initAccount_ok {m : AccountMeta} {seeds : List Bytes} {bump : UInt8}
    (h : initAccount rt b m seeds = .ok bump) :
    m.key = (rt.findProgramAddress seeds rt.programId).1 ∧ b.accounts m.key = .empty ∧
      bump = (rt.findProgramAddress seeds rt.programId).2 := by
  obtain ⟨_, hkey, h⟩ := bind_ok.mp h
  obtain ⟨_, -, h⟩ := bind_ok.mp h
  obtain ⟨_, hfree, h⟩ := bind_ok.mp h
  exact ⟨require_ok.mp hkey, require_ok.mp hfree, (Except.ok.inj h).symm⟩

/-- The address of the factory's configuration. -/
def factoryAddress (rt : Runtime) : Pubkey :=
  (rt.findProgramAddress [FACTORY_SEED] rt.programId).1

theorem initializeFactory_ok {args : InitializeFactoryArgs}
    (h : initializeFactory rt b metas args = .ok b') :
    b.accounts (factoryAddress rt) = .empty ∧
      ∃ f, b'.accounts = (b.set (factoryAddress rt) (.factoryConfig f)).accounts := by
  unfold initializeFactory at h
  split at h
  · rename_i factory system _
    simp only [bind_ok] at h
    obtain ⟨_, -, _, -, _, -, _, -, _, -, _, -, bump, hinit, _, -, h⟩ := h
    obtain ⟨hkey, hfree, -⟩ := initAccount_ok hinit
    have hkey : factory.key = factoryAddress rt := hkey
    rw [hkey] at hfree h
    obtain rfl := Except.ok.inj h
    exact ⟨hfree, _, rfl⟩
  · cases h

theorem announceMerchant_ok {args : AnnounceArgs}
    (h : announceMerchant rt b metas args = .ok b') :
    ∃ k p, b.accounts k = .empty ∧ b'.accounts = (b.set k (.pending p)).accounts := by
  obtain ⟨⟨f, k, bump⟩, hacc, h⟩ := bind_ok.mp h
  obtain ⟨_, -, h⟩ := bind_ok.mp h
  obtain ⟨_, -, h⟩ := bind_ok.mp h
  obtain ⟨_, -, h⟩ := bind_ok.mp h
  obtain rfl := Except.ok.inj h
  unfold announceAccounts at hacc
  split at hacc
  · rename_i pending system _
    simp only [bind_ok] at hacc
    obtain ⟨_, -, _, -, _, -, _, -, _, -, bump', hinit, hout⟩ := hacc
    obtain ⟨-, hrest⟩ := Prod.mk.inj (Except.ok.inj hout)
    obtain ⟨rfl, -⟩ := Prod.mk.inj hrest
    obtain ⟨-, hfree, -⟩ := initAccount_ok hinit
    exact ⟨_, _, hfree, rfl⟩
  · exact nomatch hacc

end

/-! ## `register_merchant` -/

/-- A registration: the route, the merchant it pays and the receiver it binds. -/
structure Registration where
  merchant : Pubkey
  receiver : Pubkey
  cctp_mint_chain : Bytes32
  cctp_mint_recipient : Bytes32
deriving DecidableEq

namespace Registration

/-- The configuration's address. -/
def configAddress (rt : Runtime) (r : Registration) : Pubkey :=
  (rt.findProgramAddress (routeSeeds CONFIG_SEED r.merchant r.receiver r.cctp_mint_chain
    r.cctp_mint_recipient) rt.programId).1

end Registration

/-- The address of a merchant's registry. -/
def registryAddress (rt : Runtime) (merchant : Pubkey) : Pubkey :=
  (rt.findProgramAddress [REGISTRY_SEED, bytesOf merchant] rt.programId).1

/-- The registration a configuration stores. -/
def ReceiverConfig.registration (c : ReceiverConfig) : Registration :=
  ⟨c.merchant, c.receiver, c.cctp_mint_chain, c.cctp_mint_recipient⟩

/-- A registry holding `receivers`, or none yet. -/
def Bank.receiversAt (b : Bank) (k : Pubkey) : List Pubkey :=
  match b.accounts k with
  | .registry r => r.receivers
  | _ => []

/-- What a successful registration found, besides the accounts it wrote. -/
structure Registers (rt : Runtime) (b : Bank) (metas : List AccountMeta) (r : Registration)
    (f : FactoryConfig) (t : TokenAccount) (cfg : ReceiverConfig) : Prop where
  signs : ∃ m, metas[1]? = some m ∧ m.isSigner = true ∧ m.key = r.receiver
  factory : ∃ k, b.accounts k = .factoryConfig f
  fields : cfg.registration = r ∧ cfg.mint = f.mint
  route : validateRoute f r.cctp_mint_chain r.cctp_mint_recipient = .ok cfg.cctp_domain_id
  vacant : b.accounts (r.configAddress rt) = .empty
  registry : b.accounts (registryAddress rt r.merchant) = .empty ∨
    ∃ rg, b.accounts (registryAddress rt r.merchant) = .registry rg
  room : (b.receiversAt (registryAddress rt r.merchant)).length < MAX_RECEIVERS_PER_MERCHANT
  token : b.token? (rt.ata r.receiver f.mint) = some t
  owner : t.owner = r.receiver
  mint : t.mint = f.mint
  closable : t.closeAuthority.getD t.owner = r.receiver
  payee : ∃ m s, metas[4]? = some m ∧ m.key = cfg.merchant_token_account ∧
    b.token? cfg.merchant_token_account = some s ∧ s.mint = f.mint

/-- What it wrote: four accounts. -/
structure Registered (rt : Runtime) (b : Bank) (r : Registration) (f : FactoryConfig)
    (t : TokenAccount) (cfg : ReceiverConfig) (b' : Bank) : Prop where
  config : b'.accounts (r.configAddress rt) = .receiverConfig cfg
  registry : ∃ merchant, b'.accounts (registryAddress rt r.merchant)
      = .registry ⟨merchant,
          b.receiversAt (registryAddress rt r.merchant) ++ [r.configAddress rt]⟩ ∧
    (merchant = r.merchant ∨ ∃ rg, b.accounts (registryAddress rt r.merchant) = .registry rg ∧
      merchant = rg.merchant)
  token : b'.token? (rt.ata r.receiver f.mint) = some { t with
    delegate := some (r.configAddress rt)
    delegatedAmount := 2 ^ 64 - 1
    closeAuthority := some (r.configAddress rt) }
  others : ∃ pending p, b.accounts pending = .pending p ∧ b'.accounts pending = .empty ∧
    ∀ k, k ≠ r.configAddress rt → k ≠ registryAddress rt r.merchant →
      k ≠ rt.ata r.receiver f.mint → k ≠ pending → b'.accounts k = b.accounts k

section
variable {rt : Runtime} {b b' : Bank} {metas : List AccountMeta} {args : RegisterArgs}

/-- `init_if_needed` succeeded: the account is at the address of its seeds, and free or a
registry. -/
theorem initRegistry_ok {m : AccountMeta} {seeds : List Bytes} {rg : MerchantRegistry}
    (h : initRegistry rt b m seeds = .ok rg) :
    m.key = (rt.findProgramAddress seeds rt.programId).1 ∧
      (b.accounts m.key = .empty ∧ rg = ⟨0, []⟩ ∨ b.accounts m.key = .registry rg) := by
  obtain ⟨_, hkey, h⟩ := bind_ok.mp h
  obtain ⟨_, -, h⟩ := bind_ok.mp h
  refine ⟨require_ok.mp hkey, ?_⟩
  cases hd : b.accounts m.key with
  | empty =>
      rw [hd] at h
      exact .inl ⟨rfl, (Except.ok.inj h).symm⟩
  | registry r =>
      rw [hd] at h
      obtain rfl := Except.ok.inj h
      exact .inr rfl
  | token | mint | factoryConfig | receiverConfig | pending | other =>
      rw [hd] at h
      exact nomatch h

theorem pendingAccount_ok {m : AccountMeta} {p : PendingRegistration} :
    pendingAccount b m = .ok p ↔ b.accounts m.key = .pending p := by
  unfold pendingAccount
  split <;> simp_all

/-- What the context of `register_merchant` has checked, the configuration's account being the
blank one it has just created. -/
structure RegisterChecked (rt : Runtime) (b : Bank) (metas : List AccountMeta)
    (args : RegisterArgs) (a : RegisterMerchant) : Prop where
  receiver : ∃ m, metas[1]? = some m ∧ m.isSigner = true ∧ m.key = a.receiver
  factory : ∃ k, b.accounts k = .factoryConfig a.factory_config
  config : a.receiver_config = Registration.configAddress rt
    ⟨args.merchant, a.receiver, args.cctp_mint_chain, args.cctp_mint_recipient⟩
  vacant : b.accounts a.receiver_config = .empty
  registry : a.merchant_registry = registryAddress rt args.merchant ∧
    a.merchant_registry ≠ a.receiver_config ∧
    (b.accounts a.merchant_registry = .empty ∧ a.registry = ⟨0, []⟩ ∨
      b.accounts a.merchant_registry = .registry a.registry)
  token : a.receiver_token_account = rt.ata a.receiver a.factory_config.mint ∧
    ∃ t, b.token? a.receiver_token_account = some t ∧ t.owner = a.receiver ∧
      t.mint = a.factory_config.mint
  payee : ∃ m s, metas[4]? = some m ∧ m.key = a.merchant_token_account ∧
    b.token? a.merchant_token_account = some s ∧ s.mint = a.factory_config.mint
  pending : ∃ p, b.accounts a.pending_registration = .pending p

theorem registerAccounts_checked {a : RegisterMerchant}
    (h : registerAccounts rt b metas args = .ok (b', a)) : RegisterChecked rt b metas args a := by
  unfold registerAccounts at h
  split at h
  · rename_i m₁ m₂ m₃ m₄ m₅ m₆ m₇ m₈ m₉ m₁₀ m₁₁ rest
    simp only [bind_ok, signer, require_ok, tokenAccount_ok, factoryAccount_ok,
      pendingAccount_ok] at h
    obtain ⟨_, -, _, hsign, f, hf, t, ht, s, hs, st, -, p, hp, _, -, _, -, _, -, _, -, _, -, h⟩ := h
    obtain ⟨_, hmint, _, howner, _, hata, _, hsmint, bump, hinit, _, -, _, -, rg, hrg, h⟩ := h
    obtain ⟨_, -, _, -, hout⟩ := h
    obtain ⟨-, rfl⟩ := Prod.mk.inj (Except.ok.inj hout)
    obtain ⟨hkey, hfree, -⟩ := initAccount_ok hinit
    obtain ⟨hrkey, hregistry⟩ := initRegistry_ok hrg
    have hne : m₈.key ≠ m₆.key := by
      intro heq
      rw [heq, Bank.set_self] at hregistry
      rcases hregistry with ⟨he, -⟩ | he
      · cases he
      · cases he
    rw [Bank.set_other _ _ hne] at hregistry
    exact
      { receiver := ⟨m₂, rfl, hsign, rfl⟩
        factory := ⟨_, hf⟩
        config := hkey
        vacant := hfree
        registry := ⟨hrkey, hne, hregistry⟩
        token := ⟨hata, t, ht, howner, hmint⟩
        payee := ⟨m₅, s, rfl, rfl, hs, hsmint⟩
        pending := ⟨p, hp⟩ }
  · cases h

/-- The registration a validated context is for. -/
def RegisterMerchant.registration (a : RegisterMerchant) (args : RegisterArgs) : Registration :=
  ⟨args.merchant, a.receiver, args.cctp_mint_chain, args.cctp_mint_recipient⟩

/-- The configuration it writes. -/
def RegisterMerchant.pins (a : RegisterMerchant) (args : RegisterArgs) (domain : BitVec 32) :
    ReceiverConfig where
  receiver := a.receiver
  merchant := args.merchant
  mint := a.factory_config.mint
  merchant_token_account := a.merchant_token_account
  cctp_mint_chain := args.cctp_mint_chain
  cctp_mint_recipient := args.cctp_mint_recipient
  cctp_domain_id := domain
  bump := a.receiver_config_bump

/-- Accounts of different kinds are different accounts. -/
theorem RegisterChecked.distinct {a : RegisterMerchant} (h : RegisterChecked rt b metas args a) :
    a.receiver_token_account ≠ a.receiver_config ∧
      a.receiver_token_account ≠ a.merchant_registry ∧
      a.receiver_token_account ≠ a.pending_registration ∧
      a.pending_registration ≠ a.receiver_config ∧
      a.pending_registration ≠ a.merchant_registry := by
  obtain ⟨-, t, ht, -⟩ := h.token
  obtain ⟨-, -, hregistry⟩ := h.registry
  obtain ⟨p, hp⟩ := h.pending
  have hta := Bank.token?_eq.mp ht
  have hvacant := h.vacant
  refine ⟨?_, ?_, ?_, ?_, ?_⟩
  · intro heq
    exact nomatch (heq ▸ hvacant).symm.trans hta
  · intro heq
    rcases hregistry with ⟨he, -⟩ | he
    · exact nomatch (heq ▸ he).symm.trans hta
    · exact nomatch (heq ▸ he).symm.trans hta
  · intro heq
    exact nomatch (heq ▸ hp).symm.trans hta
  · intro heq
    exact nomatch (heq ▸ hvacant).symm.trans hp
  · intro heq
    rcases hregistry with ⟨he, -⟩ | he
    · exact nomatch (heq ▸ he).symm.trans hp
    · exact nomatch (heq ▸ he).symm.trans hp

theorem RegisterChecked.receiversAt {a : RegisterMerchant}
    (h : RegisterChecked rt b metas args a) :
    b.receiversAt a.merchant_registry = a.registry.receivers := by
  obtain ⟨-, -, hregistry⟩ := h.registry
  unfold Bank.receiversAt
  rcases hregistry with ⟨he, hr⟩ | he
  · rw [he, hr]
  · rw [he]

/-- **The spec of `register_merchant`.** -/
theorem registerMerchant_ok (hrt : StandardRuntime rt)
    (h : registerMerchant rt b metas args = .ok b') :
    ∃ r f t cfg, r.merchant = args.merchant ∧ r.cctp_mint_chain = args.cctp_mint_chain ∧
      r.cctp_mint_recipient = args.cctp_mint_recipient ∧
      Registers rt b metas r f t cfg ∧ Registered rt b r f t cfg b' := by
  simp only [registerMerchant, bind_ok, require_ok] at h
  obtain ⟨⟨b₁, a⟩, hacc, _, hroom, domain, hroute, b₂, happrove, b₃, hclose, hout⟩ := h
  have hchecked := registerAccounts_checked hacc
  obtain rfl := registerAccounts_ok hacc
  dsimp only at hroom hroute happrove hclose hout
  obtain ⟨hata, t, ht, howner, hmint⟩ := hchecked.token
  obtain ⟨hrkey, hrne, hregistry⟩ := hchecked.registry
  obtain ⟨hne_tc, hne_tr, hne_tp, hne_pc, hne_pr⟩ := hchecked.distinct
  obtain ⟨p, hp⟩ := hchecked.pending
  have hconfig := hchecked.config
  obtain ⟨t₁, ht₁, -, rfl⟩ := hrt.approve happrove
  rw [Bank.token?_set_other _ _ hne_tc, ht] at ht₁
  obtain rfl := Option.some.inj ht₁
  obtain ⟨t₂, ht₂, hcurrent, rfl⟩ := hrt.setCloseAuthority hclose
  rw [Bank.token?_set_self] at ht₂
  obtain rfl := Option.some.inj ht₂
  obtain rfl := Except.ok.inj hout
  have hc : (a.registration args).configAddress rt = a.receiver_config := hconfig.symm
  have hr : registryAddress rt (a.registration args).merchant = a.merchant_registry := hrkey.symm
  have ht' : rt.ata (a.registration args).receiver a.factory_config.mint
    = a.receiver_token_account := hata.symm
  refine ⟨a.registration args, a.factory_config, t, a.pins args domain, rfl, rfl, rfl, ?_, ?_⟩
  · exact
      { signs := hchecked.receiver
        factory := hchecked.factory
        fields := ⟨rfl, rfl⟩
        route := hroute
        vacant := hconfig ▸ hchecked.vacant
        registry := by
          rw [hr]
          exact hregistry.imp And.left fun he => ⟨_, he⟩
        room := by
          rw [hr, hchecked.receiversAt]
          exact hroom
        token := hata ▸ ht
        owner := howner
        mint := hmint
        closable := hcurrent
        payee := hchecked.payee }
  · refine ⟨?_, ?_, ?_, a.pending_registration, p, hp, ?_, ?_⟩
    · rw [hc, Bank.emit_accounts, Bank.set_other _ _ hne_pc.symm, Bank.set_other _ _ hrne.symm,
        Bank.set_self]
      rfl
    · refine ⟨if a.registry.merchant = 0 then args.merchant else a.registry.merchant, ?_, ?_⟩
      · rw [hc, hr, hchecked.receiversAt, Bank.emit_accounts, Bank.set_other _ _ hne_pr.symm,
          Bank.set_self]
      · rw [hr]
        split_ifs with hzero
        · exact .inl rfl
        · rcases hregistry with ⟨-, hrg⟩ | he
          · exact absurd (congrArg MerchantRegistry.merchant hrg) hzero
          · exact .inr ⟨_, he, rfl⟩
    · rw [ht', hc, Bank.token?_eq, Bank.emit_accounts, Bank.set_other _ _ hne_tp,
        Bank.set_other _ _ hne_tr, Bank.set_other _ _ hne_tc, Bank.set_self]
    · rw [Bank.emit_accounts, Bank.set_self]
    · intro k hkc hkr hkt hkp
      rw [hc] at hkc
      rw [hr] at hkr
      rw [ht'] at hkt
      rw [Bank.emit_accounts, Bank.set_other _ _ hkp, Bank.set_other _ _ hkr,
        Bank.set_other _ _ hkc, Bank.set_other _ _ hkt, Bank.set_other _ _ hkt,
        Bank.set_other _ _ hkc]

end

/-! ## One transaction -/

/-- The registration an instruction asks for, when it selects `register_merchant`. -/
def Instruction.registration (rt : Runtime) (ix : Instruction) : Option Registration :=
  if ix.data.take 8 = rt.anchorDiscriminator "initialize_factory".toList then none
  else if ix.data.take 8 = rt.anchorDiscriminator "announce_merchant".toList then none
  else if ix.data.take 8 = rt.anchorDiscriminator "register_merchant".toList then
    match RegisterArgs.read (ix.data.drop 8), ix.accounts[1]? with
    | some (args, _), some receiver =>
        some ⟨args.merchant, receiver.key, args.cctp_mint_chain, args.cctp_mint_recipient⟩
    | _, _ => none
  else none

/-- The registration a transaction made. -/
def registered (rt : Runtime) (t : Transition Bank (Option Instruction)) : Option Registration :=
  match t.act with
  | some ix =>
      match process rt t.pre ix with
      | .ok _ => ix.registration rt
      | .error _ => none
  | none => none

/-- What a transaction can do. -/
inductive StepEffect (rt : Runtime) (b : Bank) : Option Instruction → Bank → Prop
  | creates {ix : Instruction} {b' : Bank} {k : Pubkey} {d : AccountData}
      (hfree : b.accounts k = .empty)
      (hd : (∃ p, d = .pending p) ∨ k = factoryAddress rt ∧ ∃ f, d = .factoryConfig f)
      (h : b'.accounts = (b.set k d).accounts)
      (hreg : registered rt ⟨b, some ix, b'⟩ = none) : StepEffect rt b (some ix) b'
  | registers {ix : Instruction} {b' : Bank} {r : Registration} {f : FactoryConfig}
      {t : TokenAccount} {cfg : ReceiverConfig} (hfound : Registers rt b ix.accounts r f t cfg)
      (h : Registered rt b r f t cfg b')
      (hreg : registered rt ⟨b, some ix, b'⟩ = some r) : StepEffect rt b (some ix) b'
  | sweeps {ix : Instruction} {b' : Bank} {k kf : Pubkey} {c : ReceiverConfig} {f : FactoryConfig}
      (hconfig : b.accounts k = .receiverConfig c) (hf : b.accounts kf = .factoryConfig f)
      (h : SweepFrame b b' (rt.ata c.receiver f.mint) k)
      (hreg : registered rt ⟨b, some ix, b'⟩ = none) : StepEffect rt b (some ix) b'
  | fails {ix : Instruction} (hreg : registered rt ⟨b, some ix, b⟩ = none) :
      StepEffect rt b (some ix) b
  | outside {b' : Bank} (h : b.KeepsOwned b') : StepEffect rt b none b'

/-- **The step inversion.** -/
theorem ProgramStep.effect {rt : Runtime} (hrt : FramedRuntime rt) {b b' : Bank}
    {act : Option Instruction} (h : ProgramStep rt b act b') : StepEffect rt b act b' := by
  cases h with
  | @executes _ ix h =>
      have hreg : registered rt ⟨b, some ix, b'⟩ = ix.registration rt := by
        simp only [registered, h]
      unfold process at h
      unfold Instruction.registration at hreg
      split_ifs at h hreg with hinit hannounce hregister hsweep
      · obtain ⟨args, -, hrun⟩ := bind_ok.mp h
        obtain ⟨hfree, f, hout⟩ := initializeFactory_ok hrun
        exact .creates hfree (.inr ⟨rfl, f, rfl⟩) hout hreg
      · obtain ⟨args, -, hrun⟩ := bind_ok.mp h
        obtain ⟨k, p, hfree, hout⟩ := announceMerchant_ok hrun
        exact .creates hfree (.inl ⟨p, rfl⟩) hout hreg
      · obtain ⟨args, hargs, hrun⟩ := bind_ok.mp h
        obtain ⟨r, f, t, cfg, hm, hc, hr, hfound, hout⟩ :=
          registerMerchant_ok hrt.toStandardRuntime hrun
        obtain ⟨⟨_, rest⟩, hread, rfl⟩ := Option.map_eq_some_iff.mp (okOr_ok.mp hargs)
        obtain ⟨m, hmeta, -, hkey⟩ := hfound.signs
        rw [hread, hmeta] at hreg
        refine .registers hfound hout (hreg.trans ?_)
        dsimp only
        rw [hkey, ← hm, ← hc, ← hr]
      · obtain ⟨a, ha, hhandler⟩ := bind_ok.mp h
        have hchecked := sweepAccounts_ok ha
        obtain ⟨kf, hf, -⟩ := hchecked.factory
        have hframe := sweepHandler_frame hrt hhandler
        rw [hchecked.receiver] at hframe
        exact .sweeps hchecked.config hf hframe hreg
  | @fails ix _ h =>
      refine .fails ?_
      simp only [registered, h]
  | outside h => exact .outside h

/-! ## A runtime with this frame -/

/-- The ledger's burn, for the owner of the burn account only. -/
def ownedBurn (b : Bank) (ix : Instruction) : Except ProgramError Bank :=
  match ix.accounts[0]?, ix.accounts[3]? with
  | some owner, some account =>
      match b.token? account.key with
      | some t => if t.owner = owner.key then ledgerBurn b ix else .error .callee
      | none => .error .callee
  | _, _ => .error .callee

/-- `ledgerRuntime` with that burn. -/
def ownedRuntime : Runtime := { ledgerRuntime with invokeCctp := ownedBurn }

theorem ownedBurn_ok {b b' : Bank} {ix : Instruction} (h : ownedBurn b ix = .ok b') :
    ∃ owner account t, ix.accounts[0]? = some owner ∧ ix.accounts[3]? = some account ∧
      b.token? account.key = some t ∧ t.owner = owner.key ∧ ledgerBurn b ix = .ok b' := by
  unfold ownedBurn at h
  split at h
  · rename_i owner account howner haccount
    split at h
    · rename_i t ht
      split_ifs at h with heq
      exact ⟨owner, account, t, howner, haccount, ht, heq, h⟩
    · exact nomatch h
  · exact nomatch h

/-- The ledger's burn writes the amount of its burn account. -/
theorem ledgerBurn_accounts {b b' : Bank} {ix : Instruction} {account : AccountMeta}
    (h : ledgerBurn b ix = .ok b') (haccount : ix.accounts[3]? = some account) :
    ∃ t n, b.token? account.key = some t ∧
      b'.accounts = (b.set account.key (.token { t with amount := n })).accounts := by
  unfold ledgerBurn at h
  rw [haccount] at h
  split at h
  · rename_i a p rest ha hread
    obtain rfl := Option.some.inj ha
    split at h
    · rename_i t ht
      split_ifs at h
      obtain rfl := Except.ok.inj h
      exact ⟨t, _, ht, rfl⟩
    · exact nomatch h
  · exact nomatch h

theorem framedRuntime_owned : FramedRuntime ownedRuntime where
  create_find := standardRuntime_ledger.create_find
  transfer := standardRuntime_ledger.transfer
  selfTransfer := standardRuntime_ledger.selfTransfer
  approve := standardRuntime_ledger.approve
  setCloseAuthority := standardRuntime_ledger.setCloseAuthority
  depositForBurn := by
    intro b b' ix p account h hamount hfee hdata haccount
    obtain ⟨_, _, _, -, -, -, -, hburn⟩ := ownedBurn_ok h
    exact ledgerBurn_ok hburn hamount hfee hdata haccount
  burnFrame := by
    intro b b' ix owner account p h _ howner haccount
    obtain ⟨owner', account', t, howner', haccount', ht, heq, hburn⟩ := ownedBurn_ok h
    obtain rfl := Option.some.inj (howner.symm.trans howner')
    obtain rfl := Option.some.inj (haccount.symm.trans haccount')
    obtain ⟨s, n, hs, hb'⟩ := ledgerBurn_accounts hburn haccount
    refine ⟨?_, ?_, ?_⟩
    · intro k hk
      rw [hb'] at hk ⊢
      exact Bank.keepsOwned_set_token hs k hk
    · intro u hu
      obtain rfl := Option.some.inj (ht.symm.trans hu)
      obtain rfl := Option.some.inj (ht.symm.trans hs)
      refine ⟨heq, { t with amount := n }, ?_, ⟨rfl, rfl, rfl, rfl, rfl⟩⟩
      rw [Bank.token?, hb', Bank.set_self]
    · intro k hk
      rw [Bank.token?, hb', Bank.set_other _ _ hk, Bank.token?]

end Beanie.Solana
