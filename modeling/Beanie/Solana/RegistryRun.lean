/-
# `Beanie.Solana.RegistryRun` — the program's registry, over any sequence of transactions

The registrations of a run are its log; `RegistryTracks` relates the accounts to it:

    registries       each holds the configurations of its merchant, in the order of the log
    configurations   each is bound to the registration it was written for, to the factory, and
                     to the receiver's token account  (`Bound`)

A configuration is addressed by its route, so nothing in its address keeps a receiver from being
registered twice.  What does is the token account: the first registration hands its close
authority to the configuration, and only the receiver's could be handed on by the receiver.
-/
import Beanie.Lib.Registry
import Beanie.Solana.InstructionSpec

namespace Beanie.Solana

/-- An address of the program's own: it has no key, so it signs no transaction. -/
def Runtime.Derives (rt : Runtime) (k : Pubkey) : Prop :=
  ∃ seeds, k = (rt.findProgramAddress seeds rt.programId).1

theorem Registration.derives_configAddress (rt : Runtime) (r : Registration) :
    rt.Derives (r.configAddress rt) := ⟨_, rfl⟩

/-- The addresses of the registrations `R` and of their merchants' registries are told apart. -/
structure Collisionless (rt : Runtime) (R : Set Registration) : Prop where
  configs : Set.InjOn (Registration.configAddress rt) R
  registries : Set.InjOn (registryAddress rt) (Registration.merchant '' R)

/-- Nobody signs for the token account: it belongs to a receiver of `R`, and its delegate and
close authority, if any, are the program's. -/
structure TokenAccount.Unsigned (rt : Runtime) (R : Set Registration) (t : TokenAccount) :
    Prop where
  owner : ∃ r ∈ R, t.owner = r.receiver
  delegate : ∀ k, t.delegate = some k → rt.Derives k
  closeAuthority : ∀ k, t.closeAuthority = some k → rt.Derives k

/-- A transaction in which receivers sign `register_merchant` and nothing else: the program's
addresses sign nothing, the registrations are among `R`, and other programs leave the authorities
of an account as they are when none of them signs. -/
structure Admissible (rt : Runtime) (R : Set Registration)
    (t : Transition Bank (Option Instruction)) : Prop where
  signers : ∀ ix, t.act = some ix → ∀ m ∈ ix.accounts, m.isSigner = true → ¬ rt.Derives m.key
  used : ∀ r ∈ registered rt t, r ∈ R
  quiet : t.act = none → ∀ k a, t.pre.token? k = some a → a.Unsigned rt R →
    ∃ a', t.post.token? k = some a' ∧ a.SameAuthority a'

/-- What a transaction of the program took out of a token account. -/
def taken (k : Pubkey) (t : Transition Bank (Option Instruction)) : Nat :=
  if t.act.isSome then t.pre.amount k - t.post.amount k else 0

/-- What those of a run took out of it. -/
def sweptFrom (k : Pubkey) (tr : List (Transition Bank (Option Instruction))) : Nat :=
  (tr.map (taken k)).sum

theorem sweptFrom_append (k : Pubkey) (l r : List (Transition Bank (Option Instruction))) :
    sweptFrom k (l ++ r) = sweptFrom k l + sweptFrom k r := by
  rw [sweptFrom, List.map_append, List.sum_append, sweptFrom, sweptFrom]

theorem sweptFrom_cons (k : Pubkey) (t : Transition Bank (Option Instruction))
    (l : List (Transition Bank (Option Instruction))) :
    sweptFrom k (t :: l) = taken k t + sweptFrom k l := by
  rw [sweptFrom, List.map_cons, List.sum_cons, sweptFrom]

@[simp] theorem sweptFrom_nil (k : Pubkey) : sweptFrom k [] = 0 := rfl

theorem taken_executes (k : Pubkey) (b b' : Bank) (ix : Instruction) :
    taken k ⟨b, some ix, b'⟩ = b.amount k - b'.amount k := rfl

@[simp] theorem taken_outside (k : Pubkey) (b b' : Bank) : taken k ⟨b, none, b'⟩ = 0 := rfl

/-! ## The accounts, seen as a registry -/

namespace Bank

/-- The registration of the configuration at an address. -/
def registrationAt (b : Bank) (k : Pubkey) : Option Registration :=
  match b.accounts k with
  | .receiverConfig c => some c.registration
  | _ => none

theorem registrationAt_of {b : Bank} {k : Pubkey} {c : ReceiverConfig}
    (h : b.accounts k = .receiverConfig c) : b.registrationAt k = some c.registration := by
  rw [registrationAt, h]

theorem receiversAt_of {b : Bank} {k : Pubkey} {r : MerchantRegistry}
    (h : b.accounts k = .registry r) : b.receiversAt k = r.receivers := by
  rw [receiversAt, h]

theorem receiversAt_congr {b b' : Bank} {k : Pubkey}
    (h : ∀ r, b'.accounts k = .registry r ↔ b.accounts k = .registry r) :
    b'.receiversAt k = b.receiversAt k := by
  cases hd : b.accounts k with
  | registry r => rw [receiversAt_of hd, receiversAt_of ((h r).mpr hd)]
  | _ =>
      have hno : ∀ r, b'.accounts k ≠ .registry r := by
        intro r hr
        exact nomatch hd.symm.trans ((h r).mp hr)
      unfold Bank.receiversAt
      rw [hd]
      split
      · rename_i r hr
        exact absurd hr (hno r)
      · rfl

theorem registrationAt_congr {b b' : Bank} {k : Pubkey}
    (h : ∀ c, b'.accounts k = .receiverConfig c ↔ b.accounts k = .receiverConfig c) :
    b'.registrationAt k = b.registrationAt k := by
  cases hd : b.accounts k with
  | receiverConfig c => rw [registrationAt_of hd, registrationAt_of ((h c).mpr hd)]
  | _ =>
      have hno : ∀ c, b'.accounts k ≠ .receiverConfig c := by
        intro c hc
        exact nomatch hd.symm.trans ((h c).mp hc)
      unfold Bank.registrationAt
      rw [hd]
      split
      · rename_i c hc
        exact absurd hc (hno c)
      · rfl

/-- Two banks with the same registries and configurations. -/
structure SameRegistry (b b' : Bank) : Prop where
  registry : ∀ k r, b'.accounts k = .registry r ↔ b.accounts k = .registry r
  config : ∀ k c, b'.accounts k = .receiverConfig c ↔ b.accounts k = .receiverConfig c

theorem SameRegistry.receiversAt {b b' : Bank} (h : b.SameRegistry b') :
    b'.receiversAt = b.receiversAt := funext fun k => receiversAt_congr (h.registry k)

theorem SameRegistry.registrationAt {b b' : Bank} (h : b.SameRegistry b') :
    b'.registrationAt = b.registrationAt := funext fun k => registrationAt_congr (h.config k)

theorem KeepsOwned.sameRegistry {b b' : Bank} (h : b.KeepsOwned b') : b.SameRegistry b' := by
  have hiff : ∀ k d, d.Owned → (b'.accounts k = d ↔ b.accounts k = d) := by
    intro k d hd
    constructor
    · intro hk
      exact (h k (.inr (hk ▸ hd))).symm.trans hk
    · intro hk
      exact (h k (.inl (hk ▸ hd))).trans hk
  exact ⟨fun k r => hiff k _ trivial, fun k c => hiff k _ trivial⟩

/-- Filling a free account with neither a registry nor a configuration. -/
theorem sameRegistry_set {b b' : Bank} {k : Pubkey} {d : AccountData}
    (hfree : b.accounts k = .empty) (h : b'.accounts = (b.set k d).accounts)
    (hr : ∀ r, d ≠ .registry r) (hc : ∀ c, d ≠ .receiverConfig c) : b.SameRegistry b' := by
  constructor
  · intro k' r
    rw [h]
    by_cases hk : k' = k
    · subst hk
      rw [set_self, hfree]
      exact ⟨fun heq => absurd heq (hr r), nofun⟩
    · rw [set_other _ _ hk]
  · intro k' c
    rw [h]
    by_cases hk : k' = k
    · subst hk
      rw [set_self, hfree]
      exact ⟨fun heq => absurd heq (hc c), nofun⟩
    · rw [set_other _ _ hk]

end Bank

/-! ## The invariant -/

/-- The account's owner, mint and close authority stay, its delegate does as long as it has
anything left, and it has lost at most `n` of that. -/
structure TokenAccount.Follows (a a' : TokenAccount) (n : Nat) : Prop where
  mint : a'.mint = a.mint
  owner : a'.owner = a.owner
  closeAuthority : a'.closeAuthority = a.closeAuthority
  delegate : a'.delegate = a.delegate ∨ a'.delegate = none ∧ a'.delegatedAmount = 0
  delegatedAmount : a'.delegatedAmount ≤ a.delegatedAmount ∧
    a.delegatedAmount ≤ a'.delegatedAmount + n

theorem TokenAccount.SameAuthority.follows {a a' : TokenAccount} (h : a.SameAuthority a')
    (n : Nat) : a.Follows a' n :=
  ⟨h.mint, h.owner, h.closeAuthority, .inl h.delegate, h.delegatedAmount.le,
    h.delegatedAmount ▸ Nat.le_add_right _ _⟩

theorem TokenAccount.DrawnFrom.follows {a a' : TokenAccount} (h : a.DrawnFrom a') :
    a.Follows a' (a.amount - a'.amount) :=
  ⟨h.mint, h.owner, h.closeAuthority, h.delegate,
    h.delegatedAmount ▸ Nat.le_add_right _ _, h.delegatedAmount.ge⟩

/-- A configuration is the registration's, agrees with the factory, and holds the receiver's token
account: as its close authority, and as its delegate until all that was delegated is swept. -/
structure Bound (rt : Runtime) (b : Bank) (tr : List (Transition Bank (Option Instruction)))
    (k : Pubkey) (c : ReceiverConfig) : Prop where
  entered : c.registration ∈ log (registered rt) tr
  address : k = c.registration.configAddress rt
  factory : ∃ f, b.accounts (factoryAddress rt) = .factoryConfig f ∧ c.mint = f.mint ∧
    validateRoute f c.cctp_mint_chain c.cctp_mint_recipient = .ok c.cctp_domain_id
  receiver : ¬ rt.Derives c.receiver
  token : ∃ t, b.token? (rt.ata c.receiver c.mint) = some t ∧ t.owner = c.receiver ∧
    t.mint = c.mint ∧ t.closeAuthority = some k ∧
    (t.delegate = some k ∨ t.delegate = none ∧ t.delegatedAmount = 0) ∧
    2 ^ 64 - 1 ≤ t.delegatedAmount + sweptFrom (rt.ata c.receiver c.mint) tr

/-- The accounts after the run `tr`. -/
structure RegistryTracks (rt : Runtime) (R : Set Registration)
    (tr : List (Transition Bank (Option Instruction))) (b : Bank) : Prop where
  valid : Registry.Valid (fun r => registryAddress rt r.merchant) MAX_RECEIVERS_PER_MERCHANT
    (log (registered rt) tr)
  registry : Registry.Tracks (fun r => registryAddress rt r.merchant)
    (Registration.configAddress rt) id R b.receiversAt b.registrationAt (log (registered rt) tr)
  registries : ∀ k rg, b.accounts k = .registry rg → k = registryAddress rt rg.merchant ∧
    ∃ r ∈ log (registered rt) tr, r.merchant = rg.merchant
  factory : ∀ k f, b.accounts k = .factoryConfig f → k = factoryAddress rt
  configs : ∀ k c, b.accounts k = .receiverConfig c → Bound rt b tr k c

section
variable {rt : Runtime} {R : Set Registration} {b b' : Bank}
  {tr : List (Transition Bank (Option Instruction))} {t : Transition Bank (Option Instruction)}

/-- Two configurations of one receiver are one configuration. -/
theorem RegistryTracks.config_unique (h : RegistryTracks rt R tr b) {k k' : Pubkey}
    {c c' : ReceiverConfig} (hk : b.accounts k = .receiverConfig c)
    (hk' : b.accounts k' = .receiverConfig c') (hr : c.receiver = c'.receiver) : k = k' := by
  have hb := h.configs k c hk
  have hb' := h.configs k' c' hk'
  obtain ⟨f, hf, hm, -⟩ := hb.factory
  obtain ⟨f', hf', hm', -⟩ := hb'.factory
  obtain rfl : f = f' := AccountData.factoryConfig.inj (hf.symm.trans hf')
  obtain ⟨t, ht, -, -, hclose, -⟩ := hb.token
  obtain ⟨t', ht', -, -, hclose', -⟩ := hb'.token
  rw [hr, hm.trans hm'.symm, ht'] at ht
  obtain rfl := Option.some.inj ht
  exact Option.some.inj (hclose.symm.trans hclose')

/-- The two factory configurations somebody may show are one. -/
theorem RegistryTracks.factory_unique (h : RegistryTracks rt R tr b) {k k' : Pubkey}
    {f f' : FactoryConfig} (hk : b.accounts k = .factoryConfig f)
    (hk' : b.accounts k' = .factoryConfig f') : f = f' := by
  obtain rfl := h.factory k f hk
  obtain rfl := h.factory k' f' hk'
  exact AccountData.factoryConfig.inj (hk.symm.trans hk')

/-- A configuration stays bound while the factory stays and its token account follows. -/
theorem Bound.step {k : Pubkey} {c : ReceiverConfig} (h : Bound rt b tr k c)
    (hfactory : ∀ f, b.accounts (factoryAddress rt) = .factoryConfig f →
      b'.accounts (factoryAddress rt) = .factoryConfig f)
    (htoken : ∀ a, b.token? (rt.ata c.receiver c.mint) = some a → a.owner = c.receiver →
      a.closeAuthority = some k →
      ∃ a', b'.token? (rt.ata c.receiver c.mint) = some a' ∧
        a.Follows a' (taken (rt.ata c.receiver c.mint) t)) :
    Bound rt b' (tr ++ [t]) k c where
  entered := by
    rw [log_append]
    exact List.mem_append_left _ h.entered
  address := h.address
  factory := by
    obtain ⟨f, hf, hrest⟩ := h.factory
    exact ⟨f, hfactory f hf, hrest⟩
  receiver := h.receiver
  token := by
    obtain ⟨a, ha, howner, hmint, hclose, hdelegate, hsum⟩ := h.token
    obtain ⟨a', ha', hfollows⟩ := htoken a ha howner hclose
    obtain ⟨hle, hge⟩ := hfollows.delegatedAmount
    refine ⟨a', ha', hfollows.owner.trans howner, hfollows.mint.trans hmint,
      hfollows.closeAuthority.trans hclose, ?_, ?_⟩
    · rcases hfollows.delegate with heq | hgone
      · rcases hdelegate with hd | ⟨hd, hzero⟩
        · exact .inl (heq.trans hd)
        · exact .inr ⟨heq.trans hd, by omega⟩
      · exact .inr hgone
    · rw [sweptFrom_append, sweptFrom_cons, sweptFrom_nil]
      omega

/-- A step that registers nothing. -/
theorem RegistryTracks.idle (h : RegistryTracks rt R tr b) (hnone : registered rt t = none)
    (hsame : b.SameRegistry b')
    (hfactory : ∀ k f, b'.accounts k = .factoryConfig f → k = factoryAddress rt)
    (hkept : ∀ f, b.accounts (factoryAddress rt) = .factoryConfig f →
      b'.accounts (factoryAddress rt) = .factoryConfig f)
    (htoken : ∀ k c, b.accounts k = .receiverConfig c → ∀ a,
      b.token? (rt.ata c.receiver c.mint) = some a → a.owner = c.receiver →
      a.closeAuthority = some k → ∃ a', b'.token? (rt.ata c.receiver c.mint) = some a' ∧
        a.Follows a' (taken (rt.ata c.receiver c.mint) t)) :
    RegistryTracks rt R (tr ++ [t]) b' := by
  have hlog : log (registered rt) (tr ++ [t]) = log (registered rt) tr := by
    rw [log_append, hnone, Option.toList_none, List.append_nil]
  refine ⟨hlog ▸ h.valid, ?_, ?_, hfactory, ?_⟩
  · rw [hlog, hsame.receiversAt, hsame.registrationAt]
    exact h.registry
  · intro k rg hk
    rw [hlog]
    exact h.registries k rg ((hsame.registry k rg).mp hk)
  · intro k c hk
    have hk := (hsame.config k c).mp hk
    exact (h.configs k c hk).step hkept (htoken k c hk)

/-- A step that leaves the accounts the program owns. -/
theorem RegistryTracks.keeps (h : RegistryTracks rt R tr b) (hnone : registered rt t = none)
    (hkeeps : b.KeepsOwned b')
    (htoken : ∀ k c, b.accounts k = .receiverConfig c → ∀ a,
      b.token? (rt.ata c.receiver c.mint) = some a → a.owner = c.receiver →
      a.closeAuthority = some k → ∃ a', b'.token? (rt.ata c.receiver c.mint) = some a' ∧
        a.Follows a' (taken (rt.ata c.receiver c.mint) t)) :
    RegistryTracks rt R (tr ++ [t]) b' := by
  refine h.idle hnone hkeeps.sameRegistry ?_ ?_ htoken
  · intro k f hk
    exact h.factory k f ((hkeeps k (.inr (hk ▸ trivial))).symm.trans hk)
  · exact fun f hf => hkeeps.factory hf

/-- A step that fills a free account with a pending registration or the factory's
configuration. -/
theorem RegistryTracks.creates (h : RegistryTracks rt R tr b) (hnone : registered rt t = none)
    {k : Pubkey} {d : AccountData} (hfree : b.accounts k = .empty)
    (hd : (∃ p, d = .pending p) ∨ k = factoryAddress rt ∧ ∃ f, d = .factoryConfig f)
    (hb' : b'.accounts = (b.set k d).accounts) : RegistryTracks rt R (tr ++ [t]) b' := by
  have hother : ∀ k', b.accounts k' ≠ .empty → b'.accounts k' = b.accounts k' := by
    intro k' hne
    rw [hb']
    refine Bank.set_other _ _ ?_
    rintro rfl
    exact hne hfree
  refine h.idle hnone (Bank.sameRegistry_set hfree hb' ?_ ?_) ?_ ?_ ?_
  · rintro r rfl
    rcases hd with ⟨p, hp⟩ | ⟨-, f, hf⟩
    · exact nomatch hp
    · exact nomatch hf
  · rintro c rfl
    rcases hd with ⟨p, hp⟩ | ⟨-, f, hf⟩
    · exact nomatch hp
    · exact nomatch hf
  · intro k' f hk'
    by_cases heq : k' = k
    · subst heq
      rw [hb', Bank.set_self] at hk'
      rcases hd with ⟨p, rfl⟩ | ⟨hk, -⟩
      · exact nomatch hk'
      · exact hk
    · rw [hb', Bank.set_other _ _ heq] at hk'
      exact h.factory k' f hk'
  · intro f hf
    rw [hother _ (by rw [hf]; exact nofun)]
    exact hf
  · intro k' c _ a ha _ _
    refine ⟨a, ?_, (TokenAccount.SameAuthority.refl a).follows _⟩
    have hacc := Bank.token?_eq.mp ha
    rw [Bank.token?_eq, hother _ (by rw [hacc]; exact nofun)]
    exact hacc

theorem RegistryTracks.sweeps (h : RegistryTracks rt R tr b) {act : Option Instruction}
    (hact : act.isSome) (hnone : registered rt ⟨b, act, b'⟩ = none) {k : Pubkey}
    {c : ReceiverConfig} {f : FactoryConfig} (hconfig : b.accounts k = .receiverConfig c)
    (hframe : SweepFrame b b' (rt.ata c.receiver f.mint) k) :
    RegistryTracks rt R (tr ++ [⟨b, act, b'⟩]) b' := by
  have hk : rt.Derives k := (h.configs k c hconfig).address ▸ Registration.derives_configAddress ..
  refine h.keeps hnone hframe.owned ?_
  intro k₁ c₁ hconfig₁ a ha howner _
  have hne : a.owner ≠ k := by
    intro heq
    exact (h.configs k₁ c₁ hconfig₁).receiver (howner ▸ heq ▸ hk)
  by_cases hsrc : rt.ata c₁.receiver c₁.mint = rt.ata c.receiver f.mint
  · rw [hsrc] at ha ⊢
    obtain ⟨a', ha', hdrawn⟩ := hframe.source a ha hne
    refine ⟨a', ha', ?_⟩
    rw [taken, if_pos hact, Bank.amount_of_token ha, Bank.amount_of_token ha']
    exact hdrawn.follows
  · obtain ⟨a', ha', hsame⟩ := hframe.others _ hsrc a ha
    exact ⟨a', ha', hsame.follows _⟩

/-- Other programs, none of which a receiver or the program itself signs for. -/
theorem RegistryTracks.outside (h : RegistryTracks rt R tr b) (hkeeps : b.KeepsOwned b')
    (hadm : Admissible rt R ⟨b, none, b'⟩) : RegistryTracks rt R (tr ++ [⟨b, none, b'⟩]) b' := by
  refine h.keeps rfl hkeeps ?_
  intro k c hconfig a ha howner hclose
  have hb := h.configs k c hconfig
  have hk : rt.Derives k := hb.address ▸ Registration.derives_configAddress ..
  obtain ⟨a₁, ha₁, -, -, -, hdelegate, -⟩ := hb.token
  obtain rfl := Option.some.inj (ha.symm.trans ha₁)
  have hunsigned : a.Unsigned rt R := by
    refine ⟨⟨c.registration, h.registry.used _ hb.entered, howner⟩, ?_, ?_⟩
    · intro d hd
      rcases hdelegate with heq | ⟨heq, -⟩
      · obtain rfl := Option.some.inj (heq.symm.trans hd)
        exact hk
      · exact nomatch heq.symm.trans hd
    · intro d hd
      obtain rfl := Option.some.inj (hclose.symm.trans hd)
      exact hk
  obtain ⟨a', ha', hsame⟩ := hadm.quiet rfl _ a ha hunsigned
  exact ⟨a', ha', hsame.follows _⟩

/-! ## A registration -/

section
variable {r : Registration} {f : FactoryConfig} {a : TokenAccount} {cfg : ReceiverConfig}
  {metas : List AccountMeta}

/-- Off the registry and the new configuration, a registration leaves what the program owns, but
for the pending account it closes. -/
theorem Registered.other (hfound : Registers rt b metas r f a cfg)
    (h : Registered rt b r f a cfg b') {k : Pubkey} (hkc : k ≠ r.configAddress rt)
    (hkr : k ≠ registryAddress rt r.merchant) {d : AccountData}
    (hd : ∀ p, d ≠ .pending p) (ht : ∀ t, d ≠ .token t) (he : d ≠ .empty) :
    b'.accounts k = d ↔ b.accounts k = d := by
  obtain ⟨pending, p, hp, hp', hothers⟩ := h.others
  by_cases hka : k = rt.ata r.receiver f.mint
  · subst hka
    rw [Bank.token?_eq.mp h.token, Bank.token?_eq.mp hfound.token]
    exact ⟨fun heq => absurd heq.symm (ht _), fun heq => absurd heq.symm (ht _)⟩
  · by_cases hkp : k = pending
    · subst hkp
      rw [hp, hp']
      exact ⟨fun heq => absurd heq.symm he, fun heq => absurd heq.symm (hd p)⟩
    · rw [hothers k hkc hkr hka hkp]

/-- The lists after a registration. -/
theorem Registered.receiversAt (hfound : Registers rt b metas r f a cfg)
    (h : Registered rt b r f a cfg b') :
    b'.receiversAt = Function.update b.receiversAt (registryAddress rt r.merchant)
      (b.receiversAt (registryAddress rt r.merchant) ++ [r.configAddress rt]) := by
  funext k
  by_cases hkr : k = registryAddress rt r.merchant
  · obtain ⟨merchant, hregistry, -⟩ := h.registry
    rw [hkr, Function.update_self, Bank.receiversAt_of hregistry]
  · rw [Function.update_of_ne hkr]
    refine Bank.receiversAt_congr fun rg => ?_
    by_cases hkc : k = r.configAddress rt
    · rw [hkc, h.config, hfound.vacant]
      exact ⟨nofun, nofun⟩
    · exact h.other hfound hkc hkr nofun nofun nofun

/-- The configurations after it. -/
theorem Registered.registrationAt (hfound : Registers rt b metas r f a cfg)
    (h : Registered rt b r f a cfg b') :
    b'.registrationAt = Function.update b.registrationAt (r.configAddress rt) (some r) := by
  funext k
  by_cases hkc : k = r.configAddress rt
  · rw [hkc, Function.update_self, Bank.registrationAt_of h.config, hfound.fields.1]
  · rw [Function.update_of_ne hkc]
    refine Bank.registrationAt_congr fun c => ?_
    by_cases hkr : k = registryAddress rt r.merchant
    · obtain ⟨merchant, hregistry, -⟩ := h.registry
      rw [hkr, hregistry]
      rcases hfound.registry with he | ⟨rg, he⟩
      · rw [he]
        exact ⟨nofun, nofun⟩
      · rw [he]
        exact ⟨nofun, nofun⟩
    · exact h.other hfound hkc hkr nofun nofun nofun

/-- The factory's configuration stays. -/
theorem Registered.factory (hfound : Registers rt b metas r f a cfg)
    (h : Registered rt b r f a cfg b') {k : Pubkey} {g : FactoryConfig} :
    b'.accounts k = .factoryConfig g ↔ b.accounts k = .factoryConfig g := by
  by_cases hkc : k = r.configAddress rt
  · rw [hkc, h.config, hfound.vacant]
    exact ⟨nofun, nofun⟩
  · by_cases hkr : k = registryAddress rt r.merchant
    · obtain ⟨merchant, hregistry, -⟩ := h.registry
      rw [hkr, hregistry]
      rcases hfound.registry with he | ⟨rg, he⟩
      · rw [he]
        exact ⟨nofun, nofun⟩
      · rw [he]
        exact ⟨nofun, nofun⟩
    · exact h.other hfound hkc hkr nofun nofun nofun

/-- Token accounts other than the receiver's are left alone. -/
theorem Registered.token_other (hfound : Registers rt b metas r f a cfg)
    (h : Registered rt b r f a cfg b') {k : Pubkey} {s : TokenAccount} (hs : b.token? k = some s)
    (hk : k ≠ rt.ata r.receiver f.mint) : b'.token? k = some s := by
  obtain ⟨pending, p, hp, -, hothers⟩ := h.others
  have hacc := Bank.token?_eq.mp hs
  rw [Bank.token?_eq, hothers k ?_ ?_ hk ?_]
  · exact hacc
  · rintro rfl
    exact nomatch hfound.vacant.symm.trans hacc
  · rintro rfl
    rcases hfound.registry with he | ⟨rg, he⟩
    · exact nomatch he.symm.trans hacc
    · exact nomatch he.symm.trans hacc
  · rintro rfl
    exact nomatch hp.symm.trans hacc

/-- A registration of a receiver who signed is a step of the registry. -/
theorem RegistryTracks.registers (hcol : Collisionless rt R) (h : RegistryTracks rt R tr b)
    (hr : r ∈ R) (hsigned : ¬ rt.Derives r.receiver) (hreg : registered rt t = some r)
    (hfound : Registers rt b metas r f a cfg) (hout : Registered rt b r f a cfg b') :
    RegistryTracks rt R (tr ++ [t]) b' := by
  have hlog : log (registered rt) (tr ++ [t]) = log (registered rt) tr ++ [r] := by
    rw [log_append, hreg, Option.toList_some]
  have hvacant : b.registrationAt (r.configAddress rt) = none := by
    rw [Bank.registrationAt, hfound.vacant]
  have hnew : r ∉ log (registered rt) tr := (h.registry.vacant_iff hr).mp hvacant
  have hroom := hfound.room
  rw [h.registry.lists, List.length_map] at hroom
  obtain ⟨kf, hkf⟩ := hfound.factory
  obtain rfl := h.factory kf f hkf
  obtain ⟨hfields, hmint⟩ := hfound.fields
  refine ⟨?_, ?_, ?_, fun k g hk => h.factory k g ((hout.factory hfound).mp hk), ?_⟩
  · rw [hlog]
    exact (Registry.Step.enter hnew hroom).valid h.valid
  · rw [hlog, hout.receiversAt hfound, hout.registrationAt hfound]
    exact h.registry.enter hcol.configs hr hnew
  · intro k rg hk
    rw [hlog]
    by_cases hkr : k = registryAddress rt r.merchant
    · obtain ⟨merchant, hregistry, hmerchant⟩ := hout.registry
      rw [hkr, hregistry] at hk
      obtain rfl := AccountData.registry.inj hk
      have hsame : merchant = r.merchant := by
        rcases hmerchant with heq | ⟨rg, hrg, rfl⟩
        · exact heq
        · obtain ⟨haddr, r₀, hr₀, heq⟩ := h.registries _ rg hrg
          exact (hcol.registries ⟨r, hr, rfl⟩ ⟨r₀, h.registry.used r₀ hr₀, heq⟩ haddr).symm
      exact ⟨hsame ▸ hkr, r, by simp, hsame.symm⟩
    · have hkc : k ≠ r.configAddress rt := by
        rintro rfl
        exact nomatch hout.config.symm.trans hk
      obtain ⟨haddr, r₀, hr₀, heq⟩ :=
        h.registries k rg ((hout.other (d := .registry rg) hfound hkc hkr nofun nofun nofun).mp hk)
      exact ⟨haddr, r₀, List.mem_append_left _ hr₀, heq⟩
  · intro k c hk
    by_cases hkc : k = r.configAddress rt
    · rw [hkc, hout.config] at hk
      obtain rfl := AccountData.receiverConfig.inj hk
      have hreceiver : cfg.receiver = r.receiver := congrArg Registration.receiver hfields
      refine ⟨?_, hkc.trans (by rw [hfields]), ⟨f, (hout.factory hfound).mpr hkf, hmint, ?_⟩,
        hreceiver ▸ hsigned, ?_⟩
      · rw [hlog, hfields]
        exact List.mem_append_right _ List.mem_cons_self
      · have hroute := hfound.route
        rw [← hfields] at hroute
        exact hroute
      · rw [hreceiver, hmint, hkc]
        exact ⟨_, hout.token, hfound.owner, hfound.mint, rfl, .inl rfl, Nat.le_add_right _ _⟩
    · have hkr : k ≠ registryAddress rt r.merchant := by
        rintro rfl
        obtain ⟨merchant, hregistry, -⟩ := hout.registry
        exact nomatch hregistry.symm.trans hk
      have hk := (hout.other (d := .receiverConfig c) hfound hkc hkr nofun nofun nofun).mp hk
      have hb := h.configs k c hk
      refine hb.step (fun g hg => (hout.factory hfound).mpr hg) ?_
      intro s hs _ hclose
      -- the receiver could hand on the close authority, so no configuration had it
      have hne : rt.ata c.receiver c.mint ≠ rt.ata r.receiver f.mint := by
        intro heq
        rw [heq, hfound.token] at hs
        obtain rfl := Option.some.inj hs
        have hclosable := hfound.closable
        rw [hclose, Option.getD_some] at hclosable
        exact hsigned (hclosable ▸ hb.address ▸ Registration.derives_configAddress ..)
      exact ⟨s, hout.token_other hfound hs hne, (TokenAccount.SameAuthority.refl s).follows _⟩

end

/-! ## Runs -/

/-- **The step lemma.** -/
theorem RegistryTracks.step (hrt : FramedRuntime rt) (hcol : Collisionless rt R)
    (h : RegistryTracks rt R tr b) {act : Option Instruction} (hs : ProgramStep rt b act b')
    (hadm : Admissible rt R ⟨b, act, b'⟩) : RegistryTracks rt R (tr ++ [⟨b, act, b'⟩]) b' := by
  cases hs.effect hrt with
  | creates hfree hd hb' hnone => exact h.creates hnone hfree hd hb'
  | registers hfound hout hreg =>
      obtain ⟨m, hm, hsign, hkey⟩ := hfound.signs
      have hsigned := hadm.signers _ rfl m (List.mem_of_getElem? hm) hsign
      exact h.registers hcol (hadm.used _ hreg) (hkey ▸ hsigned) hreg hfound hout
  | sweeps hconfig _ hframe hnone => exact h.sweeps rfl hnone hconfig hframe
  | fails hnone =>
      refine h.keeps hnone (.refl b) ?_
      intro k c _ a ha _ _
      exact ⟨a, ha, (TokenAccount.SameAuthority.refl a).follows _⟩
  | outside hkeeps => exact h.outside hkeeps hadm

/-- A bank in which the program has no account yet. -/
def Bank.Fresh (b : Bank) : Prop := ∀ k, ¬ (b.accounts k).Owned

theorem Bank.Fresh.tracks (h : b.Fresh) : RegistryTracks rt R [] b where
  valid := Registry.valid_nil
  registry :=
    { lists := fun k => by
        unfold Bank.receiversAt
        split
        · rename_i r hr
          exact absurd (hr ▸ trivial) (h k)
        · rfl
      used := nofun
      filled := nofun
      vacant := fun r _ _ => by
        unfold Bank.registrationAt
        split
        · rename_i c hc
          exact absurd (hc ▸ trivial) (h (r.configAddress rt))
        · rfl }
  registries := fun k _ hk => absurd (hk ▸ trivial) (h k)
  factory := fun k _ hk => absurd (hk ▸ trivial) (h k)
  configs := fun k _ hk => absurd (hk ▸ trivial) (h k)

/-- The run lemma. -/
theorem registry_tracks (hrt : FramedRuntime rt) (hcol : Collisionless rt R) {b₀ : Bank}
    (hfresh : b₀.Fresh) (hrun : Steps (ProgramStep rt) b₀ tr b)
    (hadm : ∀ t ∈ tr, Admissible rt R t) : RegistryTracks rt R tr b :=
  hrun.history_invariant (I := fun l s => RegistryTracks rt R l s) (P := Admissible rt R)
    (fun _ _ _ _ _ hs hP hI => hI.step hrt hcol hs hP) hadm hfresh.tracks

/-- Nothing writes a configuration, or the factory's, once it is there. -/
theorem StepEffect.pinned {act : Option Instruction} (h : StepEffect rt b act b') {k : Pubkey} :
    (∀ c, b.accounts k = .receiverConfig c → b'.accounts k = .receiverConfig c) ∧
      ∀ f, b.accounts k = .factoryConfig f → b'.accounts k = .factoryConfig f := by
  cases h with
  | @creates _ _ k' d hfree _ hb' _ =>
      have hother : b.accounts k ≠ .empty → b'.accounts k = b.accounts k := by
        intro hne
        rw [hb']
        refine Bank.set_other _ _ ?_
        rintro rfl
        exact hne hfree
      constructor
      · intro c hc
        exact (hother (by rw [hc]; exact nofun)).trans hc
      · intro f hf
        exact (hother (by rw [hf]; exact nofun)).trans hf
  | @registers _ _ r _ _ _ hfound hout _ =>
      refine ⟨?_, fun f hf => (hout.factory hfound).mpr hf⟩
      intro c hc
      refine (hout.other (d := .receiverConfig c) hfound ?_ ?_ nofun nofun nofun).mpr hc
      · rintro rfl
        exact nomatch hfound.vacant.symm.trans hc
      · rintro rfl
        rcases hfound.registry with he | ⟨rg, he⟩
        · exact nomatch he.symm.trans hc
        · exact nomatch he.symm.trans hc
  | sweeps _ _ hframe _ =>
      exact ⟨fun _ hc => hframe.owned.config hc, fun _ hf => hframe.owned.factory hf⟩
  | fails _ => exact ⟨fun _ hc => hc, fun _ hf => hf⟩
  | outside hkeeps => exact ⟨fun _ hc => hkeeps.config hc, fun _ hf => hkeeps.factory hf⟩

end

/-- What every reachable state of the program keeps. -/
structure RegistryInvariant (rt : Runtime) (tr : List (Transition Bank (Option Instruction)))
    (b : Bank) : Prop where
  capped : ∀ k rg, b.accounts k = .registry rg → rg.receivers.length ≤ MAX_RECEIVERS_PER_MERCHANT
  nodup : ∀ k rg, b.accounts k = .registry rg → rg.receivers.Nodup
  /-- the merchant's registrations, in the order they were made -/
  ordered : ∀ k rg, b.accounts k = .registry rg → rg.receivers
    = (ofOwner Registration.merchant rg.merchant (log (registered rt) tr)).map
        (Registration.configAddress rt)
  entries : ∀ k rg, b.accounts k = .registry rg → ∀ kc, kc ∈ rg.receivers ↔
    ∃ c, b.accounts kc = .receiverConfig c ∧ c.merchant = rg.merchant
  listed : ∀ kc c, b.accounts kc = .receiverConfig c →
    ∃ rg, b.accounts (registryAddress rt c.merchant) = .registry rg ∧ rg.merchant = c.merchant
  unique : ∀ k k' c c', b.accounts k = .receiverConfig c → b.accounts k' = .receiverConfig c' →
    c.receiver = c'.receiver → k = k'
  /-- the delegate lasts while less than what was delegated has been swept -/
  authority : ∀ k c, b.accounts k = .receiverConfig c →
    ∃ t, b.token? (rt.ata c.receiver c.mint) = some t ∧ t.owner = c.receiver ∧ t.mint = c.mint ∧
      t.closeAuthority = some k ∧
      (sweptFrom (rt.ata c.receiver c.mint) tr < 2 ^ 64 - 1 → t.delegate = some k)
  pinned : ∀ t ∈ tr, ∀ k c, t.pre.accounts k = .receiverConfig c →
    t.post.accounts k = .receiverConfig c
  factory : ∀ t ∈ tr, ∀ k f, t.pre.accounts k = .factoryConfig f →
    t.post.accounts k = .factoryConfig f
  domain : ∀ k c, b.accounts k = .receiverConfig c →
    ∃ kf f, b.accounts kf = .factoryConfig f ∧ c.mint = f.mint ∧
      validateRoute f c.cctp_mint_chain c.cctp_mint_recipient = .ok c.cctp_domain_id
  failed : ∀ t ∈ tr, ∀ ix e, t.act = some ix → process rt t.pre ix = .error e → t.post = t.pre

theorem Bank.registrationAt_eq_some {b : Bank} {k : Pubkey} {r : Registration}
    (h : b.registrationAt k = some r) :
    ∃ c, b.accounts k = .receiverConfig c ∧ c.registration = r := by
  unfold Bank.registrationAt at h
  split at h
  · rename_i c hc
    exact ⟨c, hc, Option.some.inj h⟩
  · exact nomatch h

/-- **The registry invariant.**  From a state in which the program has no account, through any
transactions by anyone in which receivers sign nothing but registrations. -/
theorem registry_invariant {rt : Runtime} (hrt : FramedRuntime rt) {R : Set Registration}
    (hcol : Collisionless rt R) {b₀ b : Bank} {tr : List (Transition Bank (Option Instruction))}
    (hfresh : b₀.Fresh) (hrun : Steps (ProgramStep rt) b₀ tr b)
    (hadm : ∀ t ∈ tr, Admissible rt R t) : RegistryInvariant rt tr b := by
  have h := registry_tracks hrt hcol hfresh hrun hadm
  have hmerchant : ∀ k rg, b.accounts k = .registry rg → rg.merchant ∈ Registration.merchant '' R := by
    intro k rg hk
    obtain ⟨-, r, hr, heq⟩ := h.registries k rg hk
    exact ⟨r, h.registry.used r hr, heq⟩
  have hordered : ∀ k rg, b.accounts k = .registry rg → rg.receivers
      = (ofOwner Registration.merchant rg.merchant (log (registered rt) tr)).map
          (Registration.configAddress rt) := by
    intro k rg hk
    obtain ⟨rfl, -⟩ := h.registries k rg hk
    rw [← Bank.receiversAt_of hk, h.registry.lists]
    refine congrArg (List.map _) (List.filter_congr fun r hr => ?_)
    refine decide_eq_decide.mpr ⟨fun heq => ?_, fun heq => congrArg _ heq⟩
    exact hcol.registries ⟨r, h.registry.used r hr, rfl⟩ (hmerchant _ rg hk) heq
  refine ⟨?_, ?_, hordered, ?_, ?_, ?_, ?_, ?_, ?_, ?_, ?_⟩
  · intro k rg hk
    rw [← Bank.receiversAt_of hk]
    exact h.registry.length_list h.valid k
  · intro k rg hk
    rw [← Bank.receiversAt_of hk]
    exact h.registry.nodup_list hcol.configs h.valid k
  · intro k rg hk kc
    rw [hordered k rg hk]
    constructor
    · intro hmem
      obtain ⟨r, hr, rfl⟩ := List.mem_map.mp hmem
      obtain ⟨hr, hm⟩ := (mem_ofOwner _).mp hr
      obtain ⟨c, hc, rfl⟩ := Bank.registrationAt_eq_some (h.registry.filled r hr)
      exact ⟨c, hc, hm⟩
    · rintro ⟨c, hc, hm⟩
      have hb := h.configs kc c hc
      rw [hb.address]
      exact List.mem_map_of_mem ((mem_ofOwner _).mpr ⟨hb.entered, hm⟩)
  · intro kc c hc
    have hb := h.configs kc c hc
    have hmem := (h.registry.mem_list_iff hcol.configs (h.registry.used _ hb.entered)).mpr hb.entered
    unfold Bank.receiversAt at hmem
    split at hmem
    · rename_i rg hrg
      obtain ⟨haddr, -⟩ := h.registries _ rg hrg
      refine ⟨rg, hrg, ?_⟩
      exact hcol.registries (hmerchant _ rg hrg)
        ⟨c.registration, h.registry.used _ hb.entered, rfl⟩ haddr.symm
    · exact nomatch hmem
  · intro k k' c c' hc hc' hr
    exact h.config_unique hc hc' hr
  · intro k c hc
    obtain ⟨t, ht, howner, hmint, hclose, hdelegate, hsum⟩ := (h.configs k c hc).token
    refine ⟨t, ht, howner, hmint, hclose, fun hlt => ?_⟩
    rcases hdelegate with hd | ⟨-, hzero⟩
    · exact hd
    · omega
  · intro t ht k c hc
    exact ((hrun.mem_split ht).1.effect hrt).pinned.1 c hc
  · intro t ht k f hf
    exact ((hrun.mem_split ht).1.effect hrt).pinned.2 f hf
  · intro k c hc
    obtain ⟨f, hf, hrest⟩ := (h.configs k c hc).factory
    exact ⟨_, f, hf, hrest⟩
  · intro t ht ix e hact he
    obtain ⟨hs, -⟩ := hrun.mem_split ht
    obtain ⟨pre, act, post⟩ := t
    obtain rfl : act = some ix := hact
    cases hs with
    | executes hok => exact nomatch hok.symm.trans he
    | fails _ => rfl

/-! ## A run that registers one receiver and sweeps all that was delegated -/

theorem two_pow_le_ledgerAddress (seeds : List Bytes) :
    2 ^ 255 ≤ (ledgerAddress seeds).toNat := by
  have hlt : leNat seeds.flatten % 2 ^ 255 < 2 ^ 255 := Nat.mod_lt _ (by decide)
  rw [ledgerAddress, BitVec.toNat_ofNat, Nat.mod_eq_of_lt (by omega)]
  exact Nat.le_add_right _ _

/-- A small key is none of the program's. -/
theorem not_derives_of_lt {k : Pubkey} (h : k.toNat < 2 ^ 255) : ¬ ownedRuntime.Derives k := by
  rintro ⟨seeds, rfl⟩
  exact absurd (two_pow_le_ledgerAddress seeds) (Nat.not_le.mpr h)

namespace RegistrySample

/-- Token accounts only. -/
def opening : Bank where
  accounts k :=
    if k = Sample.receiverToken then Sample.token Sample.receiver 0
    else if k = Sample.merchantToken then Sample.token Sample.merchant 0
    else if k = Sample.staging then Sample.token Sample.config 0
    else if k = Sample.treasury then Sample.token 17 0
    else if k = Sample.callerToken then Sample.token Sample.caller 0
    else if k = Sample.mint then .mint
    else .empty
  burns := []
  events := []
  slot := 0

def setUp : Instruction where
  programId := 100
  accounts :=
    [.new Sample.payer true, .newReadonly Sample.mint false, .newReadonly Sample.treasury false,
     .new Sample.factory false, .newReadonly 102 false]
  data := ownedRuntime.anchorDiscriminator "initialize_factory".toList
    ++ leBytes 4 25 ++ leBytes 4 6 ++ leBytes 4 0 ++ leBytes 4 15 ++ leBytes 4 3

def announce : Instruction where
  programId := 100
  accounts :=
    [.new Sample.payer true, .newReadonly Sample.factory false, .new Sample.pending false,
     .newReadonly 102 false]
  data := ownedRuntime.anchorDiscriminator "announce_merchant".toList
    ++ bytesOf Sample.merchant ++ bytesOf 0 ++ bytesOf 0 ++ bytesOf Sample.receiver
    ++ leBytes 4 1 ++ [1]

def sweepAll : Instruction where
  programId := 100
  accounts := Sample.sweepMetas
  data := ownedRuntime.anchorDiscriminator "sweep".toList

/-- The one registration. -/
def registration : Registration := ⟨Sample.merchant, Sample.receiver, 0, 0⟩

def ready : Bank := transact ownedRuntime opening setUp

def announced : Bank := transact ownedRuntime ready announce

/-- The state after the registration. -/
def base : Bank := transact ownedRuntime announced Sample.register

/-- A 51st part of `2 ^ 64 - 1`: what one sweep can take. -/
def part : Nat := 361700864190383365

/-- The receiver's token account after `i` sweeps. -/
def held (i amount : Nat) : TokenAccount :=
  ⟨Sample.mint, Sample.receiver, amount, if i = 51 then none else some Sample.config,
    2 ^ 64 - 1 - i * part, false, some Sample.config⟩

/-- The registered receiver after `i` sweeps, with the next part paid in. -/
def funded (i : Nat) : Bank := base.set Sample.receiverToken (.token (held i part))

theorem admissible_executes {b b' : Bank} {ix : Instruction}
    (hsigners : ∀ m ∈ ix.accounts, m.isSigner = true → m.key.toNat < 2 ^ 255)
    (hreg : ∀ r ∈ ix.registration ownedRuntime, r = registration) :
    Admissible ownedRuntime {registration} ⟨b, some ix, b'⟩ where
  signers := by
    intro ix' hix m hm hsign
    obtain rfl := Option.some.inj hix
    exact not_derives_of_lt (hsigners m hm hsign)
  used := by
    intro r hr
    simp only [registered] at hr
    split at hr
    · exact hreg r hr
    · cases hr
  quiet := nofun

theorem collisionless : Collisionless ownedRuntime {registration} where
  configs := Set.injOn_singleton ..
  registries := by
    rw [Set.image_singleton]
    exact Set.injOn_singleton ..

theorem opening_fresh : opening.Fresh := by
  intro k
  simp only [opening, Sample.token]
  split_ifs <;> exact not_false

/-- Off the receiver's token account, `b` is the state after the registration, as far as the
program and the receiver are concerned. -/
structure Near (b : Bank) : Prop where
  owned : base.KeepsOwned b
  tokens : ∀ k a, k ≠ Sample.receiverToken → b.token? k = some a → a.owner = Sample.receiver →
    ∃ a', base.token? k = some a' ∧ a.SameAuthority a'

theorem near_base : Near base :=
  ⟨.refl base, fun _ a _ ha _ => ⟨a, ha, .refl a⟩⟩

set_option maxRecDepth 20000 in
theorem base_held : base.token? Sample.receiverToken = some (held 0 0) := by decide +kernel

/-- Somebody pays the next part in. -/
theorem refill {b : Bank} {i : Nat} (hb : Near b)
    (hheld : b.token? Sample.receiverToken = some (held i 0)) :
    ProgramStep ownedRuntime b none (funded i) ∧
      Admissible ownedRuntime {registration} ⟨b, none, funded i⟩ := by
  have hfunded : base.KeepsOwned (funded i) := Bank.keepsOwned_set_token base_held
  refine ⟨.outside ?_, nofun, nofun, ?_⟩
  · have hback : b.KeepsOwned base := fun k hk => (hb.owned k hk.symm).symm
    exact hback.trans hfunded
  · intro _ k a ha hunsigned
    by_cases hk : k = Sample.receiverToken
    · subst hk
      obtain rfl := Option.some.inj (hheld.symm.trans ha)
      exact ⟨held i part, Bank.token?_set_self .., ⟨rfl, rfl, rfl, rfl, rfl⟩⟩
    · obtain ⟨r, rfl, howner⟩ := hunsigned.owner
      obtain ⟨a', ha', hsame⟩ := hb.tokens k a hk ha howner
      exact ⟨a', (Bank.token?_set_other _ _ hk).trans ha', hsame⟩

set_option maxRecDepth 20000 in
/-- Every sweep succeeds and takes one part. -/
theorem sweeps_ok : ∀ i < 51, (process ownedRuntime (funded i) sweepAll).toOption.map
    (fun b => b.accounts Sample.receiverToken) = some (.token (held (i + 1) 0)) := by
  decide +kernel

set_option maxRecDepth 20000 in
theorem sweeps_config : ∀ i < 51, (sweepAccounts ownedRuntime (funded i)
      Sample.sweepMetas).toOption.map (fun a => (a.receiver_config.cctp_mint_chain,
    a.receiver_token_account, a.receiver_config_key))
      = some (0, Sample.receiverToken, Sample.config) := by
  decide +kernel

theorem process_sweepAll (b : Bank) :
    process ownedRuntime b sweepAll = sweep ownedRuntime b Sample.sweepMetas := by
  unfold process
  rw [if_neg (by decide), if_neg (by decide), if_neg (by decide), if_pos (by decide)]
  rfl

theorem sweep_part {i : Nat} (hi : i < 51) : ∃ b', ProgramStep ownedRuntime (funded i)
      (some sweepAll) b' ∧ Near b' ∧ b'.token? Sample.receiverToken = some (held (i + 1) 0) ∧
    taken Sample.receiverToken ⟨funded i, some sweepAll, b'⟩ = part := by
  obtain ⟨b', hrun, hheld⟩ := Option.map_eq_some_iff.mp (sweeps_ok i hi)
  obtain ⟨a, ha, hroute⟩ := Option.map_eq_some_iff.mp (sweeps_config i hi)
  have hrun := toOption_eq_some.mp hrun
  have ha := toOption_eq_some.mp ha
  obtain ⟨hchain, hkeys⟩ := Prod.mk.inj hroute
  obtain ⟨hsrc, hkey⟩ := Prod.mk.inj hkeys
  have hsweep := hrun
  rw [process_sweepAll] at hsweep
  obtain ⟨a', ha', hhandler⟩ := bind_ok.mp hsweep
  obtain rfl := Except.ok.inj (ha.symm.trans ha')
  have hdrawn := sweepHandler_drawn framedRuntime_owned.toStandardRuntime hchain hhandler
  rw [hsrc, hkey] at hdrawn
  have hheld := Bank.token?_eq.mpr hheld
  refine ⟨b', .executes hrun, ⟨?_, ?_⟩, hheld, ?_⟩
  · exact (Bank.keepsOwned_set_token base_held).trans hdrawn.owned
  · intro k s hk hs _
    obtain ⟨t, ht⟩ := hdrawn.back k s hs
    obtain ⟨s', hs', hsame⟩ := hdrawn.others k hk t ht
    obtain rfl := Option.some.inj (hs.symm.trans hs')
    rw [funded, Bank.token?_set_other _ _ hk] at ht
    exact ⟨t, ht, hsame.symm⟩
  · have hpre : (funded i).token? Sample.receiverToken = some (held i part) :=
      Bank.token?_set_self ..
    rw [taken_executes, Bank.amount_of_token hheld, Bank.amount_of_token hpre]
    rfl

/-- One part after the other. -/
theorem sweep_parts {n : Nat} (hn : n ≤ 51) : ∃ tr b, Steps (ProgramStep ownedRuntime) base tr b ∧
    (∀ t ∈ tr, Admissible ownedRuntime {registration} t) ∧ Near b ∧
    b.token? Sample.receiverToken = some (held n 0) ∧
    sweptFrom Sample.receiverToken tr = n * part := by
  induction n with
  | zero => exact ⟨[], base, .refl base, nofun, near_base, base_held, rfl⟩
  | succ n ih =>
      obtain ⟨tr, b, hrun, hadm, hnear, hheld, hswept⟩ := ih (Nat.le_of_succ_le hn)
      obtain ⟨hrefill, hquiet⟩ := refill hnear hheld
      obtain ⟨b', hsweep, hnear', hheld', htaken⟩ := sweep_part hn
      have hadm' : Admissible ownedRuntime {registration} ⟨funded n, some sweepAll, b'⟩ :=
        admissible_executes (by decide) (by decide)
      refine ⟨_, b', hrun.append (.step hrefill (.step hsweep (.refl b'))), ?_, hnear', hheld', ?_⟩
      · intro t ht
        rcases List.mem_append.mp ht with ht | ht
        · exact hadm t ht
        · rcases List.mem_cons.mp ht with rfl | ht
          · exact hquiet
          · rw [List.mem_singleton.mp ht]
            exact hadm'
      · rw [sweptFrom_append, hswept, sweptFrom_cons, sweptFrom_cons, htaken, taken_outside,
          sweptFrom_nil, Nat.succ_mul, Nat.zero_add, Nat.add_zero]

theorem transact_of_isSome {b : Bank} {ix : Instruction}
    (h : (process ownedRuntime b ix).toOption.isSome) :
    ProgramStep ownedRuntime b (some ix) (transact ownedRuntime b ix) := by
  obtain ⟨b', hb'⟩ := Option.isSome_iff_exists.mp h
  have hok := toOption_eq_some.mp hb'
  have heq : transact ownedRuntime b ix = b' := by
    rw [transact, hok]
  exact heq ▸ .executes hok

set_option maxRecDepth 20000 in
theorem succeeds_all : (process ownedRuntime opening setUp).toOption.isSome ∧
    (process ownedRuntime ready announce).toOption.isSome ∧
    (process ownedRuntime announced Sample.register).toOption.isSome := by
  decide +kernel

/-- The factory is set up, the receiver announced and registered. -/
def registering : List (Transition Bank (Option Instruction)) :=
  [⟨opening, some setUp, ready⟩, ⟨ready, some announce, announced⟩,
    ⟨announced, some Sample.register, base⟩]

theorem steps_registering : Steps (ProgramStep ownedRuntime) opening registering base :=
  .step (transact_of_isSome succeeds_all.1) (.step (transact_of_isSome succeeds_all.2.1)
    (.step (transact_of_isSome succeeds_all.2.2) (.refl _)))

theorem admissible_registering :
    ∀ t ∈ registering, Admissible ownedRuntime {registration} t := by
  intro t ht
  rcases List.mem_cons.mp ht with rfl | ht
  · exact admissible_executes (by decide) (by decide)
  · rcases List.mem_cons.mp ht with rfl | ht
    · exact admissible_executes (by decide) (by decide)
    · rw [List.mem_singleton.mp ht]
      exact admissible_executes (by decide) (by decide +kernel)

set_option maxRecDepth 20000 in
theorem sweptFrom_registering : sweptFrom Sample.receiverToken registering = 0 := by
  decide +kernel

end RegistrySample

open RegistrySample in
/-- The receiver of the run above is in its merchant's registry. -/
theorem registry_invariant_registered : base.receiversAt Sample.registry = [Sample.config] ∧
    RegistryInvariant ownedRuntime registering base :=
  ⟨by decide +kernel, registry_invariant framedRuntime_owned collisionless opening_fresh
    steps_registering admissible_registering⟩

open RegistrySample in
/-- After sweeps of `2 ^ 64 - 1` in all, no more than fits a word, the delegate is gone. -/
theorem delegation_exhausted : FramedRuntime ownedRuntime ∧
    Collisionless ownedRuntime {registration} ∧ opening.Fresh ∧
    ∃ tr b c, Steps (ProgramStep ownedRuntime) opening tr b ∧
      (∀ t ∈ tr, Admissible ownedRuntime {registration} t) ∧
      b.accounts Sample.config = .receiverConfig c ∧
      sweptFrom (ownedRuntime.ata c.receiver c.mint) tr < 2 ^ 64 ∧
      ∃ t, b.token? (ownedRuntime.ata c.receiver c.mint) = some t ∧
        t.delegate ≠ some Sample.config := by
  obtain ⟨tr, b, hrun, hadm, hnear, hheld, hswept⟩ := sweep_parts le_rfl
  obtain ⟨c, hc, hkeys⟩ : ∃ c, base.accounts Sample.config = .receiverConfig c ∧
      ownedRuntime.ata c.receiver c.mint = Sample.receiverToken :=
    ⟨⟨Sample.receiver, Sample.merchant, Sample.mint, Sample.merchantToken, 0, 0,
      SAME_CHAIN_DOMAIN_SENTINEL, 255⟩, by decide +kernel, by decide +kernel⟩
  refine ⟨framedRuntime_owned, collisionless, opening_fresh, _, b, c, steps_registering.append hrun, ?_, ?_,
    ?_, held 51 0, ?_, nofun⟩
  · intro t ht
    rcases List.mem_append.mp ht with ht | ht
    · exact admissible_registering t ht
    · exact hadm t ht
  · exact hnear.owned.config hc
  · rw [hkeys, sweptFrom_append, sweptFrom_registering, hswept]
    decide
  · rw [hkeys]
    exact hheld

end Beanie.Solana
