/-
# `Beanie.Solana.ProgramRun` — the program's runs, and sweeps in them

A run interleaves the program's instructions, by anyone and with any accounts,
with whatever other programs do to accounts that are not this program's.  The
invariant is that every stored configuration came out of `validate_route`
(`configs_valid`); with it the effect of a sweep is stated about the route and
not about the one field the handler tests.
-/
import Beanie.Solana.LedgerRuntime
import Beanie.Solana.SweepSpec

namespace Beanie.Solana

/-- The accounts this program owns. -/
def AccountData.Owned : AccountData → Prop
  | .factoryConfig _ | .receiverConfig _ | .pending _ | .registry _ => True
  | _ => False

/-- One transaction: an instruction of the program, or a change to accounts it does not own. -/
inductive ProgramStep (rt : Runtime) : Bank → Option Instruction → Bank → Prop
  | executes {b b' : Bank} {ix : Instruction} (h : process rt b ix = .ok b') :
      ProgramStep rt b (some ix) b'
  | fails {b : Bank} {ix : Instruction} {e : ProgramError} (h : process rt b ix = .error e) :
      ProgramStep rt b (some ix) b
  | outside {b b' : Bank}
      (h : ∀ k, (b.accounts k).Owned ∨ (b'.accounts k).Owned → b'.accounts k = b.accounts k) :
      ProgramStep rt b none b'

/-- `validate_route` passed when the configuration was written. -/
def ReceiverConfig.Valid (c : ReceiverConfig) : Prop :=
  ∃ factory : FactoryConfig, c.mint = factory.mint ∧
    validateRoute factory c.cctp_mint_chain c.cctp_mint_recipient = .ok c.cctp_domain_id

def ConfigsValid (b : Bank) : Prop := ∀ k c, b.accounts k = .receiverConfig c → c.Valid

theorem validateRoute_ok {factory : FactoryConfig} {chain recipient : Bytes32}
    {domain : BitVec 32} (h : validateRoute factory chain recipient = .ok domain) :
    (chain = 0 ∧ recipient = 0 ∧ domain = SAME_CHAIN_DOMAIN_SENTINEL) ∨
      (chain ≠ 0 ∧ recipient ≠ 0 ∧ resolveDomain factory chain = some domain) := by
  unfold validateRoute at h
  split_ifs at h with hc
  · simp only [bind_ok, require_ok, okOr_ok] at h
    obtain ⟨-, hr, hd⟩ := h
    exact .inr ⟨hc, hr, hd⟩
  · simp only [bind_ok, require_ok, Except.ok.injEq] at h
    obtain ⟨-, hr, hd⟩ := h
    exact .inl ⟨not_not.mp hc, hr, hd.symm⟩

/-- A stored route is all zero or has both parts. -/
theorem ReceiverConfig.Valid.zero_iff {c : ReceiverConfig} (h : c.Valid) :
    c.cctp_mint_chain = 0 ↔ c.cctp_mint_recipient = 0 := by
  obtain ⟨factory, -, hroute⟩ := h
  rcases validateRoute_ok hroute with ⟨hc, hr, -⟩ | ⟨hc, hr, -⟩
  · exact ⟨fun _ => hr, fun _ => hc⟩
  · exact ⟨fun h => absurd h hc, fun h => absurd h hr⟩

/-! ## What one instruction writes -/

/-- Writing anything but a configuration keeps the invariant. -/
theorem ConfigsValid.set {b : Bank} (hb : ConfigsValid b) (k : Pubkey) {d : AccountData}
    (hd : ∀ c, d = .receiverConfig c → c.Valid) : ConfigsValid (b.set k d) := by
  intro k' c hc
  by_cases hk : k' = k
  · subst hk
    rw [Bank.set_self] at hc
    exact hd c hc
  · rw [Bank.set_other _ _ hk] at hc
    exact hb k' c hc

/-- A bank whose accounts are those of `b`, `k` excepted. -/
theorem ConfigsValid.set_of_eq_off {b b' : Bank} {k : Pubkey} {d : AccountData}
    (hb : ConfigsValid b)
    (h : ∀ k' c, k' ≠ k → b'.accounts k' = .receiverConfig c → b.accounts k' = .receiverConfig c)
    (hd : ∀ c, d = .receiverConfig c → c.Valid) : ConfigsValid (b'.set k d) := by
  intro k' c hc
  by_cases hk : k' = k
  · subst hk
    rw [Bank.set_self] at hc
    exact hd c hc
  · rw [Bank.set_other _ _ hk] at hc
    exact hb k' c (h k' c hk hc)

theorem ConfigsValid.emit {b : Bank} (hb : ConfigsValid b) (e : Event) : ConfigsValid (b.emit e) :=
  hb

section
variable {rt : Runtime} {b b' : Bank} {metas : List AccountMeta}

theorem initializeFactory_configs {args : InitializeFactoryArgs}
    (h : initializeFactory rt b metas args = .ok b') (hb : ConfigsValid b) : ConfigsValid b' := by
  unfold initializeFactory at h
  split at h
  · simp only [bind_ok, Except.ok.injEq] at h
    obtain ⟨_, -, _, -, _, -, _, -, _, -, _, -, _, -, _, -, rfl⟩ := h
    exact (hb.set _ (by simp)).emit _
  · exact absurd h (by simp)

theorem announceMerchant_configs {args : AnnounceArgs}
    (h : announceMerchant rt b metas args = .ok b') (hb : ConfigsValid b) : ConfigsValid b' := by
  simp only [announceMerchant, bind_ok, Except.ok.injEq] at h
  obtain ⟨_, -, _, -, _, -, _, -, rfl⟩ := h
  exact (hb.set _ (by simp)).emit _

/-- Validating the accounts of `register_merchant` writes a blank configuration, and no other. -/
theorem registerAccounts_ok {args : RegisterArgs} {a : RegisterMerchant}
    (h : registerAccounts rt b metas args = .ok (b', a)) :
    b' = b.set a.receiver_config (.receiverConfig ⟨0, 0, 0, 0, 0, 0, 0, 0⟩) := by
  unfold registerAccounts at h
  split at h
  · simp only [bind_ok, Except.ok.injEq, Prod.mk.injEq] at h
    obtain ⟨_, -, _, -, _, -, _, -, _, -, _, -, _, -, _, -, _, -, _, -, _, -, _, -, h⟩ := h
    obtain ⟨_, -, _, -, _, -, _, -, _, -, _, -, _, -, _, -, _, -, _, -, rfl, rfl⟩ := h
    rfl
  · exact absurd h (by simp)

theorem registerMerchant_configs (hrt : StandardRuntime rt) {args : RegisterArgs}
    (h : registerMerchant rt b metas args = .ok b') (hb : ConfigsValid b) : ConfigsValid b' := by
  simp only [registerMerchant, bind_ok] at h
  obtain ⟨⟨b₁, a⟩, hacc, -, -, domain, hroute, b₂, happrove, b₃, hclose, hout⟩ := h
  cases hout
  have hb₁ := registerAccounts_ok hacc
  obtain ⟨t, ht, -, rfl⟩ := hrt.approve happrove
  obtain ⟨t', ht', -, rfl⟩ := hrt.setCloseAuthority hclose
  -- the two token calls leave every configuration, so off the new one nothing changed
  refine (((hb.set_of_eq_off ?_ ?_).set _ (by simp)).set _ (by simp)).emit _
  · intro k c hk hc
    rw [set_token_configs ht', set_token_configs ht, hb₁, Bank.set_other _ _ hk] at hc
    exact hc
  · intro c hc
    cases hc
    exact ⟨a.factory_config, rfl, hroute⟩

theorem sweep_configs (hrt : StandardRuntime rt) (h : sweep rt b metas = .ok b')
    (hb : ConfigsValid b) : ConfigsValid b' := by
  simp only [sweep, bind_ok] at h
  obtain ⟨a, -, hhandler⟩ := h
  exact fun k c hc => hb k c (((sweepHandler_ok hrt hhandler).configs k c).mp hc)

/-- The step lemma, one case an instruction. -/
theorem process_configs (hrt : StandardRuntime rt) {ix : Instruction}
    (h : process rt b ix = .ok b') (hb : ConfigsValid b) : ConfigsValid b' := by
  unfold process at h
  split_ifs at h
  · obtain ⟨args, -, hrun⟩ := bind_ok.mp h
    exact initializeFactory_configs hrun hb
  · obtain ⟨args, -, hrun⟩ := bind_ok.mp h
    exact announceMerchant_configs hrun hb
  · obtain ⟨args, -, hrun⟩ := bind_ok.mp h
    exact registerMerchant_configs hrt hrun hb
  · exact sweep_configs hrt h hb

theorem ProgramStep.configs (hrt : StandardRuntime rt) {ix : Option Instruction}
    (h : ProgramStep rt b ix b') (hb : ConfigsValid b) : ConfigsValid b' := by
  cases h with
  | executes h => exact process_configs hrt h hb
  | fails _ => exact hb
  | outside h =>
      intro k c hc
      have hsame := h k (.inr (hc ▸ trivial))
      exact hb k c (hsame ▸ hc)

/-- The run lemma: every configuration of every run is valid. -/
theorem configs_valid (hrt : StandardRuntime rt) {tr : List (Transition Bank (Option Instruction))}
    (h : Steps (ProgramStep rt) b tr b') (hb : ConfigsValid b) : ConfigsValid b' :=
  h.invariant (I := ConfigsValid) (P := fun _ => True) (fun _ _ _ hs _ hi => hs.configs hrt hi)
    (fun _ _ => trivial) hb

end

/-- **Sweeps in the program's runs.**  In every state reached from one without configurations, a
successful sweep splits what it found exactly, empties the receiver, and sends the net amount
where the configuration says: to the pinned merchant account on a zero route, through the staging
account into one burn toward the pinned domain and recipient on any other.  A transaction that
fails changes nothing. -/
theorem sweep_conserves {rt : Runtime} (hrt : StandardRuntime rt) {b₀ b : Bank}
    {tr : List (Transition Bank (Option Instruction))}
    (hfresh : ∀ k c, b₀.accounts k ≠ .receiverConfig c) (hrun : Steps (ProgramStep rt) b₀ tr b)
    {metas : List AccountMeta} {a : Sweep} (ha : sweepAccounts rt b metas = .ok a)
    (hd : a.Distinct rt) :
    let g := b.amount a.receiver_token_account
    a.receiver_token_account = rt.ata a.receiver_config.receiver a.factory_config.mint ∧
      (a.receiver_config.cctp_mint_chain = 0 ↔ a.receiver_config.cctp_mint_recipient = 0) ∧
      (rates.callerCut g + rates.treasuryCut g = rates.fee g ∧ rates.fee g = 50 * g / 10000 ∧
        rates.callerCut g + rates.treasuryCut g + rates.net g = g) ∧
      (∀ b', sweep rt b metas = .ok b' → SweepEffect rt a g b b') ∧
      (∀ ix e, process rt b ix = .error e → transact rt b ix = b) := by
  intro g
  have hchecked := sweepAccounts_ok ha
  have hvalid := configs_valid hrt hrun (fun k c h => absurd h (hfresh k c)) _ _ hchecked.config
  have hsplit := rates.split_sum g
  refine ⟨hchecked.receiver, hvalid.zero_iff, ⟨rates.callerCut_add_treasuryCut g, ?_, by omega⟩,
    ?_, ?_⟩
  · show g * 50 / 10000 = 50 * g / 10000
    rw [Nat.mul_comm]
  · intro b' h
    obtain ⟨a', ha', hhandler⟩ := bind_ok.mp h
    obtain rfl : a = a' := Except.ok.inj (ha.symm.trans ha')
    exact (sweepHandler_ok hrt hhandler).effect hd rfl
  · intro ix e h
    rw [transact, h]

/-! ## A bank with one announced receiver -/

namespace Sample

def mint : Pubkey := 10
def payer : Pubkey := 11
def receiver : Pubkey := 12
def merchant : Pubkey := 13
def treasury : Pubkey := 14
def caller : Pubkey := 15

def factory : Pubkey := ledgerAddress [FACTORY_SEED]
def config : Pubkey := ledgerAddress (routeSeeds CONFIG_SEED merchant receiver 0 0)
def pending : Pubkey := ledgerAddress (routeSeeds PENDING_SEED merchant receiver 0 0)
def registry : Pubkey := ledgerAddress [REGISTRY_SEED, bytesOf merchant]
def receiverToken : Pubkey := ledgerRuntime.ata receiver mint
def merchantToken : Pubkey := ledgerRuntime.ata merchant mint
def staging : Pubkey := ledgerRuntime.ata config mint
def callerToken : Pubkey := ledgerRuntime.ata caller mint

def token (owner : Pubkey) (amount : Nat) : AccountData :=
  .token ⟨mint, owner, amount, none, 0, false, none⟩

/-- The receiver already holds 10_000 units when it is registered. -/
def bank : Bank where
  accounts k :=
    if k = factory then .factoryConfig ⟨mint, treasury, 25, 6, 0, 15, 3, 255⟩
    else if k = pending then .pending ⟨255, [1]⟩
    else if k = receiverToken then token receiver 10000
    else if k = merchantToken then token merchant 0
    else if k = staging then token config 0
    else if k = treasury then token 17 0
    else if k = callerToken then token caller 0
    else if k = mint then .mint
    else if k = 100 then .other
    else .empty
  burns := []
  events := []
  slot := 0

def register : Instruction where
  programId := 100
  accounts :=
    [.new payer true, .newReadonly receiver true, .newReadonly factory false,
     .new receiverToken false, .newReadonly merchantToken false, .new config false,
     .newReadonly staging false, .new registry false, .new pending false,
     .newReadonly 102 false, .newReadonly 101 false]
  data := ledgerRuntime.anchorDiscriminator "register_merchant".toList
    ++ bytesOf merchant ++ bytesOf 0 ++ bytesOf 0

def sweepMetas : List AccountMeta :=
  [.newReadonly caller true, .new callerToken false, .new receiverToken false,
   .newReadonly factory false, .new treasury false, .newReadonly config false,
   .new merchantToken false] ++ List.replicate 14 (.newReadonly 100 false)
    ++ [.newReadonly 101 false, .newReadonly 102 false]

end Sample

set_option maxRecDepth 20000 in
/-- A receiver registered on the zero route, holding 10_000 units, and swept. -/
theorem sweep_conserves_same_chain : ∃ tr b a b',
    Steps (ProgramStep ledgerRuntime) Sample.bank tr b ∧
    sweepAccounts ledgerRuntime b Sample.sweepMetas = .ok a ∧
    sweep ledgerRuntime b Sample.sweepMetas = .ok b' ∧
    b'.amount Sample.merchantToken = 9950 ∧ SweepEffect ledgerRuntime a 10000 b b' := by
  obtain ⟨b, hreg, a, ha, hd, b', hs, hg, hm⟩ :
      ∃ b, process ledgerRuntime Sample.bank Sample.register = .ok b ∧
      ∃ a, sweepAccounts ledgerRuntime b Sample.sweepMetas = .ok a ∧ a.Distinct ledgerRuntime ∧
      ∃ b', sweep ledgerRuntime b Sample.sweepMetas = .ok b' ∧
        b.amount a.receiver_token_account = 10000 ∧ b'.amount Sample.merchantToken = 9950 :=
    ⟨_, rfl, _, rfl, by decide, _, rfl, rfl, rfl⟩
  have hrun : Steps (ProgramStep ledgerRuntime) Sample.bank _ b := .step (.executes hreg) (.refl b)
  have hfresh : ∀ k c, Sample.bank.accounts k ≠ .receiverConfig c := by
    intro k c
    simp only [Sample.bank, Sample.token]
    split_ifs <;> simp
  have h := sweep_conserves standardRuntime_ledger hfresh hrun ha hd
  exact ⟨_, b, a, b', hrun, ha, hs, hm, hg ▸ h.2.2.2.1 b' hs⟩

end Beanie.Solana
