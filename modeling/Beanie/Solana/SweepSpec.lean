/-
# `Beanie.Solana.SweepSpec` — what a successful `sweep` did

Three layers, each reading only the one below:

    sweepAccounts_ok      what the account list was checked for
    transferSigned_ok     one transfer, from the runtime's behaviour
    sweepHandler_ok       the fee payments and the settlement, composed

and, for configurations, the invariant of the program's runs: every stored
route is all zero or has both parts (`configs_valid`), so the handler's test on
the chain is a test on the route.
-/
import Beanie.Lib.Run
import Beanie.Solana.Program

namespace Beanie.Solana

/-! ## The account list -/

/-- What `sweep`'s context has checked about the accounts it was given. -/
structure SweepChecked (rt : Runtime) (b : Bank) (a : Sweep) : Prop where
  config : b.accounts a.receiver_config_key = .receiverConfig a.receiver_config
  factory : ∃ k, b.accounts k = .factoryConfig a.factory_config ∧
    rt.createProgramAddress ([FACTORY_SEED] ++ [[a.factory_config.bump]]) rt.programId = some k
  receiver : a.receiver_token_account = rt.ata a.receiver_config.receiver a.factory_config.mint
  treasury : a.treasury_token_account = a.factory_config.treasury_token_account
  caller : ∃ t, b.token? a.caller_token_account = some t ∧ t.owner = a.caller ∧
    t.mint = a.factory_config.mint
  address : rt.createProgramAddress (routeSeeds CONFIG_SEED a.receiver_config.merchant
    a.receiver_config.receiver a.receiver_config.cctp_mint_chain
    a.receiver_config.cctp_mint_recipient ++ [[a.receiver_config.bump]]) rt.programId
      = some a.receiver_config_key

theorem factoryAccount_ok {b : Bank} {m : AccountMeta} {c : FactoryConfig} :
    factoryAccount b m = .ok c ↔ b.accounts m.key = .factoryConfig c := by
  unfold factoryAccount
  split <;> simp_all

theorem receiverConfigAccount_ok {b : Bank} {m : AccountMeta} {c : ReceiverConfig} :
    receiverConfigAccount b m = .ok c ↔ b.accounts m.key = .receiverConfig c := by
  unfold receiverConfigAccount
  split <;> simp_all

theorem tokenAccount_ok {b : Bank} {m : AccountMeta} {t : TokenAccount} :
    tokenAccount b m = .ok t ↔ b.token? m.key = some t := okOr_ok

theorem sweepAccounts_ok {rt : Runtime} {b : Bank} {metas : List AccountMeta} {a : Sweep}
    (h : sweepAccounts rt b metas = .ok a) : SweepChecked rt b a := by
  unfold sweepAccounts at h
  split at h
  · simp only [bind_ok, signer, program, mutable, seedsWithBump, require_ok, tokenAccount_ok,
      factoryAccount_ok, receiverConfigAccount_ok, Except.ok.injEq] at h
    obtain ⟨_, -, callerTa, hcallerTa, _, -, fc, hfc, _, -, cfg, hcfg, h⟩ := h
    obtain ⟨mta, -, sta, -, erp, -, msd, -, btm, -, h⟩ := h
    obtain ⟨csa, -, den, -, tra, -, mes, -, rem, -, min, -, loc, -, eva, -, h⟩ := h
    obtain ⟨trp, -, mip, -, _, -, _, -, _, -, _, howner, _, hmint, _, -, _, hreceiver, h⟩ := h
    obtain ⟨_, hfactory, _, -, _, htreasury, _, haddress, h⟩ := h
    obtain ⟨_, -, _, -, _, -, _, -, _, -, _, -, _, -, rfl⟩ := h
    exact
      { config := hcfg
        factory := ⟨_, hfc, hfactory⟩
        receiver := hreceiver
        treasury := htreasury
        caller := ⟨callerTa, hcallerTa, howner, hmint⟩
        address := haddress }
  · exact absurd h (by simp)

/-! ## One transfer -/

/-- `b'` is `b` after `n` tokens moved from `src` to `dst`. -/
structure Paid (b b' : Bank) (src dst : Pubkey) (n : Nat) : Prop where
  covered : n ≤ b.amount src
  amounts : b'.amount = b.amount.move src dst n
  burns : b'.burns = b.burns
  configs : ∀ k c, b'.accounts k = .receiverConfig c ↔ b.accounts k = .receiverConfig c

theorem Paid.none (b : Bank) (src dst : Pubkey) : Paid b b src dst 0 :=
  ⟨Nat.zero_le _, by simp, rfl, fun _ _ => Iff.rfl⟩

/-- Writing a token account over a token account leaves every configuration. -/
theorem set_token_configs {b : Bank} {k : Pubkey} {t t' : TokenAccount} (h : b.token? k = some t)
    (k' : Pubkey) (c : ReceiverConfig) :
    (b.set k (.token t')).accounts k' = .receiverConfig c ↔
      b.accounts k' = .receiverConfig c := by
  by_cases hk : k' = k
  · subst hk
    simp [Bank.token?_eq.mp h]
  · rw [Bank.set_other _ _ hk]

theorem afterTransfer_paid {b : Bank} {src dst authority : Pubkey} {n : Nat} {s d : TokenAccount}
    (hne : src ≠ dst) (h : Transferable b src dst authority n s d) :
    Paid b (b.afterTransfer src dst authority n s d) src dst n := by
  have hs := Bank.amount_of_token h.source
  have hd := Bank.amount_of_token h.destination
  have hd' : (b.set src (.token (s.spend authority n))).token? dst = some d := by
    rw [Bank.token?_eq, Bank.set_other _ _ hne.symm]
    exact Bank.token?_eq.mp h.destination
  refine ⟨hs ▸ h.funds, ?_, rfl, ?_⟩
  · rw [Bank.afterTransfer, Bank.set_token_amount, Bank.set_token_amount, Ledger.move,
      Ledger.credit, Ledger.debit, Function.update_of_ne hne.symm, hs, hd]
    simp [TokenAccount.receive]
  · intro k c
    rw [Bank.afterTransfer, set_token_configs hd', set_token_configs h.source]

theorem transferSigned_ok {rt : Runtime} (hrt : StandardRuntime rt) {b b' : Bank} {a : Sweep}
    {dst : Pubkey} {n : Nat} (h : transferSigned rt b a dst n = .ok b') :
    Paid b b' a.receiver_token_account dst n := by
  simp only [transferSigned, bind_ok, require_ok] at h
  obtain ⟨-, -, htransfer⟩ := h
  by_cases hne : a.receiver_token_account = dst
  · subst hne
    obtain ⟨hle, rfl⟩ := hrt.selfTransfer htransfer
    exact ⟨hle, (Ledger.move_self _ hle).symm, rfl, fun _ _ => Iff.rfl⟩
  · obtain ⟨s, d, hable, rfl⟩ := (hrt.transfer hne).mp htransfer
    exact afterTransfer_paid hne hable

theorem payIfPositive_ok {rt : Runtime} (hrt : StandardRuntime rt) {b b' : Bank} {a : Sweep}
    {dst : Pubkey} {n : Nat} (h : payIfPositive rt b a dst n = .ok b') :
    Paid b b' a.receiver_token_account dst n := by
  by_cases hn : 0 < n
  · rw [payIfPositive, if_pos hn] at h
    exact transferSigned_ok hrt h
  · rw [payIfPositive, if_neg hn] at h
    have h0 : n = 0 := Nat.eq_zero_of_not_pos hn
    subst h0
    cases h
    exact .none _ _ _

/-! ## The two settlements -/

/-- The staging account of a sweep. -/
def Sweep.staging (rt : Runtime) (a : Sweep) : Pubkey :=
  rt.ata a.receiver_config_key a.factory_config.mint

/-- The account list names five different token accounts. -/
def Sweep.Distinct (rt : Runtime) (a : Sweep) : Prop :=
  [a.receiver_token_account, a.caller_token_account, a.treasury_token_account,
    a.receiver_config.merchant_token_account, a.staging rt].Nodup

instance (rt : Runtime) (a : Sweep) : Decidable (a.Distinct rt) :=
  inferInstanceAs (Decidable (List.Nodup [a.receiver_token_account, a.caller_token_account,
    a.treasury_token_account, a.receiver_config.merchant_token_account, a.staging rt]))

theorem settleSameChain_ok {rt : Runtime} (hrt : StandardRuntime rt) {b b' : Bank} {a : Sweep}
    {net : Nat} (h : settleSameChain rt b a net = .ok b') :
    Paid b b' a.receiver_token_account a.receiver_config.merchant_token_account net := by
  simp only [settleSameChain, bind_ok, require_ok] at h
  obtain ⟨dst, -, -, rfl, htransfer⟩ := h
  exact transferSigned_ok hrt htransfer

/-- The same-chain settlement is a transfer to the pinned merchant account, which the caller must
have listed. -/
theorem settleSameChain_eq {rt : Runtime} {b : Bank} {a : Sweep} {net : Nat}
    (h : a.merchant_token_account = some a.receiver_config.merchant_token_account) :
    settleSameChain rt b a net
      = transferSigned rt b a a.receiver_config.merchant_token_account net := by
  rw [settleSameChain, h, okOr_some, ok_bind, require_of _ rfl, ok_bind]

/-- What the cross-chain settlement did: the net amount left the receiver for the staging account,
and was burned there toward the configured domain and recipient. -/
structure BurnedNet (rt : Runtime) (a : Sweep) (net : Nat) (b b' : Bank) : Prop where
  covered : net ≤ b.amount a.receiver_token_account
  amounts : b'.amount = b.amount.debit a.receiver_token_account net
  burns : b'.burns = b.burns ++ [⟨a.staging rt, net, a.receiver_config.cctp_domain_id,
    a.receiver_config.cctp_mint_recipient⟩]
  configs : ∀ k c, b'.accounts k = .receiverConfig c ↔ b.accounts k = .receiverConfig c

/-- A move into the staging account followed by the burn there is a debit of the source. -/
theorem debit_of_move {l : Ledger Pubkey} {src dst : Pubkey} {n : Nat} (hn : n ≤ l src) :
    (l.move src dst n).debit dst n = l.debit src n := by
  by_cases hne : src = dst
  · subst hne
    rw [Ledger.move_self _ hn]
  funext k
  by_cases hk : k = dst
  · subst hk
    rw [Ledger.debit_self, Ledger.move_dst _ _ hne, Ledger.debit_other _ _ (Ne.symm hne)]
    exact Nat.add_sub_cancel ..
  · rw [Ledger.debit_other _ _ hk]
    by_cases hs : k = src
    · subst hs
      rw [Ledger.move_src _ _ hne, Ledger.debit_self]
    · rw [Ledger.move_other _ _ hs hk, Ledger.debit_other _ _ hs]

theorem settleCrossChain_ok {rt : Runtime} (hrt : StandardRuntime rt) {b b' : Bank} {a : Sweep}
    {balance net max_fee : Nat} (hnet : net ≤ balance) (hbal : balance < 2 ^ 64)
    (h : settleCrossChain rt b a balance net = .ok (b', max_fee)) : BurnedNet rt a net b b' := by
  simp only [settleCrossChain, bind_ok, require_ok, checkedMul_ok] at h
  obtain ⟨staging, -, rp, -, ed, -, bm, -, sa, -, dl, -, tr, -, ms, -, rm, -, mi, -, lt, -, h⟩ := h
  obtain ⟨ea, -, tp, -, mp, -, -, -, -, -, -, rfl, h⟩ := h
  obtain ⟨b₁, htransfer, prod, ⟨hprod, rfl⟩, b₂, hburn, hout⟩ := h
  obtain ⟨rfl, -⟩ := Prod.mk.inj (Except.ok.inj hout)
  have hpaid := transferSigned_ok hrt htransfer
  -- the staging account is the fourth account of the call
  have hfee : balance * CCTP_MAX_FEE_BPS / BPS_DENOM < 2 ^ 64 :=
    lt_of_le_of_lt (Nat.div_le_self _ _) hprod
  have hb := hrt.depositForBurn hburn (lt_of_le_of_lt hnet hbal) hfee rfl rfl
  change Burned b₁ b₂ (a.staging rt) _ at hb
  refine ⟨hpaid.covered, ?_, ?_, fun k c => (hb.configs k c).trans (hpaid.configs k c)⟩
  · rw [hb.amounts, hpaid.amounts]
    exact debit_of_move hpaid.covered
  · rw [hb.burns, hpaid.burns]

/-! ## The handler -/

/-- The burns of a sweep that found `g`. -/
def sweptBurns (rt : Runtime) (a : Sweep) (g : Nat) : List Burn :=
  if a.receiver_config.cctp_mint_chain = 0 ∨ g = 0 then []
  else [⟨a.staging rt, rates.net g, a.receiver_config.cctp_domain_id,
    a.receiver_config.cctp_mint_recipient⟩]

/-- What a successful sweep that found `g` did to the token amounts and the burns. -/
structure SweepEffect (rt : Runtime) (a : Sweep) (g : Nat) (b b' : Bank) : Prop where
  receiver : b'.amount a.receiver_token_account = 0
  caller : b'.amount a.caller_token_account
    = b.amount a.caller_token_account + rates.callerCut g
  treasury : b'.amount a.treasury_token_account
    = b.amount a.treasury_token_account + rates.treasuryCut g
  merchant : b'.amount a.receiver_config.merchant_token_account
    = b.amount a.receiver_config.merchant_token_account
      + if a.receiver_config.cctp_mint_chain = 0 then rates.net g else 0
  staging : b'.amount (a.staging rt) = b.amount (a.staging rt)
  /-- one burn of the net amount on the cross-chain branch, none on the other -/
  burns : b'.burns = b.burns ++ sweptBurns rt a g
  others : ∀ k, k ≠ a.receiver_token_account → k ≠ a.caller_token_account →
    k ≠ a.treasury_token_account → k ≠ a.receiver_config.merchant_token_account →
    b'.amount k = b.amount k

/-- The ledger after a sweep that found `g > 0`: the two fee parts, then the net amount's last
hop. -/
def sweptLedger (a : Sweep) (g : Nat) (l : Ledger Pubkey) : Ledger Pubkey :=
  let l := l.move a.receiver_token_account a.caller_token_account (rates.callerCut g)
  let l := l.move a.receiver_token_account a.treasury_token_account (rates.treasuryCut g)
  if a.receiver_config.cctp_mint_chain = 0 then
    l.move a.receiver_token_account a.receiver_config.merchant_token_account (rates.net g)
  else l.debit a.receiver_token_account (rates.net g)

/-- What a successful handler did, whatever accounts it was given. -/
structure Swept (rt : Runtime) (a : Sweep) (g : Nat) (b b' : Bank) : Prop where
  amounts : b'.amount = sweptLedger a g b.amount
  burns : b'.burns = b.burns ++ sweptBurns rt a g
  configs : ∀ k c, b'.accounts k = .receiverConfig c ↔ b.accounts k = .receiverConfig c

theorem sweptLedger_zero (a : Sweep) (l : Ledger Pubkey) : sweptLedger a 0 l = l := by
  simp only [sweptLedger, FeeRates.callerCut_zero, FeeRates.treasuryCut_zero, FeeRates.net_zero,
    Ledger.move_zero]
  split_ifs
  · rfl
  · simp [Ledger.debit]

/-- **The spec of the handler.** -/
theorem sweepHandler_ok {rt : Runtime} (hrt : StandardRuntime rt) {b b' : Bank} {a : Sweep}
    (h : sweepHandler rt b a = .ok b') : Swept rt a (b.amount a.receiver_token_account) b b' := by
  unfold sweepHandler at h
  dsimp only at h
  by_cases hg : b.amount a.receiver_token_account = 0
  · rw [if_pos hg] at h
    cases h
    rw [hg]
    exact ⟨(sweptLedger_zero a _).symm, by simp [sweptBurns], fun _ _ => Iff.rfl⟩
  · rw [if_neg hg] at h
    simp only [bind_ok, checkedMul_ok, checkedSub_ok] at h
    obtain ⟨_, ⟨hmul, rfl⟩, net, ⟨-, rfl⟩, _, ⟨-, rfl⟩, toTreasury, ⟨-, rfl⟩, b₁, hpay₁, b₂,
      hpay₂, h⟩ := h
    generalize b.amount a.receiver_token_account = g at hg hmul hpay₁ hpay₂ h ⊢
    -- the amounts the code computes are the schedule's, by definition
    change payIfPositive rt b a a.caller_token_account (rates.callerCut g) = .ok b₁ at hpay₁
    change payIfPositive rt b₁ a a.treasury_token_account (rates.treasuryCut g) = .ok b₂ at hpay₂
    have hp₁ := payIfPositive_ok hrt hpay₁
    have hp₂ := payIfPositive_ok hrt hpay₂
    by_cases hchain : a.receiver_config.cctp_mint_chain = 0
    · rw [if_pos hchain] at h
      simp only [bind_ok] at h
      obtain ⟨b₃, hset, hout⟩ := h
      cases hout
      change settleSameChain rt b₂ a (rates.net g) = .ok b₃ at hset
      have hp₃ := settleSameChain_ok hrt hset
      refine ⟨?_, ?_, fun k c => ?_⟩
      · rw [Bank.emit_amount, hp₃.amounts, hp₂.amounts, hp₁.amounts, sweptLedger, if_pos hchain]
      · rw [Bank.emit_burns, hp₃.burns, hp₂.burns, hp₁.burns, sweptBurns, if_pos (.inl hchain),
          List.append_nil]
      · exact (hp₃.configs k c).trans ((hp₂.configs k c).trans (hp₁.configs k c))
    · rw [if_neg hchain] at h
      simp only [bind_ok] at h
      obtain ⟨⟨b₃, max_fee⟩, hset, hout⟩ := h
      cases hout
      change settleCrossChain rt b₂ a g (rates.net g) = .ok (b₃, max_fee) at hset
      have hbal : g < 2 ^ 64 := by
        have hle : g ≤ g * FEE_BPS := Nat.le_mul_of_pos_right g (by decide)
        omega
      have hnet : rates.net g ≤ g := Nat.sub_le _ _
      have hp₃ := settleCrossChain_ok hrt hnet hbal hset
      refine ⟨?_, ?_, fun k c => ?_⟩
      · rw [Bank.emit_amount, hp₃.amounts, hp₂.amounts, hp₁.amounts, sweptLedger, if_neg hchain]
      · rw [Bank.emit_burns, hp₃.burns, hp₂.burns, hp₁.burns, sweptBurns,
          if_neg (fun h => h.elim hchain hg)]
      · exact (hp₃.configs k c).trans ((hp₂.configs k c).trans (hp₁.configs k c))

/-- **The effect of a sweep on five different accounts.** -/
theorem Swept.effect {rt : Runtime} {a : Sweep} (hd : a.Distinct rt) {g : Nat} {b b' : Bank}
    (hg : b.amount a.receiver_token_account = g) (h : Swept rt a g b b') :
    SweepEffect rt a g b b' := by
  have hsplit := rates.split_sum g
  simp only [Sweep.Distinct, List.nodup_cons, List.mem_cons, List.not_mem_nil, or_false, not_or,
    List.nodup_nil, and_true, not_false_eq_true] at hd
  obtain ⟨⟨hrc, hrt, hrm, hrs⟩, ⟨hct, hcm, hcs⟩, ⟨htm, hts⟩, hms⟩ := hd
  refine ⟨?_, ?_, ?_, ?_, ?_, h.burns, ?_⟩
  all_goals rw [h.amounts, sweptLedger]
  · split_ifs
    · rw [Ledger.move_src _ _ hrm, Ledger.move_src _ _ hrt, Ledger.move_src _ _ hrc]
      omega
    · rw [Ledger.debit_self, Ledger.move_src _ _ hrt, Ledger.move_src _ _ hrc]
      omega
  · split_ifs
    · rw [Ledger.move_other _ _ (Ne.symm hrc) hcm, Ledger.move_other _ _ (Ne.symm hrc) hct,
        Ledger.move_dst _ _ hrc]
    · rw [Ledger.debit_other _ _ (Ne.symm hrc), Ledger.move_other _ _ (Ne.symm hrc) hct,
        Ledger.move_dst _ _ hrc]
  · split_ifs
    · rw [Ledger.move_other _ _ (Ne.symm hrt) htm, Ledger.move_dst _ _ hrt,
        Ledger.move_other _ _ (Ne.symm hrt) (Ne.symm hct)]
    · rw [Ledger.debit_other _ _ (Ne.symm hrt), Ledger.move_dst _ _ hrt,
        Ledger.move_other _ _ (Ne.symm hrt) (Ne.symm hct)]
  · split_ifs
    · rw [Ledger.move_dst _ _ hrm, Ledger.move_other _ _ (Ne.symm hrm) (Ne.symm htm),
        Ledger.move_other _ _ (Ne.symm hrm) (Ne.symm hcm)]
    · rw [Ledger.debit_other _ _ (Ne.symm hrm), Ledger.move_other _ _ (Ne.symm hrm) (Ne.symm htm),
        Ledger.move_other _ _ (Ne.symm hrm) (Ne.symm hcm), Nat.add_zero]
  · split_ifs
    · rw [Ledger.move_other _ _ (Ne.symm hrs) (Ne.symm hms),
        Ledger.move_other _ _ (Ne.symm hrs) (Ne.symm hts),
        Ledger.move_other _ _ (Ne.symm hrs) (Ne.symm hcs)]
    · rw [Ledger.debit_other _ _ (Ne.symm hrs), Ledger.move_other _ _ (Ne.symm hrs) (Ne.symm hts),
        Ledger.move_other _ _ (Ne.symm hrs) (Ne.symm hcs)]
  · intro k hkr hkc hkt hkm
    split_ifs
    · rw [Ledger.move_other _ _ hkr hkm, Ledger.move_other _ _ hkr hkt,
        Ledger.move_other _ _ hkr hkc]
    · rw [Ledger.debit_other _ _ hkr, Ledger.move_other _ _ hkr hkt, Ledger.move_other _ _ hkr hkc]

end Beanie.Solana
