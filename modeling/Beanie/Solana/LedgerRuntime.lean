/-
# `Beanie.Solana.LedgerRuntime` — a runtime that behaves as documented

An executable `Runtime`: an SPL Token program that keeps its ledger, a CCTP
program that burns what it is asked to burn, addresses that spell their seeds,
and SHA-256 on the five texts the program hashes.  It meets `StandardRuntime`,
so the hypotheses of the program's theorems can be met, and runs of the
program can be evaluated.
-/
import Beanie.Solana.Program

namespace Beanie.Solana

def DepositForBurnParams.read : Reader UInt8 DepositForBurnParams := do
  let amount ← Borsh.uint 8
  let destination_domain ← u32
  let mint_recipient ← Borsh.array32
  let destination_caller ← Borsh.array32
  let max_fee ← Borsh.uint 8
  let min_finality_threshold ← u32
  pure ⟨amount, destination_domain, mint_recipient, destination_caller, max_fee,
    min_finality_threshold⟩

theorem reads_u32 (n : BitVec 32) : Reads u32 (leBytes 4 n.toNat) n := by
  have hlt : n.toNat < 256 ^ 4 := by
    have h := n.isLt
    omega
  have h := (Borsh.reads_uint hlt).map (BitVec.ofNat 32)
  rwa [BitVec.ofNat_toNat, BitVec.setWidth_eq] at h

/-- The parameters' Borsh form reads back. -/
theorem DepositForBurnParams.reads (p : DepositForBurnParams) (hamount : p.amount < 2 ^ 64)
    (hfee : p.max_fee < 2 ^ 64) : Reads DepositForBurnParams.read p.toVec p := by
  have h := (Borsh.reads_uint (k := 8) (by omega : p.amount < 256 ^ 8)).bind
    (f := fun amount => do
      let destination_domain ← u32
      let mint_recipient ← Borsh.array32
      let destination_caller ← Borsh.array32
      let max_fee ← Borsh.uint 8
      let min_finality_threshold ← u32
      pure (⟨amount, destination_domain, mint_recipient, destination_caller, max_fee,
        min_finality_threshold⟩ : DepositForBurnParams))
    ((reads_u32 p.destination_domain).bind ((Borsh.reads_array32 p.mint_recipient).bind
      ((Borsh.reads_array32 p.destination_caller).bind
        ((Borsh.reads_uint (k := 8) (by omega : p.max_fee < 256 ^ 8)).bind
          ((reads_u32 p.min_finality_threshold).bind (.pure _))))))
  simpa [DepositForBurnParams.read, DepositForBurnParams.toVec, bytesOf] using h

/-- SHA-256 of the texts the program hashes. -/
def sha256Table : List (Bytes × Bytes) :=
  [(asciiBytes "global:initialize_factory".toList,
    beBytes 32 0xb3404bfa27fef0b2a8ec188a86db4dffdfafae948f4909dac6ae8fd013101753),
   (asciiBytes "global:announce_merchant".toList,
    beBytes 32 0xccf2307158723e45df39dfd959d44b0d7cb2dce86ad9e221a0234cba23cf3955),
   (asciiBytes "global:register_merchant".toList,
    beBytes 32 0xeef54d84a158d8f8411b57d6c88924fd0d7d295d759817ee640c3c3e5f99f37a),
   (asciiBytes "global:sweep".toList,
    beBytes 32 0x2817eaaf0e3d9ab114d113af73a870452e858701f5ae46945bb7a62e38cbbd78),
   (asciiBytes "global:deposit_for_burn".toList,
    beBytes 32 0xd73c3d2e723780b0700c23d3805749f03fa646f0fcd5a54578b2edf0e8a614e1)]

def ledgerHash (bs : Bytes) : Bytes := (sha256Table.lookup bs).getD []

/-- The transfer, decided. -/
def ledgerTransfer (b : Bank) (src dst authority : Pubkey) (n : Nat) : Except ProgramError Bank :=
  if src = dst then
    if n ≤ b.amount src then .ok b else .error .callee
  else
    match b.token? src, b.token? dst with
    | some s, some d =>
        if (s.frozen = false ∧ d.frozen = false) ∧ s.mint = d.mint ∧ n ≤ s.amount ∧
            s.Authorizes authority n ∧ d.amount + n < 2 ^ 64 then
          .ok (b.afterTransfer src dst authority n s d)
        else .error .callee
    | _, _ => .error .callee

def ledgerApprove (b : Bank) (account delegate owner : Pubkey) (n : Nat) :
    Except ProgramError Bank :=
  match b.token? account with
  | some t =>
      if t.owner = owner then
        .ok (b.set account (.token { t with delegate := some delegate, delegatedAmount := n }))
      else .error .callee
  | none => .error .callee

def ledgerSetCloseAuthority (b : Bank) (account current new : Pubkey) :
    Except ProgramError Bank :=
  match b.token? account with
  | some t =>
      if t.closeAuthority.getD t.owner = current then
        .ok (b.set account (.token { t with closeAuthority := some new }))
      else .error .callee
  | none => .error .callee

/-- Burn what the parameters say from the fourth account. -/
def ledgerBurn (b : Bank) (ix : Instruction) : Except ProgramError Bank :=
  match ix.accounts[3]?, DepositForBurnParams.read (ix.data.drop 8) with
  | some account, some (p, _) =>
      match b.token? account.key with
      | some t =>
          let burn : Burn := ⟨account.key, p.amount, p.destination_domain, p.mint_recipient⟩
          if p.amount ≤ t.amount then
            .ok { b.set account.key (.token { t with amount := t.amount - p.amount }) with
              burns := b.burns ++ [burn] }
          else .error .callee
      | none => .error .callee
  | _, _ => .error .callee

/-- An address that spells the front of its seeds.  The top bit keeps it off the programs'. -/
def ledgerAddress (seeds : List Bytes) : Pubkey :=
  BitVec.ofNat 256 (2 ^ 255 + leNat seeds.flatten % 2 ^ 255)

def ledgerRuntime : Runtime where
  programId := 100
  tokenProgram := 101
  systemProgram := 102
  ataProgram := 103
  fromStr s := BitVec.ofNat 256 (leNat (asciiBytes s))
  findProgramAddress seeds _ := (ledgerAddress seeds, 255)
  createProgramAddress seeds _ :=
    if seeds.getLast? = some [255] then some (ledgerAddress seeds.dropLast) else none
  hash := ledgerHash
  tokenTransfer := ledgerTransfer
  tokenApprove := ledgerApprove
  tokenSetCloseAuthority := ledgerSetCloseAuthority
  invokeCctp := ledgerBurn

theorem ledgerAddress_ne_programId (seeds : List Bytes) :
    ledgerAddress seeds ≠ ledgerRuntime.programId := by
  intro h
  have hnat := congrArg BitVec.toNat h
  have hlt : leNat seeds.flatten % 2 ^ 255 < 2 ^ 255 := Nat.mod_lt _ (by decide)
  rw [ledgerAddress, BitVec.toNat_ofNat, Nat.mod_eq_of_lt (by omega)] at hnat
  change _ = 100 at hnat
  omega

theorem ledgerTransfer_ok {b b' : Bank} {src dst authority : Pubkey} {n : Nat} (hne : src ≠ dst) :
    ledgerTransfer b src dst authority n = .ok b' ↔
      ∃ s d, Transferable b src dst authority n s d ∧
        b' = b.afterTransfer src dst authority n s d := by
  rw [ledgerTransfer, if_neg hne]
  cases hs : b.token? src with
  | none =>
      exact ⟨nofun, fun ⟨s, d, h, _⟩ => absurd (hs.symm.trans h.source) (by simp)⟩
  | some s =>
      cases hd : b.token? dst with
      | none =>
          exact ⟨nofun, fun ⟨s, d, h, _⟩ => absurd (hd.symm.trans h.destination) (by simp)⟩
      | some d =>
          dsimp only
          constructor
          · intro h
            split_ifs at h with hall
            obtain ⟨hthaw, hmint, hfunds, hauth, hfits⟩ := hall
            exact ⟨s, d, ⟨hs, hd, hthaw, hmint, hfunds, hauth, hfits⟩, (Except.ok.inj h).symm⟩
          · rintro ⟨s', d', h, rfl⟩
            obtain rfl : s = s' := Option.some.inj (hs.symm.trans h.source)
            obtain rfl : d = d' := Option.some.inj (hd.symm.trans h.destination)
            rw [if_pos ⟨h.thawed, h.mint, h.funds, h.authority, h.fits⟩]

theorem ledgerBurn_ok {b b' : Bank} {ix : Instruction} {p : DepositForBurnParams}
    {account : AccountMeta} (h : ledgerBurn b ix = .ok b') (hamount : p.amount < 2 ^ 64)
    (hfee : p.max_fee < 2 ^ 64)
    (hdata : ix.data = ledgerRuntime.anchorDiscriminator "deposit_for_burn".toList ++ p.toVec)
    (hacc : ix.accounts[3]? = some account) : Burned b b' account.key p := by
  have hread : DepositForBurnParams.read (ix.data.drop 8) = some (p, []) := by
    have hr := p.reads hamount hfee []
    have hlen : (ledgerRuntime.anchorDiscriminator "deposit_for_burn".toList).length = 8 := by
      decide
    rw [List.append_nil] at hr
    rw [hdata, List.drop_left' hlen, hr]
  rw [ledgerBurn, hacc, hread] at h
  dsimp only at h
  split at h
  case h_2 => exact absurd h (by simp)
  case h_1 t ht =>
    split_ifs at h with hle
    cases h
    have ham := Bank.amount_of_token ht
    refine ⟨ham ▸ hle, ?_, rfl, ?_, ?_⟩
    · rw [Ledger.debit, ham]
      exact Bank.set_token_amount b account.key { t with amount := t.amount - p.amount }
    all_goals
      intro k c
      show (b.set account.key _).accounts k = _ ↔ _
      by_cases hk : k = account.key
      · subst hk
        simp [Bank.token?_eq.mp ht]
      · rw [Bank.set_other _ _ hk]

theorem standardRuntime_ledger : StandardRuntime ledgerRuntime where
  create_find := by
    intro seeds p
    simp [ledgerRuntime]
  transfer := ledgerTransfer_ok
  selfTransfer := by
    intro b b' src authority n h
    simp only [ledgerRuntime, ledgerTransfer, if_true] at h
    split_ifs at h with hle
    exact ⟨hle, (Except.ok.inj h).symm⟩
  approve := by
    intro b b' account delegate owner n h
    simp only [ledgerRuntime, ledgerApprove] at h
    split at h
    · rename_i t ht
      split_ifs at h with howner
      exact ⟨t, ht, howner, (Except.ok.inj h).symm⟩
    · exact absurd h (by simp)
  setCloseAuthority := by
    intro b b' account current new h
    simp only [ledgerRuntime, ledgerSetCloseAuthority] at h
    split at h
    · rename_i t ht
      split_ifs at h with hcur
      exact ⟨t, ht, hcur, (Except.ok.inj h).symm⟩
    · exact absurd h (by simp)
  depositForBurn := fun h hamount hfee hdata hacc => ledgerBurn_ok h hamount hfee hdata hacc

end Beanie.Solana
