/-
# `Beanie.Api.ReconcileBackstop` — whom the reconcile tick reaches

Every few minutes each worker makes a pass of its own accord.  The EVM and the
Solana worker pass over everybody they know, so whoever holds something is a
candidate, whatever happened before.  The Starknet worker passes over the
receivers of the deposits that its scan finds, and the scan starts after the
deposit checkpoint.

    backstop_iff           the three workers
    starknet_no_backstop   a deposit whose first sweep failed
-/
import Beanie.Api.TransferEvm
import Beanie.Api.TransferSolana
import Beanie.Api.TransferStarknet

namespace Beanie.Api

open Beanie.Starknet (Felt)
open Beanie.Solana (Pubkey)
open Beanie.Keeper (StarknetChain)

/-! ## What the nodes report -/

/-- A balance that is reported is the balance there is. -/
def EvmAnswers.Truthful (net : EvmAnswers) (holds : Address → Nat) : Prop :=
  ∀ answers, net.balances = some answers → ∀ a n, answers a = .balance n → n = holds a

def SolanaAnswers.Truthful (net : SolanaAnswers) (holds : Pubkey → Nat) : Prop :=
  ∀ answers, net.accounts = some answers → ∀ k,
    (answers k = .absent → holds k = 0) ∧ ∀ n, answers k = .amount n → n = holds k

def StarknetAnswers.Truthful (net : StarknetAnswers) (holds : Felt → Nat) : Prop :=
  ∀ answers, net.balances = some answers → ∀ r vs,
    answers r = .values vs → (∃ v ∈ vs, v ≠ 0) ∨ holds r = 0

/-! ## The backstops -/

/-- Everybody the worker knows who holds something is a candidate of the pass. -/
def EvmBackstop (net : EvmAnswers) (st : EvmState) (holds : Address → Nat) : Prop :=
  ∀ a ∈ st.merchant_map, holds a ≠ 0 → a ∈ receiversOf net (reconcileCandidates st)

def SolanaBackstop (net : SolanaAnswers) (st : SolanaState) (holds : Pubkey → Nat) : Prop :=
  ∀ k rec, st.merchant_map.lookup k = some rec → holds rec.receiver_token_account ≠ 0 →
    rec ∈ (reconcileRecords st).filter (holdsBalance net)

/-- The reconcile tick of the Starknet worker is a tip like any other, only that it is always
due. -/
def StarknetBackstop (w : StarknetTransfer) (chain : StarknetChain) (answers : StarknetTipAnswers)
    (st : StarknetState) (cps : StarknetCheckpoints) (head : Nat) (holds : Felt → Nat) : Prop :=
  let result := processStarknetTip w chain answers st cps head
  ∀ r ∈ result.state.merchant_map, holds r ≠ 0 →
    r ∈ (uniqueFelts w result.deposits).filter (hasBalance answers.net)

theorem evm_backstop {net : EvmAnswers} {st : EvmState} {holds : Address → Nat}
    (h : net.Truthful holds) : EvmBackstop net st holds := by
  intro a ha hholds
  refine mem_filterNonzero.mpr ⟨mem_uniqueAddresses.mpr (AList.mem_keys.mpr ha), ?_⟩
  intro answers hanswers
  cases hanswer : answers a with
  | reverted => rfl
  | undecodable => rfl
  | balance n =>
      have hn := h answers hanswers a n hanswer
      rw [BalanceAnswer.nonzero, hn]
      exact bne_iff_ne.mpr hholds

theorem mem_reconcileRecords {st : SolanaState} {k : Pubkey} {rec : Keeper.IndexedReceiver}
    (h : st.merchant_map.lookup k = some rec) : rec ∈ reconcileRecords st :=
  List.mem_map.mpr ⟨⟨k, rec⟩, AList.mem_lookup_iff.mp h, rfl⟩

theorem solana_backstop {net : SolanaAnswers} {st : SolanaState} {holds : Pubkey → Nat}
    (h : net.Truthful holds) : SolanaBackstop net st holds := by
  intro k rec hlookup hholds
  refine List.mem_filter.mpr ⟨mem_reconcileRecords hlookup, ?_⟩
  unfold holdsBalance
  cases hanswers : net.accounts with
  | none => rfl
  | some answers =>
      obtain ⟨habsent, hamount⟩ := h answers hanswers rec.receiver_token_account
      dsimp only
      cases hanswer : answers rec.receiver_token_account with
      | absent => exact absurd (habsent hanswer) hholds
      | undecodable => rfl
      | amount n =>
          rw [TokenAnswer.nonzero, hamount n hanswer]
          exact bne_iff_ne.mpr hholds

/-! ## Starknet -/

section
variable {w : StarknetTransfer} {chain : StarknetChain}

theorem mem_uniqueFelts {deposits : List Keeper.Deposit} {r : Felt} :
    r ∈ uniqueFelts w deposits ↔ ∃ d ∈ deposits, w.tx.parseFelt d.receiver = some r := by
  rw [uniqueFelts, List.mem_dedup, List.mem_insertionSort, List.mem_filterMap]

/-- A `Transfer` of the token to `r`. -/
def TransferTo (w : StarknetTransfer) (r : Felt) (evt : Keeper.DecodedEvent) : Prop :=
  evt.selector = w.tx.transfer ∧ (evt.keys[1]?).isSome ∧ evt.keys[2]? = some r

theorem depositOf_receiver {receivers : List Felt} {n : Nat} {evt : Keeper.DecodedEvent} {r : Felt} :
    (∃ d, Keeper.depositOf w.tx receivers n evt = some d ∧ w.tx.parseFelt d.receiver = some r) ↔
      TransferTo w r evt ∧ r ∈ receivers := by
  unfold Keeper.depositOf TransferTo
  by_cases hselector : evt.selector = w.tx.transfer
  · rw [if_neg (not_not.mpr hselector)]
    cases hfrom : evt.keys[1]? with
    | none => simp
    | some sender =>
        cases hto : evt.keys[2]? with
        | none => simp
        | some target =>
            dsimp only
            by_cases hmem : target ∈ receivers
            · rw [if_neg (not_not.mpr hmem)]
              constructor
              · rintro ⟨d, hd, hparse⟩
                obtain rfl := Option.some.inj hd
                rw [w.tx.parse_show] at hparse
                obtain rfl := Option.some.inj hparse
                exact ⟨⟨hselector, rfl, rfl⟩, hmem⟩
              · rintro ⟨⟨-, -, htarget⟩, -⟩
                obtain rfl := Option.some.inj htarget
                exact ⟨_, rfl, w.tx.parse_show _⟩
            · rw [if_pos hmem]
              refine ⟨nofun, ?_⟩
              rintro ⟨⟨-, -, htarget⟩, hr⟩
              obtain rfl := Option.some.inj htarget
              exact absurd hr hmem
  · rw [if_pos hselector]
    exact ⟨nofun, fun h => absurd h.1.1 hselector⟩

theorem actOnStarknetDeposits_map (net : StarknetAnswers) (st : StarknetState)
    (deposits : List Keeper.Deposit) :
    (actOnStarknetDeposits w net st deposits).state.merchant_map = st.merchant_map := by
  unfold actOnStarknetDeposits
  by_cases hempty : deposits.isEmpty = true
  · rw [if_pos hempty]
  · rw [if_neg hempty]
    split
    · dsimp only
      split_ifs
      · rfl
      · split <;> rfl
    · rfl

theorem processStarknetTip_map (answers : StarknetTipAnswers) (st : StarknetState)
    (cps : StarknetCheckpoints) (tip : Nat) :
    (processStarknetTip w chain answers st cps tip).state.merchant_map
      = knownAt w chain answers st cps tip := by
  unfold processStarknetTip
  dsimp only
  split_ifs with hempty
  · rfl
  · rw [actOnStarknetDeposits_map]

theorem processStarknetTip_deposits (answers : StarknetTipAnswers) (st : StarknetState)
    (cps : StarknetCheckpoints) (tip : Nat)
    (hne : (knownAt w chain answers st cps tip).keys.isEmpty = false) :
    (processStarknetTip w chain answers st cps tip).deposits
      = (Keeper.fetchDepositsSinceBlock w.tx chain w.cfg (knownAt w chain answers st cps tip).keys
          cps.deposits tip answers.deposit_pages).outcome.returned := by
  unfold processStarknetTip
  dsimp only
  rw [if_neg (by rw [hne]; decide)]

/-- The deposits of a pass are to the receivers that were transferred to since the checkpoint,
provided that the scan got through. -/
theorem mem_deposits_iff {answers : StarknetTipAnswers} {st : StarknetState}
    {cps : StarknetCheckpoints} {head : Nat} {r : Felt}
    (hr : r ∈ knownAt w chain answers st cps head) :
    r ∈ uniqueFelts w (processStarknetTip w chain answers st cps head).deposits ↔
      head < watermark w.cfg.deposit_start_block cps.deposits
          + Keeper.MAX_BLOCK_RANGE * successes (Keeper.chunkAnswers answers.deposit_pages) ∧
        ∃ n, watermark w.cfg.deposit_start_block cps.deposits ≤ n ∧ n ≤ head ∧
          ∃ evt ∈ chain.token n, TransferTo w r evt := by
  have hkey : r ∈ (knownAt w chain answers st cps head).keys := AList.mem_keys.mp hr
  have hne : (knownAt w chain answers st cps head).keys.isEmpty = false := by
    rw [List.isEmpty_eq_false_iff]
    exact List.ne_nil_of_mem hkey
  rw [processStarknetTip_deposits answers st cps head hne, mem_uniqueFelts]
  constructor
  · rintro ⟨d, hd, hparse⟩
    obtain ⟨hthrough, n, hle, hle', hn⟩ := (Keeper.mem_fetchDeposits_iff hne).mp hd
    obtain ⟨evt, hevt, hdeposit⟩ := List.mem_filterMap.mp hn
    exact ⟨hthrough, n, hle, hle', evt, hevt, (depositOf_receiver.mp ⟨d, hdeposit, hparse⟩).1⟩
  · rintro ⟨hthrough, n, hle, hle', evt, hevt, htransfer⟩
    obtain ⟨d, hdeposit, hparse⟩ := depositOf_receiver.mpr ⟨htransfer, hkey⟩
    refine ⟨d, (Keeper.mem_fetchDeposits_iff hne).mpr ?_, hparse⟩
    exact ⟨hthrough, n, hle, hle', List.mem_filterMap.mpr ⟨evt, hevt, hdeposit⟩⟩

theorem starknet_hasBalance {net : StarknetAnswers} {holds : Felt → Nat} (h : net.Truthful holds)
    {r : Felt} (hr : holds r ≠ 0) : hasBalance net r = true := by
  unfold hasBalance
  cases hanswers : net.balances with
  | none => rfl
  | some answers =>
      dsimp only
      cases hanswer : answers r with
      | unexpected => rfl
      | values vs =>
          obtain ⟨v, hv, hne⟩ := (h answers hanswers r vs hanswer).resolve_right hr
          exact List.any_eq_true.mpr ⟨v, hv, decide_eq_true hne⟩

end

/-! ## The three workers -/

/-- **When the reconcile tick is a backstop.**  With nodes that report balances as they are, the
EVM and the Solana pass reach everybody who holds something; the Starknet pass does iff its deposit
scan gets through and finds, since the checkpoint, a transfer to each of them. -/
theorem backstop_iff {ne : EvmAnswers} {he : Address → Nat} (hevm : ne.Truthful he)
    {ns : SolanaAnswers} {hs : Pubkey → Nat} (hsolana : ns.Truthful hs)
    {answers : StarknetTipAnswers} {hf : Felt → Nat} (hstarknet : answers.net.Truthful hf)
    (se : EvmState) (ss : SolanaState) (w : StarknetTransfer) (chain : StarknetChain)
    (st : StarknetState) (cps : StarknetCheckpoints) (head : Nat) :
    EvmBackstop ne se he ∧ SolanaBackstop ns ss hs ∧
      (StarknetBackstop w chain answers st cps head hf ↔
        ∀ r ∈ knownAt w chain answers st cps head, hf r ≠ 0 →
          head < watermark w.cfg.deposit_start_block cps.deposits
              + Keeper.MAX_BLOCK_RANGE * successes (Keeper.chunkAnswers answers.deposit_pages) ∧
            ∃ n, watermark w.cfg.deposit_start_block cps.deposits ≤ n ∧ n ≤ head ∧
              ∃ evt ∈ chain.token n, TransferTo w r evt) := by
  refine ⟨evm_backstop hevm, solana_backstop hsolana, ?_⟩
  unfold StarknetBackstop
  dsimp only
  rw [processStarknetTip_map]
  refine forall_congr' fun r => forall_congr' fun hr => forall_congr' fun hholds => ?_
  rw [List.mem_filter, ← mem_deposits_iff hr]
  exact ⟨And.left, fun h => ⟨h, starknet_hasBalance hstarknet hholds⟩⟩

namespace BackstopSample

def worker : StarknetTransfer where
  tx := Keeper.hexTexts 1 2 3
  cfg := ⟨0, 0⟩
  factory_address := 9
  selector s := some (Fin.ofNat Starknet.P s.length)

/-- The first block announces receiver 8, and pays it. -/
def chain : StarknetChain where
  factory n := if n = 0 then [⟨2, [2], [7, 8, 0, 0, 0], ""⟩] else []
  token n := if n = 0 then [⟨3, [3, 5, 8], [1, 0], ""⟩] else []

/-- Every page comes in, the receiver holds something and is not deployed, and no transaction is
accepted. -/
def answers : StarknetTipAnswers where
  registry_pages := [[true]]
  deposit_pages := [[true]]
  net :=
    { balances := some fun _ => .values [1, 0]
      get_class_hash_at := fun _ => .contractNotFound
      get_nonce := some 0
      send := none }

def evmAnswers : EvmAnswers where
  balances := some fun _ => .balance 1
  batch_deployed := some fun _ => true
  get_code _ := none
  mined := none

def solanaAnswers : SolanaAnswers where
  accounts := some fun _ => .amount 1
  broadcast _ := false
  fetch_receiver_route _ := none
  fetch_cctp_domain_id _ := none
  get_latest_blockhash _ := true
  event_data _ := 0

def fresh : StarknetState := ⟨∅, ∅, none⟩

/-- The tip of the first block, whose sweep is not accepted. -/
def first : StarknetTipResult := processStarknetTip worker chain answers fresh ⟨none, none⟩ 0

end BackstopSample

open BackstopSample in
/-- Every receiver holds one token, and the Starknet worker is on its first tip. -/
theorem backstop_sample :
    EvmBackstop evmAnswers ⟨∅, fun _ => none, ∅⟩ (fun _ => 1) ∧
      SolanaBackstop solanaAnswers ⟨∅⟩ (fun _ => 1) ∧
        StarknetBackstop worker chain answers fresh ⟨none, none⟩ 0 fun _ => 1 := by
  have hevm : evmAnswers.Truthful fun _ => 1 := by
    rintro _ ⟨⟩ a n ⟨⟩
    rfl
  have hsolana : solanaAnswers.Truthful fun _ => 1 := by
    rintro _ ⟨⟩ k
    exact ⟨nofun, fun n hn => (TokenAnswer.amount.inj hn).symm⟩
  have hstarknet : answers.net.Truthful fun _ => 1 := by
    rintro _ ⟨⟩ r vs hvs
    obtain rfl := StarknetBalance.values.inj hvs
    exact .inl ⟨1, List.mem_cons_self, by decide⟩
  obtain ⟨h, h', hiff⟩ := backstop_iff hevm hsolana hstarknet ⟨∅, fun _ => none, ∅⟩ ⟨∅⟩ worker chain
    fresh ⟨none, none⟩ 0
  refine ⟨h, h', hiff.mpr ?_⟩
  intro r hr _
  have hkeys : (knownAt worker chain answers fresh ⟨none, none⟩ 0).keys = [8] := by decide +kernel
  obtain rfl : r = 8 := by
    have hmem := AList.mem_keys.mp hr
    rw [hkeys] at hmem
    exact List.mem_singleton.mp hmem
  exact ⟨by decide +kernel, 0, le_refl _, le_refl _, _, List.mem_singleton_self _, rfl, rfl, rfl⟩

open BackstopSample in
/-- The reconcile tick one block later: receiver 8 still holds its deposit and is no candidate. -/
theorem starknet_no_backstop :
    ¬ StarknetBackstop worker chain answers first.state first.checkpoints 1 fun _ => 1 := by
  intro h
  have hknown : (8 : Felt) ∈ (processStarknetTip worker chain answers first.state first.checkpoints
      1).state.merchant_map := AList.mem_keys.mpr (by decide +kernel)
  have hcandidate := h 8 hknown (by decide)
  have hnone : (processStarknetTip worker chain answers first.state first.checkpoints 1).deposits
      = [] := by
    decide +kernel
  rw [hnone] at hcandidate
  cases hcandidate

end Beanie.Api
